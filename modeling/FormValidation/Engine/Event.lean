import FormValidation.Engine.Accumulation
import FormValidation.Signal.Receivers

/-!
# Events of runs

A run tells that it begins, which validators it calls, which verdicts it reaches, and, unless it fails,
that it ends.  All but the calls are sent to receivers: those for beginnings, those for verdicts and those
for ends.  What a receiver makes of an event is a note of its own.
-/

namespace FormValidation

/-! ## Events -/

/-- What happens during a run. -/
inductive Event where
  | began (group : Option String)
  | called (call : Call)
  | validated (control : Option String) (passed : Bool)
  | ended (outcome : RunOutcome)
  deriving Repr, DecidableEq

namespace Event

def ofVerdict (v : Verdict) : Event :=
  .validated v.control v.passed

end Event

def Evaluation.events (e : Evaluation) : List Event :=
  (e.call.map Event.called).toList ++ [.ofVerdict e.verdict]

/-! ## Receivers of events -/

/-- The receivers of the three kinds of events; a receiver turns what it is sent into a note. -/
structure Lifecycle (ε : Type) where
  begin : Receivers (Option String → ε) := .empty
  control : Receivers (Option String → Bool → ε) := .empty
  finish : Receivers (RunOutcome → ε) := .empty

namespace Lifecycle

variable {ε : Type}

/-- The notes that receivers make of an event, in the order of connection. -/
def notes (l : Lifecycle ε) : Event → List ε
  | .began group => l.begin.toList.map fun receive => receive group
  | .called _ => []
  | .validated control passed => l.control.toList.map fun receive => receive control passed
  | .ended outcome => l.finish.toList.map fun receive => receive outcome

end Lifecycle
end FormValidation
