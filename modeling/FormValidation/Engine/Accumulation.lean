import FormValidation.Rule.Evaluation

/-!
# Accumulating verdicts

An accumulation takes the verdicts of a run, each with the position of its rule among the declarations, in
any order.  Its outcome lists the messages by position; messages of one position stay in the order in
which they were recorded.
-/

namespace FormValidation

structure RunOutcome where
  /-- Whether every evaluated rule passed. -/
  status : Bool
  messages : List String
  deriving Repr, DecidableEq

/-- How far a run is. -/
inductive RunState where
  | notStarted
  | running
  | done
  deriving Repr, DecidableEq

/-- The verdicts of a run so far. -/
structure Accumulation where
  state : RunState := .notStarted
  status : Bool := true
  /-- The messages so far, each with the position of its rule. -/
  pending : List (Nat × String) := []
  /-- How many verdicts were recorded. -/
  evaluated : Nat := 0
  deriving Repr, DecidableEq

namespace Accumulation

def begin (a : Accumulation) : Accumulation :=
  { a with state := .running }

/-- The messages with that of a verdict behind them, if the verdict has one to report. -/
def withMessage (pending : List (Nat × String)) (index : Nat) (v : Verdict) :
    List (Nat × String) :=
  match v.passed, v.message with
  | false, some message => pending ++ [(index, message)]
  | _, _ => pending

def record (a : Accumulation) (index : Nat) (v : Verdict) : Accumulation :=
  { a with
    status := a.status && v.passed
    pending := withMessage a.pending index v
    evaluated := a.evaluated + 1 }

def messages (a : Accumulation) : List String :=
  (a.pending.mergeSort fun m n => m.1 ≤ n.1).map Prod.snd

def outcome (a : Accumulation) : RunOutcome :=
  ⟨a.status, a.messages⟩

/-- Ends the run, which gives its messages away. -/
def finish (a : Accumulation) : Accumulation × RunOutcome :=
  ({ a with state := .done, pending := [] }, a.outcome)

end Accumulation
end FormValidation
