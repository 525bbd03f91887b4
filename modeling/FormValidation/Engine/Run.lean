import FormValidation.Engine.Scan

/-!
# Runs

A run is the list of its events together with its result.

* `Engine.validate` — the synchronous run, in which an asynchronous validator is an error;
* `Engine.validateAsync` — the run that waits for asynchronous validators.

After the walk through the rules the deferred validators are started in the order of their declaration.
One that settles without delay has its verdict recorded before the next one is started.  The others
settle in the order of the moments at which they are due, at the same moment in the order of their
declaration.  A validator that is not done when the time limit is over is out of time.  A rejection, or
running out of time, ends the run at once.

Whoever asks for a run may lose patience: a run that is still waiting after so many milliseconds counts
as stalled for him.
-/

namespace FormValidation

/-! ## Synchronous runs -/

namespace Engine

/-- Validates a form: the events of the run, and its outcome or an error. -/
def validate (e : Engine) (form : Form) (requested : Option String) :
    List Event × Except Error RunOutcome :=
  match beginRun (fun l => e.synchronousStep l form requested) e form requested with
  | (events, .error x) => (events, .error x)
  | (events, .ok (a, _)) => (events ++ [.ended a.outcome], .ok a.outcome)

end Engine

/-! ## Deferred validators -/

/-- How an asynchronous run ends. -/
inductive RunEnd where
  | finished (outcome : RunOutcome)
  | failed (error : Error)
  /-- Some validator never settles, or not before patience is over, and no time limit stops it. -/
  | stalled
  deriving Repr, DecidableEq

def Settlement.answer (name : String) : Settlement → Except Error Decision
  | .decided decision => .ok decision
  | .rejected reason => .error (.rejected name reason)

namespace Deferred

/-- How many milliseconds after its start a validator has an answer, and the answer; `none` if it never
has one. -/
def answer? (limit : Option Nat) (d : Deferred) : Option (Nat × Except Error Decision) :=
  match d.course, limit with
  | .settles delay settlement, some t =>
      if t < delay then some (t, .error (.timedOut d.call.name t))
      else some (delay, settlement.answer d.call.name)
  | .settles delay settlement, none => some (delay, settlement.answer d.call.name)
  | .never, some t => some (t, .error (.timedOut d.call.name t))
  | .never, none => none

/-- Whether a validator is due no later than another one. -/
def dueBefore (limit : Option Nat) (d d' : Deferred) : Bool :=
  match d.answer? limit, d'.answer? limit with
  | some (t, _), some (t', _) => t ≤ t'
  | none, some _ => false
  | _, none => true

def verdict (d : Deferred) (decision : Decision) : Verdict :=
  .ofDecision decision d.control

end Deferred

namespace Engine

/-- How many milliseconds of waiting are enough for most: a day. -/
def patience : Nat := 86400000

/-- Starts validators one after the other: the events, and in the end the verdicts and the validators
that are still to settle. -/
def start (limit : Option Nat) :
    Accumulation → List Deferred → List Event × Except Error (Accumulation × List Deferred)
  | a, [] => ([], .ok (a, []))
  | a, d :: rest =>
      match d.answer? limit with
      -- The others are not even started.
      | some (0, .error e) => ([.called d.call], .error e)
      | some (0, .ok decision) =>
          let v := d.verdict decision
          let (events, result) := start limit (a.record d.index v) rest
          (.called d.call :: .ofVerdict v :: events, result)
      -- It settles later or never.
      | _ =>
          let (events, result) := start limit a rest
          (.called d.call :: events, result.map fun (a, waiting) => (a, d :: waiting))

/-- Waits for validators in the given order, as long as patience lasts (`none`: for ever), and ends the
run. -/
def await (patience limit : Option Nat) : Accumulation → List Deferred → List Event × RunEnd
  | a, [] => ([.ended a.outcome], .finished a.outcome)
  | a, d :: rest =>
      match d.answer? limit with
      | none => ([], .stalled)
      | some (due, answer) =>
          if patience.any (· < due) then ([], .stalled)
          else
            match answer with
            | .error e => ([], .failed e)
            | .ok decision =>
                let v := d.verdict decision
                let (events, ending) := await patience limit (a.record d.index v) rest
                (.ofVerdict v :: events, ending)

/-- Starts validators and waits for them. -/
def settle (patience limit : Option Nat) (a : Accumulation) (deferred : List Deferred) :
    List Event × RunEnd :=
  match start limit a deferred with
  | (events, .error e) => (events, .failed e)
  | (events, .ok (a, waiting)) =>
      let (rest, ending) := await patience limit a (waiting.mergeSort (Deferred.dueBefore limit))
      (events ++ rest, ending)

/-! ## Asynchronous runs -/

/-- Validates a form and waits for asynchronous validators: the events of the run, and its end. -/
def validateAsync (e : Engine) (form : Form) (requested : Option String)
    (patience : Option Nat := some Engine.patience) : List Event × RunEnd :=
  match beginRun (fun l => e.asynchronousStep l form requested) e form requested with
  | (events, .error x) => (events, .failed x)
  | (events, .ok (a, deferred)) =>
      let (rest, ending) := settle patience e.timeLimit a deferred
      (events ++ rest, ending)

end Engine
end FormValidation
