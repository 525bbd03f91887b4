import FormValidation.Engine.Scan
import FormValidation.Proofs.Engine.Accumulation

/-!
# Walks through rules

A walk is determined by what each rule comes to on its own: the events of a rule, the verdict at its
position, and what is deferred at its position.  `scan_append` says so for rules of which none is
refused, with the rest of the walk behind them; the walk through a whole form (`scan_eq_of_ok`) and
the walk up to the first refused rule (`scan_eq_of_error`) are cases of it.
-/

namespace FormValidation

/-- Unless all elements of a list are of a kind, there is a first one that is not. -/
theorem forall_or_exists_first {α : Type} (p : α → Prop) (l : List α) :
    (∀ a ∈ l, p a) ∨ ∃ done a rest, l = done ++ a :: rest ∧ (∀ a ∈ done, p a) ∧ ¬p a := by
  classical
  cases hfirst : l.find? fun a => ¬p a with
  | none => exact .inl (by simpa using hfirst)
  | some a =>
      rcases List.find?_eq_some_iff_append.1 hfirst with ⟨ha, done, rest, hsplit, hdone⟩
      exact .inr ⟨done, a, rest, hsplit, by simpa using hdone, by simpa using ha⟩

/-! ## What a single rule comes to -/

/-- What came of a rule: a step, or the error that ends the walk. -/
abbrev StepResult := Except Error RuleStep

namespace StepResult

/-- The events of a rule. -/
def events : StepResult → List Event
  | .ok (.evaluated evaluation) => evaluation.events
  | _ => []

/-- The verdict of a rule, with the position of the rule. -/
def verdictAt? (s : StepResult) (index : Nat) : Option (Nat × Verdict) :=
  match s with
  | .ok (.evaluated evaluation) => some (index, evaluation.verdict)
  | _ => none

/-- The rule as a deferred one, with its position. -/
def deferred? (s : StepResult) (index : Nat) : Option Deferred :=
  match s with
  | .ok (.deferred control call course) => some ⟨index, control, call, course⟩
  | _ => none

/-- The error of a refused rule. -/
def error? : StepResult → Option Error
  | .error x => some x
  | .ok _ => none

theorem error?_eq_some_iff {s : StepResult} {x : Error} : s.error? = some x ↔ s = .error x := by
  cases s with
  | error y => simp [error?]
  | ok t => simp [error?]

theorem evaluated_of_mem_events {s : StepResult} {event : Event} (h : event ∈ s.events) :
    ∃ evaluation, s = .ok (.evaluated evaluation) ∧ event ∈ evaluation.events := by
  rcases s with _ | _ | evaluation | _
  · cases h
  · cases h
  · exact ⟨evaluation, rfl, h⟩
  · cases h

theorem fst_of_verdictAt? {s : StepResult} {index : Nat} {e : Nat × Verdict}
    (h : s.verdictAt? index = some e) : e.1 = index := by
  rcases s with _ | _ | _ | _ <;> simp [verdictAt?] at h
  simp [← h]

theorem index_of_deferred? {s : StepResult} {index : Nat} {d : Deferred}
    (h : s.deferred? index = some d) : d.index = index := by
  rcases s with _ | _ | _ | _ <;> simp [deferred?] at h
  simp [← h]

end StepResult

namespace Engine

variable (step : Rule → StepResult)

/-! ## What several rules come to -/

/-- The verdicts of rules of which the first is at the given position. -/
def entriesFrom (index : Nat) (rules : List Rule) : List (Nat × Verdict) :=
  (rules.zipIdx index).filterMap fun r => (step r.1).verdictAt? r.2

/-- The deferred ones among rules of which the first is at the given position. -/
def deferredFrom (index : Nat) (rules : List Rule) : List Deferred :=
  (rules.zipIdx index).filterMap fun r => (step r.1).deferred? r.2

@[simp] theorem entriesFrom_nil (index : Nat) : entriesFrom step index [] = [] :=
  rfl

@[simp] theorem deferredFrom_nil (index : Nat) : deferredFrom step index [] = [] :=
  rfl

theorem entriesFrom_cons (index : Nat) (r : Rule) (rules : List Rule) :
    entriesFrom step index (r :: rules) =
      ((step r).verdictAt? index).toList ++ entriesFrom step (index + 1) rules := by
  cases h : (step r).verdictAt? index <;> simp [entriesFrom, h]

theorem deferredFrom_cons (index : Nat) (r : Rule) (rules : List Rule) :
    deferredFrom step index (r :: rules) =
      ((step r).deferred? index).toList ++ deferredFrom step (index + 1) rules := by
  cases h : (step r).deferred? index <;> simp [deferredFrom, h]

theorem pairwise_zipIdx {α : Type} (l : List α) (n : Nat) :
    (l.zipIdx n).Pairwise fun a b => a.2 < b.2 := by
  have h : ((l.zipIdx n).map Prod.snd).Pairwise (· < ·) := by
    rw [List.zipIdx_map_snd]
    exact List.pairwise_lt_range'
  exact List.pairwise_map.1 h

theorem pairwise_entriesFrom (index : Nat) (rules : List Rule) :
    (entriesFrom step index rules).Pairwise fun a b => a.1 < b.1 := by
  refine List.Pairwise.filterMap _ ?_ (pairwise_zipIdx rules index)
  intro a b hab c hc d hd
  rw [StepResult.fst_of_verdictAt? hc, StepResult.fst_of_verdictAt? hd]
  exact hab

theorem pairwise_deferredFrom (index : Nat) (rules : List Rule) :
    (deferredFrom step index rules).Pairwise fun a b => a.index < b.index := by
  refine List.Pairwise.filterMap _ ?_ (pairwise_zipIdx rules index)
  intro a b hab c hc d hd
  rw [StepResult.index_of_deferred? hc, StepResult.index_of_deferred? hd]
  exact hab

/-! ## Walks -/

variable {step}

/-- Putting nothing in front of the deferred rules changes nothing. -/
theorem map_mk_fst_snd {ε α β : Type} (x : Except ε (α × β)) :
    (x.map fun p => (p.1, p.2)) = x := by
  cases x <;> rfl

/-- A step of a walk, at a rule that is not refused. -/
theorem scan_cons {r : Rule} (h : (step r).error? = none) (index : Nat) (a : Accumulation)
    (rules : List Rule) :
    scan step index a (r :: rules) =
      let onward := scan step (index + 1) (a.recordAll ((step r).verdictAt? index).toList) rules
      ((step r).events ++ onward.1,
        onward.2.map fun p => (p.1, ((step r).deferred? index).toList ++ p.2)) := by
  cases hs : step r with
  | error x => simp [hs, StepResult.error?] at h
  | ok s =>
      -- Every kind of step shows, records or defers what the three readings say.
      cases s <;>
        simp [scan, hs, map_mk_fst_snd, StepResult.events, StepResult.verdictAt?,
          StepResult.deferred?]

/-- Walking through rules that are not refused puts their events first, records their verdicts and
defers the deferred ones among them; the walk goes on with the rest. -/
theorem scan_append {done : List Rule} (h : ∀ r ∈ done, (step r).error? = none) (rest : List Rule)
    (index : Nat) (a : Accumulation) :
    scan step index a (done ++ rest) =
      let onward := scan step (index + done.length) (a.recordAll (entriesFrom step index done)) rest
      ((done.flatMap fun r => (step r).events) ++ onward.1,
        onward.2.map fun p => (p.1, deferredFrom step index done ++ p.2)) := by
  -- The accumulation is generalised: the walk behind a rule goes on from what that rule recorded.
  induction done generalizing index a with
  | nil => simp [map_mk_fst_snd]
  | cons r done ih =>
      have hdone : ∀ r ∈ done, (step r).error? = none := fun r hr => h r (List.mem_cons_of_mem _ hr)
      have hindex : index + 1 + done.length = index + (done.length + 1) := by omega
      rw [List.cons_append, scan_cons (h r List.mem_cons_self), ih hdone, entriesFrom_cons,
        deferredFrom_cons, Accumulation.recordAll_append, List.length_cons, hindex]
      generalize scan step (index + (done.length + 1)) _ rest = onward
      rcases onward with ⟨events, _ | _⟩ <;> simp [Except.map]

/-- A walk through rules of which none is refused. -/
theorem scan_eq_of_ok {rules : List Rule} (h : ∀ r ∈ rules, (step r).error? = none)
    (index : Nat) (a : Accumulation) :
    scan step index a rules =
      (rules.flatMap fun r => (step r).events,
        .ok (a.recordAll (entriesFrom step index rules), deferredFrom step index rules)) := by
  have happend := scan_append h [] index a
  simpa [scan, Except.map] using happend

/-- A walk ends at the first refused rule. -/
theorem scan_eq_of_error {done rest : List Rule} {r : Rule} {x : Error}
    (h : ∀ r ∈ done, (step r).error? = none) (hr : (step r).error? = some x) (index : Nat)
    (a : Accumulation) :
    scan step index a (done ++ r :: rest) =
      (done.flatMap fun r => (step r).events, .error x) := by
  cases hs : step r with
  | ok s => simp [hs, StepResult.error?] at hr
  | error y =>
      obtain rfl : y = x := by simpa [hs, StepResult.error?] using hr
      -- The rest is not walked through, and what was recorded before is dropped.
      simp [scan_append h, scan, hs, Except.map]

/-! ## Walks with other steps -/

theorem scan_congr {step step' : Rule → StepResult} {rules : List Rule}
    (h : ∀ r ∈ rules, step r = step' r) (index : Nat) (a : Accumulation) :
    scan step index a rules = scan step' index a rules := by
  induction rules generalizing index a with
  | nil => rfl
  | cons r rules ih =>
      have hrest := ih fun r hr => h r (List.mem_cons_of_mem _ hr)
      simp only [scan, h r List.mem_cons_self, hrest]

end Engine
end FormValidation
