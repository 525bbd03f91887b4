import FormValidation.Engine.Accumulation
import FormValidation.Proofs.StableSort

/-!
# What an accumulation makes of its verdicts

`RunOutcome.ofVerdicts` is the outcome of verdicts in the order of the declarations.  An accumulation
comes to it in whatever order the verdicts are recorded (`outcome_recordAll`).

Where verdicts share a position, their messages stay in the order in which they were recorded.  This and the order
of positions determine the list of messages (`Reports.unique`), so that verdicts of different positions can be
recorded in any order (`RecordingLaws`).
-/

namespace FormValidation

/-! ## Outcomes of verdicts -/

/-- The message that a verdict contributes to an outcome. -/
def Verdict.report (v : Verdict) : Option String :=
  if v.passed then none else v.message

/-- The outcome of verdicts in the order of the declarations. -/
def RunOutcome.ofVerdicts (vs : List Verdict) : RunOutcome where
  status := vs.all (·.passed)
  messages := vs.filterMap Verdict.report

namespace Accumulation

/-! ## Many records -/

/-- Records verdicts one after the other, each with its position. -/
def recordAll (a : Accumulation) (entries : List (Nat × Verdict)) : Accumulation :=
  entries.foldl (fun a e => a.record e.1 e.2) a

/-- The message that a verdict contributes, with its position. -/
def reportAt (e : Nat × Verdict) : Option (Nat × String) :=
  e.2.report.map fun message => (e.1, message)

@[simp] theorem recordAll_nil (a : Accumulation) : a.recordAll [] = a :=
  rfl

@[simp] theorem recordAll_cons (a : Accumulation) (e : Nat × Verdict)
    (entries : List (Nat × Verdict)) :
    a.recordAll (e :: entries) = (a.record e.1 e.2).recordAll entries :=
  rfl

theorem recordAll_append (a : Accumulation) (entries entries' : List (Nat × Verdict)) :
    a.recordAll (entries ++ entries') = (a.recordAll entries).recordAll entries' :=
  List.foldl_append

theorem withMessage_eq (pending : List (Nat × String)) (index : Nat) (v : Verdict) :
    withMessage pending index v = pending ++ (reportAt (index, v)).toList := by
  rcases v with ⟨passed, message, control⟩
  cases passed <;> cases message <;> simp [withMessage, reportAt, Verdict.report]

theorem status_recordAll (a : Accumulation) (entries : List (Nat × Verdict)) :
    (a.recordAll entries).status = (a.status && entries.all (·.2.passed)) := by
  induction entries generalizing a with
  | nil => simp
  | cons e entries ih => simp [ih, record, Bool.and_assoc]

theorem pending_recordAll (a : Accumulation) (entries : List (Nat × Verdict)) :
    (a.recordAll entries).pending = a.pending ++ entries.filterMap reportAt := by
  induction entries generalizing a with
  | nil => simp
  | cons e entries ih =>
      have hrecord : (a.record e.1 e.2).pending = a.pending ++ (reportAt e).toList :=
        withMessage_eq a.pending e.1 e.2
      rw [recordAll_cons, ih, hrecord]
      cases h : reportAt e <;> simp [h]

theorem evaluated_recordAll (a : Accumulation) (entries : List (Nat × Verdict)) :
    (a.recordAll entries).evaluated = a.evaluated + entries.length := by
  induction entries generalizing a with
  | nil => rfl
  | cons e entries ih =>
      rw [recordAll_cons, ih, List.length_cons]
      show a.evaluated + 1 + entries.length = a.evaluated + (entries.length + 1)
      omega

/-- The run in which these verdicts are recorded, each with its position. -/
def recorded (entries : List (Nat × Verdict)) : Accumulation :=
  (({} : Accumulation).begin).recordAll entries

theorem status_recorded (entries : List (Nat × Verdict)) :
    (recorded entries).status = entries.all (·.2.passed) := by
  rw [recorded, status_recordAll]
  exact Bool.true_and _

theorem evaluated_recorded (entries : List (Nat × Verdict)) :
    (recorded entries).evaluated = entries.length := by
  rw [recorded, evaluated_recordAll]
  exact Nat.zero_add _

theorem messages_recorded (entries : List (Nat × Verdict)) :
    (recorded entries).messages =
      ((entries.filterMap reportAt).mergeSort fun m n => m.1 ≤ n.1).map Prod.snd := by
  rw [messages, recorded, pending_recordAll]
  rfl

/-! ## Independence of the order -/

theorem map_snd_filterMap_reportAt (entries : List (Nat × Verdict)) :
    (entries.filterMap reportAt).map Prod.snd = (entries.map Prod.snd).filterMap Verdict.report := by
  rw [List.map_filterMap, List.filterMap_map]
  apply List.filterMap_congr
  intro e _
  cases h : e.2.report <;> simp [reportAt, h]

theorem pairwise_filterMap_reportAt {entries : List (Nat × Verdict)}
    (h : entries.Pairwise fun a b => a.1 < b.1) :
    (entries.filterMap reportAt).Pairwise fun a b => a.1 < b.1 := by
  refine List.Pairwise.filterMap reportAt ?_ h
  intro a b hab m hm n hn
  rcases Option.map_eq_some_iff.1 hm with ⟨_, -, rfl⟩
  rcases Option.map_eq_some_iff.1 hn with ⟨_, -, rfl⟩
  exact hab

/-- The order in which verdicts are recorded does not matter: the outcome is that of the verdicts in the
order of the declarations. -/
theorem outcome_recordAll {entries ordered : List (Nat × Verdict)} (hperm : entries.Perm ordered)
    (hordered : ordered.Pairwise fun a b => a.1 < b.1) :
    ((({} : Accumulation).begin).recordAll entries).outcome =
      .ofVerdicts (ordered.map Prod.snd) := by
  -- No two messages share a position, so sorting brings them into the order of the declarations.
  have hsorted : ((entries.filterMap reportAt).mergeSort fun m n => m.1 ≤ n.1) =
      ordered.filterMap reportAt :=
    StableSort.mergeSort_eq_of_perm (hperm.filterMap reportAt) (pairwise_filterMap_reportAt hordered)
  have hmessages : ((({} : Accumulation).begin).recordAll entries).messages =
      (ordered.map Prod.snd).filterMap Verdict.report := by
    calc
      ((({} : Accumulation).begin).recordAll entries).messages
          = ((entries.filterMap reportAt).mergeSort fun m n => m.1 ≤ n.1).map Prod.snd :=
            messages_recorded entries
      _ = (ordered.filterMap reportAt).map Prod.snd := by rw [hsorted]
      _ = (ordered.map Prod.snd).filterMap Verdict.report := map_snd_filterMap_reportAt ordered
  have hstatus : ((({} : Accumulation).begin).recordAll entries).status =
      (ordered.map Prod.snd).all (·.passed) := by
    rw [List.all_map]
    exact (status_recorded entries).trans hperm.all_eq
  rw [outcome, hstatus, hmessages]
  rfl

/-! ## Positions of several verdicts -/

theorem filter_filterMap_reportAt (entries : List (Nat × Verdict)) (i : Nat) :
    ((entries.filterMap reportAt).filter fun m => m.1 = i) =
      (entries.filter fun e => e.1 = i).filterMap reportAt := by
  rw [List.filter_filterMap, List.filterMap_filter]
  apply List.filterMap_congr
  intro e _
  cases h : e.2.report <;> by_cases hi : e.1 = i <;> simp [reportAt, h, hi]

/-- The messages of verdicts as an outcome lists them, each with its position. -/
structure Reports (entries : List (Nat × Verdict)) (reports : List (Nat × String)) : Prop where
  /-- They are in the order of the declarations. -/
  ordered : reports.Pairwise fun m n => m.1 ≤ n.1
  /-- None is lost and none is there twice. -/
  complete : reports.Perm (entries.filterMap reportAt)
  /-- Those of one position are in the order in which they were recorded. -/
  stable : ∀ i, (reports.filter fun m => m.1 = i) =
    (entries.filter fun e => e.1 = i).filterMap reportAt

/-- The same verdicts are recorded, those of one position in the same order. -/
def Rearranged (entries entries' : List (Nat × Verdict)) : Prop :=
  ∀ i, (entries.filter fun e => e.1 = i) = entries'.filter fun e => e.1 = i

variable {entries entries' : List (Nat × Verdict)}

theorem Rearranged.perm (h : Rearranged entries entries') : entries.Perm entries' :=
  StableSort.perm_of_filter_eq h

theorem reports_mergeSort (entries : List (Nat × Verdict)) :
    Reports entries ((entries.filterMap reportAt).mergeSort fun m n => m.1 ≤ n.1) where
  ordered := StableSort.pairwise_mergeSort_key Prod.fst _
  complete := List.mergeSort_perm _ _
  stable i := (StableSort.filter_mergeSort Prod.fst _ i).trans (filter_filterMap_reportAt entries i)

/-- There is one list of the messages, whichever way the verdicts are arranged. -/
theorem Reports.unique {reports reports' : List (Nat × String)} (h : Reports entries reports)
    (h' : Reports entries' reports') (hentries : Rearranged entries entries') : reports = reports' := by
  refine StableSort.eq_of_filter_eq h.ordered h'.ordered ?_
  intro i
  rw [h.stable, hentries, h'.stable]

theorem finish_recorded_of_rearranged (h : Rearranged entries entries') :
    (recorded entries).finish = (recorded entries').finish := by
  have hmessages : (recorded entries).messages = (recorded entries').messages := by
    rw [messages_recorded, messages_recorded,
      (reports_mergeSort entries).unique (reports_mergeSort entries') h]
  have hstatus : (recorded entries).status = (recorded entries').status := by
    rw [status_recorded, status_recorded, h.perm.all_eq]
  have hevaluated : (recorded entries).evaluated = (recorded entries').evaluated := by
    rw [evaluated_recorded, evaluated_recorded, h.perm.length_eq]
  rw [finish, finish, outcome, outcome, hmessages, hstatus, hevaluated]

/-- What comes out of a run in which these verdicts are recorded. -/
structure RecordingLaws (entries : List (Nat × Verdict)) : Prop where
  /-- One failure is enough for the run to fail. -/
  status_iff : (recorded entries).finish.2.status = true ↔ ∀ e ∈ entries, e.2.passed = true
  /-- The messages are those of the failures that have one, by position and then as they were recorded. -/
  messages : ∃ reports, Reports entries reports ∧
    (recorded entries).finish.2.messages = reports.map Prod.snd
  /-- Every record counts, and still does when the run is over. -/
  evaluated : (recorded entries).evaluated = entries.length ∧
    (recorded entries).finish.1.evaluated = entries.length
  /-- Verdicts of different positions can be recorded in any order. -/
  rearranged : ∀ entries', Rearranged entries entries' →
    (recorded entries').finish = (recorded entries).finish

/-- A run makes of its records what the laws of recording say. -/
theorem recordingLaws (entries : List (Nat × Verdict)) : RecordingLaws entries where
  status_iff := by
    show (recorded entries).status = true ↔ _
    rw [status_recorded, List.all_eq_true]
  messages := ⟨_, reports_mergeSort entries, messages_recorded entries⟩
  evaluated := ⟨evaluated_recorded entries, evaluated_recorded entries⟩
  rearranged _ h := (finish_recorded_of_rearranged h).symm

/-- Records of three positions, of which the first and the last have two verdicts each. -/
def interleaved : List (Nat × Verdict) :=
  [(2, ⟨false, some "late", none⟩), (0, ⟨false, some "early", none⟩), (1, ⟨true, some "fine", none⟩),
    (0, ⟨false, none, none⟩), (2, ⟨false, some "later", none⟩)]

/-- The same verdicts by position. -/
def declared : List (Nat × Verdict) :=
  [(0, ⟨false, some "early", none⟩), (0, ⟨false, none, none⟩), (1, ⟨true, some "fine", none⟩),
    (2, ⟨false, some "late", none⟩), (2, ⟨false, some "later", none⟩)]

theorem recordingLaws_interleaved :
    Rearranged declared interleaved ∧
      (recorded interleaved).finish.2 = ⟨false, ["early", "late", "later"]⟩ := by
  have hrearranged : Rearranged declared interleaved := by
    intro i
    rcases i with _ | _ | _ | i <;> rfl
  have hmessages : (recorded declared).messages = ["early", "late", "later"] := by
    rw [messages_recorded, List.mergeSort_of_pairwise (by decide)]
    rfl
  refine ⟨hrearranged, ?_⟩
  rw [(recordingLaws declared).rearranged interleaved hrearranged]
  show (⟨_, (recorded declared).messages⟩ : RunOutcome) = _
  rw [hmessages]
  rfl

end Accumulation
end FormValidation
