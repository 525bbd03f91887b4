import FormValidation.Engine.Run
import FormValidation.Proofs.Engine.Scan

/-!
# How deferred validators settle

A deferred validator is due when it settles, but no later than the time limit (`Deferred.due?`); it fails
if it rejects or is not done by then (`Deferred.failure?`).  A validator precedes another one if it is
due earlier, or at the same moment and declared earlier (`Deferred.Precedes`).

* `start_append`, `start_of_failure` — starting validators: those due at once settle on the way, and the
  first of them that fails ends the run;
* `await_append`, `await_of_not_settles` — waiting for validators, of which the first one that does not
  settle ends the run;
* `pairwise_prompt_append_queue` — the validators in the order in which they settle, each of which precedes
  those behind it.
-/

namespace FormValidation

/-- What an asynchronous validator decides, if it does. -/
def Course.decision : Course → Decision
  | .settles _ (.decided decision) => decision
  | _ => .accepted

namespace Deferred

/-! ## Moments and failures -/

/-- When a validator is due, in milliseconds after its start; `none` if it never is. -/
def due? (limit : Option Nat) (d : Deferred) : Option Nat :=
  match d.course, limit with
  | .settles delay _, some t => some (min delay t)
  | .settles delay _, none => some delay
  | .never, limit => limit

/-- The error of a validator that is not done when the time limit is over. -/
def outOfTime? (limit : Option Nat) (d : Deferred) : Option Error :=
  match d.course, limit with
  | .settles delay _, some t => if t < delay then some (.timedOut d.call.name t) else none
  | .never, some t => some (.timedOut d.call.name t)
  | _, none => none

/-- The error of a validator that rejects. -/
def rejection? (d : Deferred) : Option Error :=
  match d.course with
  | .settles _ (.rejected reason) => some (.rejected d.call.name reason)
  | _ => none

/-- The error with which a validator ends the run. -/
def failure? (limit : Option Nat) (d : Deferred) : Option Error :=
  (d.outOfTime? limit).or d.rejection?

/-- The verdict of a validator that does not fail, with the position of its rule. -/
def entry (d : Deferred) : Nat × Verdict :=
  (d.index, d.verdict d.course.decision)

/-- The event of that verdict. -/
def settled (d : Deferred) : Event :=
  .ofVerdict d.entry.2

/-- The events when a validator is started: it is called, and if it settles at once its verdict is
sent. -/
def startEvents (limit : Option Nat) (d : Deferred) : List Event :=
  .called d.call :: if d.due? limit = some 0 ∧ d.failure? limit = none then [d.settled] else []

/-- Whether a validator settles with a decision before patience is over. -/
def SettlesWithin (patience limit : Option Nat) (d : Deferred) : Prop :=
  ∃ t, d.due? limit = some t ∧ (∀ p ∈ patience, t ≤ p) ∧ d.failure? limit = none

/-- Whether a validator is due earlier than another one, or at the same moment and declared earlier. -/
def Precedes (limit : Option Nat) (d d' : Deferred) : Prop :=
  match d.due? limit, d'.due? limit with
  | some t, some t' => t < t' ∨ t = t' ∧ d.index < d'.index
  | some _, none => True
  | none, some _ => False
  | none, none => d.index < d'.index

variable {limit : Option Nat} {d d' d'' : Deferred}

/-! ## Answers -/

/-- A validator that is due at some moment has an answer then: an error if it fails, else what it
decides. -/
theorem answer?_of_due? {t : Nat} (h : d.due? limit = some t) :
    d.answer? limit = some (t, match d.failure? limit with
      | some x => .error x
      | none => .ok d.course.decision) := by
  rcases d with ⟨index, control, call, course⟩
  cases limit with
  | none =>
      -- Without a limit only a validator that settles is due, with what it settles with.
      rcases course with ⟨delay, decision | reason⟩ | _ <;>
        simp_all [due?, answer?, failure?, outOfTime?, rejection?, Course.decision,
          Settlement.answer]
  | some limit =>
      cases course with
      | never => simp_all [due?, answer?, failure?, outOfTime?]
      | settles delay settlement =>
          -- A delay that is as long as the limit is still in time.
          have ht : t = min delay limit := by simpa [due?, eq_comm] using h
          by_cases hlate : limit < delay
          · simp [answer?, failure?, outOfTime?, hlate, ht, Nat.min_eq_right hlate.le]
          · cases settlement <;>
              simp [answer?, failure?, outOfTime?, rejection?, Settlement.answer, Course.decision,
                hlate, ht, Nat.min_eq_left (Nat.le_of_not_lt hlate)]

theorem answer?_of_due?_eq_none (h : d.due? limit = none) : d.answer? limit = none := by
  rcases d with ⟨index, control, call, course⟩
  cases limit <;> cases course <;> simp_all [due?, answer?]

theorem SettlesWithin.failure?_eq_none {patience : Option Nat} (h : d.SettlesWithin patience limit) :
    d.failure? limit = none := by
  rcases h with ⟨t, -, -, hnone⟩
  exact hnone

/-- Under a time limit every validator is due before the limit is over. -/
theorem exists_due?_le (d : Deferred) (t : Nat) : ∃ due, d.due? (some t) = some due ∧ due ≤ t := by
  rcases d with ⟨index, control, call, _ | _⟩
  · exact ⟨_, rfl, Nat.min_le_right _ _⟩
  · exact ⟨_, rfl, Nat.le_refl _⟩

/-! ## Precedence -/

theorem Precedes.irrefl (d : Deferred) : ¬d.Precedes limit d := by
  unfold Precedes
  cases d.due? limit <;> simp

theorem Precedes.trans (h : d.Precedes limit d') (h' : d'.Precedes limit d'') :
    d.Precedes limit d'' := by
  unfold Precedes at h h' ⊢
  generalize d.due? limit = t at h ⊢
  generalize d'.due? limit = t' at h h'
  generalize d''.due? limit = t'' at h' ⊢
  cases t <;> cases t' <;> cases t'' <;> grind

theorem precedes_of_due?_eq {t : Nat} (h : d.due? limit = some t) (h' : d'.due? limit = some t)
    (hindex : d.index < d'.index) : d.Precedes limit d' := by
  simp [Precedes, h, h', hindex]

theorem precedes_of_due?_zero (h : d.due? limit = some 0) (h' : d'.due? limit ≠ some 0) :
    d.Precedes limit d' := by
  unfold Precedes
  rw [h]
  cases hd' : d'.due? limit with
  | none => trivial
  | some t' => exact .inl (Nat.pos_of_ne_zero fun h0 => h' (by rw [hd', h0]))

theorem precedes_of_dueBefore (h : dueBefore limit d d' = true)
    (hindex : dueBefore limit d' d = true → d.index < d'.index) : d.Precedes limit d' := by
  unfold Precedes
  -- Answers come when validators are due, so both orders compare the same moments.
  cases hd : d.due? limit with
  | none =>
      cases hd' : d'.due? limit with
      | none =>
          exact hindex (by simp [dueBefore, answer?_of_due?_eq_none hd, answer?_of_due?_eq_none hd'])
      | some t' =>
          simp [dueBefore, answer?_of_due?_eq_none hd, answer?_of_due? hd'] at h
  | some t =>
      cases hd' : d'.due? limit with
      | none => trivial
      | some t' =>
          simp only [dueBefore, answer?_of_due? hd, answer?_of_due? hd', decide_eq_true_eq] at h hindex
          show t < t' ∨ t = t' ∧ d.index < d'.index
          rcases Nat.lt_or_eq_of_le h with hlt | heq
          · exact .inl hlt
          · exact .inr ⟨heq, hindex heq.ge⟩

theorem dueBefore_trans (a b c : Deferred) (hab : dueBefore limit a b = true)
    (hbc : dueBefore limit b c = true) : dueBefore limit a c = true := by
  unfold dueBefore at hab hbc ⊢
  generalize a.answer? limit = s at hab ⊢
  generalize b.answer? limit = t at hab hbc
  generalize c.answer? limit = u at hbc ⊢
  cases s <;> cases t <;> cases u <;> grind

theorem dueBefore_total (a b : Deferred) :
    (dueBefore limit a b || dueBefore limit b a) = true := by
  unfold dueBefore
  cases a.answer? limit <;> cases b.answer? limit <;> simp
  omega

end Deferred

namespace Engine

variable {patience limit : Option Nat}

/-! ## Starting -/

/-- The validators that settle as soon as they are started. -/
def prompt (limit : Option Nat) (deferred : List Deferred) : List Deferred :=
  deferred.filter fun d => d.due? limit = some 0

/-- The validators that are waited for. -/
def waiting (limit : Option Nat) (deferred : List Deferred) : List Deferred :=
  deferred.filter fun d => d.due? limit ≠ some 0

theorem mem_prompt {deferred : List Deferred} {d : Deferred} :
    d ∈ prompt limit deferred ↔ d ∈ deferred ∧ d.due? limit = some 0 := by
  simp [prompt]

theorem mem_waiting {deferred : List Deferred} {d : Deferred} :
    d ∈ waiting limit deferred ↔ d ∈ deferred ∧ d.due? limit ≠ some 0 := by
  simp [waiting]

theorem start_cons {d : Deferred} (h : d.due? limit = some 0 → d.failure? limit = none)
    (a : Accumulation) (rest : List Deferred) :
    start limit a (d :: rest) =
      let onward := start limit (a.recordAll ((prompt limit [d]).map Deferred.entry)) rest
      (d.startEvents limit ++ onward.1,
        onward.2.map fun p => (p.1, waiting limit [d] ++ p.2)) := by
  cases hdue : d.due? limit with
  | none =>
      simp [start, Deferred.answer?_of_due?_eq_none hdue, prompt, waiting, Deferred.startEvents, hdue]
  | some t =>
      have hanswer := Deferred.answer?_of_due? hdue
      cases t with
      | zero =>
          -- It settles on the way: its verdict is recorded before the next one is started.
          have hnone := h hdue
          rw [hnone] at hanswer
          simp [start, hanswer, prompt, waiting, Deferred.startEvents, hdue, hnone, map_mk_fst_snd,
            Deferred.entry, Deferred.settled]
      | succ t => simp [start, hanswer, prompt, waiting, Deferred.startEvents, hdue]

/-- Starting validators of which none fails at once: those due at once settle on the way, and the others
wait. -/
theorem start_append {done : List Deferred}
    (h : ∀ d ∈ done, d.due? limit = some 0 → d.failure? limit = none) (rest : List Deferred)
    (a : Accumulation) :
    start limit a (done ++ rest) =
      let onward := start limit (a.recordAll ((prompt limit done).map Deferred.entry)) rest
      (done.flatMap (Deferred.startEvents limit) ++ onward.1,
        onward.2.map fun p => (p.1, waiting limit done ++ p.2)) := by
  -- The validators that wait stay in the order of their declaration.
  induction done generalizing a with
  | nil => simp [prompt, waiting, map_mk_fst_snd]
  | cons d done ih =>
      have hprompt : prompt limit (d :: done) = prompt limit [d] ++ prompt limit done :=
        List.filter_append [d] done
      have hwaiting : waiting limit (d :: done) = waiting limit [d] ++ waiting limit done :=
        List.filter_append [d] done
      rw [List.cons_append, start_cons (h d List.mem_cons_self),
        ih fun d' hd' => h d' (List.mem_cons_of_mem _ hd'), hprompt, hwaiting, List.map_append,
        Accumulation.recordAll_append]
      generalize start limit (Accumulation.recordAll _ _) rest = onward
      rcases onward with ⟨events, _ | _⟩ <;> simp [Except.map]

/-- A validator that fails at once ends the run before the next one is started. -/
theorem start_of_failure {done rest : List Deferred} {d : Deferred} {x : Error}
    (h : ∀ d ∈ done, d.due? limit = some 0 → d.failure? limit = none)
    (hdue : d.due? limit = some 0) (hx : d.failure? limit = some x) (a : Accumulation) :
    start limit a (done ++ d :: rest) =
      (done.flatMap (Deferred.startEvents limit) ++ [.called d.call], .error x) := by
  have hanswer := Deferred.answer?_of_due? hdue
  rw [hx] at hanswer
  simp [start_append h, start, hanswer, Except.map]

/-! ## Waiting -/

theorem any_lt_eq_false {t : Nat} (h : ∀ p ∈ patience, t ≤ p) : patience.any (· < t) = false := by
  cases patience with
  | none => rfl
  | some p => simpa using h p rfl

/-- Waiting for validators that settle sends their verdicts, in that order; then the rest is waited
for. -/
theorem await_append {done : List Deferred} (h : ∀ d ∈ done, d.SettlesWithin patience limit)
    (rest : List Deferred) (a : Accumulation) :
    await patience limit a (done ++ rest) =
      let onward := await patience limit (a.recordAll (done.map Deferred.entry)) rest
      (done.map Deferred.settled ++ onward.1, onward.2) := by
  induction done generalizing a with
  | nil => rfl
  | cons d done ih =>
      rcases h d List.mem_cons_self with ⟨t, hdue, hpatience, hnone⟩
      have hanswer := Deferred.answer?_of_due? hdue
      rw [hnone] at hanswer
      have hwait : patience.any (· < t) = false := any_lt_eq_false hpatience
      have hrest := ih (fun d' hd' => h d' (List.mem_cons_of_mem _ hd')) (a.record d.entry.1 d.entry.2)
      simp only [Deferred.entry] at hrest
      simp [await, hanswer, hwait, hrest, Deferred.settled, Deferred.entry]

/-- A validator that does not settle ends the waiting. -/
theorem await_of_not_settles {done rest : List Deferred} {d : Deferred}
    (h : ∀ d ∈ done, d.SettlesWithin patience limit) (hd : ¬d.SettlesWithin patience limit)
    (a : Accumulation) :
    await patience limit a (done ++ d :: rest) = (done.map Deferred.settled, .stalled) ∨
      ∃ x, d.failure? limit = some x ∧
        await patience limit a (done ++ d :: rest) = (done.map Deferred.settled, .failed x) := by
  rw [await_append h]
  cases hdue : d.due? limit with
  | none => simp [await, Deferred.answer?_of_due?_eq_none hdue]
  | some t =>
      have hanswer := Deferred.answer?_of_due? hdue
      by_cases hwait : patience.any (· < t) = true
      · simp [await, hanswer, hwait]
      · -- Patience lasts until the validator is due, so it has to fail.
        have hpatience : ∀ p ∈ patience, t ≤ p := by
          rintro p rfl
          simpa using hwait
        cases hx : d.failure? limit with
        | none => exact absurd ⟨t, hdue, hpatience, hx⟩ hd
        | some x => exact .inr ⟨x, rfl, by simp [await, hanswer, hwait, hx]⟩

/-- Waiting does not stall if patience lasts as long as the time limit. -/
theorem await_ne_stalled {t : Nat} (hpatience : ∀ p ∈ patience, t ≤ p) (a : Accumulation)
    (deferred : List Deferred) : (await patience (some t) a deferred).2 ≠ .stalled := by
  induction deferred generalizing a with
  | nil => simp [await]
  | cons d deferred ih =>
      rcases d.exists_due?_le t with ⟨due, hdue, hle⟩
      have hwait : patience.any (· < due) = false :=
        any_lt_eq_false fun p hp => hle.trans (hpatience p hp)
      have hanswer := Deferred.answer?_of_due? hdue
      -- The run goes on after a decision, and ends, but does not stall, after a failure.
      cases hx : d.failure? (some t) with
      | none =>
          rw [hx] at hanswer
          simpa [await, hanswer, hwait] using ih _
      | some x => simp [await, hanswer, hwait, hx]

/-! ## The order of waiting -/

/-- The validators that are waited for, in the order in which a run waits for them. -/
def queue (limit : Option Nat) (deferred : List Deferred) : List Deferred :=
  (waiting limit deferred).mergeSort (Deferred.dueBefore limit)

theorem perm_queue (limit : Option Nat) (deferred : List Deferred) :
    (queue limit deferred).Perm (waiting limit deferred) :=
  List.mergeSort_perm _ _

theorem mem_queue {deferred : List Deferred} {d : Deferred} :
    d ∈ queue limit deferred ↔ d ∈ deferred ∧ d.due? limit ≠ some 0 :=
  (perm_queue limit deferred).mem_iff.trans mem_waiting

/-- Each validator that is waited for precedes those behind it. -/
theorem pairwise_queue (limit : Option Nat) {deferred : List Deferred}
    (h : deferred.Pairwise fun d d' => d.index < d'.index) :
    (queue limit deferred).Pairwise (Deferred.Precedes limit) := by
  have hwaiting : (waiting limit deferred).Pairwise fun d d' => d.index < d'.index := h.filter _
  -- The order of the declarations decides between validators that are due at the same moment.
  refine (StableSort.pairwise_mergeSort_stable Deferred.dueBefore_trans Deferred.dueBefore_total
    hwaiting).imp ?_
  rintro d d' ⟨hle, hindex⟩
  exact Deferred.precedes_of_dueBefore hle hindex

/-- The validators that settle at once and those that are waited for, in the order of precedence. -/
theorem pairwise_prompt_append_queue (limit : Option Nat) {deferred : List Deferred}
    (h : deferred.Pairwise fun d d' => d.index < d'.index) :
    (prompt limit deferred ++ queue limit deferred).Pairwise (Deferred.Precedes limit) := by
  have hprompt : (prompt limit deferred).Pairwise fun d d' => d.index < d'.index := h.filter _
  refine List.pairwise_append.2 ⟨hprompt.imp_of_mem ?_, pairwise_queue limit h, ?_⟩
  · intro d d' hd hd' hindex
    exact Deferred.precedes_of_due?_eq (mem_prompt.1 hd).2 (mem_prompt.1 hd').2 hindex
  · intro d hd d' hd'
    exact Deferred.precedes_of_due?_zero (mem_prompt.1 hd).2 (mem_queue.1 hd').2

theorem perm_prompt_append_queue (limit : Option Nat) (deferred : List Deferred) :
    (prompt limit deferred ++ queue limit deferred).Perm deferred := by
  refine (List.Perm.append_left _ (perm_queue limit deferred)).trans ?_
  simpa [prompt, waiting] using List.filter_append_perm (fun d => d.due? limit = some 0) deferred

/-! ## Starting and waiting -/

/-- Unless no validator fails at once, there is a first one that does. -/
theorem forall_or_exists_failure_at_once (limit : Option Nat) (deferred : List Deferred) :
    (∀ d ∈ deferred, d.due? limit = some 0 → d.failure? limit = none) ∨
      ∃ done d rest x, deferred = done ++ d :: rest ∧
        (∀ d ∈ done, d.due? limit = some 0 → d.failure? limit = none) ∧
          d.due? limit = some 0 ∧ d.failure? limit = some x := by
  rcases forall_or_exists_first (fun d => d.due? limit = some 0 → d.failure? limit = none) deferred with
    hnone | ⟨done, d, rest, hsplit, hdone, hd⟩
  · exact .inl hnone
  · obtain ⟨hdue, hfails⟩ := Classical.not_imp.1 hd
    rcases Option.ne_none_iff_exists'.1 hfails with ⟨x, hx⟩
    exact .inr ⟨done, d, rest, x, hsplit, hdone, hdue, hx⟩

/-- A validator that fails at once ends the run. -/
theorem settle_of_failure {done rest : List Deferred} {d : Deferred} {x : Error}
    (h : ∀ d ∈ done, d.due? limit = some 0 → d.failure? limit = none)
    (hdue : d.due? limit = some 0) (hx : d.failure? limit = some x) (a : Accumulation) :
    settle patience limit a (done ++ d :: rest) =
      (done.flatMap (Deferred.startEvents limit) ++ [.called d.call], .failed x) := by
  rw [settle, start_of_failure h hdue hx]

/-- If no validator fails at once, all are started, and then those that wait are waited for. -/
theorem settle_eq_await {deferred : List Deferred}
    (h : ∀ d ∈ deferred, d.due? limit = some 0 → d.failure? limit = none) (a : Accumulation) :
    settle patience limit a deferred =
      let onward := await patience limit (a.recordAll ((prompt limit deferred).map Deferred.entry))
        (queue limit deferred)
      (deferred.flatMap (Deferred.startEvents limit) ++ onward.1, onward.2) := by
  have hstart := start_append h [] a
  simp only [List.append_nil, start, Except.map] at hstart
  rw [settle, hstart]
  rfl

/-- If every validator settles, the run is finished, with the verdicts in the order of precedence. -/
theorem settle_of_settlesWithin {deferred : List Deferred}
    (h : ∀ d ∈ deferred, d.SettlesWithin patience limit) (a : Accumulation) :
    settle patience limit a deferred =
      let outcome := (a.recordAll
        ((prompt limit deferred ++ queue limit deferred).map Deferred.entry)).outcome
      (deferred.flatMap (Deferred.startEvents limit) ++ (queue limit deferred).map Deferred.settled ++
        [.ended outcome], .finished outcome) := by
  have hnone : ∀ d ∈ deferred, d.due? limit = some 0 → d.failure? limit = none :=
    fun d hd _ => (h d hd).failure?_eq_none
  have hqueue : ∀ d ∈ queue limit deferred, d.SettlesWithin patience limit :=
    fun d hd => h d (mem_queue.1 hd).1
  -- The verdicts of those that settle at once are recorded before those of the queue.
  have hawait := await_append hqueue []
    (a.recordAll ((prompt limit deferred).map Deferred.entry))
  simp only [List.append_nil, await] at hawait
  simp only [settle_eq_await hnone, hawait, List.map_append, Accumulation.recordAll_append,
    List.append_assoc]

/-- A run in which deferred validators are settled is finished only if every one of them settles. -/
theorem settlesWithin_of_settle {deferred : List Deferred} {a : Accumulation} {outcome : RunOutcome}
    (h : (settle patience limit a deferred).2 = .finished outcome) :
    ∀ d ∈ deferred, d.SettlesWithin patience limit := by
  -- None fails at once, ...
  have hnone : ∀ d ∈ deferred, d.due? limit = some 0 → d.failure? limit = none := by
    rcases forall_or_exists_failure_at_once limit deferred with hnone | ⟨done, d, rest, x, rfl, hdone, hdue, hx⟩
    · exact hnone
    · rw [settle_of_failure hdone hdue hx] at h
      cases h
  -- ... and the waiting ends at none.
  have hqueue : ∀ d ∈ queue limit deferred, d.SettlesWithin patience limit := by
    rcases forall_or_exists_first (Deferred.SettlesWithin patience limit) (queue limit deferred) with
      hall | ⟨done, d, rest, hsplit, hdone, hd⟩
    · exact hall
    · rw [settle_eq_await hnone, hsplit] at h
      rcases await_of_not_settles hdone hd _ with hawait | ⟨x, -, hawait⟩
      · rw [hawait] at h
        cases h
      · rw [hawait] at h
        cases h
  intro d hd
  by_cases hdue : d.due? limit = some 0
  · exact ⟨0, hdue, fun p _ => Nat.zero_le p, hnone d hd hdue⟩
  · exact hqueue d (mem_queue.2 ⟨hd, hdue⟩)

theorem settle_ne_stalled {t : Nat} (hpatience : ∀ p ∈ patience, t ≤ p) (a : Accumulation)
    (deferred : List Deferred) : (settle patience (some t) a deferred).2 ≠ .stalled := by
  rw [settle]
  rcases start (some t) a deferred with ⟨events, _ | ⟨a', waiting⟩⟩
  · simp
  · exact await_ne_stalled hpatience a' _

/-- A time limit keeps runs from stalling, if patience lasts as long. -/
theorem validateAsync_ne_stalled {e : Engine} {t : Nat} (ht : e.timeLimit = some t)
    (hpatience : ∀ p ∈ patience, t ≤ p) (form : Form) (requested : Option String) :
    (e.validateAsync form requested patience).2 ≠ .stalled := by
  rw [validateAsync, ht]
  rcases beginRun _ e form requested with ⟨events, _ | ⟨a, deferred⟩⟩
  · simp
  · exact settle_ne_stalled hpatience a deferred

end Engine
end FormValidation
