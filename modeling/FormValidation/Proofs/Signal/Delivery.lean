import FormValidation.Proofs.Signal.History

/-!
# Deliveries of a signal

What is done with a signal is recorded as deeds.  A payload that was sent stands there with the calls of its
receivers, and each call with the deeds of the receiver, among which there may be payloads again.  `Runs` says
which records come about.

At any depth a deed finds the receivers that the changes before it leave (`Runs.deed`).  So a payload is handed
to the receivers that were connected when it was sent, whatever they do meanwhile
(`Runs.agreesWith_of_occurs`).
-/

namespace FormValidation

/-! ## Records -/

/-- What is done with a signal: something is noted down, a receiver is connected or disconnected (with the flag
whether it was found), or a payload is sent (with the calls made for it, and the number of them that is
returned). -/
inductive Deed (α π ε : Type) where
  | noted (entry : ε)
  | connected (id : String) (receiver : α)
  | disconnected (id : String) (found : Bool)
  | sent (payload : π) (calls : List (α × List (Deed α π ε))) (count : Nat)

/-- The call of a receiver and what it does during the call. -/
abbrev Delivered (α π ε : Type) := α × List (Deed α π ε)

namespace Deed

variable {α π ε : Type}

mutual

/-- The changes of the receivers, in the order in which they are made. -/
def changes : Deed α π ε → List (Change α)
  | .noted _ => []
  | .connected id receiver => [.connect id receiver]
  | .disconnected id _ => [.disconnect id]
  | .sent _ calls _ => changesOfCalls calls

def changesOfAll : List (Deed α π ε) → List (Change α)
  | [] => []
  | deed :: deeds => deed.changes ++ changesOfAll deeds

def changesOfCalls : List (Delivered α π ε) → List (Change α)
  | [] => []
  | (_, body) :: calls => changesOfAll body ++ changesOfCalls calls

end

end Deed

/-! ## Runs -/

/-- A stretch of a run: deeds one after the other, or the calls of the receivers that are still pending. -/
inductive Stretch (α π ε : Type) where
  | deeds (deeds : List (Deed α π ε))
  | calls (pending : List α) (calls : List (Delivered α π ε))

/-- The stretch of a run leads from some receivers to others.  A payload is handed one by one to the receivers
that are listed when it is sent; what a receiver does when it is called is up to it. -/
inductive Runs {α π ε : Type} : Receivers α → Stretch α π ε → Receivers α → Prop where
  | done {s : Receivers α} : Runs s (.deeds []) s
  | noted {s s' : Receivers α} {entry : ε} {deeds : List (Deed α π ε)}
      (h : Runs s (.deeds deeds) s') : Runs s (.deeds (.noted entry :: deeds)) s'
  | connected {s s' : Receivers α} {id : String} {receiver : α} {deeds : List (Deed α π ε)}
      (h : Runs (s.connect id receiver) (.deeds deeds) s') :
      Runs s (.deeds (.connected id receiver :: deeds)) s'
  | disconnected {s s' : Receivers α} {id : String} {deeds : List (Deed α π ε)}
      (h : Runs (s.disconnect id) (.deeds deeds) s') :
      Runs s (.deeds (.disconnected id (decide ((s.disconnect id).size < s.size)) :: deeds)) s'
  | sent {s s₁ s' : Receivers α} {payload : π} {calls : List (Delivered α π ε)}
      {deeds : List (Deed α π ε)} (hcalls : Runs s (.calls s.toList calls) s₁)
      (h : Runs s₁ (.deeds deeds) s') :
      Runs s (.deeds (.sent payload calls s.toList.length :: deeds)) s'
  | delivered {s : Receivers α} : Runs s (.calls [] []) s
  | called {s s₁ s' : Receivers α} {receiver : α} {pending : List α} {body : List (Deed α π ε)}
      {calls : List (Delivered α π ε)} (hbody : Runs s (.deeds body) s₁)
      (h : Runs s₁ (.calls pending calls) s') :
      Runs s (.calls (receiver :: pending) ((receiver, body) :: calls)) s'

/-- The deed occurs among deeds, at any depth, behind the given changes. -/
inductive Occurs {α π ε : Type} : List (Deed α π ε) → History α → Deed α π ε → Prop where
  | here {deed : Deed α π ε} {deeds : List (Deed α π ε)} : Occurs (deed :: deeds) [] deed
  | later {deed deed' : Deed α π ε} {deeds : List (Deed α π ε)} {h : History α}
      (hoccurs : Occurs deeds h deed') : Occurs (deed :: deeds) (deed.changes ++ h) deed'
  | within {payload : π} {before after : List (Delivered α π ε)} {receiver : α}
      {body deeds : List (Deed α π ε)} {count : Nat} {h : History α} {deed : Deed α π ε}
      (hoccurs : Occurs body h deed) :
      Occurs (.sent payload (before ++ (receiver, body) :: after) count :: deeds)
        (Deed.changesOfCalls before ++ h) deed

variable {α π ε : Type} {s s' : Receivers α}

/-! ## What a run leaves -/

/-- The changes that a stretch makes. -/
def Stretch.changes : Stretch α π ε → List (Change α)
  | .deeds ds => Deed.changesOfAll ds
  | .calls _ cs => Deed.changesOfCalls cs

/-- A run leaves the receivers that its changes lead to. -/
theorem Runs.eq_changeAll {stretch : Stretch α π ε} (h : Runs s stretch s') :
    s' = s.changeAll stretch.changes := by
  induction h with
  | done => rfl
  | noted _ ih => exact ih
  | connected _ ih => exact ih
  | disconnected _ ih => exact ih
  | sent _ _ ihcalls ih =>
      rw [ih, ihcalls]
      exact (Receivers.changeAll_append _ _ _).symm
  | delivered => rfl
  | called _ _ ihbody ih =>
      rw [ih, ihbody]
      exact (Receivers.changeAll_append _ _ _).symm

/-- The calls that are made are those that were pending. -/
theorem Runs.map_fst_calls {pending : List α} {calls : List (Delivered α π ε)}
    (h : Runs s (.calls pending calls) s') : calls.map Prod.fst = pending := by
  generalize hstretch : Stretch.calls pending calls = stretch at h
  induction h generalizing pending calls with
  | delivered =>
      cases hstretch
      rfl
  | called _ _ _ ih =>
      cases hstretch
      rw [List.map_cons, ih rfl]
  | _ => cases hstretch

/-- A receiver that is called finds what the calls before leave. -/
theorem Runs.body {before after : List (Delivered α π ε)} {receiver : α} {body : List (Deed α π ε)}
    {pending : List α} (h : Runs s (.calls pending (before ++ (receiver, body) :: after)) s') :
    ∃ s₁, Runs (s.changeAll (Deed.changesOfCalls before)) (.deeds body) s₁ := by
  induction before generalizing s pending with
  | nil =>
      cases h with
      | called hbody _ => exact ⟨_, hbody⟩
  | cons call before ih =>
      cases h with
      | called hbody hrest =>
          rcases ih hrest with ⟨s₁, hs₁⟩
          refine ⟨s₁, ?_⟩
          rw [Deed.changesOfCalls, Receivers.changeAll_append]
          have hstate := hbody.eq_changeAll
          rwa [hstate] at hs₁

/-- A deed finds what the changes before it leave. -/
theorem Runs.deed {deeds : List (Deed α π ε)} {h : History α} {deed : Deed α π ε}
    (hruns : Runs s (.deeds deeds) s') (hoccurs : Occurs deeds h deed) :
    ∃ s₁, Runs (s.changeAll h) (.deeds [deed]) s₁ := by
  induction hoccurs generalizing s s' with
  | here =>
      cases hruns with
      | noted _ => exact ⟨_, .noted .done⟩
      | connected _ => exact ⟨_, .connected .done⟩
      | disconnected _ => exact ⟨_, .disconnected .done⟩
      | sent hcalls _ => exact ⟨_, .sent hcalls .done⟩
  | later _ ih =>
      rw [Receivers.changeAll_append]
      cases hruns with
      | noted hrest => exact ih hrest
      | connected hrest => exact ih hrest
      | disconnected hrest => exact ih hrest
      | sent hcalls hrest => exact ih (hcalls.eq_changeAll ▸ hrest)
  | within _ ih =>
      rw [Receivers.changeAll_append]
      cases hruns with
      | sent hcalls _ =>
          rcases hcalls.body with ⟨s₁, hbody⟩
          exact ih hbody

/-! ## What receivers see -/

namespace Receivers

theorem get?_eq_some_iff (s : Receivers α) (id : String) (receiver : α) :
    s.get? id = some receiver ↔ (id, receiver) ∈ s.entries := by
  obtain ⟨entries, hnodup⟩ := s
  show entries.lookup id = some receiver ↔ (id, receiver) ∈ entries
  induction entries with
  | nil => simp
  | cons e entries ih =>
      obtain ⟨i, r⟩ := e
      rw [List.map_cons, List.nodup_cons] at hnodup
      by_cases hi : id = i
      · subst hi
        have hnew : (id, receiver) ∉ entries := by
          intro hmem
          have hid : id ∈ entries.map Prod.fst := List.mem_map_of_mem hmem
          exact hnodup.1 hid
        simp [hnew, eq_comm]
      · have hne : (id == i) = false := beq_eq_false_iff_ne.2 hi
        simp [List.lookup_cons, hne, hi, ih hnodup.2]

/-- There are fewer receivers after one was disconnected than before. -/
theorem size_disconnect_lt_iff (s : Receivers α) (id : String) :
    (s.disconnect id).size < s.size ↔ id ∈ s.entries.map Prod.fst := by
  show (s.entries.filter fun e => e.1 != id).length < s.entries.length ↔ _
  rw [List.length_filter_lt_length_iff_exists, List.mem_map]
  constructor
  · rintro ⟨e, he, hid⟩
    exact ⟨e, he, by simpa using hid⟩
  · rintro ⟨e, he, hid⟩
    exact ⟨e, he, by simpa using hid⟩

end Receivers

/-- The deed is one of a signal with the given entries and history: a connection keeps the place of an id or puts
it at the end, a disconnection removes an entry if it is found, and a payload is handed to all receivers. -/
def Deed.AgreesWith (h : History α) (entries : List (String × α)) : Deed α π ε → Prop
  | .noted _ => True
  | .connected id receiver =>
      ∃ entries', History.IsListing (h ++ [.connect id receiver]) entries' ∧
        entries'.map Prod.fst =
          if id ∈ entries.map Prod.fst then entries.map Prod.fst else entries.map Prod.fst ++ [id]
  | .disconnected id found =>
      (found = true ↔ id ∈ entries.map Prod.fst) ∧
        History.IsListing (h ++ [.disconnect id]) (entries.filter fun e => e.1 != id)
  | .sent _ calls count => calls.map Prod.fst = entries.map Prod.snd ∧ count = entries.length

/-- A deed agrees with the receivers that it finds. -/
theorem Runs.agreesWith {h : History α} {deed : Deed α π ε} (hlisting : h.IsListing s.entries)
    (hruns : Runs s (.deeds [deed]) s') : deed.AgreesWith h s.entries := by
  cases hruns with
  | noted _ => trivial
  | connected _ => exact ⟨_, hlisting.connect _ _, Receivers.ids_connectEntry _ _ _⟩
  | disconnected _ =>
      refine ⟨?_, hlisting.disconnect _⟩
      rw [decide_eq_true_iff]
      exact Receivers.size_disconnect_lt_iff _ _
  | sent hcalls _ => exact ⟨hcalls.map_fst_calls, List.length_map _⟩

/-- Whatever is done with a signal, at any depth, agrees with the receivers that the changes before it leave. -/
theorem Runs.agreesWith_of_occurs {deeds : List (Deed α π ε)} {h : History α} {deed : Deed α π ε}
    (hruns : Runs .empty (.deeds deeds) s) (hoccurs : Occurs deeds h deed) :
    ∃ entries, h.IsListing entries ∧ deed.AgreesWith h entries := by
  rcases hruns.deed hoccurs with ⟨s₁, hdeed⟩
  exact ⟨_, History.isListing_changeAll h, hdeed.agreesWith (History.isListing_changeAll h)⟩

end FormValidation
