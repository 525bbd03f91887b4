import FormValidation.Proofs.Signal.Delivery
import FormValidation.Signal.Basic

/-!
# Performing acts

`Signal.perform` carries out acts, and puts the acts of all receivers in the place of a payload that is sent.
What it leads to is what the runs lead to in which receivers do what they are asked to
(`exists_perform_eq_some_iff`).
-/

namespace FormValidation

variable {π ε : Type}

/-! ## Notes -/

namespace Deed

variable {α : Type}

mutual

/-- What is noted down, in order. -/
def notes : Deed α π ε → List ε
  | .noted entry => [entry]
  | .connected _ _ => []
  | .disconnected _ _ => []
  | .sent _ calls _ => notesOfCalls calls

def notesOfAll : List (Deed α π ε) → List ε
  | [] => []
  | deed :: deeds => deed.notes ++ notesOfAll deeds

def notesOfCalls : List (Delivered α π ε) → List ε
  | [] => []
  | (_, body) :: calls => notesOfAll body ++ notesOfCalls calls

end

end Deed

/-! ## Acts and deeds -/

/-- The deeds are those of somebody who carries the acts out, and so are those of the receivers called. -/
inductive CarriedOut : List (Act π ε) → List (Deed (Receiver π ε) π ε) → Prop where
  | nil : CarriedOut [] []
  | note {entry : ε} {acts : List (Act π ε)} {deeds : List (Deed (Receiver π ε) π ε)}
      (h : CarriedOut acts deeds) : CarriedOut (.note entry :: acts) (.noted entry :: deeds)
  | connect {id : String} {receiver : Receiver π ε} {acts : List (Act π ε)}
      {deeds : List (Deed (Receiver π ε) π ε)} (h : CarriedOut acts deeds) :
      CarriedOut (.connect id receiver :: acts) (.connected id receiver :: deeds)
  | disconnect {id : String} {found : Bool} {acts : List (Act π ε)}
      {deeds : List (Deed (Receiver π ε) π ε)} (h : CarriedOut acts deeds) :
      CarriedOut (.disconnect id :: acts) (.disconnected id found :: deeds)
  | send {payload : π} {calls : List (Delivered (Receiver π ε) π ε)} {count : Nat}
      {acts : List (Act π ε)} {deeds : List (Deed (Receiver π ε) π ε)}
      (hcalls : ∀ call ∈ calls, CarriedOut (call.1 payload) call.2) (h : CarriedOut acts deeds) :
      CarriedOut (.send payload :: acts) (.sent payload calls count :: deeds)

namespace Signal

variable {s s' : Signal π ε} {acts rest : List (Act π ε)} {entries : List ε} {fuel : Nat}

/-! ## From performances to runs -/

/-- Of a performance with the given entries the rest is left when the notes are taken. -/
def Leaves (fuel : Nat) (s : Signal π ε) (rest : List (Act π ε)) (s' : Signal π ε)
    (notes entries : List ε) : Prop :=
  ∃ fuel' ≤ fuel, ∃ entries', perform fuel' s rest = some (s', entries') ∧ entries = notes ++ entries'

/-- The beginning of a performance is a run in which the first acts are carried out. -/
def BeginsWithRun (fuel : Nat) (s' : Signal π ε) : Prop :=
  ∀ (s : Signal π ε) (acts rest : List (Act π ε)) (entries : List ε),
    perform fuel s (acts ++ rest) = some (s', entries) →
    ∃ deeds s₁, Runs s (.deeds deeds) s₁ ∧ CarriedOut acts deeds ∧
      Leaves fuel s₁ rest s' (Deed.notesOfAll deeds) entries

theorem exists_calls_of_perform {receivers : List (Receiver π ε)} {payload : π}
    (hfuel : ∀ fuel' ≤ fuel, BeginsWithRun fuel' s')
    (h : perform fuel s (receivers.flatMap (fun receiver => receiver payload) ++ rest) =
      some (s', entries)) :
    ∃ calls s₁, Runs s (.calls receivers calls) s₁ ∧
      (∀ call ∈ calls, CarriedOut (call.1 payload) call.2) ∧
      Leaves fuel s₁ rest s' (Deed.notesOfCalls calls) entries := by
  induction receivers generalizing fuel s entries with
  | nil => exact ⟨[], s, .delivered, by simp, fuel, Nat.le_refl fuel, entries, h, rfl⟩
  | cons receiver receivers ih =>
      rw [List.flatMap_cons, List.append_assoc] at h
      rcases hfuel fuel (Nat.le_refl fuel) s _ _ entries h with
        ⟨body, s₁, hbody, hcarried, fuel₁, hle₁, entries₁, hrest, rfl⟩
      have hfuel₁ : ∀ fuel' ≤ fuel₁, BeginsWithRun fuel' s' :=
        fun fuel' hle => hfuel fuel' (Nat.le_trans hle hle₁)
      rcases ih hfuel₁ hrest with ⟨calls, s₂, hcalls, hall, fuel₂, hle₂, entries₂, hrest₂, rfl⟩
      refine ⟨(receiver, body) :: calls, s₂, .called hbody hcalls, ?_, fuel₂, Nat.le_trans hle₂ hle₁,
        entries₂, hrest₂, ?_⟩
      · intro call hcall
        rcases List.mem_cons.1 hcall with rfl | hcall
        · exact hcarried
        · exact hall call hcall
      · rw [Deed.notesOfCalls, List.append_assoc]

theorem beginsWithRun (fuel : Nat) (s' : Signal π ε) : BeginsWithRun fuel s' := by
  induction fuel using Nat.strongRecOn with
  | ind fuel ih =>
      intro s acts rest entries h
      cases acts with
      | nil => exact ⟨[], s, .done, .nil, fuel, Nat.le_refl fuel, entries, h, rfl⟩
      | cons act acts =>
          cases fuel with
          | zero => simp [perform] at h
          | succ fuel =>
              have hfuel : ∀ fuel' ≤ fuel, BeginsWithRun fuel' s' :=
                fun fuel' hle => ih fuel' (Nat.lt_succ_of_le hle)
              cases act with
              | note entry =>
                  rcases Option.map_eq_some_iff.1 h with ⟨⟨_, entries'⟩, hrest, heq⟩
                  cases heq
                  rcases hfuel fuel (Nat.le_refl fuel) s acts rest entries' hrest with
                    ⟨deeds, s₁, hruns, hcarried, fuel₁, hle, entries₁, hleft, rfl⟩
                  exact ⟨.noted entry :: deeds, s₁, .noted hruns, .note hcarried, fuel₁,
                    Nat.le_succ_of_le hle, entries₁, hleft, rfl⟩
              | connect id receiver =>
                  rcases hfuel fuel (Nat.le_refl fuel) _ acts rest entries h with
                    ⟨deeds, s₁, hruns, hcarried, fuel₁, hle, entries₁, hleft, rfl⟩
                  exact ⟨.connected id receiver :: deeds, s₁, .connected hruns, .connect hcarried, fuel₁,
                    Nat.le_succ_of_le hle, entries₁, hleft, rfl⟩
              | disconnect id =>
                  rcases hfuel fuel (Nat.le_refl fuel) _ acts rest entries h with
                    ⟨deeds, s₁, hruns, hcarried, fuel₁, hle, entries₁, hleft, rfl⟩
                  exact ⟨_ :: deeds, s₁, .disconnected hruns, .disconnect hcarried, fuel₁,
                    Nat.le_succ_of_le hle, entries₁, hleft, rfl⟩
              | send payload =>
                  -- The receivers come first, and the acts behind the payload after them.
                  rcases exists_calls_of_perform hfuel h with
                    ⟨calls, s₁, hcalls, hall, fuel₁, hle₁, entries₁, hrest, rfl⟩
                  rcases hfuel fuel₁ hle₁ s₁ acts rest entries₁ hrest with
                    ⟨deeds, s₂, hruns, hcarried, fuel₂, hle₂, entries₂, hleft, rfl⟩
                  refine ⟨.sent payload calls _ :: deeds, s₂, .sent hcalls hruns, .send hall hcarried,
                    fuel₂, Nat.le_succ_of_le (Nat.le_trans hle₂ hle₁), entries₂, hleft, ?_⟩
                  rw [Deed.notesOfAll, Deed.notes, List.append_assoc]

/-! ## From runs to performances -/

/-- What receivers do who are asked to carry out acts can be performed, whatever is to be done after it. -/
theorem exists_perform_of_runs {stretch : Stretch (Receiver π ε) π ε} (h : Runs s stretch s') :
    match stretch with
    | .deeds deeds => ∀ acts, CarriedOut acts deeds → ∀ rest s'' entries fuel,
        perform fuel s' rest = some (s'', entries) →
        ∃ fuel', perform fuel' s (acts ++ rest) = some (s'', Deed.notesOfAll deeds ++ entries)
    | .calls pending calls => ∀ payload, (∀ call ∈ calls, CarriedOut (call.1 payload) call.2) →
        ∀ rest s'' entries fuel, perform fuel s' rest = some (s'', entries) →
        ∃ fuel', perform fuel' s (pending.flatMap (fun receiver => receiver payload) ++ rest) =
          some (s'', Deed.notesOfCalls calls ++ entries) := by
  induction h with
  | done =>
      intro acts hcarried rest s'' entries fuel hrest
      cases hcarried
      exact ⟨fuel, hrest⟩
  | noted _ ih =>
      intro acts hcarried rest s'' entries fuel hrest
      cases hcarried with
      | note hcarried =>
          rcases ih _ hcarried rest s'' entries fuel hrest with ⟨fuel', hfuel'⟩
          refine ⟨fuel' + 1, ?_⟩
          simp [perform, hfuel', Deed.notesOfAll, Deed.notes]
  | connected _ ih =>
      intro acts hcarried rest s'' entries fuel hrest
      cases hcarried with
      | connect hcarried =>
          rcases ih _ hcarried rest s'' entries fuel hrest with ⟨fuel', hfuel'⟩
          exact ⟨fuel' + 1, hfuel'⟩
  | disconnected _ ih =>
      intro acts hcarried rest s'' entries fuel hrest
      cases hcarried with
      | disconnect hcarried =>
          rcases ih _ hcarried rest s'' entries fuel hrest with ⟨fuel', hfuel'⟩
          exact ⟨fuel' + 1, hfuel'⟩
  | sent _ _ ihcalls ih =>
      -- What comes behind the payload is performed last, so its fuel is found first.
      intro acts hcarried rest s'' entries fuel hrest
      cases hcarried with
      | send hall hcarried =>
          rcases ih _ hcarried rest s'' entries fuel hrest with ⟨fuel₁, hfuel₁⟩
          rcases ihcalls _ hall _ s'' _ fuel₁ hfuel₁ with ⟨fuel₂, hfuel₂⟩
          refine ⟨fuel₂ + 1, ?_⟩
          rw [Deed.notesOfAll, Deed.notes, List.append_assoc]
          exact hfuel₂
  | delivered =>
      intro payload _ rest s'' entries fuel hrest
      exact ⟨fuel, hrest⟩
  | called _ _ ihbody ih =>
      intro payload hall rest s'' entries fuel hrest
      have hbody := hall _ List.mem_cons_self
      have hcalls := fun call hcall => hall call (List.mem_cons_of_mem _ hcall)
      rcases ih payload hcalls rest s'' entries fuel hrest with ⟨fuel₁, hfuel₁⟩
      rcases ihbody _ hbody _ s'' _ fuel₁ hfuel₁ with ⟨fuel₂, hfuel₂⟩
      refine ⟨fuel₂, ?_⟩
      rw [List.flatMap_cons, List.append_assoc, Deed.notesOfCalls, List.append_assoc]
      exact hfuel₂

/-- A performance comes to an end exactly as the runs do in which the acts are carried out. -/
theorem exists_perform_eq_some_iff :
    (∃ fuel, perform fuel s acts = some (s', entries)) ↔
      ∃ deeds, Runs s (.deeds deeds) s' ∧ CarriedOut acts deeds ∧ Deed.notesOfAll deeds = entries := by
  constructor
  · rintro ⟨fuel, h⟩
    have happend : perform fuel s (acts ++ []) = some (s', entries) := by
      rw [List.append_nil]
      exact h
    rcases beginsWithRun fuel s' s acts [] entries happend with
      ⟨deeds, s₁, hruns, hcarried, fuel', -, entries', hend, rfl⟩
    have hnothing : perform fuel' s₁ [] = some (s₁, []) := by cases fuel' <;> rfl
    obtain ⟨rfl, rfl⟩ : s₁ = s' ∧ [] = entries' := by simpa [hnothing] using hend
    exact ⟨deeds, hruns, hcarried, (List.append_nil _).symm⟩
  · rintro ⟨deeds, hruns, hcarried, rfl⟩
    have hend : perform 0 s' [] = some (s', ([] : List ε)) := rfl
    rcases exists_perform_of_runs hruns acts hcarried [] s' [] 0 hend with ⟨fuel, hfuel⟩
    refine ⟨fuel, ?_⟩
    rwa [List.append_nil, List.append_nil] at hfuel

/-- A payload that is sent has been delivered exactly as the runs do in which the receivers carry out their
acts. -/
theorem exists_send_eq_some_iff {payload : π} :
    (∃ fuel, s.send fuel payload = some (s', entries)) ↔
      ∃ calls, Runs s (.deeds [.sent payload calls s.size]) s' ∧
        (∀ call ∈ calls, CarriedOut (call.1 payload) call.2) ∧ Deed.notesOfCalls calls = entries := by
  constructor
  · rintro ⟨fuel, h⟩
    have hperform : perform (fuel + 1) s [.send payload] = some (s', entries) := by
      rw [perform, List.append_nil]
      exact h
    rcases exists_perform_eq_some_iff.1 ⟨_, hperform⟩ with ⟨deeds, hruns, hcarried, rfl⟩
    cases hcarried with
    | send hall hnil =>
        cases hnil
        cases hruns with
        | sent hcalls hdone =>
            have hsize : s.toList.length = s.size := List.length_map _
            refine ⟨_, hsize ▸ .sent hcalls hdone, hall, ?_⟩
            rw [Deed.notesOfAll, Deed.notesOfAll, Deed.notes, List.append_nil]
  · rintro ⟨calls, hruns, hall, rfl⟩
    rcases exists_perform_eq_some_iff.2 ⟨_, hruns, .send hall .nil, rfl⟩ with ⟨fuel, hfuel⟩
    cases fuel with
    | zero => simp [perform] at hfuel
    | succ fuel =>
        refine ⟨fuel, ?_⟩
        rw [perform, List.append_nil, Deed.notesOfAll, Deed.notesOfAll, Deed.notes,
          List.append_nil] at hfuel
        exact hfuel

/-! ## Signals as maps in the order of connection -/

/-- A signal is a map in the order of the fresh connections: after any run, however its receivers connect,
disconnect and send in the middle of a payload, it holds what its history says, and every deed of the run, at
any depth, agrees with what the history before it says.  A performance of acts, and a payload that is sent, come
to an end exactly as such runs do. -/
theorem agrees_with_history (π ε : Type) :
    (∀ (α : Type) (deeds : List (Deed α π ε)) (s : Receivers α), Runs .empty (.deeds deeds) s →
      s.ids.Nodup ∧ History.IsListing (Deed.changesOfAll deeds) s.entries ∧
      (∀ id r, s.get? id = some r ↔ History.IsConnected (Deed.changesOfAll deeds) id r) ∧
      ∀ h deed, Occurs deeds h deed →
        (∃! entries, h.IsListing entries) ∧ ∀ entries, h.IsListing entries → deed.AgreesWith h entries) ∧
    (∀ (s s' : Signal π ε) (acts : List (Act π ε)) (entries : List ε),
      (∃ fuel, perform fuel s acts = some (s', entries)) ↔
        ∃ deeds, Runs s (.deeds deeds) s' ∧ CarriedOut acts deeds ∧ Deed.notesOfAll deeds = entries) ∧
    ∀ (s s' : Signal π ε) (payload : π) (entries : List ε),
      (∃ fuel, s.send fuel payload = some (s', entries)) ↔
        ∃ calls, Runs s (.deeds [.sent payload calls s.size]) s' ∧
          (∀ call ∈ calls, CarriedOut (call.1 payload) call.2) ∧ Deed.notesOfCalls calls = entries := by
  refine ⟨?_, fun s s' acts entries => exists_perform_eq_some_iff,
    fun s s' payload entries => exists_send_eq_some_iff⟩
  intro α deeds s hruns
  have hlisting : History.IsListing (Deed.changesOfAll deeds) s.entries := by
    rw [hruns.eq_changeAll]
    exact History.isListing_changeAll _
  refine ⟨s.ids_nodup, hlisting, ?_, ?_⟩
  · intro id r
    rw [Receivers.get?_eq_some_iff, hlisting.mem_iff]
  · intro h deed hoccurs
    rcases hruns.agreesWith_of_occurs hoccurs with ⟨entries, hentries, hagrees⟩
    refine ⟨⟨entries, hentries, fun entries' hentries' => hentries'.unique hentries⟩, ?_⟩
    intro entries' hentries'
    rw [hentries'.unique hentries]
    exact hagrees

/-- The first of two receivers disconnects the other one, puts another receiver in its own place and sends a
payload.  The other receiver is called all the same, and the payload goes to the new one only. -/
def reentrantDeeds : List (Deed Nat Nat Nat) :=
  [.connected "a" 1, .connected "b" 2,
    .sent 0 [(1, [.disconnected "b" true, .connected "a" 3, .sent 1 [(3, [])] 1]), (2, [])] 2]

theorem agrees_with_history_reentrant :
    History.IsConnected (Deed.changesOfAll reentrantDeeds) "a" 3 ∧
      ∃! entries, History.IsListing [.connect "a" 1, .connect "b" 2] entries := by
  have hruns : Runs .empty (.deeds reentrantDeeds)
      ((((Receivers.empty.connect "a" 1).connect "b" 2).disconnect "b").connect "a" 3) :=
    .connected (.connected (.sent
      (.called (.disconnected (.connected (.sent (.called .done .delivered) .done)))
        (.called .done .delivered)) .done))
  have hagrees := (agrees_with_history Nat Nat).1 Nat _ _ hruns
  have hsent : Occurs reentrantDeeds [.connect "a" 1, .connect "b" 2] _ := .later (.later .here)
  exact ⟨(hagrees.2.2.1 "a" 3).1 rfl, (hagrees.2.2.2 _ _ hsent).1⟩

end Signal
end FormValidation
