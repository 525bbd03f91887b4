import Mathlib.Data.List.Nodup
import FormValidation.Proofs.Latest
import FormValidation.Signal.Receivers

/-!
# Receivers as a map in the order of connection

The history of a signal is the list of its changes.  What it leaves is said without any list of receivers: under
an id the receiver of its last connection, unless it was disconnected after that (`History.IsConnected`), and
ids in the order of the connections that were fresh (`History.FreshAt`).  Only one list of entries is like that
(`IsListing.unique`), and it is the one that the changes lead to (`isListing_after`).
-/

namespace FormValidation

/-! ## Changes -/

/-- A change of the receivers of a signal. -/
inductive Change (α : Type) where
  | connect (id : String) (receiver : α)
  | disconnect (id : String)

namespace Change

variable {α : Type}

def id : Change α → String
  | .connect id _ => id
  | .disconnect id => id

end Change

namespace Receivers

variable {α : Type}

def change (r : Receivers α) : Change α → Receivers α
  | .connect id receiver => r.connect id receiver
  | .disconnect id => r.disconnect id

/-- The receivers that some receivers become by changes. -/
def changeAll (r : Receivers α) (changes : List (Change α)) : Receivers α :=
  changes.foldl change r

@[simp] theorem changeAll_nil (r : Receivers α) : r.changeAll [] = r :=
  rfl

@[simp] theorem changeAll_cons (r : Receivers α) (c : Change α) (changes : List (Change α)) :
    r.changeAll (c :: changes) = (r.change c).changeAll changes :=
  rfl

@[simp] theorem changeAll_append (r : Receivers α) (before after : List (Change α)) :
    r.changeAll (before ++ after) = (r.changeAll before).changeAll after :=
  List.foldl_append

end Receivers

namespace Receivers

variable {α : Type}

theorem mem_connectEntry {id : String} {receiver : α} {l : List (String × α)} {e : String × α}
    (h : (l.map Prod.fst).Nodup) :
    e ∈ connectEntry id receiver l ↔ e = (id, receiver) ∨ e.1 ≠ id ∧ e ∈ l := by
  induction l with
  | nil => simp [connectEntry]
  | cons hd tl ih =>
      obtain ⟨i, r⟩ := hd
      rw [List.map_cons, List.nodup_cons] at h
      by_cases hi : i = id
      · subst hi
        have htl : e ∈ tl → e.1 ≠ i := by
          intro he hei
          have hmem : e.1 ∈ tl.map Prod.fst := List.mem_map_of_mem he
          exact h.1 (hei ▸ hmem)
        rw [connectEntry, if_pos rfl, List.mem_cons, List.mem_cons]
        constructor
        · rintro (he | he)
          · exact .inl he
          · exact .inr ⟨htl he, .inr he⟩
        · rintro (he | ⟨hne, rfl | he⟩)
          · exact .inl he
          · exact absurd rfl hne
          · exact .inr he
      · rw [connectEntry, if_neg hi, List.mem_cons, List.mem_cons, ih h.2]
        constructor
        · rintro (rfl | he | ⟨hne, he⟩)
          · exact .inr ⟨hi, .inl rfl⟩
          · exact .inl he
          · exact .inr ⟨hne, .inr he⟩
        · rintro (he | ⟨hne, he | he⟩)
          · exact .inr (.inl he)
          · exact .inl he
          · exact .inr (.inr ⟨hne, he⟩)

end Receivers

/-! ## What a history leaves -/

abbrev History (α : Type) := List (Change α)

namespace History

variable {α : Type} {h : History α} {c : Change α} {id : String} {r : α} {n : Nat}

/-- The last change of the id connects the receiver. -/
def IsConnected (h : History α) (id : String) (r : α) : Prop :=
  ∃ before after, h = before ++ .connect id r :: after ∧ ∀ c ∈ after, c.id ≠ id

/-- The change at the position connected the id when it was not connected, and it was not disconnected since. -/
def FreshAt (h : History α) (id : String) (n : Nat) : Prop :=
  (∃ r, h[n]? = some (.connect id r)) ∧ (∀ r, ¬IsConnected (h.take n) id r) ∧
    .disconnect id ∉ h.drop n

theorem isConnected_iff_latest : IsConnected h id r ↔ Latest Change.id h (.connect id r) :=
  Iff.rfl

theorem not_isConnected_nil : ¬IsConnected ([] : History α) id r :=
  not_latest_nil

/-- A change of an id decides about it. -/
theorem isConnected_concat_of_id_eq (hc : c.id = id) :
    IsConnected (h ++ [c]) id r ↔ c = .connect id r := by
  rw [isConnected_iff_latest, latest_concat_iff, or_iff_left fun hne => hne.1 hc]
  exact eq_comm

/-- A change of another id changes nothing about an id. -/
theorem isConnected_concat_of_id_ne (hc : c.id ≠ id) :
    IsConnected (h ++ [c]) id r ↔ IsConnected h id r := by
  have hne : .connect id r ≠ c := by
    rintro rfl
    exact hc rfl
  rw [isConnected_iff_latest, latest_concat_iff, or_iff_right hne]
  exact and_iff_right hc

theorem isConnected_connect (i : String) (r' : α) :
    IsConnected (h ++ [.connect i r']) id r ↔ (i = id ∧ r' = r) ∨ (i ≠ id ∧ h.IsConnected id r) := by
  by_cases hi : i = id
  · have hc : (Change.connect i r').id = id := hi
    rw [isConnected_concat_of_id_eq hc]
    simp [hi]
  · have hc : (Change.connect i r').id ≠ id := hi
    rw [isConnected_concat_of_id_ne hc]
    simp [hi]

theorem isConnected_disconnect (i : String) :
    IsConnected (h ++ [.disconnect i]) id r ↔ i ≠ id ∧ h.IsConnected id r := by
  by_cases hi : i = id
  · have hc : (Change.disconnect i : Change α).id = id := hi
    rw [isConnected_concat_of_id_eq hc]
    simp [hi]
  · have hc : (Change.disconnect i : Change α).id ≠ id := hi
    rw [isConnected_concat_of_id_ne hc]
    simp [hi]

theorem IsConnected.unique {r' : α} (hr : h.IsConnected id r) (hr' : h.IsConnected id r') : r = r' :=
  (Change.connect.inj (Latest.unique hr hr' rfl)).2

/-- Who was connected and not disconnected since is connected. -/
theorem exists_isConnected {after : List (Change α)} (hmem : .connect id r ∈ after)
    (hnot : .disconnect id ∉ after) (before : List (Change α)) :
    ∃ r', IsConnected (before ++ after) id r' := by
  induction after using List.reverseRecOn with
  | nil => simp at hmem
  | append_singleton after c ih =>
      rw [← List.append_assoc]
      by_cases hc : c.id = id
      · cases c with
        | connect i r' =>
            obtain rfl : i = id := hc
            exact ⟨r', (isConnected_concat_of_id_eq rfl).2 rfl⟩
        | disconnect i =>
            obtain rfl : i = id := hc
            exact absurd (by simp) hnot
      · have hmem' : .connect id r ∈ after := by
          rcases List.mem_append.1 hmem with hmem | hmem
          · exact hmem
          · rw [← List.mem_singleton.1 hmem] at hc
            exact absurd rfl hc
        have hnot' : .disconnect id ∉ after := fun hd => hnot (List.mem_append_left _ hd)
        rcases ih hmem' hnot' with ⟨r', hr'⟩
        exact ⟨r', (isConnected_concat_of_id_ne hc).2 hr'⟩

/-! ## Fresh connections -/

theorem FreshAt.lt (hn : h.FreshAt id n) : n < h.length := by
  rcases hn.1 with ⟨r, hr⟩
  exact (List.getElem?_eq_some_iff.1 hr).1

theorem FreshAt.le {m : Nat} (hm : h.FreshAt id m) (hn : h.FreshAt id n) : n ≤ m := by
  by_contra hlt
  rcases hm.1 with ⟨r, hr⟩
  -- The earlier of two connections would still hold at the later one.
  have hsplit : h.take n = h.take m ++ (h.drop m).take (n - m) := by
    rw [← List.take_add, Nat.add_sub_cancel' (by omega)]
  have hmem : .connect id r ∈ (h.drop m).take (n - m) := by
    have hget : ((h.drop m).take (n - m))[0]? = some (.connect id r) := by
      rw [List.getElem?_take_of_lt (by omega), List.getElem?_drop]
      exact hr
    exact List.mem_of_getElem? hget
  have hnot : .disconnect id ∉ (h.drop m).take (n - m) :=
    fun hd => hm.2.2 (List.mem_of_mem_take hd)
  rcases exists_isConnected hmem hnot (h.take m) with ⟨r', hr'⟩
  exact hn.2.1 r' (hsplit ▸ hr')

theorem FreshAt.unique {m : Nat} (hm : h.FreshAt id m) (hn : h.FreshAt id n) : m = n :=
  Nat.le_antisymm (hn.le hm) (hm.le hn)

theorem FreshAt.concat (hn : h.FreshAt id n) (hc : c ≠ .disconnect id) : FreshAt (h ++ [c]) id n := by
  have hlt := hn.lt
  refine ⟨?_, ?_, ?_⟩
  · rw [List.getElem?_append_left hlt]
    exact hn.1
  · rw [List.take_append_of_le_length (Nat.le_of_lt hlt)]
    exact hn.2.1
  · rw [List.drop_append_of_le_length (Nat.le_of_lt hlt)]
    intro hmem
    rcases List.mem_append.1 hmem with hmem | hmem
    · exact hn.2.2 hmem
    · exact hc (List.mem_singleton.1 hmem).symm

theorem freshAt_concat (hnot : ∀ r, ¬h.IsConnected id r) (r : α) :
    FreshAt (h ++ [.connect id r]) id h.length := by
  refine ⟨⟨r, by simp⟩, ?_, ?_⟩
  · simpa using hnot
  · simp

/-- One id was connected freshly before another one. -/
def Before (h : History α) (id id' : String) : Prop :=
  ∀ m n, h.FreshAt id m → h.FreshAt id' n → m < n

/-- A change of none of the ids leaves them in their order. -/
theorem pairwise_before_concat {ids : List String} (hsince : ∀ id ∈ ids, ∃ n, h.FreshAt id n)
    (hids : ids.Pairwise h.Before) (hc : ∀ id ∈ ids, c ≠ .disconnect id) :
    ids.Pairwise (Before (h ++ [c])) := by
  refine hids.imp_of_mem ?_
  intro a b ha hb hab m n hm hn
  rcases hsince a ha with ⟨m', hm'⟩
  rcases hsince b hb with ⟨n', hn'⟩
  obtain rfl : m' = m := (hm'.concat (hc a ha)).unique hm
  obtain rfl : n' = n := (hn'.concat (hc b hb)).unique hn
  exact hab m' n' hm' hn'

/-! ## Entries -/

/-- The entries are those of a map with the connected receivers, in the order of the fresh connections. -/
structure IsListing (h : History α) (entries : List (String × α)) : Prop where
  ids_nodup : (entries.map Prod.fst).Nodup
  mem_iff : ∀ id r, (id, r) ∈ entries ↔ h.IsConnected id r
  since : ∀ id ∈ entries.map Prod.fst, ∃ n, h.FreshAt id n
  ordered : (entries.map Prod.fst).Pairwise h.Before

namespace IsListing

variable {entries entries' : List (String × α)}

theorem mem_ids_iff (hl : h.IsListing entries) : id ∈ entries.map Prod.fst ↔ ∃ r, h.IsConnected id r := by
  rw [List.mem_map]
  constructor
  · rintro ⟨⟨i, r⟩, hmem, rfl⟩
    exact ⟨r, (hl.mem_iff i r).1 hmem⟩
  · rintro ⟨r, hr⟩
    exact ⟨(id, r), (hl.mem_iff id r).2 hr, rfl⟩

/-- A history leaves one list of entries. -/
theorem unique (hl : h.IsListing entries) (hl' : h.IsListing entries') : entries = entries' := by
  have hperm : entries.Perm entries' := by
    refine (List.perm_ext_iff_of_nodup hl.ids_nodup.of_map hl'.ids_nodup.of_map).2 ?_
    rintro ⟨id, r⟩
    rw [hl.mem_iff, hl'.mem_iff]
  refine hperm.eq_of_pairwise ?_ (List.pairwise_map.1 hl.ordered) (List.pairwise_map.1 hl'.ordered)
  intro a b ha hb hab hba
  -- Two entries cannot stand before each other.
  rcases hl.since a.1 (List.mem_map_of_mem ha) with ⟨m, hm⟩
  rcases hl'.since b.1 (List.mem_map_of_mem hb) with ⟨n, hn⟩
  exact absurd (hab m n hm hn) (Nat.lt_asymm (hba n m hn hm))

theorem nil : IsListing ([] : History α) [] where
  ids_nodup := List.nodup_nil
  mem_iff := by
    intro id r
    simp [not_isConnected_nil]
  since := by simp
  ordered := List.Pairwise.nil

theorem connect (hl : h.IsListing entries) (id : String) (r : α) :
    IsListing (h ++ [.connect id r]) (Receivers.connectEntry id r entries) := by
  have hne : ∀ i, (.connect id r : Change α) ≠ .disconnect i := by
    intro i heq
    cases heq
  have hsince : ∀ i ∈ entries.map Prod.fst, ∃ n, FreshAt (h ++ [.connect id r]) i n := by
    intro i hi
    rcases hl.since i hi with ⟨n, hn⟩
    exact ⟨n, hn.concat (hne i)⟩
  have hordered : (entries.map Prod.fst).Pairwise (Before (h ++ [.connect id r])) :=
    pairwise_before_concat hl.since hl.ordered fun i _ => hne i
  refine ⟨Receivers.nodup_connectEntry hl.ids_nodup, ?_, ?_, ?_⟩
  · intro i r'
    rw [Receivers.mem_connectEntry hl.ids_nodup, isConnected_connect, hl.mem_iff, Prod.mk.injEq,
      eq_comm, @eq_comm _ r', ne_comm]
  · rw [Receivers.ids_connectEntry]
    split
    · exact hsince
    · rename_i hnew
      intro i hi
      rcases List.mem_append.1 hi with hi | hi
      · exact hsince i hi
      · rw [List.mem_singleton.1 hi]
        exact ⟨_, freshAt_concat (fun r' hr' => hnew (hl.mem_ids_iff.2 ⟨r', hr'⟩)) r⟩
  · rw [Receivers.ids_connectEntry]
    split
    · exact hordered
    · rename_i hnew
      refine List.pairwise_append.2 ⟨hordered, List.pairwise_singleton _ _, ?_⟩
      intro a ha b hb m n hm hn
      obtain rfl : b = id := List.mem_singleton.1 hb
      -- The new connection is the last change.
      rcases hl.since a ha with ⟨m', hm'⟩
      have hlast := freshAt_concat (fun r' hr' => hnew (hl.mem_ids_iff.2 ⟨r', hr'⟩)) r
      rw [← (hm'.concat (hne a)).unique hm, ← hlast.unique hn]
      exact hm'.lt

theorem disconnect (hl : h.IsListing entries) (id : String) :
    IsListing (h ++ [.disconnect id]) (entries.filter fun e => e.1 != id) := by
  have hsub : ((entries.filter fun e => e.1 != id).map Prod.fst).Sublist (entries.map Prod.fst) :=
    List.filter_sublist.map Prod.fst
  have hne : ∀ i ∈ (entries.filter fun e => e.1 != id).map Prod.fst,
      (.disconnect id : Change α) ≠ .disconnect i := by
    intro i hi heq
    rcases List.mem_map.1 hi with ⟨e, he, rfl⟩
    have hid : e.1 ≠ id := by simpa using (List.mem_filter.1 he).2
    exact hid (Change.disconnect.inj heq).symm
  have hsince : ∀ i ∈ (entries.filter fun e => e.1 != id).map Prod.fst, ∃ n, h.FreshAt i n :=
    fun i hi => hl.since i (hsub.subset hi)
  refine ⟨hsub.nodup hl.ids_nodup, ?_, ?_, ?_⟩
  · intro i r
    rw [List.mem_filter, hl.mem_iff, isConnected_disconnect, bne_iff_ne, ne_comm, and_comm]
  · intro i hi
    rcases hsince i hi with ⟨n, hn⟩
    exact ⟨n, hn.concat (hne i hi)⟩
  · exact pairwise_before_concat hsince (hl.ordered.sublist hsub) hne

end IsListing

/-- Changes of a signal without receivers leave what their history says. -/
theorem isListing_changeAll (h : History α) : h.IsListing (Receivers.empty.changeAll h).entries := by
  induction h using List.reverseRecOn with
  | nil => exact .nil
  | append_singleton h c ih =>
      rw [Receivers.changeAll_append]
      cases c with
      | connect id r => exact ih.connect id r
      | disconnect id => exact ih.disconnect id

end History
end FormValidation
