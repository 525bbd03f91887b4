/-!
# Receivers

Receivers are kept by id, in the order in which they were connected.  Connecting a receiver under an id
that is taken puts it in the place of the former one.  `ids_nodup` says that no id occurs twice.
-/

namespace FormValidation

/-! ## Entry lists -/

namespace Receivers

variable {α : Type}

/-- Puts an entry in the place of the one with the same id, or at the end. -/
def connectEntry (id : String) (receiver : α) : List (String × α) → List (String × α)
  | [] => [(id, receiver)]
  | (i, r) :: rest =>
      if i = id then (id, receiver) :: rest else (i, r) :: connectEntry id receiver rest

theorem ids_connectEntry (id : String) (receiver : α) (l : List (String × α)) :
    (connectEntry id receiver l).map Prod.fst =
      if id ∈ l.map Prod.fst then l.map Prod.fst else l.map Prod.fst ++ [id] := by
  induction l with
  | nil => simp [connectEntry]
  | cons hd tl ih =>
      obtain ⟨i, r⟩ := hd
      by_cases h : i = id
      · simp [connectEntry, h]
      · by_cases hm : id ∈ tl.map Prod.fst
        · simp [connectEntry, h, ih, hm]
        · simp [connectEntry, h, Ne.symm h, ih, hm]

theorem nodup_connectEntry {id : String} {receiver : α} {l : List (String × α)}
    (h : (l.map Prod.fst).Nodup) : ((connectEntry id receiver l).map Prod.fst).Nodup := by
  rw [ids_connectEntry]
  split
  · exact h
  · rename_i hm
    -- The id goes to the end, where it is new.
    rw [List.nodup_append]
    refine ⟨h, by simp, ?_⟩
    intro a ha b hb
    rw [List.mem_singleton.1 hb]
    exact fun hab => hm (hab ▸ ha)

end Receivers

/-! ## Receivers by id -/

/-- Receivers by id, in the order of connection. -/
structure Receivers (α : Type) where
  entries : List (String × α)
  ids_nodup : (entries.map Prod.fst).Nodup

namespace Receivers

variable {α : Type}

def empty : Receivers α :=
  ⟨[], List.nodup_nil⟩

def connect (r : Receivers α) (id : String) (receiver : α) : Receivers α :=
  ⟨connectEntry id receiver r.entries, nodup_connectEntry r.ids_nodup⟩

def contains (r : Receivers α) (id : String) : Bool :=
  r.entries.any fun e => e.1 == id

/-- Disconnects the receiver of an id, if there is one. -/
def disconnect (r : Receivers α) (id : String) : Receivers α :=
  ⟨r.entries.filter fun e => e.1 != id, (List.filter_sublist.map Prod.fst).nodup r.ids_nodup⟩

def get? (r : Receivers α) (id : String) : Option α :=
  List.lookup id r.entries

def ids (r : Receivers α) : List String :=
  r.entries.map Prod.fst

def toList (r : Receivers α) : List α :=
  r.entries.map Prod.snd

def size (r : Receivers α) : Nat :=
  r.entries.length

end Receivers
end FormValidation
