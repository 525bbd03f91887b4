/-!
# Maps from names

A finite map from names, kept as a list of entries in increasing order of names.  Strings are ordered by
code points.  The look-up laws `get?_insert` and `get?_erase` say what the two changes do, and
`names_sorted` that the names are listed in strictly increasing order.
-/

namespace FormValidation

/-! ## Entry lists -/

namespace NameMap

variable {α : Type}

/-- Puts an entry in its place, instead of the entry with the same name. -/
def insertEntry (name : String) (value : α) : List (String × α) → List (String × α)
  | [] => [(name, value)]
  | (n, v) :: rest =>
      if name < n then (name, value) :: (n, v) :: rest
      else if name = n then (name, value) :: rest
      else (n, v) :: insertEntry name value rest

def find? (name : String) : List (String × α) → Option α
  | [] => none
  | (n, v) :: rest => if n = name then some v else find? name rest

/-- The entries are in strictly increasing order of names. -/
def Sorted (l : List (String × α)) : Prop :=
  l.Pairwise fun a b => a.1 < b.1

theorem mem_insertEntry {name : String} {value : α} {e : String × α} {l : List (String × α)}
    (h : e ∈ insertEntry name value l) : e = (name, value) ∨ e ∈ l := by
  induction l with
  | nil => simpa [insertEntry] using h
  | cons hd tl ih =>
      obtain ⟨n, v⟩ := hd
      simp only [insertEntry] at h
      split at h
      · simpa using h
      · split at h
        · simp only [List.mem_cons] at h ⊢
          rcases h with h | h
          · exact Or.inl h
          · exact Or.inr (Or.inr h)
        · simp only [List.mem_cons] at h ⊢
          rcases h with h | h
          · exact Or.inr (Or.inl h)
          · rcases ih h with h | h
            · exact Or.inl h
            · exact Or.inr (Or.inr h)

theorem sorted_insertEntry {name : String} {value : α} {l : List (String × α)} (h : Sorted l) :
    Sorted (insertEntry name value l) := by
  induction l with
  | nil => simp [insertEntry, Sorted]
  | cons hd tl ih =>
      obtain ⟨n, v⟩ := hd
      have hhead : ∀ e ∈ tl, n < e.1 := fun e he => List.rel_of_pairwise_cons h he
      have htail : Sorted tl := List.Pairwise.of_cons h
      simp only [insertEntry]
      split
      · rename_i hlt
        refine List.Pairwise.cons ?_ h
        intro e he
        rcases List.mem_cons.1 he with rfl | he
        · exact hlt
        · exact String.lt_trans hlt (hhead e he)
      · split
        · rename_i heq
          subst heq
          exact List.Pairwise.cons hhead htail
        · rename_i hnlt hne
          -- The head stays in front, since names are in total order.
          refine List.Pairwise.cons ?_ (ih htail)
          intro e he
          rcases mem_insertEntry he with rfl | he
          · have hle : n ≤ name := String.not_lt.1 hnlt
            refine Classical.byContradiction fun hnot => hne ?_
            exact String.le_antisymm (String.not_lt.1 hnot) hle
          · exact hhead e he

theorem find?_insertEntry (name other : String) (value : α) (l : List (String × α)) :
    find? other (insertEntry name value l) = if name = other then some value else find? other l := by
  induction l with
  | nil => simp [insertEntry, find?]
  | cons hd tl ih =>
      obtain ⟨n, v⟩ := hd
      simp only [insertEntry]
      split
      · simp [find?]
      · split
        · rename_i heq
          subst heq
          by_cases h : name = other <;> simp [find?, h]
        · rename_i hne
          by_cases h : n = other
          · subst h
            simp [find?, hne]
          · simp [find?, h, ih]

theorem find?_filter_ne (name other : String) (l : List (String × α)) :
    find? other (l.filter fun e => e.1 != name) = if name = other then none else find? other l := by
  induction l with
  | nil => simp [find?]
  | cons hd tl ih =>
      obtain ⟨n, v⟩ := hd
      by_cases hn : n = name
      · subst hn
        by_cases h : n = other <;> simp_all [find?]
      · by_cases h : name = other <;> simp_all [find?]

theorem find?_isSome_iff (name : String) (l : List (String × α)) :
    (find? name l).isSome ↔ name ∈ l.map Prod.fst := by
  induction l with
  | nil => simp [find?]
  | cons hd tl ih =>
      obtain ⟨n, v⟩ := hd
      by_cases h : n = name
      · simp [find?, h]
      · simp [find?, h, ih, Ne.symm h]

end NameMap

/-! ## Maps -/

/-- A finite map from names. -/
structure NameMap (α : Type) where
  entries : List (String × α)
  sorted : NameMap.Sorted entries

namespace NameMap

variable {α : Type}

def empty : NameMap α :=
  ⟨[], List.Pairwise.nil⟩

def get? (m : NameMap α) (name : String) : Option α :=
  find? name m.entries

def contains (m : NameMap α) (name : String) : Bool :=
  (m.get? name).isSome

/-- The map in which a name has the given value and all others are as before. -/
def insert (m : NameMap α) (name : String) (value : α) : NameMap α :=
  ⟨insertEntry name value m.entries, sorted_insertEntry m.sorted⟩

/-- The map in which a name has no value and all others are as before. -/
def erase (m : NameMap α) (name : String) : NameMap α :=
  ⟨m.entries.filter fun e => e.1 != name, List.Pairwise.filter _ m.sorted⟩

/-- The names that have a value, in increasing order. -/
def names (m : NameMap α) : List String :=
  m.entries.map Prod.fst

def size (m : NameMap α) : Nat :=
  m.entries.length

def isEmpty (m : NameMap α) : Bool :=
  m.entries.isEmpty

/-- The map of some entries, later ones going before earlier ones of the same name. -/
def ofList (l : List (String × α)) : NameMap α :=
  l.foldl (fun m e => m.insert e.1 e.2) empty

@[simp] theorem get?_empty (name : String) : (empty : NameMap α).get? name = none :=
  rfl

theorem get?_insert (m : NameMap α) (name other : String) (value : α) :
    (m.insert name value).get? other = if name = other then some value else m.get? other :=
  find?_insertEntry name other value m.entries

theorem get?_erase (m : NameMap α) (name other : String) :
    (m.erase name).get? other = if name = other then none else m.get? other :=
  find?_filter_ne name other m.entries

theorem names_sorted (m : NameMap α) : m.names.Pairwise (· < ·) :=
  List.pairwise_map.2 m.sorted

theorem nodup_names (m : NameMap α) : m.names.Nodup := by
  refine m.names_sorted.imp ?_
  rintro a _ h rfl
  exact String.lt_irrefl a h

theorem contains_iff_mem_names (m : NameMap α) (name : String) :
    m.contains name = true ↔ name ∈ m.names :=
  find?_isSome_iff name m.entries

theorem size_eq_length_names (m : NameMap α) : m.size = m.names.length := by
  simp [size, names]

end NameMap
end FormValidation
