import FormValidation.Proofs.Json.Reading

/-!
# The layouts of values

Both layouts that values are written in, on one line and on several lines, spell the values
(`spells_compact`, `spells_pretty`), if these are nested no deeper than the reader goes and all numbers are
integers of 64 bits (`Fits`).  So what is written is read again (`read?_compact`, `read?_pretty`).
-/

namespace FormValidation
namespace Json

/-- What holds of a value if it holds of all values in it holds of all values. -/
@[elab_as_elim]
theorem nestedInduction {motive : Json → Prop} (null : motive .null) (bool : ∀ b, motive (.bool b))
    (num : ∀ n, motive (.num n)) (str : ∀ s, motive (.str s))
    (arr : ∀ items, (∀ j ∈ items, motive j) → motive (.arr items))
    (obj : ∀ members, (∀ m ∈ members, motive m.2) → motive (.obj members)) (j : Json) : motive j :=
  match j with
  | .null => null
  | .bool b => bool b
  | .num n => num n
  | .str s => str s
  | .arr items => arr items fun j _ => nestedInduction null bool num str arr obj j
  | .obj members => obj members fun m _ => nestedInduction null bool num str arr obj m.2
termination_by sizeOf j
decreasing_by
  · have hlt := List.sizeOf_lt_of_mem ‹j ∈ items›
    simp only [Json.arr.sizeOf_spec]
    omega
  · have hlt := List.sizeOf_lt_of_mem ‹m ∈ members›
    obtain ⟨key, j⟩ := m
    simp only [Json.obj.sizeOf_spec, Prod.mk.sizeOf_spec] at hlt ⊢
    omega

/-! ## Values that are read again -/

mutual

/-- The numbers are integers of 64 bits, and arrays and objects are nested at most so deep. -/
def Fits : Json → Nat → Prop
  | .num (.natural n), _ => n < 0x10000000000000000
  | .num (.negative n), _ => 0 < n ∧ n ≤ 0x8000000000000000
  | .num (.decimal _ _), _ => False
  | .arr items, depth + 1 => FitsItems items depth
  | .obj members, depth + 1 => FitsMembers members depth
  | .arr _, 0 | .obj _, 0 => False
  | .null, _ | .bool _, _ | .str _, _ => True

def FitsItems : List Json → Nat → Prop
  | [], _ => True
  | j :: rest, depth => j.Fits depth ∧ FitsItems rest depth

def FitsMembers : List (String × Json) → Nat → Prop
  | [], _ => True
  | (_, j) :: rest, depth => j.Fits depth ∧ FitsMembers rest depth

end

theorem fitsItems_iff (items : List Json) (depth : Nat) :
    FitsItems items depth ↔ ∀ j ∈ items, j.Fits depth := by
  induction items with
  | nil => simp [FitsItems]
  | cons j items ih => simp [FitsItems, ih]

theorem fitsMembers_iff (members : List (String × Json)) (depth : Nat) :
    FitsMembers members depth ↔ ∀ m ∈ members, m.2.Fits depth := by
  induction members with
  | nil => simp [FitsMembers]
  | cons m members ih => simp [FitsMembers, ih]

variable {depth : Nat}

/-! ## One line -/

theorem spells_compactItems {items : List Json} (hne : items ≠ [])
    (h : ∀ j ∈ items, Spells depth (Printer.compact j) (.value j)) :
    Spells depth (Printer.compactItems items ++ [']']) (.items items) := by
  induction items with
  | nil => exact absurd rfl hne
  | cons j rest ih =>
      have hj := h j List.mem_cons_self
      cases rest with
      | nil => exact .lastItem hj blanks_nil
      | cons j' rest =>
          have hrest := ih (List.cons_ne_nil _ _) fun j hj => h j (List.mem_cons_of_mem _ hj)
          have hitem := Spells.item hj blanks_nil blanks_nil hrest
          simpa [Printer.compactItems] using hitem

theorem spells_compactMembers {members : List (String × Json)} (hne : members ≠ [])
    (h : ∀ m ∈ members, Spells depth (Printer.compact m.2) (.value m.2)) :
    Spells depth (Printer.compactMembers members ++ ['\x7d']) (.members members) := by
  induction members with
  | nil => exact absurd rfl hne
  | cons m rest ih =>
      obtain ⟨key, j⟩ := m
      have hj : Spells depth (Printer.compact j) (.value j) := h _ List.mem_cons_self
      cases rest with
      | nil =>
          have hmember := Spells.lastMember key blanks_nil blanks_nil hj blanks_nil
          simpa [Printer.compactMembers] using hmember
      | cons m' rest =>
          have hrest := ih (List.cons_ne_nil _ _) fun m hm => h m (List.mem_cons_of_mem _ hm)
          have hmember := Spells.member key blanks_nil blanks_nil hj blanks_nil blanks_nil hrest
          simpa [Printer.compactMembers] using hmember

theorem spells_compact {j : Json} (h : j.Fits depth) : Spells depth (Printer.compact j) (.value j) := by
  induction j using nestedInduction generalizing depth with
  | null => exact .null
  | bool b => cases b <;> constructor
  | num n =>
      cases n with
      | natural n => exact .natural h
      | negative n => exact .negative h.1 h.2
      | decimal mantissa exponent => exact h.elim
  | str s => exact .str
  | arr items ih =>
      cases depth with
      | zero => exact h.elim
      | succ depth =>
          have hall := (fitsItems_iff items depth).1 h
          by_cases hne : items = []
          · subst hne
            exact .emptyArr blanks_nil
          · have hitems := spells_compactItems hne fun j hj => ih j hj (hall j hj)
            exact .arr (b := []) blanks_nil hitems
  | obj members ih =>
      cases depth with
      | zero => exact h.elim
      | succ depth =>
          have hall := (fitsMembers_iff members depth).1 h
          by_cases hne : members = []
          · subst hne
            exact .emptyObj blanks_nil
          · have hmembers := spells_compactMembers hne fun m hm => ih m hm (hall m hm)
            exact .obj (b := []) blanks_nil hmembers

/-- What is written on one line is read again. -/
theorem read?_compact {j : Json} (h : j.Fits Reader.depthLimit) : read? j.compact = some j := by
  have hread := read?_of_spells (spells_compact h) blanks_nil blanks_nil
  rwa [List.nil_append, List.append_nil] at hread

/-- An object whose keys are all known is read again when it is written on one line, -/
theorem readMembers?_compact {known : List String} {members : List (String × Json)} (hne : members ≠ [])
    (h : FitsMembers members (Reader.depthLimit - 1)) (hknown : ∀ m ∈ members, known.contains m.1 = true) :
    readMembers? known (Json.compact (.obj members)) = some (.obj members) := by
  have hall := (fitsMembers_iff members _).1 h
  have hspells := spells_compactMembers hne fun m hm => spells_compact (hall m hm)
  exact readMembers?_of_spells (b := []) blanks_nil hspells hknown

/-! ## Several lines -/

theorem blanks_newLine (level : Nat) : Blanks (Printer.newLine level) := by
  intro c hc
  rcases List.mem_cons.1 hc with rfl | hc
  · exact .inr (.inr (.inl rfl))
  · exact .inl (List.eq_of_mem_replicate hc)

theorem pretty_arr {items : List Json} (hne : items ≠ []) (level : Nat) :
    Printer.pretty level (.arr items) =
      '[' :: (Printer.prettyItems (level + 1) items ++ (Printer.newLine level ++ [']'])) := by
  cases items with
  | nil => exact absurd rfl hne
  | cons j rest => simp [Printer.pretty]

theorem pretty_obj {members : List (String × Json)} (hne : members ≠ []) (level : Nat) :
    Printer.pretty level (.obj members) =
      '\x7b' :: (Printer.prettyMembers (level + 1) members ++ (Printer.newLine level ++ ['\x7d'])) := by
  cases members with
  | nil => exact absurd rfl hne
  | cons m rest => simp [Printer.pretty]

/-- Each item stands behind a new line. -/
theorem spells_prettyItems {items : List Json} (hne : items ≠ []) {level : Nat}
    (h : ∀ j ∈ items, Spells depth (Printer.pretty level j) (.value j)) {b : List Char} (hb : Blanks b) :
    ∃ cs, Printer.prettyItems level items ++ (b ++ [']']) = Printer.newLine level ++ cs ∧
      Spells depth cs (.items items) := by
  induction items with
  | nil => exact absurd rfl hne
  | cons j rest ih =>
      have hj := h j List.mem_cons_self
      cases rest with
      | nil => exact ⟨_, by simp [Printer.prettyItems], .lastItem hj hb⟩
      | cons j' rest =>
          rcases ih (List.cons_ne_nil _ _) fun j hj => h j (List.mem_cons_of_mem _ hj) with
            ⟨cs, hcs, hrest⟩
          refine ⟨_, ?_, .item hj blanks_nil (blanks_newLine level) hrest⟩
          rw [← hcs]
          simp [Printer.prettyItems]

/-- Each member stands behind a new line, and its value behind a blank. -/
theorem spells_prettyMembers {members : List (String × Json)} (hne : members ≠ []) {level : Nat}
    (h : ∀ m ∈ members, Spells depth (Printer.pretty level m.2) (.value m.2)) {b : List Char}
    (hb : Blanks b) :
    ∃ cs, Printer.prettyMembers level members ++ (b ++ ['\x7d']) = Printer.newLine level ++ cs ∧
      Spells depth cs (.members members) := by
  have hblank : Blanks [' '] := by simp [Blanks]
  induction members with
  | nil => exact absurd rfl hne
  | cons m rest ih =>
      obtain ⟨key, j⟩ := m
      have hj : Spells depth (Printer.pretty level j) (.value j) := h _ List.mem_cons_self
      cases rest with
      | nil =>
          exact ⟨_, by simp [Printer.prettyMembers], .lastMember key blanks_nil hblank hj hb⟩
      | cons m' rest =>
          rcases ih (List.cons_ne_nil _ _) fun m hm => h m (List.mem_cons_of_mem _ hm) with
            ⟨cs, hcs, hrest⟩
          refine ⟨_, ?_, .member key blanks_nil hblank hj blanks_nil (blanks_newLine level) hrest⟩
          rw [← hcs]
          simp [Printer.prettyMembers]

theorem spells_pretty {j : Json} (h : j.Fits depth) (level : Nat) :
    Spells depth (Printer.pretty level j) (.value j) := by
  induction j using nestedInduction generalizing depth level with
  | null => exact .null
  | bool b => cases b <;> constructor
  | num n => exact spells_compact h
  | str s => exact .str
  | arr items ih =>
      cases depth with
      | zero => exact h.elim
      | succ depth =>
          have hall := (fitsItems_iff items depth).1 h
          by_cases hne : items = []
          · subst hne
            exact .emptyArr blanks_nil
          · rcases spells_prettyItems hne (fun j hj => ih j hj (hall j hj) (level + 1))
              (blanks_newLine level) with ⟨cs, hcs, hitems⟩
            rw [pretty_arr hne, hcs]
            exact .arr (blanks_newLine (level + 1)) hitems
  | obj members ih =>
      cases depth with
      | zero => exact h.elim
      | succ depth =>
          have hall := (fitsMembers_iff members depth).1 h
          by_cases hne : members = []
          · subst hne
            exact .emptyObj blanks_nil
          · rcases spells_prettyMembers hne (fun m hm => ih m hm (hall m hm) (level + 1))
              (blanks_newLine level) with ⟨cs, hcs, hmembers⟩
            rw [pretty_obj hne, hcs]
            exact .obj (blanks_newLine (level + 1)) hmembers

/-- What is written on several lines is read again. -/
theorem read?_pretty {j : Json} (h : j.Fits Reader.depthLimit) : read? j.pretty = some j := by
  have hread := read?_of_spells (spells_pretty h 0) blanks_nil blanks_nil
  rwa [List.nil_append, List.append_nil] at hread

/-- and when it is written on several lines. -/
theorem readMembers?_pretty {known : List String} {members : List (String × Json)} (hne : members ≠ [])
    (h : FitsMembers members (Reader.depthLimit - 1)) (hknown : ∀ m ∈ members, known.contains m.1 = true) :
    readMembers? known (Json.pretty (.obj members)) = some (.obj members) := by
  have hall := (fitsMembers_iff members _).1 h
  rcases spells_prettyMembers hne (fun m hm => spells_pretty (hall m hm) 1) (blanks_newLine 0) with
    ⟨cs, hcs, hspells⟩
  rw [Json.pretty, pretty_obj hne, hcs]
  exact readMembers?_of_spells (blanks_newLine 1) hspells hknown

end Json
end FormValidation
