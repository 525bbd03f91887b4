import FormValidation.Proofs.Json.Distinct
import FormValidation.Toml.Reader

/-!
# No key of a document is repeated

The keys of a table under construction are distinct, whatever is added to it: an entry needs a key that is free, a
header one that is free or one that stands for a table that headers made (`Draft.distinct_assign`,
`Draft.distinct_openTable`, `Draft.distinct_openItem`).  So the keys of every table of a document are distinct
(`distinct_read?`), and so are those of the objects that they are written as (`Value.Distinct.toJson`).
-/

namespace FormValidation
namespace Toml

/-! ## Values -/

/-- The keys of all tables in the value are distinct. -/
inductive Value.Distinct : Value → Prop where
  | text (s : String) : Distinct (.text s)
  | integer (i : Int) : Distinct (.integer i)
  | decimal (d : Decimal) : Distinct (.decimal d)
  | bool (b : Bool) : Distinct (.bool b)
  | moment (m : Moment) : Distinct (.moment m)
  | array {items : List Value} (hitems : ∀ v ∈ items, Distinct v) : Distinct (.array items)
  | table {entries : List (String × Value)} (hkeys : (entries.map Prod.fst).Nodup)
      (hentries : ∀ e ∈ entries, Distinct e.2) : Distinct (.table entries)

theorem itemsToJson_eq_map (items : List Value) : itemsToJson items = items.map Value.toJson := by
  induction items with
  | nil => rfl
  | cons v rest ih => rw [itemsToJson, ih, List.map_cons]

theorem entriesToJson_eq_map (entries : List (String × Value)) :
    entriesToJson entries = entries.map fun e => (e.1, e.2.toJson) := by
  induction entries with
  | nil => rfl
  | cons e rest ih => rw [entriesToJson, ih, List.map_cons]

theorem map_fst_entriesToJson (entries : List (String × Value)) :
    (entriesToJson entries).map Prod.fst = entries.map Prod.fst := by
  rw [entriesToJson_eq_map, List.map_map]
  rfl

namespace Value.Distinct

theorem nodup {entries : List (String × Value)} (h : Distinct (.table entries)) :
    (entries.map Prod.fst).Nodup := by
  cases h with
  | table hkeys _ => exact hkeys

theorem of_mem {entries : List (String × Value)} (h : Distinct (.table entries)) {e : String × Value}
    (he : e ∈ entries) : e.2.Distinct := by
  cases h with
  | table _ hentries => exact hentries e he

theorem of_mem_array {items : List Value} (h : Distinct (.array items)) {v : Value} (hv : v ∈ items) :
    v.Distinct := by
  cases h with
  | array hitems => exact hitems v hv

theorem toJson {v : Value} (h : v.Distinct) : v.toJson.Distinct := by
  induction h with
  | text s => exact .str s
  | integer i =>
      rw [Value.toJson, Json.ofInt]
      split <;> exact .num _
  | decimal d =>
      cases d with
      | finite mantissa exponent => exact .num _
      | infinite negative => exact .null
      | nan => exact .null
  | bool b => exact .bool b
  | moment m => exact .str _
  | @array items _ ih =>
      rw [Value.toJson, itemsToJson_eq_map]
      exact .arr (List.forall_mem_map.2 ih)
  | @table entries hkeys _ ih =>
      rw [Value.toJson]
      refine .obj (by rwa [map_fst_entriesToJson]) ?_
      rw [entriesToJson_eq_map, List.forall_mem_map]
      exact ih

/-- What is looked up in the object that a table is written as is its entry, written. -/
theorem lookup?_of_mem {entries : List (String × Value)} (h : Distinct (.table entries)) {key : String} {v : Value}
    (hv : (key, v) ∈ entries) : Json.lookup? key (entriesToJson entries) = some v.toJson := by
  refine (Json.lookup?_eq_some_iff h.toJson.nodup).2 ?_
  rw [entriesToJson_eq_map]
  exact List.mem_map_of_mem hv

end Value.Distinct

/-! ## Tables under construction -/

theorem closeEntries_eq_map (entries : Entries) :
    closeEntries entries = entries.map fun e => (e.1, e.2.close) := by
  induction entries with
  | nil => rfl
  | cons e rest ih => rw [closeEntries, ih, List.map_cons]

theorem closeItems_eq_map (items : List Entries) :
    closeItems items = items.map fun entries => .table (closeEntries entries) := by
  induction items with
  | nil => rfl
  | cons entries rest ih => rw [closeItems, ih, List.map_cons]

namespace Entries

variable {entries entries' : Entries} {key : String} {n : Node}

/-- The keys of the table and of all tables in it are distinct. -/
def Distinct (entries : Entries) : Prop :=
  (Value.table (closeEntries entries)).Distinct

theorem distinct_iff : Distinct entries ↔ (entries.map Prod.fst).Nodup ∧ ∀ e ∈ entries, e.2.close.Distinct := by
  have hkeys : (closeEntries entries).map Prod.fst = entries.map Prod.fst := by
    rw [closeEntries_eq_map, List.map_map]
    rfl
  have hentries : (∀ e ∈ closeEntries entries, e.2.Distinct) ↔ ∀ e ∈ entries, e.2.close.Distinct := by
    rw [closeEntries_eq_map, List.forall_mem_map]
  rw [← hkeys, ← hentries]
  exact ⟨fun h => ⟨h.nodup, fun e => h.of_mem⟩, fun h => .table h.1 h.2⟩

theorem distinct_nil : Distinct [] :=
  .table List.nodup_nil nofun

theorem distinct_tables_iff {items : List Entries} :
    (Node.tables items).close.Distinct ↔ ∀ entries ∈ items, Distinct entries := by
  rw [Node.close, closeItems_eq_map]
  constructor
  · exact fun h entries hentries => h.of_mem_array (List.mem_map_of_mem hentries)
  · exact fun h => .array (List.forall_mem_map.2 h)

theorem put_eq (key : String) (n : Node) (entries : Entries) : put key n entries = KeyedList.put key n entries := by
  induction entries with
  | nil => rfl
  | cons e rest ih => rw [put, ih, KeyedList.put]

theorem Distinct.put (h : Distinct entries) (key : String) {n : Node} (hn : n.close.Distinct) :
    Distinct (put key n entries) := by
  rw [distinct_iff] at h ⊢
  rw [put_eq]
  refine ⟨KeyedList.nodup_put h.1 key n, ?_⟩
  intro e he
  rcases KeyedList.mem_put he with rfl | he
  · exact hn
  · exact h.2 e he

theorem Distinct.find? (h : Distinct entries) (hn : find? key entries = some n) : n.close.Distinct := by
  rcases List.lookup_eq_some_iff.1 hn with ⟨before, after, rfl, -⟩
  exact (distinct_iff.1 h).2 (key, n) (by simp)

/-- What changes a table keeps the keys distinct, as far as it succeeds. -/
def Keeps (change : Origin → Entries → Option Entries) : Prop :=
  ∀ origin entries entries', Distinct entries → change origin entries = some entries' → Distinct entries'

/-- A change at the end of a path keeps keys distinct if the change itself does. -/
theorem keeps_within (asDotted : Bool) {change : Origin → Entries → Option Entries} (hchange : Keeps change)
    (path : List String) : Keeps (within asDotted change path) := by
  induction path with
  | nil => exact hchange
  | cons key path ih =>
      intro origin entries entries' hentries h
      rw [within] at h
      cases hfind : find? key entries with
      | none =>
          simp only [hfind, Option.bind_eq_bind, Option.bind_eq_some_iff, Option.pure_def, Option.some_inj] at h
          rcases h with ⟨inner, hinner, rfl⟩
          exact hentries.put key (ih _ _ _ distinct_nil hinner)
      | some n =>
          have hn := hentries.find? hfind
          cases n with
          | closed v => simp [hfind] at h
          | table origin' inner =>
              simp only [hfind, Option.bind_eq_bind, Option.pure_def] at h
              split at h
              · cases h
              · rcases Option.bind_eq_some_iff.1 h with ⟨inner', hinner', heq⟩
                cases heq
                exact hentries.put key (ih _ _ _ hn hinner')
          | tables items =>
              rw [distinct_tables_iff] at hn
              simp only [hfind, Option.bind_eq_bind, Option.pure_def] at h
              split at h
              · cases h
              · rename_i last before hreverse
                rcases Option.bind_eq_some_iff.1 h with ⟨last', hlast', heq⟩
                cases heq
                -- The last table is changed, and those before it stay.
                have hall : ∀ entries ∈ last :: before, Distinct entries :=
                  fun entries hmem => hn entries (List.mem_reverse.1 (hreverse ▸ hmem))
                rw [List.forall_mem_cons] at hall
                refine hentries.put key (distinct_tables_iff.2 ?_)
                intro entries hmem
                rcases List.mem_cons.1 (List.mem_reverse.1 hmem) with rfl | hmem
                · exact ih _ _ _ hall.1 hlast'
                · exact hall.2 entries hmem

theorem keeps_add (isDotted : Bool) (key : String) {v : Value} (hv : v.Distinct) :
    Keeps (add isDotted key v) := by
  intro origin entries entries' hentries h
  rw [add] at h
  split at h
  · cases h
  · split at h
    · cases h
    · cases h
      exact hentries.put key hv

theorem keeps_assign (path : List String) (key : String) {v : Value} (hv : v.Distinct) :
    Keeps (assign path key v) :=
  keeps_within true (keeps_add _ key hv) path

end Entries

namespace Draft

variable {d d' : Draft} {path : List String} {key : String}

theorem distinct_assign {v : Value} (hd : d.root.Distinct) (hv : v.Distinct)
    (h : d.assign path key v = some d') : d'.root.Distinct := by
  rcases Option.bind_eq_some_iff.1 h with ⟨root, hroot, heq⟩
  cases heq
  exact Entries.keeps_within false (Entries.keeps_assign path key hv) d.current _ _ _ hd hroot

theorem distinct_openTable (hd : d.root.Distinct) (h : d.openTable path key = some d') :
    d'.root.Distinct := by
  rcases Option.bind_eq_some_iff.1 h with ⟨root, hroot, heq⟩
  cases heq
  refine Entries.keeps_within false ?_ path _ _ _ hd hroot
  intro origin entries entries' hentries hchange
  dsimp only at hchange
  split at hchange
  · cases hchange
    exact hentries.put key Entries.distinct_nil
  · rename_i inner hfind
    cases hchange
    have hinner : Entries.Distinct inner := hentries.find? hfind
    exact hentries.put key hinner
  · cases hchange

theorem distinct_openItem (hd : d.root.Distinct) (h : d.openItem path key = some d') :
    d'.root.Distinct := by
  rcases Option.bind_eq_some_iff.1 h with ⟨root, hroot, heq⟩
  cases heq
  refine Entries.keeps_within false ?_ path _ _ _ hd hroot
  intro origin entries entries' hentries hchange
  dsimp only at hchange
  split at hchange
  · cases hchange
    refine hentries.put key (Entries.distinct_tables_iff.2 ?_)
    exact List.forall_mem_singleton.2 Entries.distinct_nil
  · rename_i items hfind
    cases hchange
    have hitems := Entries.distinct_tables_iff.1 (hentries.find? hfind)
    refine hentries.put key (Entries.distinct_tables_iff.2 ?_)
    exact List.forall_mem_append.2 ⟨hitems, List.forall_mem_singleton.2 Entries.distinct_nil⟩
  · cases hchange

end Draft

/-! ## Documents -/

namespace Reader

variable {cs rest : List Char} {v : Value} {d d' : Draft}

theorem distinct_integer? {i : Int} (h : integer? i = some v) : v.Distinct := by
  rw [integer?] at h
  split at h <;> cases h
  exact .integer i

theorem distinct_binaryNumber {base : Nat} {isDigit : Char → Bool}
    (h : binaryNumber base isDigit cs = some (v, rest)) : v.Distinct := by
  simp only [binaryNumber, Option.bind_eq_bind, Option.bind_eq_some_iff, Option.pure_def, Option.some_inj,
    Prod.mk.injEq] at h
  rcases h with ⟨_, _, w, hw, rfl, _⟩
  exact distinct_integer? hw

theorem distinct_decimalNumber (h : decimalNumber cs = some (v, rest)) : v.Distinct := by
  simp only [decimalNumber, Option.bind_eq_bind, Option.pure_def] at h
  split at h
  · cases h
    exact .decimal _
  · cases h
    exact .decimal _
  · rcases Option.bind_eq_some_iff.1 h with ⟨_, _, h⟩
    split at h
    all_goals
      simp only [Option.bind_eq_some_iff, Option.some_inj, Prod.mk.injEq] at h
    case h_4 =>
      rcases h with ⟨w, hw, rfl, _⟩
      exact distinct_integer? hw
    -- Before an exponent and before a point alike the number is a decimal one.
    all_goals
      rcases h with ⟨_, _, _, _, rfl, _⟩
      exact .decimal _

theorem distinct_number (h : number cs = some (v, rest)) : v.Distinct := by
  unfold number at h
  split at h
  · exact distinct_binaryNumber h
  · exact distinct_binaryNumber h
  · exact distinct_binaryNumber h
  · exact distinct_decimalNumber h

/-- The readers of values, of the items of an array and of the members of an inline table give distinct keys if
they take so many steps. -/
structure Keeps (fuel : Nat) : Prop where
  value {depth : Nat} {cs rest : List Char} {v : Value} (h : value fuel depth cs = some (v, rest)) : v.Distinct
  items {depth : Nat} {cs rest : List Char} {l : List Value} (h : items fuel depth cs = some (l, rest)) :
    ∀ v ∈ l, v.Distinct
  members {depth : Nat} {done entries : Entries} {cs rest : List Char} (hdone : done.Distinct)
    (h : members fuel depth done cs = some (entries, rest)) : entries.Distinct

variable {fuel depth : Nat}

theorem Keeps.value_succ (hfuel : Keeps fuel) (h : Reader.value (fuel + 1) depth cs = some (v, rest)) :
    v.Distinct := by
  unfold Reader.value at h
  split at h
  · rcases Option.map_eq_some_iff.1 h with ⟨_, _, heq⟩
    cases heq
    exact .text _
  · rcases Option.map_eq_some_iff.1 h with ⟨_, _, heq⟩
    cases heq
    exact .text _
  · cases h
    exact .bool true
  · cases h
    exact .bool false
  · split at h
    · cases h
    · rcases Option.map_eq_some_iff.1 h with ⟨_, hitems, heq⟩
      cases heq
      exact .array (hfuel.items hitems)
  · split at h
    · cases h
    · split at h
      · cases h
        exact Entries.distinct_nil
      · rcases Option.map_eq_some_iff.1 h with ⟨_, hmembers, heq⟩
        cases heq
        exact hfuel.members Entries.distinct_nil hmembers
  · split at h
    · cases h
      exact .moment _
    · exact distinct_number h

theorem Keeps.items_succ (hfuel : Keeps fuel) {l : List Value}
    (h : Reader.items (fuel + 1) depth cs = some (l, rest)) : ∀ v ∈ l, v.Distinct := by
  unfold Reader.items at h
  split at h
  · cases h
    nofun
  · rcases Option.bind_eq_some_iff.1 h with ⟨⟨w, _⟩, hw, h⟩
    dsimp only at h
    split at h
    · rcases Option.bind_eq_some_iff.1 h with ⟨_, hrest, heq⟩
      cases heq
      exact List.forall_mem_cons.2 ⟨hfuel.value hw, hfuel.items hrest⟩
    · cases h
      exact List.forall_mem_singleton.2 (hfuel.value hw)
    · cases h

theorem Keeps.members_succ (hfuel : Keeps fuel) {done entries : Entries} (hdone : done.Distinct)
    (h : Reader.members (fuel + 1) depth done cs = some (entries, rest)) : entries.Distinct := by
  unfold Reader.members at h
  rcases Option.bind_eq_some_iff.1 h with ⟨⟨⟨path, last⟩, _⟩, _, h⟩
  rcases Option.bind_eq_some_iff.1 h with ⟨_, _, h⟩
  rcases Option.bind_eq_some_iff.1 h with ⟨⟨w, _⟩, hw, h⟩
  rcases Option.bind_eq_some_iff.1 h with ⟨done', hassign, h⟩
  have hdone' : done'.Distinct := Entries.keeps_assign path last (hfuel.value hw) _ _ _ hdone hassign
  split at h
  · exact hfuel.members hdone' h
  · cases h
    exact hdone'
  · cases h

theorem keeps (fuel : Nat) : Keeps fuel := by
  induction fuel with
  | zero => exact ⟨nofun, nofun, nofun⟩
  | succ fuel ih => exact ⟨ih.value_succ, ih.items_succ, ih.members_succ⟩

theorem distinct_entry (hd : d.root.Distinct) (h : entry d cs = some (d', rest)) : d'.root.Distinct := by
  simp only [entry, Option.bind_eq_bind, Option.bind_eq_some_iff, Option.pure_def, Option.some_inj,
    Prod.mk.injEq] at h
  rcases h with ⟨_, _, _, _, w, hw, _, hassign, _, _, rfl, _⟩
  exact Draft.distinct_assign hd ((keeps _).value hw) hassign

theorem distinct_tableHeader (hd : d.root.Distinct) (h : tableHeader d cs = some (d', rest)) :
    d'.root.Distinct := by
  simp only [tableHeader, Option.bind_eq_bind, Option.bind_eq_some_iff, Option.pure_def, Option.some_inj,
    Prod.mk.injEq] at h
  rcases h with ⟨_, _, _, _, _, _, _, hopen, rfl, _⟩
  exact Draft.distinct_openTable hd hopen

theorem distinct_itemHeader (hd : d.root.Distinct) (h : itemHeader d cs = some (d', rest)) :
    d'.root.Distinct := by
  simp only [itemHeader, Option.bind_eq_bind, Option.bind_eq_some_iff, Option.pure_def, Option.some_inj,
    Prod.mk.injEq] at h
  rcases h with ⟨_, _, _, _, _, _, _, _, _, hopen, rfl, _⟩
  exact Draft.distinct_openItem hd hopen

/-- Each line leaves the keys of a document under construction distinct, and so do all lines. -/
theorem distinct_lines (hd : d.root.Distinct) (h : lines fuel d cs = some d') : d'.root.Distinct := by
  induction fuel generalizing d cs with
  | zero => cases h
  | succ fuel ih =>
      unfold lines at h
      split at h
      · cases h
        exact hd
      · exact ih hd h
      · exact ih hd h
      · rcases Option.bind_eq_some_iff.1 h with ⟨_, _, h⟩
        exact ih hd h
      · rcases Option.bind_eq_some_iff.1 h with ⟨_, hheader, h⟩
        exact ih (distinct_itemHeader hd hheader) h
      · rcases Option.bind_eq_some_iff.1 h with ⟨_, hheader, h⟩
        exact ih (distinct_tableHeader hd hheader) h
      · rcases Option.bind_eq_some_iff.1 h with ⟨_, hentry, h⟩
        exact ih (distinct_entry hd hentry) h

end Reader

/-- No key is repeated in any table of a document. -/
theorem distinct_read? {text : String} {v : Value} (h : read? text = some v) : v.Distinct := by
  rcases Option.bind_eq_some_iff.1 h with ⟨d, hd, heq⟩
  cases heq
  exact Reader.distinct_lines Entries.distinct_nil hd

end Toml
end FormValidation
