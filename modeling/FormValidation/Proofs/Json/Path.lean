import FormValidation.Proofs.Json.Reordered

/-!
# Values at paths

A path of keys leads through objects (`Json.at?`).  At each path, a value laid over another one decides where it
has something, an object being laid over the object there, and where it has nothing but leaves the way open, the
lower value shows (`at?_merge_of_some`, `at?_merge_of_none`, `MergingLaws`).
-/

namespace FormValidation
namespace Json

/-- The value to which a path of keys leads. -/
def at? : Json → List String → Option Json
  | j, [] => some j
  | .obj members, key :: path => (lookup? key members).bind fun j => j.at? path
  | _, _ :: _ => none

def IsObject (j : Json) : Prop :=
  ∃ members, j = .obj members

/-- As far as a path leads, it leads to objects. -/
def IsOpen (j : Json) (p : List String) : Prop :=
  ∀ q v, q <+: p → j.at? q = some v → v.IsObject

variable {base upper j : Json} {p q : List String} {members : List (String × Json)}

theorem at?_nil (j : Json) : j.at? [] = some j := by
  rw [at?]

theorem at?_obj_cons (members : List (String × Json)) (key : String) (path : List String) :
    (Json.obj members).at? (key :: path) = (lookup? key members).bind fun j => j.at? path :=
  rfl

theorem at?_cons_of_not_isObject (h : ¬j.IsObject) (key : String) (path : List String) :
    j.at? (key :: path) = none := by
  cases j with
  | obj members => exact absurd ⟨members, rfl⟩ h
  | null | bool _ | num _ | str _ | arr _ => rfl

theorem at?_append (j : Json) (p q : List String) : j.at? (p ++ q) = (j.at? p).bind fun v => v.at? q := by
  induction p generalizing j with
  | nil => rw [List.nil_append, at?_nil, Option.bind_some]
  | cons key p ih =>
      cases j with
      | obj members =>
          rw [List.cons_append, at?_obj_cons, at?_obj_cons, Option.bind_assoc]
          exact congrArg _ (funext ih)
      | null | bool _ | num _ | str _ | arr _ => rfl

theorem IsOpen.of_lookup? {key : String} (h : (Json.obj members).IsOpen (key :: p))
    (hj : lookup? key members = some j) : j.IsOpen p := by
  intro q v hq hv
  refine h (key :: q) v (List.cons_prefix_cons.2 ⟨rfl, hq⟩) ?_
  rw [at?_obj_cons, hj, Option.bind_some, hv]

/-- A path does not lead through what is no object. -/
theorem at?_eq_none_of_barred (hq : q <+: p) (hne : q ≠ p) (hj : base.at? q = some j) (h : ¬j.IsObject) :
    base.at? p = none := by
  rcases hq with ⟨rest, rfl⟩
  cases rest with
  | nil => exact absurd (List.append_nil q).symm hne
  | cons key rest => rw [at?_append, hj, Option.bind_some, at?_cons_of_not_isObject h]

/-! ## Values laid over others -/

/-- Where the upper value has something, this lies over what the lower value has there. -/
theorem at?_merge_of_some (hbase : Distinct base) (hupper : Distinct upper) (hj : upper.at? p = some j) :
    (merge base upper).at? p = some ((base.at? p).elim j fun below => merge below j) := by
  induction p generalizing base upper with
  | nil =>
      rw [at?_nil, Option.some_inj] at hj
      rw [at?_nil, at?_nil, hj, Option.elim_some]
  | cons key p ih =>
      cases upper with
      | obj members =>
          rw [at?_obj_cons, Option.bind_eq_some_iff] at hj
          rcases hj with ⟨inner, hinner, hj⟩
          cases base with
          | obj lower =>
              rw [merge, at?_obj_cons, at?_obj_cons, lookup?_mergeMembers hbase.nodup hupper.nodup, hinner]
              cases hbelow : lookup? key lower with
              | none => exact hj
              | some below => exact ih (hbase.of_lookup? hbelow) (hupper.of_lookup? hinner) hj
          | null | bool _ | num _ | str _ | arr _ =>
              rw [merge_of_not_obj (by simp), at?_obj_cons, hinner]
              exact hj
      | null | bool _ | num _ | str _ | arr _ => cases hj

/-- Where the upper value has nothing but leaves the way open, the lower value shows. -/
theorem at?_merge_of_none (hbase : Distinct base) (hupper : Distinct upper) (hnone : upper.at? p = none)
    (hopen : upper.IsOpen p) : (merge base upper).at? p = base.at? p := by
  induction p generalizing base upper with
  | nil =>
      rw [at?_nil] at hnone
      cases hnone
  | cons key p ih =>
      -- The empty path leads to the upper value itself, so this is an object.
      rcases hopen [] upper List.nil_prefix (at?_nil upper) with ⟨members, rfl⟩
      cases base with
      | obj lower =>
          rw [merge, at?_obj_cons, at?_obj_cons, lookup?_mergeMembers hbase.nodup hupper.nodup]
          cases hinner : lookup? key members with
          | none => rfl
          | some inner =>
              rw [at?_obj_cons, hinner, Option.bind_some] at hnone
              cases hbelow : lookup? key lower with
              | none => exact hnone
              | some below =>
                  exact ih (hbase.of_lookup? hbelow) (hupper.of_lookup? hinner) hnone (hopen.of_lookup? hinner)
      | null | bool _ | num _ | str _ | arr _ =>
          rw [merge_of_not_obj (by simp), hnone]
          rfl

/-! ## The laws -/

/-- The laws of laying one value over another. -/
structure MergingLaws (base upper : Json) : Prop where
  /-- What is no object in the upper value decides what is at its path, and that nothing is beyond. -/
  decided : ∀ p q j, q <+: p → upper.at? q = some j → ¬j.IsObject →
    (merge base upper).at? p = upper.at? p
  /-- Where the upper value has nothing but leaves the way open, the lower value shows, -/
  shown : ∀ p, upper.at? p = none → upper.IsOpen p → (merge base upper).at? p = base.at? p
  /-- which is nothing beyond what is no object in it. -/
  barred : ∀ p q j, upper.at? p = none → upper.IsOpen p → q <+: p → q ≠ p → base.at? q = some j →
    ¬j.IsObject → (merge base upper).at? p = none
  /-- Where both have an object, the one is laid over the other; -/
  merged : ∀ p lower members, base.at? p = some (.obj lower) → upper.at? p = some (.obj members) →
    (merge base upper).at? p = some (merge (.obj lower) (.obj members))
  /-- an object with none below it stays as it is. -/
  placed : ∀ p members, (∀ lower, base.at? p ≠ some (.obj lower)) → upper.at? p = some (.obj members) →
    (merge base upper).at? p = some (.obj members)
  /-- The empty object changes no object. -/
  empty : ∀ lower, base = .obj lower → merge base (.obj []) = base
  self : merge base base = base
  /-- Objects give an object with the keys of both, each once. -/
  keys : ∀ lower members, base = .obj lower → upper = .obj members →
    ∃ merged, merge base upper = .obj merged ∧ (merged.map Prod.fst).Nodup ∧
      ∀ key, key ∈ merged.map Prod.fst ↔ key ∈ lower.map Prod.fst ∨ key ∈ members.map Prod.fst
  distinct : Distinct (merge base upper)
  /-- The order of keys does not matter. -/
  reordered : ∀ base' upper', Reordered base base' → Reordered upper upper' →
    Reordered (merge base upper) (merge base' upper')

theorem at?_merge_of_not_isObject (hbase : Distinct base) (hupper : Distinct upper) (hj : upper.at? p = some j)
    (h : ¬j.IsObject) : (merge base upper).at? p = some j := by
  rw [at?_merge_of_some hbase hupper hj]
  cases base.at? p with
  | none => rfl
  | some below => exact congrArg some (merge_of_upper_not_obj (not_exists.1 h) below)

theorem at?_merge_of_not_obj_below (hbase : Distinct base) (hupper : Distinct upper)
    (hbelow : ∀ lower, base.at? p ≠ some (.obj lower)) (hobj : upper.at? p = some (.obj members)) :
    (merge base upper).at? p = some (.obj members) := by
  rw [at?_merge_of_some hbase hupper hobj]
  cases h : base.at? p with
  | none => rfl
  | some below =>
      refine congrArg some (merge_of_not_obj ?_ _)
      rintro lower rfl
      exact hbelow lower h

/-- Values whose objects have no key twice are laid over each other as the laws say. -/
theorem mergingLaws (hbase : Distinct base) (hupper : Distinct upper) : MergingLaws base upper where
  decided p q j hq hj h := by
    rcases hq with ⟨rest, rfl⟩
    rw [at?_append, at?_append, at?_merge_of_not_isObject hbase hupper hj h, hj]
  shown p hnone hopen := at?_merge_of_none hbase hupper hnone hopen
  barred p q j hnone hopen hq hne hj h := by
    rw [at?_merge_of_none hbase hupper hnone hopen, at?_eq_none_of_barred hq hne hj h]
  merged p lower members hlower hobj := by
    rw [at?_merge_of_some hbase hupper hobj, hlower, Option.elim_some]
  placed p members hbelow hobj := at?_merge_of_not_obj_below hbase hupper hbelow hobj
  empty lower h := by rw [h, merge, mergeMembers]
  self := merge_self hbase
  keys lower members h h' := by
    subst h h'
    exact ⟨mergeMembers lower members, by rw [merge], nodup_mergeMembers hbase.nodup members,
      mem_keys_mergeMembers hbase.nodup hupper.nodup⟩
  distinct := distinct_merge hbase hupper
  reordered base' upper' h h' := reordered_merge hbase hupper h h'

/-- What a house asks for: its locale, and something about the locale. -/
def houseDocument : Json :=
  .obj [("locale", .str "fr"), ("locales", .obj [("fr", .obj [("decimal_separator", .str ",")])])]

def guestLocales : Json :=
  .obj [("fr", .obj [("date_format", .str "")]), ("de", .null)]

/-- What a guest asks for instead. -/
def guestDocument : Json :=
  .obj [("locales", guestLocales), ("debug", .bool false)]

theorem mergingLaws_documents :
    (Distinct houseDocument ∧ Distinct guestDocument) ∧
    (merge houseDocument guestDocument).at? ["locale"] = some (.str "fr") ∧
    (merge houseDocument guestDocument).at? ["locales", "de", "date_format"] = none ∧
    (merge houseDocument guestDocument).at? ["locales", "fr"] =
      some (.obj [("decimal_separator", .str ","), ("date_format", .str "")]) ∧
    Reordered (merge houseDocument guestDocument)
      (merge houseDocument (.obj [("debug", .bool false), ("locales", guestLocales)])) := by
  have hhouse : Distinct houseDocument := distinct_settled houseDocument
  have hguest : Distinct guestDocument := distinct_settled guestDocument
  have hlaws := mergingLaws hhouse hguest
  have hopen : guestDocument.IsOpen ["locale"] := by
    intro q v hq hv
    rcases List.prefix_cons_iff.1 hq with rfl | ⟨rest, rfl, hrest⟩
    · cases hv
      exact ⟨_, rfl⟩
    · rw [List.prefix_nil.1 hrest] at hv
      cases hv
  have hnull : ¬Json.null.IsObject := by
    rintro ⟨_, h⟩
    cases h
  have hmerged := hlaws.merged ["locales", "fr"] _ _ rfl rfl
  have hreordered : Reordered guestDocument (.obj [("debug", .bool false), ("locales", guestLocales)]) :=
    .of_perm hguest.nodup (List.Perm.swap _ _ _) fun m hm => .refl (hguest.of_mem hm)
  exact ⟨⟨hhouse, hguest⟩, hlaws.shown ["locale"] rfl hopen,
    hlaws.decided _ ["locales", "de"] .null ⟨["date_format"], rfl⟩ rfl hnull, hmerged,
    hlaws.reordered _ _ (.refl hhouse) hreordered⟩

end Json
end FormValidation
