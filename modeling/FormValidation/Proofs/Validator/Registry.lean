import FormValidation.Proofs.Latest
import FormValidation.Proofs.Text.ByteOrder
import FormValidation.Rule.Evaluation

/-!
# What becomes of a registry

Validators are registered and unregistered under names, one after the other.  Under a name a registry then finds
the validator of its latest registration, unless the name was unregistered after that
(`Registry.get?_actAll_eq_some_iff`).  Everything else that a registry tells, and what rules find in it, follows
from what it finds (`Registry.refines_actAll`).
-/

namespace FormValidation
namespace Registry

/-! ## Actions -/

/-- What is done to a registry.  Validators of either kind are registered alike, be they functions or not. -/
inductive Action where
  | register (name : String) (validator : CustomValidator)
  | unregister (name : String)

namespace Action

/-- The name that the action is about. -/
def name : Action → String
  | .register name _ => name
  | .unregister name => name

/-- The validator that the action leaves under its name. -/
def validator? : Action → Option CustomValidator
  | .register _ validator => some validator
  | .unregister _ => none

end Action

/-- The registry after an action, and the answer: whether there was something to unregister. -/
def act (r : Registry) : Action → Registry × Option Bool
  | .register name validator => (r.insert name validator, none)
  | .unregister name => (r.erase name, some (r.contains name))

/-- The registry after actions. -/
def actAll (r : Registry) (actions : List Action) : Registry :=
  actions.foldl (fun r a => (r.act a).1) r

variable {r : Registry} {actions : List Action} {a : Action} {name : String} {v : CustomValidator}

@[simp] theorem actAll_nil (r : Registry) : r.actAll [] = r :=
  rfl

@[simp] theorem actAll_concat (r : Registry) (actions : List Action) (a : Action) :
    r.actAll (actions ++ [a]) = ((r.actAll actions).act a).1 :=
  List.foldl_append

/-- An action decides about its own name and about no other. -/
theorem get?_act (r : Registry) (a : Action) (name : String) :
    (r.act a).1.get? name = if a.name = name then a.validator? else r.get? name := by
  cases a with
  | register other v => exact NameMap.get?_insert r other name v
  | unregister other => exact NameMap.get?_erase r other name

/-! ## Registrations that stand -/

/-- The validator is the one of the latest registration of the name, and the name was not unregistered after
that. -/
def Stands (actions : List Action) (name : String) (v : CustomValidator) : Prop :=
  Latest Action.name actions (.register name v)

theorem stands_concat_iff :
    Stands (actions ++ [a]) name v ↔
      if a.name = name then a.validator? = some v else Stands actions name v := by
  rw [Stands, latest_concat_iff]
  by_cases h : a.name = name
  · subst h
    rw [if_pos rfl, or_iff_left fun hne => hne.1 rfl]
    cases a with
    | register name v' => simp [Action.name, Action.validator?, eq_comm]
    | unregister name => simp [Action.validator?]
  · have hne : .register name v ≠ a := by
      rintro rfl
      exact h rfl
    rw [if_neg h, or_iff_right hne]
    exact and_iff_right h

/-- A registry finds the registrations that stand. -/
theorem get?_actAll_eq_some_iff (actions : List Action) (name : String) (v : CustomValidator) :
    (actAll .empty actions).get? name = some v ↔ Stands actions name v := by
  induction actions using List.reverseRecOn with
  | nil => exact iff_of_false nofun not_latest_nil
  | append_singleton actions a ih =>
      rw [actAll_concat, get?_act, stands_concat_iff]
      by_cases h : a.name = name
      · rw [if_pos h, if_pos h]
      · rw [if_neg h, if_neg h]
        exact ih

/-! ## Registries as maps -/

/-- What a registry tells that actions led to. -/
structure Refines (actions : List Action) (r : Registry) : Prop where
  /-- A name finds the validator that stands under it, synchronous or asynchronous, -/
  get?_eq_some_iff : ∀ name v, r.get? name = some v ↔ Stands actions name v
  /-- and so does a rule that leaves the decision to the name, -/
  validator_eq_ok_iff : ∀ (rule : Rule) (name : String) (found : String × CustomValidator),
    rule.function = some name → (rule.validator r = .ok found ↔ found.1 = name ∧ Stands actions name found.2)
  /-- which is refused if no validator stands under it. -/
  validator_eq_error_iff : ∀ (rule : Rule) (name : String) (x : Error), rule.function = some name →
    (rule.validator r = .error x ↔ x = .unregisteredValidator name ∧ ∀ v, ¬Stands actions name v)
  /-- The names are listed in the order of their bytes, -/
  names_sorted : (r.names.map Text.bytes).Pairwise (· < ·)
  /-- and they are those under which a validator stands. -/
  mem_names_iff : ∀ name, name ∈ r.names ↔ ∃ v, r.get? name = some v
  /-- The size is the number of names. -/
  size_eq : r.size = r.names.length
  isEmpty_iff : r.isEmpty = true ↔ r.names = []
  contains_iff : ∀ name, r.contains name = true ↔ name ∈ r.names
  /-- Unregistering tells whether the name was there, -/
  unregister_answer : ∀ name, ∃ was, (r.act (.unregister name)).2 = some was ∧ (was = true ↔ name ∈ r.names)
  /-- takes it away, and changes nothing under other names. -/
  get?_unregister : ∀ name other,
    (r.act (.unregister name)).1.get? other = if name = other then none else r.get? other

theorem validator_of_function {rule : Rule} (h : rule.function = some name) (r : Registry) :
    rule.validator r = (r.get? name).elim (.error (.unregisteredValidator name)) fun v => .ok (name, v) := by
  simp only [Rule.validator, h]
  cases r.get? name <;> rfl

/-- After any actions a registry is the map of the registrations that stand. -/
theorem refines_actAll (actions : List Action) : Refines actions (actAll .empty actions) := by
  have hget := get?_actAll_eq_some_iff actions
  have hcontains := NameMap.contains_iff_mem_names (actAll .empty actions)
  have hstands : ∀ name, (actAll .empty actions).get? name = none ↔ ∀ v, ¬Stands actions name v := by
    intro name
    rw [Option.eq_none_iff_forall_ne_some]
    exact forall_congr' fun v => not_congr (hget name v)
  refine
    { get?_eq_some_iff := hget
      validator_eq_ok_iff := ?_
      validator_eq_error_iff := ?_
      names_sorted := ?_
      mem_names_iff := ?_
      size_eq := NameMap.size_eq_length_names _
      isEmpty_iff := ?_
      contains_iff := hcontains
      unregister_answer := fun name => ⟨_, rfl, hcontains name⟩
      get?_unregister := fun name => NameMap.get?_erase _ name }
  · rintro rule name ⟨name', v⟩ hfunction
    rw [validator_of_function hfunction, ← hget]
    cases (actAll .empty actions).get? name <;> simp [eq_comm]
  · intro rule name x hfunction
    rw [validator_of_function hfunction, ← hstands]
    cases (actAll .empty actions).get? name <;> simp [eq_comm]
  · rw [List.pairwise_map]
    exact (NameMap.names_sorted _).imp fun h => (Text.lt_iff_bytes_lt _ _).1 h
  · intro name
    rw [← Option.isSome_iff_exists, ← hcontains]
    rfl
  · simp [NameMap.isEmpty, NameMap.names]

end Registry
end FormValidation
