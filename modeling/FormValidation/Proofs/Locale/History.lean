import FormValidation.Proofs.Latest
import FormValidation.Proofs.Locale.Groups
import FormValidation.Proofs.Text.ByteOrder

/-!
# What becomes of a table of locales

Locales are set up and registered under names, and names are activated, in any order; what fails leaves the
table as it was.  A table that some actions lead to agrees with them (`agrees_actAll`): it finds under a name
the locale that was registered last, its active name is one of its names, and every locale bears the name that it
is kept under.
-/

namespace FormValidation

/-! ## Actions -/

/-- Where a locale comes from: it is set up from the text of a pattern, from a pattern or from a definition in
settings, or it is there already, as the built-in ones are. -/
inductive Locale.Origin where
  | ofSource (name source : String) (groups : DateGroups) (decimalSeparator : Char)
  | ofPattern (name : String) (pattern : Pattern) (groups : DateGroups) (decimalSeparator : Char)
  | ofDefinition (name : String) (definition : LocaleDefinition)
  | existing (l : Locale)

def Locale.Origin.locale : Origin → Except Error Locale
  | .ofSource name source groups decimalSeparator => Locale.create name source groups decimalSeparator
  | .ofPattern name pattern groups decimalSeparator => Locale.ofPattern name pattern groups decimalSeparator
  | .ofDefinition name definition => definition.locale name
  | .existing l => .ok l

namespace LocaleTable

/-- What is done to a table: a locale is set up and registered under a name, or a name is activated. -/
inductive Action where
  | register (name : String) (origin : Locale.Origin)
  | activate (name : String)

/-- The table after an action, and the error if it fails. -/
def act (t : LocaleTable) : Action → LocaleTable × Option Error
  | .register name origin =>
      match origin.locale with
      | .error x => (t, some x)
      | .ok l => (t.register name l, none)
  | .activate name =>
      match t.activate name with
      | .error x => (t, some x)
      | .ok t' => (t', none)

/-- The table after actions, of which some may fail. -/
def actAll (t : LocaleTable) (actions : List Action) : LocaleTable :=
  actions.foldl (fun t a => (t.act a).1) t

@[simp] theorem actAll_nil (t : LocaleTable) : t.actAll [] = t :=
  rfl

@[simp] theorem actAll_append (t : LocaleTable) (before after : List Action) :
    t.actAll (before ++ after) = (t.actAll before).actAll after :=
  List.foldl_append

@[simp] theorem actAll_singleton (t : LocaleTable) (a : Action) : t.actAll [a] = (t.act a).1 :=
  rfl

/-- What fails leaves the table as it was. -/
theorem act_fst_of_error {t : LocaleTable} {a : Action} {x : Error} (h : (t.act a).2 = some x) :
    (t.act a).1 = t := by
  cases a with
  | register name origin =>
      rw [act] at h ⊢
      cases hl : origin.locale with
      | error x' => rfl
      | ok l => simp [hl] at h
  | activate name =>
      rw [act] at h ⊢
      cases ht : t.activate name with
      | error x' => rfl
      | ok t' => simp [ht] at h

theorem activate_eq (t : LocaleTable) (name : String) :
    t.activate name =
      if t.contains name then .ok { t with active := some name } else .error (.localeNotFound name) :=
  rfl

theorem get?_register (t : LocaleTable) (name other : String) (l : Locale) :
    (t.register name l).get? other = if name = other then some { l with name } else t.get? other :=
  NameMap.get?_insert _ _ _ _

theorem locales_act_activate (t : LocaleTable) (name : String) :
    (t.act (.activate name)).1.locales = t.locales := by
  rw [act, activate_eq]
  by_cases hc : t.contains name = true <;> simp [hc]

theorem active_act_register (t : LocaleTable) (name : String) (origin : Locale.Origin) :
    (t.act (.register name origin)).1.active = t.active := by
  rw [act]
  cases origin.locale with
  | error x => rfl
  | ok l => rfl

/-! ## Histories -/

/-- The table that actions start with: that of the built-in locales, or one without locales. -/
inductive Start where
  | builtIn
  | empty

def Start.table : Start → LocaleTable
  | .builtIn => .initial
  | .empty => .empty

/-- The locale that is found under a name before anything is done. -/
def Start.locale? (start : Start) (name : String) : Option Locale :=
  match start with
  | .builtIn => Locale.builtIn.find? fun l => l.name == name
  | .empty => none

/-- The locale that an action registers under a name. -/
def Action.registered? (a : Action) (name : String) : Option Locale :=
  match a with
  | .register n origin => if n = name then origin.locale.toOption.map fun l => { l with name } else none
  | .activate _ => none

/-- The last locale that actions register under a name. -/
def lastRegistered? (actions : List Action) (name : String) : Option Locale :=
  actions.reverse.findSome? fun a => a.registered? name

/-- The action was done at some time without failing. -/
def Succeeded (start : Start) (actions : List Action) (a : Action) : Prop :=
  ∃ before after, actions = before ++ a :: after ∧ ((start.table.actAll before).act a).2 = none

variable {start : Start} {actions : List Action} {t : LocaleTable}

/-! ## What is found under a name -/

theorem get?_start (start : Start) (name : String) : start.table.get? name = start.locale? name := by
  cases start with
  | empty => rfl
  | builtIn =>
      show (((empty.register "en-US" .enUS).register "en" .en).register "fr" .fr).get? name = _
      rw [get?_register, get?_register, get?_register]
      by_cases hfr : "fr" = name
      · subst hfr
        rfl
      by_cases hen : "en" = name
      · subst hen
        rfl
      by_cases hus : "en-US" = name
      · subst hus
        rfl
      have hnone : Start.builtIn.locale? name = none := by
        simp [Start.locale?, Locale.builtIn, Locale.enUS, Locale.en, Locale.fr, hus, hen, hfr]
      rw [if_neg hfr, if_neg hen, if_neg hus, hnone]
      rfl

/-- An action changes what is found under the name that it registers a locale under. -/
theorem get?_act (t : LocaleTable) (a : Action) (name : String) :
    (t.act a).1.get? name = (a.registered? name).or (t.get? name) := by
  cases a with
  | activate other =>
      show (t.act (.activate other)).1.locales.get? name = t.locales.get? name
      rw [locales_act_activate]
  | register other origin =>
      rw [act, Action.registered?]
      cases origin.locale with
      | error x => simp [Except.toOption]
      | ok l =>
          show (t.register other l).get? name = _
          rw [get?_register]
          by_cases h : other = name
          · subst h
            simp [Except.toOption]
          · simp [h]

/-- A table finds the locale that was registered last, or else what it found at the start. -/
theorem get?_actAll (start : Start) (actions : List Action) (name : String) :
    (start.table.actAll actions).get? name = (lastRegistered? actions name).or (start.locale? name) := by
  induction actions using List.reverseRecOn with
  | nil => exact get?_start start name
  | append_singleton actions a ih =>
      rw [actAll_append, actAll_singleton, get?_act, ih, lastRegistered?, lastRegistered?,
        List.reverse_append, List.reverse_singleton, List.singleton_append, List.findSome?_cons]
      cases a.registered? name <;> rfl

/-! ## Names -/

theorem name_eq_of_registered? {a : Action} {name : String} {l : Locale}
    (h : a.registered? name = some l) : l.name = name := by
  cases a with
  | activate other => cases h
  | register other origin =>
      rw [Action.registered?] at h
      split at h
      · rcases Option.map_eq_some_iff.1 h with ⟨l', -, rfl⟩
        rfl
      · cases h

/-- Every locale bears the name that it is found under. -/
theorem name_eq_of_get?_actAll {name : String} {l : Locale}
    (h : (start.table.actAll actions).get? name = some l) : l.name = name := by
  rw [get?_actAll, Option.or_eq_some_iff] at h
  rcases h with h | ⟨-, h⟩
  · rcases List.exists_of_findSome?_eq_some h with ⟨a, -, ha⟩
    exact name_eq_of_registered? ha
  · cases start with
    | empty => cases h
    | builtIn => simpa using List.find?_some h

/-- Names are listed in the order of their bytes. -/
theorem pairwise_bytes_names (t : LocaleTable) : (t.names.map Text.bytes).Pairwise (· < ·) := by
  rw [List.pairwise_map]
  exact t.locales.names_sorted.imp fun h => (Text.lt_iff_bytes_lt _ _).1 h

theorem mem_names_iff (t : LocaleTable) (name : String) : name ∈ t.names ↔ ∃ l, t.get? name = some l := by
  rw [← Option.isSome_iff_exists]
  exact (t.locales.contains_iff_mem_names name).symm

/-! ## The active name -/

/-- The active name is one of the names of the table. -/
def ActiveIsNamed (t : LocaleTable) : Prop :=
  ∀ name, t.active = some name → t.contains name = true

theorem activeIsNamed_start (start : Start) : start.table.ActiveIsNamed := by
  intro name h
  cases start with
  | empty => cases h
  | builtIn =>
      cases h
      rfl

/-- No action takes a name away, and only names of the table are activated. -/
theorem ActiveIsNamed.act (h : t.ActiveIsNamed) (a : Action) : (t.act a).1.ActiveIsNamed := by
  cases a with
  | register other origin =>
      intro name hactive
      rw [active_act_register] at hactive
      have hname : ((t.get? name)).isSome = true := h name hactive
      show ((t.act (.register other origin)).1.get? name).isSome = true
      rw [get?_act, Option.isSome_or, hname, Bool.or_true]
  | activate other =>
      rw [LocaleTable.act, activate_eq]
      by_cases hc : t.contains other = true
      · rw [if_pos hc]
        intro name hactive
        cases hactive
        exact hc
      · rw [if_neg hc]
        exact h

theorem activeIsNamed_actAll (start : Start) (actions : List Action) :
    (start.table.actAll actions).ActiveIsNamed := by
  induction actions using List.reverseRecOn with
  | nil => exact activeIsNamed_start start
  | append_singleton actions a ih =>
      rw [actAll_append, actAll_singleton]
      exact ih.act a

theorem ActiveIsNamed.current (h : t.ActiveIsNamed) :
    (t.active = none ∧ t.current = .error .noActiveLocale) ∨
      ∃ name l, t.active = some name ∧ t.get? name = some l ∧ t.current = .ok l := by
  cases hactive : t.active with
  | none => exact .inl ⟨rfl, by simp [LocaleTable.current, hactive]⟩
  | some name =>
      rcases Option.isSome_iff_exists.1 (h name hactive) with ⟨l, hl⟩
      exact .inr ⟨name, l, rfl, hl, by simp [LocaleTable.current, hactive, get?, hl]⟩

theorem succeeded_concat {a b : Action} :
    Succeeded start (actions ++ [b]) a ↔
      Succeeded start actions a ∨ a = b ∧ ((start.table.actAll actions).act a).2 = none := by
  constructor
  · rintro ⟨before, after, heq, h⟩
    rcases concat_eq_append_cons heq with ⟨-, rfl, hab⟩ | ⟨after', -, hactions⟩
    · exact .inr ⟨hab, h⟩
    · exact .inl ⟨before, after', hactions, h⟩
  · rintro (⟨before, after, rfl, h⟩ | ⟨rfl, h⟩)
    · exact ⟨before, after ++ [b], by simp, h⟩
    · exact ⟨actions, [], rfl, h⟩

/-- No name is active exactly if none was at the start and none was activated since. -/
theorem active_eq_none_iff (start : Start) (actions : List Action) :
    (start.table.actAll actions).active = none ↔
      start = .empty ∧ ∀ name, ¬Succeeded start actions (.activate name) := by
  induction actions using List.reverseRecOn with
  | nil =>
      cases start with
      | builtIn => simp [Start.table, initial]
      | empty =>
          have hnot : ∀ name, ¬Succeeded .empty [] (.activate name) := by
            rintro name ⟨before, after, heq, -⟩
            cases before <;> cases heq
          simpa [Start.table, empty] using hnot
  | append_singleton actions a ih =>
      rw [actAll_append, actAll_singleton]
      cases a with
      | register other origin =>
          rw [active_act_register, ih]
          simp [succeeded_concat]
      | activate other =>
          rw [act, activate_eq]
          by_cases hc : (start.table.actAll actions).contains other = true
          · have hsucceeded : Succeeded start (actions ++ [.activate other]) (.activate other) := by
              refine succeeded_concat.2 (.inr ⟨rfl, ?_⟩)
              rw [act, activate_eq, if_pos hc]
            -- Both sides are false once a name was activated.
            rw [if_pos hc]
            constructor
            · intro h
              cases h
            · rintro ⟨-, h⟩
              exact absurd hsucceeded (h other)
          · rw [if_neg hc, ih]
            -- A name that is not in the table is not activated.
            have hfailed : ((start.table.actAll actions).act (.activate other)).2 ≠ none := by
              rw [act, activate_eq, if_neg hc]
              exact Option.some_ne_none _
            have hsame : ∀ name, Succeeded start (actions ++ [.activate other]) (.activate name) ↔
                Succeeded start actions (.activate name) := by
              intro name
              rw [succeeded_concat, or_iff_left]
              rintro ⟨heq, h⟩
              cases heq
              exact hfailed h
            simp [hsame]

end LocaleTable
end FormValidation
