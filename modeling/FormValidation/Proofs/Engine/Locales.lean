import FormValidation.Proofs.Engine.Configured
import FormValidation.Proofs.Engine.Failure
import FormValidation.Proofs.Locale.History

/-!
# The locales of engines

Whatever is done to a table of locales, it shows what its history says (`LocaleTable.Reached`).  The table of an
engine that comes from a new one or from settings is such a table, and started with the built-in locales
(`Engine.Configured.exists_actions`).  So no run fails for the lack of a locale
(`Engine.locales_reached`).
-/

namespace FormValidation

/-! ## Tables -/

namespace LocaleTable

/-- What a table shows that actions led to. -/
structure Reached (start : Start) (actions : List Action) (t : LocaleTable) : Prop where
  /-- The active name is one of its names, -/
  active_mem : ∀ name, t.active = some name → name ∈ t.names
  /-- so only an active name may be missing, -/
  current_error : ∀ x, t.current = .error x → x = .noActiveLocale
  /-- and that only if there was none at the start and none was activated. -/
  noActiveLocale_iff : t.current = .error .noActiveLocale ↔
    start = .empty ∧ ∀ name, ¬Succeeded start actions (.activate name)
  /-- A name finds the locale that was registered last under it, or the one at the start. -/
  get?_eq : ∀ name, t.get? name = (lastRegistered? actions name).or (start.locale? name)
  /-- Every locale bears the name that finds it, and has the groups of its date format. -/
  sound : ∀ name l, t.get? name = some l →
    l.name = name ∧ l.dateFormat.groups.Within l.dateFormat.pattern.groupCount
  /-- The names are listed in the order of their bytes, -/
  names_sorted : (t.names.map Text.bytes).Pairwise (· < ·)
  /-- and they are those that find a locale. -/
  mem_names_iff : ∀ name, name ∈ t.names ↔ ∃ l, t.get? name = some l
  /-- A name of the table can be activated, and no other. -/
  act_activate : ∀ name, t.act (.activate name) =
    if name ∈ t.names then ({ t with active := some name }, none) else (t, some (.localeNotFound name))
  /-- What fails leaves the table as it is. -/
  act_error : ∀ a x, (t.act a).2 = some x → (t.act a).1 = t
  /-- A locale that is registered under the active name is the active one at once. -/
  current_register : ∀ name origin l, t.active = some name → Locale.Origin.locale origin = .ok l →
    (t.act (.register name origin)).1.current = .ok { l with name }

theorem reached_actAll (start : Start) (actions : List Action) :
    Reached start actions (start.table.actAll actions) := by
  have hactive := activeIsNamed_actAll start actions
  have hmem : ∀ name, (start.table.actAll actions).contains name = true ↔
      name ∈ (start.table.actAll actions).names :=
    (start.table.actAll actions).locales.contains_iff_mem_names
  refine
    { active_mem := fun name h => (hmem name).1 (hactive name h)
      current_error := ?_
      noActiveLocale_iff := ?_
      get?_eq := get?_actAll start actions
      sound := fun name l h => ⟨name_eq_of_get?_actAll h, l.groups_within⟩
      names_sorted := pairwise_bytes_names _
      mem_names_iff := mem_names_iff _
      act_activate := ?_
      act_error := fun a x => act_fst_of_error
      current_register := ?_ }
  · intro x hx
    rcases hactive.current with ⟨-, h⟩ | ⟨name, l, -, -, h⟩
    · rw [h] at hx
      cases hx
      rfl
    · rw [h] at hx
      cases hx
  · rw [← active_eq_none_iff]
    rcases hactive.current with ⟨hnone, h⟩ | ⟨name, l, hsome, -, h⟩
    · simp [hnone, h]
    · simp [hsome, h]
  · intro name
    rw [act, activate_eq]
    by_cases h : name ∈ (start.table.actAll actions).names
    · rw [if_pos h, if_pos ((hmem name).2 h)]
    · rw [if_neg h, if_neg fun hc => h ((hmem name).1 hc)]
  · intro name origin l hname hl
    have hact : ((start.table.actAll actions).act (.register name origin)).1 =
        (start.table.actAll actions).register name l := by
      rw [act, hl]
    have hget : ((start.table.actAll actions).register name l).get? name = some { l with name } := by
      rw [get?_register, if_pos rfl]
    have hregistered : ((start.table.actAll actions).register name l).active = some name := hname
    rw [hact, current, hregistered]
    simp only [hget]

end LocaleTable

/-! ## Engines -/

namespace Engine

open LocaleTable

/-- Tables of locales show what their histories say, whatever is registered and activated.  An engine has such
a table, in which a locale is active, and its runs fail for other reasons than the lack of one. -/
theorem locales_reached :
    (∀ start actions, Reached start actions (start.table.actAll actions)) ∧
    ∀ e : Engine, e.Configured →
      (∃ actions, e.locales = Start.builtIn.table.actAll actions) ∧
      (∃ l, e.locales.current = .ok l) ∧
      ∀ form requested patience x,
        ((e.validate form requested).2 = .error x ∨
          (e.validateAsync form requested patience).2 = .failed x) →
        x ≠ .noActiveLocale ∧ ∀ name, x ≠ .localeNotFound name := by
  refine ⟨reached_actAll, ?_⟩
  intro e he
  rcases he.exists_current with ⟨l, hl⟩
  refine ⟨he.exists_actions, ⟨l, hl⟩, ?_⟩
  intro form requested patience x hx
  have hkind : x.isOfRule = true ∨ x.isOfValidator = true := by
    rcases hx with hx | hx
    · exact .inl (isOfRule_of_validate hl hx)
    · exact isOfRun_of_validateAsync hl hx
  -- Neither error about locales is one that a run ends with.
  constructor
  · rintro rfl
    rcases hkind with h | h <;> cases h
  · rintro name rfl
    rcases hkind with h | h <;> cases h

/-- Nothing can be activated in a table without locales, and a locale without a group for the day cannot be set
up.  The French locale can be registered under another name, and activated under it. -/
def renamingActions : List Action :=
  [.activate "fr",
    .register "x" (.ofPattern "x" DateFormat.slashedDayFirst.pattern { DateGroups.dayFirst with day := 0 } ','),
    .register "x" (.existing .fr), .activate "x"]

/-- A form with a rule of an unknown kind. -/
def unknownKindForm : Form where
  controls := []
  validators := [.ofList [("validate", "phone")]]

theorem locales_reached_renamed :
    (Start.empty.table.actAll renamingActions).get? "x" = some { Locale.fr with name := "x" } ∧
      (({} : Engine).validate unknownKindForm none).2 = .error (.unknownRuleKind "phone") ∧
      Error.unknownRuleKind "phone" ≠ .noActiveLocale := by
  have hget := (locales_reached.1 .empty renamingActions).get?_eq "x"
  have hlast : (lastRegistered? renamingActions "x").or (Start.empty.locale? "x") =
      some { Locale.fr with name := "x" } := rfl
  have hrun : (({} : Engine).validate unknownKindForm none).2 = .error (.unknownRuleKind "phone") := by
    decide +kernel
  have hreason := (locales_reached.2 {} .initial).2.2 _ none none _ (.inl hrun)
  exact ⟨hget.trans hlast, hrun, hreason.1⟩

end Engine
end FormValidation
