import FormValidation.Engine.Basic
import FormValidation.Proofs.Locale.History
import FormValidation.Proofs.Rule.Evaluation

/-!
# Engines as they come

An engine is set up from nothing or from settings, and changed after that: locales are registered and
activated, validators and the time limit are replaced.  Whatever is done, its table of locales is one that
actions on the built-in locales lead to (`Configured.exists_actions`).  So a registered locale is active
(`Configured.exists_current`), and no run fails for the lack of one.
-/

namespace FormValidation

/-! ## Tables with an active locale -/

namespace LocaleTable

/-- The name of a locale of the table is active. -/
def HasActive (t : LocaleTable) : Prop :=
  ∃ name, t.active = some name ∧ t.contains name = true

theorem HasActive.exists_current {t : LocaleTable} (h : t.HasActive) : ∃ l, t.current = .ok l := by
  rcases h with ⟨name, hactive, hcontains⟩
  rcases Option.isSome_iff_exists.1 hcontains with ⟨l, hl⟩
  exact ⟨l, by simp [current, hactive, get?, hl]⟩

/-- A locale is active from the start in a table with the built-in ones, and no action changes that. -/
theorem hasActive_actAll (actions : List Action) : (Start.builtIn.table.actAll actions).HasActive := by
  cases hactive : (Start.builtIn.table.actAll actions).active with
  -- Nothing is active only in a table that started without locales.
  | none => cases ((active_eq_none_iff .builtIn actions).1 hactive).1
  | some name => exact ⟨name, hactive, activeIsNamed_actAll .builtIn actions name hactive⟩

end LocaleTable

/-! ## Engines -/

namespace Engine

open LocaleTable

/-- The engines that come from a new one, or from one that settings describe, by changes. -/
inductive Configured : Engine → Prop where
  | initial : Configured {}
  | ofSettings {s : Settings} {e : Engine} (h : Engine.ofSettings s = .ok e) : Configured e
  | setLocale {e e' : Engine} {name : String} (he : Configured e)
      (h : e.setLocale name = .ok e') : Configured e'
  | registerLocale {e : Engine} (he : Configured e) (name : String) (l : Locale) :
      Configured (e.registerLocale name l)
  | setValidators {e : Engine} (he : Configured e) (validators : Registry) :
      Configured { e with validators }
  | setTimeLimit {e : Engine} (he : Configured e) (timeLimit : Option Nat) :
      Configured { e with timeLimit }

/-- Putting in the locales of settings registers them one after the other. -/
theorem eq_actAll_of_withLocales {t t' : LocaleTable} {definitions : List (String × LocaleDefinition)}
    (h : withLocales t definitions = .ok t') :
    t' = t.actAll (definitions.map fun e => .register e.1 (.ofDefinition e.1 e.2)) := by
  induction definitions generalizing t with
  | nil =>
      cases h
      rfl
  | cons e definitions ih =>
      obtain ⟨name, definition⟩ := e
      rcases bind_eq_ok.1 h with ⟨l, hl, hrest⟩
      have hact : (t.act (.register name (.ofDefinition name definition))).1 = t.register name l := by
        rw [act, Locale.Origin.locale, hl]
      rw [ih hrest, ← hact]
      rfl

theorem eq_act_of_setLocale {e e' : Engine} {name : String} (h : e.setLocale name = .ok e') :
    e'.locales = (e.locales.act (.activate name)).1 := by
  rcases bind_eq_ok.1 h with ⟨t, ht, he⟩
  cases he
  rw [act, ht]

theorem setLocale_eq (e : Engine) (name : String) :
    e.setLocale name =
      if e.locales.contains name then .ok { e with locales := { e.locales with active := some name } }
      else .error (.localeNotFound name) := by
  rw [setLocale, activate_eq]
  by_cases h : e.locales.contains name = true
  · rw [if_pos h, if_pos h]
    rfl
  · rw [if_neg h, if_neg h]
    rfl

theorem setLocale_eq_ok {e e' : Engine} {name : String} (h : e.setLocale name = .ok e') :
    e' = { e with locales := { e.locales with active := some name } } := by
  rw [setLocale_eq] at h
  by_cases hc : e.locales.contains name = true
  · rw [if_pos hc] at h
    exact (Except.ok.inj h).symm
  · rw [if_neg hc] at h
    cases h

/-- An engine of settings runs under their locale, knows no validator and has their time limit. -/
theorem ofSettings_eq_ok {s : Settings} {e : Engine} (h : ofSettings s = .ok e) :
    e.locales.active = some s.locale ∧ e.validators = .empty ∧ e.timeLimit = s.timeLimit? := by
  rcases bind_eq_ok.1 h with ⟨locales, -, hset⟩
  rcases bind_eq_ok.1 hset with ⟨e', he', heq⟩
  cases heq
  rw [setLocale_eq_ok he']
  exact ⟨rfl, rfl, rfl⟩

/-- What was done to the table of an engine are actions that started with the built-in locales. -/
theorem Configured.exists_actions {e : Engine} (he : e.Configured) :
    ∃ actions, e.locales = Start.builtIn.table.actAll actions := by
  induction he with
  | initial => exact ⟨[], rfl⟩
  | @ofSettings s e h =>
      rcases bind_eq_ok.1 h with ⟨t, ht, hset⟩
      rcases bind_eq_ok.1 hset with ⟨e', he', heq⟩
      cases heq
      -- Whatever the settings put into the table, activating the locale comes last.
      refine ⟨(s.locales.entries.map fun d => .register d.1 (.ofDefinition d.1 d.2)) ++
        [.activate s.locale], ?_⟩
      rw [actAll_append, actAll_singleton]
      show e'.locales = _
      rw [eq_act_of_setLocale he', eq_actAll_of_withLocales ht]
      rfl
  | @setLocale e e' name _ h ih =>
      rcases ih with ⟨actions, hactions⟩
      refine ⟨actions ++ [.activate name], ?_⟩
      rw [actAll_append, actAll_singleton, eq_act_of_setLocale h, hactions]
  | registerLocale _ name l ih =>
      rcases ih with ⟨actions, hactions⟩
      refine ⟨actions ++ [.register name (.existing l)], ?_⟩
      rw [actAll_append, actAll_singleton, ← hactions]
      rfl
  | setValidators _ _ ih => exact ih
  | setTimeLimit _ _ ih => exact ih

namespace Configured

theorem hasActive {e : Engine} (he : e.Configured) : e.locales.HasActive := by
  rcases he.exists_actions with ⟨actions, hactions⟩
  rw [hactions]
  exact hasActive_actAll actions

/-- Some locale is active. -/
theorem exists_current {e : Engine} (he : e.Configured) : ∃ l, e.locales.current = .ok l :=
  he.hasActive.exists_current

end Configured

end Engine
end FormValidation
