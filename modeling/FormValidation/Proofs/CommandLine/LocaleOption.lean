import FormValidation.Proofs.CommandLine.Program
import FormValidation.Proofs.Engine.Failure
import FormValidation.Proofs.Settings.Engine

/-!
# The locale that is asked for

A subcommand that is asked for a locale makes an engine of the settings as they are, under the locale that they
name, and activates the other one after that.  So it does what it would do with the locale put in the settings,
except where the settings are stranded: then it fails because of the locale that it was not asked for
(`Settings.replaces_locale_iff`).
-/

namespace FormValidation

/-- A run of an engine that came about by configuration does not complain about locales. -/
theorem Engine.Configured.validate_ne_localeNotFound {e : Engine} (he : e.Configured) (form : Form)
    (group : Option String) (name : String) : (e.validate form group).2 ≠ .error (.localeNotFound name) := by
  rcases he.exists_current with ⟨l, hl⟩
  intro h
  cases isOfRule_of_validate hl h

namespace Settings

variable {s : Settings} {name : String}

/-! ## Engines -/

theorem Stranded.engine_eq (h : s.Stranded) (locale : Option String) :
    s.engine locale = .error (.localeNotFound s.locale) := by
  rw [engine, h.ofSettings_eq]
  rfl

/-- An engine that activates the locale of its settings first ends up like one that is spared that. -/
theorem engine_some_eq (h : ¬s.Stranded) (name : String) :
    s.engine (some name) = { s with locale := name }.engine none := by
  let s' : Settings := { s with locale := name }
  cases ht : Engine.withLocales .initial s.locales.entries with
  | error x =>
      -- A definition is refused before any locale is activated.
      have hs' : Engine.ofSettings s' = .error x := ofSettings_of_error ht
      rw [engine, engine, ofSettings_of_error ht, hs']
      rfl
  | ok t =>
      have hlocale : t.contains s.locale = true := by
        by_contra hc
        exact h ⟨sound_iff.2 ⟨t, ht⟩, fun hknows => hc ((contains_iff_knows ht s.locale).2 hknows)⟩
      have hs' : Engine.ofSettings s' = _ := ofSettings_of_withLocales ht
      rw [engine, engine, ofSettings_of_withLocales ht, if_pos hlocale, hs']
      show Engine.setLocale _ name = _ >>= fun e => pure e
      -- With the one or the other locale active the table has the same names.
      rw [bind_pure, Engine.setLocale_eq]
      rfl

/-- Settings whose definitions are sound complain about no locale but their own. -/
theorem Sound.eq_of_engine_none (h : s.Sound) (hengine : s.engine none = .error (.localeNotFound name)) :
    name = s.locale := by
  rcases sound_iff.1 h with ⟨t, ht⟩
  rw [engine, ofSettings_of_withLocales ht] at hengine
  by_cases hc : t.contains s.locale = true
  · rw [if_pos hc] at hengine
    cases hengine
  · rw [if_neg hc] at hengine
    cases hengine
    rfl

/-- What is done with an engine, and does not complain about locales, is done alike with the locale asked for and
with the locale in the settings, unless the settings are stranded without the one that is asked for. -/
theorem bind_engine_eq_iff {α : Type} {use : Engine → Except Error α}
    (huse : ∀ e, e.Configured → ∀ name, use e ≠ .error (.localeNotFound name)) (s : Settings) (name : String) :
    (s.engine (some name) >>= use) = ({ s with locale := name }.engine none >>= use) ↔
      (s.Stranded → name = s.locale) := by
  let s' : Settings := { s with locale := name }
  constructor
  · intro h hstranded
    have hfails : (s'.engine none >>= use) = .error (.localeNotFound s.locale) := by
      rw [← h, hstranded.engine_eq]
      rfl
    cases hengine : s'.engine none with
    | error x =>
        rw [hengine] at hfails
        cases hfails
        -- Both sides fail for the same locale, and the right one for the locale that is asked for.
        have hsound : s'.Sound := hstranded.sound
        exact (hsound.eq_of_engine_none hengine).symm
    | ok e =>
        rw [hengine] at hfails
        have he : e.Configured := (engine_eq_ok_iff.1 hengine).configured
        exact absurd hfails (huse e he s.locale)
  · intro h
    by_cases hstranded : s.Stranded
    · -- The locale that is asked for is the missing one itself.
      obtain rfl : name = s.locale := h hstranded
      rw [hstranded.engine_eq, hstranded.engine_eq]
    · rw [engine_some_eq hstranded]

/-! ## Subcommands -/

/-- Asking for a locale comes to the same as naming it in the settings, for a form and for a date, unless the
settings are stranded, the locale is another than theirs and there is a form to validate.  Stranded settings fail
because of their own locale, whichever is asked for. -/
theorem replaces_locale_iff (s : Settings) (name : String) :
    (∀ files path group,
      s.checkForm files path group (some name) = { s with locale := name }.checkForm files path group none ↔
        (s.Stranded → (∃ form, formOf files path = .ok form) → name = s.locale)) ∧
    (∀ text, s.readDate text (some name) = { s with locale := name }.readDate text none ↔
      (s.Stranded → name = s.locale)) ∧
    (s.Stranded →
      (∀ files path group form, formOf files path = .ok form →
        s.checkForm files path group (some name) = .error (.localeNotFound s.locale)) ∧
      ∀ text, s.readDate text (some name) = .error (.localeNotFound s.locale)) := by
  refine ⟨?_, ?_, ?_⟩
  · intro files path group
    rw [checkForm, checkForm]
    cases formOf files path with
    | error x => exact iff_of_true rfl fun _ ⟨form, hform⟩ => nomatch hform
    | ok form =>
        have hiff := bind_engine_eq_iff (fun e he => he.validate_ne_localeNotFound form group) s name
        rw [forall_exists_index]
        exact hiff.trans ⟨fun h hstranded _ _ => h hstranded, fun h hstranded => h hstranded form rfl⟩
  · intro text
    have hsucceeds : ∀ e : Engine, e.Configured → ∀ other,
        (pure (e.date? text) : Except Error (Option Instant)) ≠ .error (.localeNotFound other) := by
      intro e _ other h
      cases h
    exact bind_engine_eq_iff hsucceeds s name
  · intro hstranded
    constructor
    · intro files path group form hform
      rw [checkForm, hform]
      show (s.engine (some name) >>= _) = _
      rw [hstranded.engine_eq]
      rfl
    · intro text
      rw [readDate, hstranded.engine_eq]
      rfl

/-- Settings with a locale that there is not. -/
def unknownLocale : Settings where
  locale := "xx"

/-- The French locale is not taken instead of an unknown one, for a form or for a date. -/
theorem localeNotFound_unknownLocale :
    unknownLocale.checkForm Program.formFiles "empty.json" none (some "fr") = .error (.localeNotFound "xx") ∧
      { unknownLocale with locale := "fr" }.checkForm Program.formFiles "empty.json" none none =
        .ok ⟨true, []⟩ ∧
      unknownLocale.readDate "24/12/2024" (some "fr") = .error (.localeNotFound "xx") ∧
      { unknownLocale with locale := "fr" }.readDate "24/12/2024" none =
        .ok (some ⟨2024, 12, 24, 0, 0, 0⟩) ∧
      (¬∀ (s : Settings) (files : Files) (path : String) (group : Option String) (name : String),
        s.checkForm files path group (some name) =
          { s with locale := name }.checkForm files path group none) ∧
      ¬∀ (s : Settings) (text name : String),
        s.readDate text (some name) = { s with locale := name }.readDate text none := by
  have hfits : Json.FitsMembers Program.emptyMembers (Json.Reader.depthLimit - 1) := ⟨trivial, trivial⟩
  have hform : formOf Program.formFiles "empty.json" = .ok .empty :=
    Program.ofText_members (List.cons_ne_nil _ _) hfits (by simp) rfl
  have hcheck : unknownLocale.checkForm Program.formFiles "empty.json" none (some "fr") =
      .error (.localeNotFound "xx") := by
    rw [checkForm, hform]
    rfl
  have hcheck' : { unknownLocale with locale := "fr" }.checkForm Program.formFiles "empty.json" none none =
      .ok ⟨true, []⟩ := by
    rw [checkForm, hform]
    decide +kernel
  have hdate : unknownLocale.readDate "24/12/2024" (some "fr") = .error (.localeNotFound "xx") := rfl
  have hdate' : { unknownLocale with locale := "fr" }.readDate "24/12/2024" none =
      .ok (some ⟨2024, 12, 24, 0, 0, 0⟩) := by
    decide +kernel
  refine ⟨hcheck, hcheck', hdate, hdate', ?_, ?_⟩
  · intro h
    have hsame := h unknownLocale Program.formFiles "empty.json" none "fr"
    rw [hcheck, hcheck'] at hsame
    cases hsame
  · intro h
    have hsame := h unknownLocale "24/12/2024" "fr"
    rw [hdate, hdate'] at hsame
    cases hsame

end Settings
end FormValidation
