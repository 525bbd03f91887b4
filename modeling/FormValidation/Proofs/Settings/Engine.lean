import FormValidation.Proofs.Engine.Configured

/-!
# Engines of settings

The definitions of settings are registered one after the other in the table of the built-in locales, which fails
unless all of them are sound (`Engine.exists_withLocales_iff`), and the locale of the settings is activated last.
So an engine that cannot be made of sound settings is one whose locale is unknown (`Settings.Stranded`).
-/

namespace FormValidation

/-! ## Tables with the locales of settings -/

namespace LocaleTable

theorem contains_register (t : LocaleTable) (name other : String) (l : Locale) :
    (t.register name l).contains other = true ↔ name = other ∨ t.contains other = true := by
  show ((t.register name l).get? other).isSome = true ↔ name = other ∨ (t.get? other).isSome = true
  rw [get?_register]
  by_cases h : name = other <;> simp [h]

theorem contains_initial_iff (name : String) :
    LocaleTable.initial.contains name = true ↔ ∃ l ∈ Locale.builtIn, l.name = name := by
  show (Start.builtIn.table.get? name).isSome = true ↔ _
  rw [get?_start, Start.locale?, List.find?_isSome]
  simp

end LocaleTable

namespace Engine

variable {t t' : LocaleTable} {definitions : List (String × LocaleDefinition)}

/-- The definitions are put in if they are all sound, and only then. -/
theorem exists_withLocales_iff :
    (∃ t', withLocales t definitions = .ok t') ↔ ∀ d ∈ definitions, ∃ l, d.2.locale d.1 = .ok l := by
  induction definitions generalizing t with
  | nil => simp [withLocales]
  | cons d definitions ih =>
      obtain ⟨name, definition⟩ := d
      rw [List.forall_mem_cons]
      constructor
      · rintro ⟨t', ht'⟩
        rcases bind_eq_ok.1 ht' with ⟨l, hl, hrest⟩
        exact ⟨⟨l, hl⟩, ih.1 ⟨t', hrest⟩⟩
      · rintro ⟨⟨l, hl⟩, hrest⟩
        rcases ih.2 hrest with ⟨t', ht'⟩
        exact ⟨t', bind_eq_ok.2 ⟨l, hl, ht'⟩⟩

theorem contains_withLocales (h : withLocales t definitions = .ok t') (name : String) :
    t'.contains name = true ↔ name ∈ definitions.map Prod.fst ∨ t.contains name = true := by
  induction definitions generalizing t with
  | nil =>
      cases h
      simp
  | cons d definitions ih =>
      obtain ⟨other, definition⟩ := d
      rcases bind_eq_ok.1 h with ⟨l, -, hrest⟩
      calc
        t'.contains name = true
            ↔ name ∈ definitions.map Prod.fst ∨ (t.register other l).contains name = true := ih hrest
        _ ↔ name ∈ definitions.map Prod.fst ∨ other = name ∨ t.contains name = true := by
              rw [LocaleTable.contains_register]
        _ ↔ name ∈ ((other, definition) :: definitions).map Prod.fst ∨ t.contains name = true := by
              rw [List.map_cons, List.mem_cons, eq_comm, or_assoc, or_left_comm]

end Engine

/-! ## Settings -/

namespace Settings

/-- Every definition of the settings makes a locale. -/
def Sound (s : Settings) : Prop :=
  ∀ d ∈ s.locales.entries, ∃ l, d.2.locale d.1 = .ok l

/-- The name is that of a built-in locale, or one that the settings define. -/
def Knows (s : Settings) (name : String) : Prop :=
  (∃ l ∈ Locale.builtIn, l.name = name) ∨ name ∈ s.locales.names

/-- Nothing is wrong with the settings but that they do not know the locale that they name. -/
structure Stranded (s : Settings) : Prop where
  sound : s.Sound
  unknown : ¬s.Knows s.locale

variable {s : Settings} {t : LocaleTable}

theorem contains_iff_knows (h : Engine.withLocales .initial s.locales.entries = .ok t) (name : String) :
    t.contains name = true ↔ s.Knows name := by
  rw [Engine.contains_withLocales h, LocaleTable.contains_initial_iff, or_comm]
  rfl

theorem sound_iff : s.Sound ↔ ∃ t, Engine.withLocales .initial s.locales.entries = .ok t :=
  Engine.exists_withLocales_iff.symm

/-- With all definitions put in, what is left is to activate the locale of the settings. -/
theorem ofSettings_of_withLocales (h : Engine.withLocales .initial s.locales.entries = .ok t) :
    Engine.ofSettings s =
      if t.contains s.locale then
        .ok { locales := { t with active := some s.locale }, timeLimit := s.timeLimit? }
      else .error (.localeNotFound s.locale) := by
  rw [Engine.ofSettings, h]
  show (Engine.setLocale { locales := t } s.locale >>= fun e => pure { e with timeLimit := s.timeLimit? }) = _
  rw [Engine.setLocale_eq]
  show (if t.contains s.locale then _ else _) >>= _ = _
  by_cases hc : t.contains s.locale = true
  · rw [if_pos hc, if_pos hc]
    rfl
  · rw [if_neg hc, if_neg hc]
    rfl

theorem ofSettings_of_error {x : Error} (h : Engine.withLocales .initial s.locales.entries = .error x) :
    Engine.ofSettings s = .error x := by
  rw [Engine.ofSettings, h]
  rfl

theorem Stranded.ofSettings_eq (h : s.Stranded) :
    Engine.ofSettings s = .error (.localeNotFound s.locale) := by
  rcases sound_iff.1 h.sound with ⟨t, ht⟩
  rw [ofSettings_of_withLocales ht, if_neg]
  exact fun hc => h.unknown ((contains_iff_knows ht s.locale).1 hc)

end Settings
end FormValidation
