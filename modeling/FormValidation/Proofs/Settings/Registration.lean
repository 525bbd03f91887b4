import FormValidation.Proofs.NameMap
import FormValidation.Proofs.Settings.Engine

/-!
# Setting up engines

Settings define locales, each by the text of a pattern and the groups of a date.  An engine is made of them if
every definition is valid and the locale that they name is known; its table then holds the defined locales and,
beside them, the built-in ones whose names are not defined anew (`Engine.Registers`).  Otherwise the definition
that is refused is the one whose name is least (`Engine.Refusal`), in whatever order the definitions are listed
(`Engine.ofSettings_registers`).
-/

namespace FormValidation

/-! ## Definitions -/

namespace LocaleDefinition

/-- The pattern can be read and has the groups of all components. -/
def Valid (d : LocaleDefinition) : Prop :=
  ∃ pattern, Pattern.read? d.dateFormat = some pattern ∧ d.groups.Within pattern.groupCount

/-- The locale is the one of the definition under a name. -/
structure Describes (d : LocaleDefinition) (name : String) (l : Locale) : Prop where
  name : l.name = name
  pattern : Pattern.read? d.dateFormat = some l.dateFormat.pattern
  groups : l.dateFormat.groups = d.groups
  decimalSeparator : l.decimalSeparator = d.decimalSeparator

/-- What is wrong with a definition: its pattern, or the first group that the pattern does not have. -/
inductive Lacks (d : LocaleDefinition) : DateFormat.Refusal → Prop where
  | notAPattern (h : Pattern.read? d.dateFormat = none) : Lacks d .notAPattern
  | noSuchGroup {pattern : Pattern} {before after : List (String × Nat)} {component : String} {group : Nat}
      (hpattern : Pattern.read? d.dateFormat = some pattern)
      (hnamed : d.groups.named = before ++ (component, group) :: after)
      (hbefore : ∀ e ∈ before, 1 ≤ e.2 ∧ e.2 ≤ pattern.groupCount)
      (hgroup : group = 0 ∨ pattern.groupCount < group) :
      Lacks d (.noSuchGroup component group pattern.groupCount)

variable {d : LocaleDefinition} {name : String}

theorem locale_eq_ok_iff {l : Locale} : d.locale name = .ok l ↔ d.Describes name l := by
  rw [locale, Locale.create_eq_ok_iff]
  constructor
  · rintro ⟨pattern, hpattern, h⟩
    rcases (Locale.ofPattern_eq_ok_iff _ _ _ _ _).1 h with ⟨hname, rfl, hgroups, hseparator⟩
    exact ⟨hname, hpattern, hgroups, hseparator⟩
  · intro h
    refine ⟨l.dateFormat.pattern, h.pattern, ?_⟩
    rw [Locale.ofPattern_eq_ok_iff]
    exact ⟨h.name, rfl, h.groups, h.decimalSeparator⟩

theorem valid_iff : d.Valid ↔ ∃ l, d.locale name = .ok l := by
  constructor
  · rintro ⟨pattern, hpattern, hwithin⟩
    rcases (Locale.exists_ofPattern_eq_ok_iff name _ _ d.decimalSeparator).2 hwithin with ⟨l, hl⟩
    exact ⟨l, (Locale.create_eq_ok_iff _ _ _ _ _).2 ⟨pattern, hpattern, hl⟩⟩
  · rintro ⟨l, hl⟩
    have h := locale_eq_ok_iff.1 hl
    exact ⟨l.dateFormat.pattern, h.pattern, h.groups ▸ l.groups_within⟩

end LocaleDefinition

theorem DateGroups.exists_of_missing? {g : DateGroups} {count : Nat} {component : String} {group : Nat}
    (h : g.missing? count = some (component, group)) :
    (group = 0 ∨ count < group) ∧ ∃ before after, g.named = before ++ (component, group) :: after ∧
      ∀ e ∈ before, 1 ≤ e.2 ∧ e.2 ≤ count := by
  rcases List.find?_eq_some_iff_append.1 h with ⟨hgroup, before, after, hnamed, hbefore⟩
  refine ⟨by simpa using hgroup, before, after, hnamed, ?_⟩
  intro e he
  have hin : ¬(e.2 = 0 ∨ count < e.2) := by simpa using hbefore e he
  omega

namespace LocaleDefinition

variable {d : LocaleDefinition} {name : String}

/-- A definition that makes no locale is refused under its name, for what it lacks. -/
theorem lacks_of_locale_eq_error {x : Error} (h : d.locale name = .error x) :
    ∃ refusal, x = .invalidLocale name refusal ∧ d.Lacks refusal := by
  unfold locale Locale.create at h
  cases hpattern : Pattern.read? d.dateFormat with
  | none =>
      rw [hpattern] at h
      cases h
      exact ⟨_, rfl, .notAPattern hpattern⟩
  | some pattern =>
      rw [hpattern] at h
      simp only [Locale.ofPattern] at h
      unfold DateFormat.ofPattern at h
      split at h
      · rename_i heq
        split at heq
        · rename_i hmissing
          cases h
          cases heq
          rcases DateGroups.exists_of_missing? hmissing with ⟨hgroup, before, after, hnamed, hbefore⟩
          exact ⟨_, rfl, .noSuchGroup hpattern hnamed hbefore hgroup⟩
        · cases heq
      · cases h

end LocaleDefinition

/-! ## Registering the definitions -/

namespace Engine

variable {t t' : LocaleTable} {definitions : List (String × LocaleDefinition)}

/-- A name that is not defined finds what it found before. -/
theorem get?_withLocales_of_notMem (h : withLocales t definitions = .ok t') {name : String}
    (hname : name ∉ definitions.map Prod.fst) : t'.get? name = t.get? name := by
  induction definitions generalizing t with
  | nil =>
      cases h
      rfl
  | cons d definitions ih =>
      rcases bind_eq_ok.1 h with ⟨l, -, hrest⟩
      rw [List.map_cons, List.mem_cons, not_or] at hname
      rw [ih hrest hname.2, LocaleTable.get?_register, if_neg (Ne.symm hname.1)]

/-- A name that is defined once finds the locale of its definition. -/
theorem get?_withLocales_of_mem (h : withLocales t definitions = .ok t')
    (hnodup : (definitions.map Prod.fst).Nodup) {d : String × LocaleDefinition} (hd : d ∈ definitions) :
    ∃ l, t'.get? d.1 = some l ∧ d.2.Describes d.1 l := by
  induction definitions generalizing t with
  | nil => cases hd
  | cons d' definitions ih =>
      rcases bind_eq_ok.1 h with ⟨l, hl, hrest⟩
      rw [List.map_cons, List.nodup_cons] at hnodup
      rcases List.mem_cons.1 hd with rfl | hd
      · -- The name does not come again, so the locale stays.
        have hdescribes : d.2.Describes d.1 l := LocaleDefinition.locale_eq_ok_iff.1 hl
        refine ⟨l, ?_, hdescribes⟩
        rw [get?_withLocales_of_notMem hrest hnodup.1, LocaleTable.get?_register, if_pos rfl,
          ← hdescribes.name]
      · exact ih hrest hnodup.2 hd

/-- The first definition that makes no locale decides. -/
theorem exists_of_withLocales_eq_error {x : Error} (h : withLocales t definitions = .error x) :
    ∃ before d after, definitions = before ++ d :: after ∧ (∀ d' ∈ before, d'.2.Valid) ∧
      d.2.locale d.1 = .error x := by
  induction definitions generalizing t with
  | nil => cases h
  | cons d definitions ih =>
      obtain ⟨name, definition⟩ := d
      cases hl : definition.locale name with
      | error x' =>
          rw [withLocales, hl] at h
          cases h
          exact ⟨[], (name, definition), definitions, rfl, List.forall_mem_nil _, hl⟩
      | ok l =>
          rw [withLocales, hl] at h
          rcases ih h with ⟨before, d, after, rfl, hbefore, hd⟩
          refine ⟨(name, definition) :: before, d, after, rfl, ?_, hd⟩
          rw [List.forall_mem_cons]
          exact ⟨LocaleDefinition.valid_iff.2 ⟨l, hl⟩, hbefore⟩

/-! ## Engines -/

/-- The engine is the one of settings that define these locales. -/
structure Registers (s : Settings) (definitions : List (String × LocaleDefinition)) (e : Engine) : Prop where
  /-- Its names are the built-in ones and those that are defined. -/
  mem_names_iff : ∀ name, name ∈ e.locales.names ↔
    (∃ l ∈ Locale.builtIn, l.name = name) ∨ name ∈ definitions.map Prod.fst
  /-- A name that is defined finds the locale of its definition, also if it is a built-in one. -/
  defined : ∀ d ∈ definitions, ∃ l, e.locales.get? d.1 = some l ∧ d.2.Describes d.1 l
  /-- Every other built-in locale is there unchanged. -/
  builtIn : ∀ l ∈ Locale.builtIn, l.name ∉ definitions.map Prod.fst → e.locales.get? l.name = some l
  /-- The locale of the settings is active. -/
  active : e.locales.active = some s.locale
  validators : e.validators = .empty
  timeLimit : e.timeLimit = s.timeLimit?

/-- Why there is no engine of settings that define these locales. -/
inductive Refusal (s : Settings) (definitions : List (String × LocaleDefinition)) : Error → Prop where
  /-- Of the definitions that are not valid, the one whose name is least in the order of bytes is refused. -/
  | invalid {d : String × LocaleDefinition} {refusal : DateFormat.Refusal} (hd : d ∈ definitions)
      (hlacks : d.2.Lacks refusal)
      (hleast : ∀ d' ∈ definitions, ¬d'.2.Valid → d' = d ∨ Text.bytes d.1 < Text.bytes d'.1) :
      Refusal s definitions (.invalidLocale d.1 refusal)
  /-- All definitions are valid, but the locale of the settings is not known. -/
  | unknown (hvalid : ∀ d ∈ definitions, d.2.Valid)
      (hbuiltIn : ∀ l ∈ Locale.builtIn, l.name ≠ s.locale) (hdefined : s.locale ∉ definitions.map Prod.fst) :
      Refusal s definitions (.localeNotFound s.locale)

end Engine

namespace Settings

open Engine (Registers Refusal)

variable {s : Settings} {definitions : List (String × LocaleDefinition)} {t : LocaleTable}

theorem sound_iff_valid (h : definitions.Perm s.locales.entries) :
    s.Sound ↔ ∀ d ∈ definitions, d.2.Valid := by
  constructor
  · exact fun hsound d hd => LocaleDefinition.valid_iff.2 (hsound d (h.mem_iff.1 hd))
  · exact fun hvalid d hd => LocaleDefinition.valid_iff.1 (hvalid d (h.mem_iff.2 hd))

theorem knows_iff (h : definitions.Perm s.locales.entries) (name : String) :
    s.Knows name ↔ (∃ l ∈ Locale.builtIn, l.name = name) ∨ name ∈ definitions.map Prod.fst :=
  or_congr Iff.rfl (h.map Prod.fst).mem_iff.symm

theorem registers_of_withLocales (h : definitions.Perm s.locales.entries)
    (ht : Engine.withLocales .initial s.locales.entries = .ok t) :
    Registers s definitions
      { locales := { t with active := some s.locale }, timeLimit := s.timeLimit? } where
  mem_names_iff name := by
    rw [← knows_iff h, ← contains_iff_knows ht]
    exact (t.locales.contains_iff_mem_names name).symm
  defined d hd := Engine.get?_withLocales_of_mem ht s.locales.nodup_names (h.mem_iff.1 hd)
  builtIn l hl hname := by
    have hinitial : LocaleTable.initial.get? l.name = some l := by
      have hall : ∀ l ∈ Locale.builtIn, LocaleTable.initial.get? l.name = some l := by
        simp only [Locale.builtIn, List.forall_mem_cons]
        exact ⟨rfl, rfl, rfl, List.forall_mem_nil _⟩
      exact hall l hl
    have hnot : l.name ∉ s.locales.entries.map Prod.fst :=
      fun hmem => hname ((h.map Prod.fst).mem_iff.2 hmem)
    exact (Engine.get?_withLocales_of_notMem ht hnot).trans hinitial
  active := rfl
  validators := rfl
  timeLimit := rfl

/-- The definitions are put in in increasing order of names, so the first one that is refused is the least. -/
theorem refusal_of_withLocales (h : definitions.Perm s.locales.entries) {x : Error}
    (hx : Engine.withLocales .initial s.locales.entries = .error x) : Refusal s definitions x := by
  rcases Engine.exists_of_withLocales_eq_error hx with ⟨before, d, after, hentries, hbefore, hd⟩
  rcases LocaleDefinition.lacks_of_locale_eq_error hd with ⟨refusal, rfl, hlacks⟩
  have hmem : ∀ d', d' ∈ definitions ↔ d' ∈ before ++ d :: after := fun d' => hentries ▸ h.mem_iff
  refine .invalid ((hmem d).2 (by simp)) hlacks ?_
  intro d' hd' hinvalid
  have hsorted : NameMap.Sorted (before ++ d :: after) := hentries ▸ s.locales.sorted
  rcases List.mem_append.1 ((hmem d').1 hd') with hd' | hd'
  · exact absurd (hbefore d' hd') hinvalid
  · refine (List.mem_cons.1 hd').imp_right fun hafter => ?_
    have hrest : NameMap.Sorted (d :: after) := (List.pairwise_append.1 hsorted).2.1
    exact (Text.lt_iff_bytes_lt _ _).1 (List.rel_of_pairwise_cons hrest hafter)

end Settings

namespace Engine

open Settings

/-- An engine can be made of settings exactly if all definitions of locales are valid and the locale of the
settings is a built-in one or one that they define.  It then has the locales that are defined beside the other
built-in ones; otherwise the least of the invalid definitions is refused, whichever locale the settings name,
and the name of that locale only if there is none. -/
theorem ofSettings_registers (s : Settings) (definitions : List (String × LocaleDefinition))
    (h : definitions.Perm s.locales.entries) :
    ((∃ e, ofSettings s = .ok e) ↔ (∀ d ∈ definitions, d.2.Valid) ∧
      ((∃ l ∈ Locale.builtIn, l.name = s.locale) ∨ s.locale ∈ definitions.map Prod.fst)) ∧
    (∀ e, ofSettings s = .ok e → Registers s definitions e) ∧
    ∀ x, ofSettings s = .error x → Refusal s definitions x := by
  rw [← sound_iff_valid h, ← knows_iff h]
  cases ht : withLocales .initial s.locales.entries with
  | error x =>
      have hnot : ¬s.Sound := fun hsound => by
        rcases sound_iff.1 hsound with ⟨t, ht'⟩
        cases ht.symm.trans ht'
      rw [ofSettings_of_error ht]
      refine ⟨iff_of_false nofun fun hs => hnot hs.1, nofun, ?_⟩
      rintro _ ⟨⟩
      exact refusal_of_withLocales h ht
  | ok t =>
      have hsound : s.Sound := sound_iff.2 ⟨t, ht⟩
      have hknows := contains_iff_knows ht s.locale
      rw [ofSettings_of_withLocales ht]
      by_cases hc : t.contains s.locale = true
      · rw [if_pos hc]
        refine ⟨iff_of_true ⟨_, rfl⟩ ⟨hsound, hknows.1 hc⟩, ?_, nofun⟩
        rintro _ ⟨⟩
        exact registers_of_withLocales h ht
      · rw [if_neg hc]
        have hunknown : ¬s.Knows s.locale := fun hs => hc (hknows.2 hs)
        refine ⟨iff_of_false nofun fun hs => hunknown hs.2, nofun, ?_⟩
        rintro _ ⟨⟩
        rw [knows_iff h, not_or] at hunknown
        exact .unknown ((sound_iff_valid h).1 hsound)
          (fun l hl hname => hunknown.1 ⟨l, hl, hname⟩) hunknown.2

/-- Dates of three letters. -/
def lettersDefinition : LocaleDefinition where
  dateFormat := "(a)(b)(c)"
  groups := ⟨1, 3, 2, none, none, none⟩

/-- A definition without a pattern, one of the French locale, and one whose pattern has no ninth group, not in the
order of their names. -/
def mixedDefinitions : List (String × LocaleDefinition) :=
  [("nl", { dateFormat := "(" }), ("fr", lettersDefinition),
    ("de", { groups := { DateGroups.dayFirst with hour := some 9 } })]

/-- The definition of the French locale alone is enough for an engine, in which it replaces the built-in one.  With
the others beside it the German definition is refused, though it was listed last and no locale is called `xx`. -/
theorem ofSettings_registers_mixed :
    [("fr", lettersDefinition)].Perm (NameMap.ofList [("fr", lettersDefinition)]).entries ∧
    (∃ e, ofSettings { locale := "fr", locales := .ofList [("fr", lettersDefinition)] } = .ok e ∧
      (∃ l, e.locales.get? "fr" = some l ∧ lettersDefinition.Describes "fr" l) ∧
      e.locales.get? "en" = some .en) ∧
    mixedDefinitions.Perm (NameMap.ofList mixedDefinitions).entries ∧
    ofSettings { locale := "xx", locales := .ofList mixedDefinitions } =
      .error (.invalidLocale "de" (.noSuchGroup "hour" 9 8)) ∧
    Refusal { locale := "xx", locales := .ofList mixedDefinitions } mixedDefinitions
      (.invalidLocale "de" (.noSuchGroup "hour" 9 8)) := by
  have hperm : [("fr", lettersDefinition)].Perm (NameMap.ofList [("fr", lettersDefinition)]).entries :=
    List.Perm.refl _
  have hentries : (NameMap.ofList mixedDefinitions).entries = mixedDefinitions.reverse := by
    decide +kernel
  have hmixed : mixedDefinitions.Perm (NameMap.ofList mixedDefinitions).entries :=
    hentries ▸ (List.reverse_perm _).symm
  have hvalid : lettersDefinition.Valid := ⟨_, rfl, (DateGroups.missing?_eq_none_iff _ _).1 (by decide +kernel)⟩
  have hrefused : ofSettings { locale := "xx", locales := .ofList mixedDefinitions } =
      .error (.invalidLocale "de" (.noSuchGroup "hour" 9 8)) := by
    refine ofSettings_of_error (s := { locale := "xx", locales := .ofList mixedDefinitions }) ?_
    rw [hentries]
    show (Locale.create "de" DateFormat.slashedSource _ '.' >>= fun _ => _) = _
    rw [Locale.create, DateFormat.read?_slashedSource]
    rfl
  have hletters := ofSettings_registers { locale := "fr", locales := .ofList _ } _ hperm
  rcases hletters.1.2 ⟨List.forall_mem_singleton.2 hvalid, .inr (List.mem_singleton_self _)⟩ with ⟨e, he⟩
  have hregisters := hletters.2.1 e he
  have hbuiltIn : e.locales.get? "en" = some .en :=
    hregisters.builtIn .en (by simp [Locale.builtIn]) (by decide)
  have hrefusal := (ofSettings_registers { locale := "xx", locales := .ofList _ } _ hmixed).2.2 _ hrefused
  exact ⟨hperm, ⟨e, he, hregisters.defined _ (List.mem_singleton_self _), hbuiltIn⟩, hmixed, hrefused, hrefusal⟩

end Engine
end FormValidation
