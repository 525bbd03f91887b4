import FormValidation.Proofs.Json.Merge
import FormValidation.Proofs.NameMap
import FormValidation.Settings.Document

/-!
# What settings documents say

A document describes settings if each field has the value that the document gives for it, and the default one
where it gives none (`Settings.Described`); these are the settings that come of laying the document over the
default ones (`Settings.ofDocument?_eq_some_iff`).  Settings are written as a value in which the locales stand
in any order (`Settings.Writes`), and from either layout of that value they are read again
(`Settings.ofText_of_written`).
-/

namespace FormValidation

namespace Settings

/-! ## Fields of a document -/

/-- The fields of settings. -/
inductive Field where
  | debug
  | logLevel
  | locale
  | asyncTimeout
  | locales
  deriving Repr, DecidableEq

namespace Field

/-- The key of a field in an object. -/
def key : Field → String
  | .debug => "debug"
  | .logLevel => "log_level"
  | .locale => "locale"
  | .asyncTimeout => "async_timeout_ms"
  | .locales => "locales"

/-- The place of a field in an array. -/
def position : Field → Nat
  | .debug => 0
  | .logLevel => 1
  | .locale => 2
  | .asyncTimeout => 3
  | .locales => 4

/-- What a document says about a field. -/
def given? (f : Field) : Json → Option Json
  | .obj members => Json.lookup? f.key members
  | .arr items => items[f.position]?
  | _ => none

/-- The value is what the document says about the field, or the default if it says nothing. -/
def Gives {α : Type} (f : Field) (decode : Json → Option α) (default : α) (document : Json)
    (value : α) : Prop :=
  match f.given? document with
  | some j => decode j = some value
  | none => value = default

/-- What the default settings say about a field. -/
def default : Field → Json
  | .debug => .bool true
  | .logLevel => .str "info"
  | .locale => .str Locale.defaultName
  | .asyncTimeout => .null
  | .locales => .obj []

theorem gives_iff {α : Type} (f : Field) (decode : Json → Option α) {base value : α} {document : Json}
    (h : decode f.default = some base) :
    f.Gives decode base document value ↔ decode ((f.given? document).getD f.default) = some value := by
  rw [Gives]
  cases f.given? document with
  | none => rw [Option.getD_none, h, Option.some_inj, eq_comm]
  | some j => rw [Option.getD_some]

end Field

/-- A value that is written with all fields of settings: an object, or an array of five. -/
def HasFields : Json → Prop
  | .obj _ => True
  | .arr items => items.length = 5
  | _ => False

/-- The settings that a document describes. -/
structure Described (document : Json) (s : Settings) : Prop where
  shape : HasFields document
  debug : Field.debug.Gives Json.asBool ({} : Settings).debug document s.debug
  logLevel : Field.logLevel.Gives Json.asText ({} : Settings).logLevel document s.logLevel
  locale : Field.locale.Gives Json.asText ({} : Settings).locale document s.locale
  asyncTimeout : Field.asyncTimeout.Gives (Json.asOption Json.asNatural) ({} : Settings).asyncTimeout
    document s.asyncTimeout
  locales : Field.locales.Gives localesOf ({} : Settings).locales document s.locales

/-! ## Laying a document over the default settings -/

/-- The settings with these values of their fields. -/
def ofFields? (value : Field → Json) : Option Settings := do
  return {
    debug := ← (value .debug).asBool
    logLevel := ← (value .logLevel).asText
    locale := ← (value .locale).asText
    asyncTimeout := ← (value .asyncTimeout).asOption Json.asNatural
    locales := ← localesOf (value .locales) }

theorem ofFields?_eq_some_iff {document : Json} {s : Settings} (h : HasFields document) :
    ofFields? (fun f => (f.given? document).getD f.default) = some s ↔ Described document s := by
  constructor
  · intro hs
    simp only [ofFields?, Option.bind_eq_bind, Option.bind_eq_some_iff, Option.pure_def,
      Option.some_inj] at hs
    rcases hs with ⟨debug, hdebug, logLevel, hlogLevel, locale, hlocale, timeout, htimeout, locales,
      hlocales, rfl⟩
    exact
      { shape := h
        debug := (Field.debug.gives_iff Json.asBool rfl).2 hdebug
        logLevel := (Field.logLevel.gives_iff Json.asText rfl).2 hlogLevel
        locale := (Field.locale.gives_iff Json.asText rfl).2 hlocale
        asyncTimeout := (Field.asyncTimeout.gives_iff (Json.asOption Json.asNatural) rfl).2 htimeout
        locales := (Field.locales.gives_iff localesOf rfl).2 hlocales }
  · intro hs
    have hdebug := (Field.debug.gives_iff Json.asBool rfl).1 hs.debug
    have hlogLevel := (Field.logLevel.gives_iff Json.asText rfl).1 hs.logLevel
    have hlocale := (Field.locale.gives_iff Json.asText rfl).1 hs.locale
    have htimeout := (Field.asyncTimeout.gives_iff (Json.asOption Json.asNatural) rfl).1 hs.asyncTimeout
    have hlocales := (Field.locales.gives_iff localesOf rfl).1 hs.locales
    rw [ofFields?, hdebug, hlogLevel, hlocale, htimeout, hlocales]
    rfl

/-- The members of the value that the default settings are written as. -/
def defaultMembers : List (String × Json) :=
  [Field.debug, .logLevel, .locale, .asyncTimeout, .locales].map fun f => (f.key, f.default)

theorem nodup_defaultMembers : (defaultMembers.map Prod.fst).Nodup := by
  decide

/-- Nothing of a default value is left where the document gives another one. -/
theorem merge_default (f : Field) {j : Json} (h : j.Distinct) : Json.merge f.default j = j := by
  cases f with
  | locales => exact Json.merge_empty h
  | debug | logLevel | locale | asyncTimeout => exact Json.merge_of_not_obj (by simp [Field.default]) j

theorem lookup?_laid {members : List (String × Json)} (h : Json.Distinct (.obj members)) (f : Field) :
    Json.lookup? f.key (Json.mergeMembers defaultMembers members) =
      some ((f.given? (.obj members)).getD f.default) := by
  have hdefault : Json.lookup? f.key defaultMembers = some f.default := by
    cases f <;> rfl
  -- The default is what is found below, so it only shows where the document says nothing.
  rw [Json.lookup?_mergeMembers nodup_defaultMembers h.nodup, hdefault, Field.given?]
  cases hgiven : Json.lookup? f.key members with
  | none => rfl
  | some j =>
      exact congrArg some (merge_default f (h.of_lookup? hgiven))

theorem ofDocument?_obj {members : List (String × Json)} (h : Json.Distinct (.obj members)) :
    ofDocument? (.obj members) = ofFields? fun f => (f.given? (.obj members)).getD f.default := by
  have hlaid : ofDocument? (.obj members) = ofJson? (.obj (Json.mergeMembers defaultMembers members)) := by
    rw [ofDocument?, show ({} : Settings).toJson = .obj defaultMembers from rfl, Json.merge]
  have hnodup := Json.nodup_mergeMembers nodup_defaultMembers members
  have hdebug := lookup?_laid h .debug
  have hlogLevel := lookup?_laid h .logLevel
  have hlocale := lookup?_laid h .locale
  have htimeout := lookup?_laid h .asyncTimeout
  have hlocales := lookup?_laid h .locales
  simp only [Field.key] at hdebug hlogLevel hlocale htimeout hlocales
  rw [hlaid, ofJson?, Json.required_eq hnodup, Json.required_eq hnodup, Json.required_eq hnodup,
    Json.required_eq hnodup, Json.defaulted_eq hnodup, hdebug, hlogLevel, hlocale, htimeout, hlocales]
  rfl

theorem ofDocument?_arr {items : List Json} (h : items.length = 5) :
    ofDocument? (.arr items) = ofFields? fun f => (f.given? (.arr items)).getD f.default := by
  match items with
  | [debug, logLevel, locale, asyncTimeout, locales] => rfl

theorem ofDocument?_arr_eq_none {items : List Json} (h : items.length ≠ 5) :
    ofDocument? (.arr items) = none := by
  have hlaid : ofDocument? (.arr items) = ofJson? (.arr items) := rfl
  rw [hlaid]
  unfold ofJson?
  split
  · rename_i heq
    cases heq
  · rename_i heq
    cases heq
    exact absurd rfl h
  · rfl

/-- What is read from a document is what it describes. -/
theorem ofDocument?_eq_some_iff {document : Json} (h : document.Distinct) {s : Settings} :
    ofDocument? document = some s ↔ Described document s := by
  by_cases hshape : HasFields document
  · rw [← ofFields?_eq_some_iff hshape]
    cases document with
    | obj members => rw [ofDocument?_obj h]
    | arr items => rw [ofDocument?_arr hshape]
    | null | bool _ | num _ | str _ => exact hshape.elim
  · -- Of other values no settings can be read, whatever they are laid over.
    have hnone : ofDocument? document = none := by
      cases document with
      | obj members => exact absurd trivial hshape
      | arr items => exact ofDocument?_arr_eq_none hshape
      | null | bool _ | num _ | str _ => rfl
    rw [hnone]
    exact iff_of_false (Option.some_ne_none s).symm fun hs => hshape hs.shape

/-! ## Texts -/

variable {format : DocumentFormat} {text : String} {s : Settings}

theorem ofText_of_described {j : Json} (hdocument : documentOf format text = some j) (hj : j.Distinct)
    (h : Described j s) : ofText format text = .ok s := by
  rw [ofText, hdocument]
  simp only [(ofDocument?_eq_some_iff hj).2 h]

theorem exists_of_ofText (h : ofText format text = .ok s) :
    ∃ document, documentOf format text = some document ∧ Described document s := by
  unfold ofText at h
  split at h
  · cases h
  · rename_i document hdocument
    split at h
    · cases h
    · rename_i s' hs
      cases h
      have hdistinct : document.Distinct := by
        rcases Option.map_eq_some_iff.1 hdocument with ⟨value, -, rfl⟩
        exact Json.distinct_settled value
      exact ⟨document, hdocument, (ofDocument?_eq_some_iff hdistinct).1 hs⟩

/-! ## Documents that were written -/

end Settings

namespace Json

theorem distinct_ofOption (n : Option Nat) : Distinct (.ofOption n) := by
  cases n with
  | none => exact .null
  | some n => exact .num _

theorem asOption_ofOption (n : Option Nat) : asOption asNatural (.ofOption n) = some n := by
  cases n <;> rfl

theorem fits_ofOption {n : Option Nat} (h : ∀ k ∈ n, k < 2 ^ 64) (depth : Nat) :
    (Json.ofOption n).Fits depth := by
  cases n with
  | none => trivial
  | some k => exact h k rfl

end Json

namespace DateGroups

/-- The groups have indices of 64 bits. -/
structure Fits (g : DateGroups) : Prop where
  day : g.day < 2 ^ 64
  month : g.month < 2 ^ 64
  year : g.year < 2 ^ 64
  hour : ∀ n ∈ g.hour, n < 2 ^ 64
  minute : ∀ n ∈ g.minute, n < 2 ^ 64
  second : ∀ n ∈ g.second, n < 2 ^ 64

theorem ofJson?_toJson (g : DateGroups) : ofJson? g.toJson = some g := by
  obtain ⟨day, month, year, hour, minute, second⟩ := g
  cases hour <;> cases minute <;> cases second <;> rfl

theorem distinct_toJson (g : DateGroups) : g.toJson.Distinct := by
  refine .obj (by simp) ?_
  simp only [List.forall_mem_cons]
  exact ⟨.num _, .num _, .num _, Json.distinct_ofOption _, Json.distinct_ofOption _,
    Json.distinct_ofOption _, nofun⟩

theorem fits_toJson {g : DateGroups} (h : g.Fits) (depth : Nat) : g.toJson.Fits (depth + 1) :=
  ⟨h.day, h.month, h.year, Json.fits_ofOption h.hour depth, Json.fits_ofOption h.minute depth,
    Json.fits_ofOption h.second depth, trivial⟩

end DateGroups

namespace LocaleDefinition

theorem ofJson?_toJson (d : LocaleDefinition) : ofJson? d.toJson = some d := by
  obtain ⟨dateFormat, groups, separator⟩ := d
  have hseparator : separatorOf (.str (String.ofList [separator])) = some separator := by
    simp [separatorOf, Json.asText]
  show (DateGroups.ofJson? groups.toJson >>= fun groups' =>
    separatorOf (.str (String.ofList [separator])) >>= fun separator' =>
      some (LocaleDefinition.mk dateFormat groups' separator')) = _
  rw [DateGroups.ofJson?_toJson, hseparator]
  rfl

theorem distinct_toJson (d : LocaleDefinition) : d.toJson.Distinct := by
  refine .obj (by simp) ?_
  simp only [List.forall_mem_cons]
  exact ⟨.str _, d.groups.distinct_toJson, .str _, nofun⟩

theorem fits_toJson {d : LocaleDefinition} (h : d.groups.Fits) (depth : Nat) :
    d.toJson.Fits (depth + 2) :=
  ⟨trivial, d.groups.fits_toJson h depth, trivial, trivial⟩

end LocaleDefinition

namespace Settings

/-- The time limit and the groups of the locales are numbers of 64 bits. -/
structure Fits (s : Settings) : Prop where
  asyncTimeout : ∀ n ∈ s.asyncTimeout, n < 2 ^ 64
  locales : ∀ e ∈ s.locales.entries, e.2.groups.Fits

/-- The value stands for the settings, with their locales written in any order. -/
def Writes (s : Settings) (j : Json) : Prop :=
  ∃ entries : List (String × LocaleDefinition), entries.Perm s.locales.entries ∧
    j = .obj [("debug", .bool s.debug), ("log_level", .str s.logLevel), ("locale", .str s.locale),
      ("async_timeout_ms", .ofOption s.asyncTimeout),
      ("locales", .obj (entries.map fun e => (e.1, e.2.toJson)))]

theorem writes_toJson (s : Settings) : s.Writes s.toJson :=
  ⟨s.locales.entries, .refl _, rfl⟩

variable {s : Settings} {entries : List (String × LocaleDefinition)}

theorem localesOf_of_perm (h : entries.Perm s.locales.entries) :
    localesOf (.obj (entries.map fun e => (e.1, e.2.toJson))) = some s.locales := by
  have hdefinitions : (entries.map fun e => (e.1, e.2.toJson)).mapM
      (fun m => (LocaleDefinition.ofJson? m.2).map (m.1, ·)) = some entries := by
    -- Each definition is read on its own, so their order does not matter here.
    clear h
    induction entries with
    | nil => rfl
    | cons e entries ih =>
        rw [List.map_cons, List.mapM_cons, ih, LocaleDefinition.ofJson?_toJson]
        rfl
  rw [localesOf, hdefinitions, ← NameMap.ofList_of_perm h]
  rfl

theorem distinct_locales (h : entries.Perm s.locales.entries) :
    Json.Distinct (.obj (entries.map fun e => (e.1, e.2.toJson))) := by
  have hnames : (entries.map Prod.fst).Nodup := (h.map Prod.fst).nodup_iff.2 s.locales.nodup_names
  refine .obj ?_ ?_
  · rw [List.map_map]
    exact hnames
  · rw [List.forall_mem_map]
    exact fun e _ => e.2.distinct_toJson

theorem Writes.distinct {j : Json} (h : s.Writes j) : j.Distinct := by
  rcases h with ⟨entries, hperm, rfl⟩
  refine .obj (by simp) ?_
  simp only [List.forall_mem_cons]
  exact ⟨.bool _, .str _, .str _, Json.distinct_ofOption _, distinct_locales hperm, nofun⟩

/-- A value that stands for settings describes them. -/
theorem Writes.described {j : Json} (h : s.Writes j) : Described j s := by
  rcases h with ⟨entries, hperm, rfl⟩
  exact
    { shape := trivial
      debug := rfl
      logLevel := rfl
      locale := rfl
      asyncTimeout := Json.asOption_ofOption s.asyncTimeout
      locales := localesOf_of_perm hperm }

theorem Writes.fits {j : Json} (hs : s.Fits) (h : s.Writes j) (depth : Nat) : j.Fits (depth + 4) := by
  rcases h with ⟨entries, hperm, rfl⟩
  have hlocales : Json.FitsMembers (entries.map fun e => (e.1, e.2.toJson)) (depth + 2) := by
    rw [Json.fitsMembers_iff, List.forall_mem_map]
    exact fun e he => e.2.fits_toJson (hs.locales e (hperm.mem_iff.1 he)) depth
  exact ⟨trivial, trivial, trivial, Json.fits_ofOption hs.asyncTimeout _, hlocales, trivial⟩

/-- A text that is read as a value of distinct keys describes the settings that the value describes. -/
theorem ofText_json_of_described {text : String} {j : Json} (hread : Json.read? text = some j)
    (hj : j.Distinct) (h : Described j s) : ofText .json text = .ok s := by
  have hdocument : documentOf .json text = some j := by
    rw [documentOf, hread, Option.map_some, Json.settled_of_distinct hj]
  exact ofText_of_described hdocument hj h

/-- Settings are read again from the text that they are written as, on one line or on several lines, in whatever
order their locales are written. -/
theorem ofText_of_written (s : Settings) (hs : s.Fits) (j : Json) (h : s.Writes j) :
    ofText .json j.compact = .ok s ∧ ofText .json j.pretty = .ok s := by
  -- Settings are nested much less deeply than the reader allows.
  have hfits : j.Fits Json.Reader.depthLimit := h.fits hs _
  exact ⟨ofText_json_of_described (Json.read?_compact hfits) h.distinct h.described,
    ofText_json_of_described (Json.read?_pretty hfits) h.distinct h.described⟩

/-- Settings without a time limit, with two locales: one whose name and pattern are empty and that has some groups
for the time of day and others not, and one like the default of a locale but for its separator. -/
def awkwardSettings : Settings where
  debug := false
  logLevel := "\"\n"
  locale := ""
  locales := .ofList [("locales", { decimalSeparator := '\\' }),
    ("", { dateFormat := "", groups := ⟨0, 18446744073709551615, 7, some 0, none, some 3⟩ })]

/-- The value that they are written as, with the locales out of order. -/
def awkwardDocument : Json :=
  .obj [("debug", .bool false), ("log_level", .str "\"\n"), ("locale", .str ""), ("async_timeout_ms", .null),
    ("locales", .obj (awkwardSettings.locales.entries.reverse.map fun e => (e.1, e.2.toJson)))]

theorem ofText_of_written_awkward :
    ofText .json awkwardDocument.compact = .ok awkwardSettings ∧
      ofText .json awkwardDocument.pretty = .ok awkwardSettings := by
  have hentries : awkwardSettings.locales.entries =
      [("", { dateFormat := "", groups := ⟨0, 18446744073709551615, 7, some 0, none, some 3⟩ }),
        ("locales", { decimalSeparator := '\\' })] := by
    decide +kernel
  have hgroups : ∀ e ∈ awkwardSettings.locales.entries, e.2.groups.Fits := by
    rw [hentries]
    simp only [List.forall_mem_cons]
    refine ⟨⟨?_, ?_, ?_, ?_, ?_, ?_⟩, ⟨?_, ?_, ?_, ?_, ?_, ?_⟩, nofun⟩ <;> decide
  exact ofText_of_written awkwardSettings ⟨nofun, hgroups⟩ awkwardDocument
    ⟨awkwardSettings.locales.entries.reverse, List.reverse_perm _, rfl⟩

end Settings
end FormValidation
