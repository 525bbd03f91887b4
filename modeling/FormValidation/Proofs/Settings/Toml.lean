import FormValidation.Proofs.Settings.Document
import FormValidation.Proofs.Toml.Distinct

/-!
# What settings keep of a TOML document

A setting stands at the end of a path of keys, through the tables of a document (`Toml.Value.Leads`).  It takes
values of its kind only (`Setting.Kind.Takes`), and settings hold what is kept of the value that their document has
there (`Toml.Value.kept?`): a moment is kept as its text, and nothing is kept of a decimal number that is not
finite (`Settings.ofText_toml_keeps`).
-/

namespace FormValidation

namespace Toml

/-- The text of a moment is no single character. -/
theorem Moment.two_le_length_text (m : Moment) : 2 ≤ m.text.length := by
  cases m with
  | day d =>
      simp only [text, Day.text, List.length_append, List.length_cons]
      omega
  | clock c =>
      simp only [text, Clock.text, List.length_append, List.length_cons]
      omega
  | dayAndClock d c offset =>
      simp only [text, Day.text, List.length_append, List.length_cons]
      omega

namespace Value

/-- The path of keys leads through tables of the document to the value. -/
def Leads : Value → List String → Value → Prop
  | document, [], v => v = document
  | document, key :: path, v =>
      ∃ entries inner, document = .table entries ∧ (key, inner) ∈ entries ∧ inner.Leads path v

/-- What settings keep of a value: a moment as its text, nothing of a decimal number that is not finite, and every
other value as it is. -/
def kept? : Value → Option Value
  | .moment m => some (.text (String.ofList m.text))
  | .decimal (.infinite _) | .decimal .nan => none
  | v => some v

end Value
end Toml

theorem Json.ofInt_eq (i : Int) :
    (∃ n : Nat, i = n ∧ Json.ofInt i = .num (.natural n)) ∨ Json.ofInt i = .num (.negative i.natAbs) := by
  by_cases h : 0 ≤ i
  · exact .inl ⟨i.toNat, (Int.toNat_of_nonneg h).symm, if_pos h⟩
  · exact .inr (if_neg h)

theorem LocaleDefinition.separatorOf_str_eq_some_iff {s : String} {c : Char} :
    separatorOf (.str s) = some c ↔ s = String.ofList [c] := by
  rw [separatorOf, Json.asText, Option.bind_eq_bind, Option.bind_some, ← String.toList_inj, String.toList_ofList]
  split
  · rename_i c' hc
    rw [hc, Option.some_inj, List.cons.injEq, and_iff_left rfl]
  · rename_i hnot
    exact iff_of_false (Option.some_ne_none c).symm (hnot c)

/-! ## Settings one by one -/

namespace DateGroups

/-- The parts of a date that may have a group. -/
inductive Component where
  | day
  | month
  | year
  | hour
  | minute
  | second
  deriving Repr, DecidableEq

def Component.key : Component → String
  | .day => "day"
  | .month => "month"
  | .year => "year"
  | .hour => "hour"
  | .minute => "minute"
  | .second => "second"

def group? (g : DateGroups) : Component → Option Nat
  | .day => some g.day
  | .month => some g.month
  | .year => some g.year
  | .hour => g.hour
  | .minute => g.minute
  | .second => g.second

end DateGroups

/-- A single setting, of an engine or of the definition of a locale. -/
inductive Setting where
  | debug
  | logLevel
  | locale
  | asyncTimeout
  | dateFormat (name : String)
  | decimalSeparator (name : String)
  | group (name : String) (component : DateGroups.Component)
  deriving Repr, DecidableEq

namespace Setting

/-- The keys under which a document has the setting. -/
def path : Setting → List String
  | .debug => ["debug"]
  | .logLevel => ["log_level"]
  | .locale => ["locale"]
  | .asyncTimeout => ["async_timeout_ms"]
  | .dateFormat name => ["locales", name, "date_format"]
  | .decimalSeparator name => ["locales", name, "decimal_separator"]
  | .group name component => ["locales", name, "date_format_groups", component.key]

/-- What the settings hold for the setting, written as in a document. -/
def held? (s : Settings) : Setting → Option Toml.Value
  | .debug => some (.bool s.debug)
  | .logLevel => some (.text s.logLevel)
  | .locale => some (.text s.locale)
  | .asyncTimeout => s.asyncTimeout.map fun n : Nat => .integer n
  | .dateFormat name => (s.locales.get? name).map fun d => .text d.dateFormat
  | .decimalSeparator name => (s.locales.get? name).map fun d => .text (String.ofList [d.decimalSeparator])
  | .group name component => (s.locales.get? name).bind fun d =>
      (d.groups.group? component).map fun n : Nat => .integer n

/-! ## Kinds of settings -/

inductive Kind where
  | truth
  | text
  | character
  | number
  /-- A number that may be absent. -/
  | optionalNumber
  deriving Repr, DecidableEq

def kind : Setting → Kind
  | .debug => .truth
  | .logLevel | .locale | .dateFormat _ => .text
  | .decimalSeparator _ => .character
  | .group _ .day | .group _ .month | .group _ .year => .number
  | .asyncTimeout | .group _ .hour | .group _ .minute | .group _ .second => .optionalNumber

namespace Kind

/-- The values that a setting of the kind takes. -/
inductive Takes : Kind → Toml.Value → Prop where
  | bool (b : Bool) : Takes .truth (.bool b)
  | text (s : String) : Takes .text (.text s)
  | moment (m : Toml.Moment) : Takes .text (.moment m)
  | character (c : Char) : Takes .character (.text (String.ofList [c]))
  | number (n : Nat) : Takes .number (.integer n)
  | optionalNumber (n : Nat) : Takes .optionalNumber (.integer n)
  -- These are written as null, which stands for an absent number.
  | infinite (negative : Bool) : Takes .optionalNumber (.decimal (.infinite negative))
  | nan : Takes .optionalNumber (.decimal .nan)

/-- What a setting of the kind holds if this value is given for it. -/
def decode? (k : Kind) (j : Json) : Option (Option Toml.Value) :=
  match k with
  | .truth => j.asBool.map fun b => some (.bool b)
  | .text => j.asText.map fun s => some (.text s)
  | .character => (LocaleDefinition.separatorOf j).map fun c => some (.text (String.ofList [c]))
  | .number => j.asNatural.map fun n : Nat => some (.integer n)
  | .optionalNumber => (j.asOption Json.asNatural).map fun o => o.map fun n : Nat => .integer n

theorem decode?_number {j : Json} {n : Nat} (h : j.asNatural = some n) :
    Kind.number.decode? j = some (some (.integer n)) := by
  rw [decode?, h, Option.map_some]

theorem decode?_optionalNumber {j : Json} {n : Option Nat} (h : j.asOption Json.asNatural = some n) :
    Kind.optionalNumber.decode? j = some (n.map fun n : Nat => .integer n) := by
  rw [decode?, h, Option.map_some]

/-- Of a value from a document a setting holds what is kept of the value. -/
theorem takes_of_decode? {k : Kind} {v : Toml.Value} {held : Option Toml.Value}
    (h : k.decode? v.toJson = some held) : k.Takes v ∧ held = v.kept? := by
  cases v with
  | text s =>
      cases k with
      | text =>
          cases h
          exact ⟨.text s, rfl⟩
      | character =>
          rcases Option.map_eq_some_iff.1 h with ⟨c, hc, rfl⟩
          rw [LocaleDefinition.separatorOf_str_eq_some_iff.1 hc]
          exact ⟨.character c, rfl⟩
      | truth | number | optionalNumber => cases h
  | integer i =>
      rcases Json.ofInt_eq i with ⟨n, rfl, hn⟩ | hn
      · rw [Toml.Value.toJson, hn] at h
        cases k with
        | number =>
            cases h
            exact ⟨.number n, rfl⟩
        | optionalNumber =>
            cases h
            exact ⟨.optionalNumber n, rfl⟩
        | truth | text | character => cases h
      · rw [Toml.Value.toJson, hn] at h
        cases k <;> cases h
  | decimal d =>
      cases d with
      | finite mantissa exponent => cases k <;> cases h
      | infinite negative =>
          cases k <;> cases h
          exact ⟨.infinite negative, rfl⟩
      | nan =>
          cases k <;> cases h
          exact ⟨.nan, rfl⟩
  | bool b =>
      cases k <;> cases h
      exact ⟨.bool b, rfl⟩
  | moment m =>
      cases k with
      | text =>
          cases h
          exact ⟨.moment m, rfl⟩
      | character =>
          rcases Option.map_eq_some_iff.1 h with ⟨c, hc, -⟩
          have htext : m.text = [c] := String.ofList_inj.1 (LocaleDefinition.separatorOf_str_eq_some_iff.1 hc)
          have hlength := m.two_le_length_text
          rw [htext] at hlength
          exact absurd hlength (by simp)
      | truth | number | optionalNumber => cases h
  | array items => cases k <;> cases h
  | table entries => cases k <;> cases h

end Kind

end Setting

/-! ## What a document gives -/

open Setting (Kind)
open Toml (Value)

variable {entries : List (String × Value)} {v : Value} {s : Settings}

namespace DateGroups

variable {g : DateGroups}

/-- What groups hold for a component is read from the entry of its key. -/
theorem decode?_of_mem (hentries : (Value.table entries).Distinct) (hg : ofJson? (Value.table entries).toJson = some g)
    {c : Component} (hv : (c.key, v) ∈ entries) (name : String) :
    (Setting.group name c).kind.decode? v.toJson = some ((g.group? c).map fun n : Nat => .integer n) := by
  have hkeys := hentries.toJson.nodup
  have hlookup := hentries.lookup?_of_mem hv
  simp only [Value.toJson, ofJson?, Option.bind_eq_bind, Option.bind_eq_some_iff, Option.pure_def,
    Option.some_inj] at hg
  rcases hg with ⟨day, hday, month, hmonth, year, hyear, hour, hhour, minute, hminute, second, hsecond, rfl⟩
  cases c with
  | day => exact Kind.decode?_number (Json.decode_of_required hkeys hlookup hday)
  | month => exact Kind.decode?_number (Json.decode_of_required hkeys hlookup hmonth)
  | year => exact Kind.decode?_number (Json.decode_of_required hkeys hlookup hyear)
  | hour => exact Kind.decode?_optionalNumber (Json.decode_of_defaulted hkeys hlookup hhour)
  | minute => exact Kind.decode?_optionalNumber (Json.decode_of_defaulted hkeys hlookup hminute)
  | second => exact Kind.decode?_optionalNumber (Json.decode_of_defaulted hkeys hlookup hsecond)

end DateGroups

namespace LocaleDefinition

variable {d : LocaleDefinition}

/-- A definition has what the entries of its table stand for. -/
theorem decode_of_ofJson? (hentries : (Value.table entries).Distinct) (hd : ofJson? (Value.table entries).toJson = some d) :
    (∀ v, ("date_format", v) ∈ entries → v.toJson.asText = some d.dateFormat) ∧
    (∀ v, ("date_format_groups", v) ∈ entries → DateGroups.ofJson? v.toJson = some d.groups) ∧
    ∀ v, ("decimal_separator", v) ∈ entries → separatorOf v.toJson = some d.decimalSeparator := by
  have hkeys := hentries.toJson.nodup
  simp only [Value.toJson, ofJson?, Option.bind_eq_bind, Option.bind_eq_some_iff, Option.pure_def,
    Option.some_inj] at hd
  rcases hd with ⟨format, hformat, groups, hgroups, separator, hseparator, rfl⟩
  exact ⟨fun v hv => Json.decode_of_defaulted hkeys (hentries.lookup?_of_mem hv) hformat,
    fun v hv => Json.decode_of_defaulted hkeys (hentries.lookup?_of_mem hv) hgroups,
    fun v hv => Json.decode_of_defaulted hkeys (hentries.lookup?_of_mem hv) hseparator⟩

end LocaleDefinition

namespace Settings

/-- The definitions that are read have the names of the members, each with what its member stands for. -/
theorem definitions_of_mapM {members : List (String × Json)} {definitions : List (String × LocaleDefinition)}
    (h : members.mapM (fun m => (LocaleDefinition.ofJson? m.2).map (m.1, ·)) = some definitions) :
    definitions.map Prod.fst = members.map Prod.fst ∧
      ∀ m ∈ members, ∃ d, LocaleDefinition.ofJson? m.2 = some d ∧ (m.1, d) ∈ definitions := by
  induction members generalizing definitions with
  | nil =>
      cases h
      exact ⟨rfl, nofun⟩
  | cons m members ih =>
      simp only [List.mapM_cons, Option.bind_eq_bind, Option.bind_eq_some_iff, Option.map_eq_some_iff,
        Option.pure_def, Option.some_inj] at h
      rcases h with ⟨_, ⟨d, hd, rfl⟩, rest, hrest, rfl⟩
      rcases ih hrest with ⟨hnames, hmembers⟩
      refine ⟨by rw [List.map_cons, List.map_cons, hnames], ?_⟩
      rw [List.forall_mem_cons]
      refine ⟨⟨d, hd, List.mem_cons_self⟩, ?_⟩
      intro m' hm'
      rcases hmembers m' hm' with ⟨d', hd', hmem⟩
      exact ⟨d', hd', List.mem_cons_of_mem _ hmem⟩

/-- A locale has the definition that its entry stands for. -/
theorem exists_of_localesOf {locales : NameMap LocaleDefinition} (hentries : (Value.table entries).Distinct)
    (h : localesOf (Value.table entries).toJson = some locales) {name : String} (hv : (name, v) ∈ entries) :
    ∃ d, LocaleDefinition.ofJson? v.toJson = some d ∧ locales.get? name = some d := by
  rcases Option.bind_eq_some_iff.1 h with ⟨definitions, hdefinitions, heq⟩
  cases heq
  rcases definitions_of_mapM hdefinitions with ⟨hnames, hmembers⟩
  have hmember : (name, v.toJson) ∈ Toml.entriesToJson entries := by
    rw [Toml.entriesToJson_eq_map]
    exact List.mem_map_of_mem hv
  rcases hmembers _ hmember with ⟨d, hd, hmem⟩
  have hnodup : (definitions.map Prod.fst).Nodup := hnames ▸ hentries.toJson.nodup
  exact ⟨d, hd, NameMap.get?_ofList_of_mem hnodup hmem⟩

theorem Field.decode_of_mem {α : Type} {f : Field} {decode : Json → Option α} {default value : α}
    (hentries : (Value.table entries).Distinct)
    (h : f.Gives decode default (Value.table entries).toJson value) (hv : (f.key, v) ∈ entries) :
    decode v.toJson = some value := by
  have hgiven : f.given? (Value.table entries).toJson = some v.toJson := hentries.lookup?_of_mem hv
  rw [Field.Gives, hgiven] at h
  exact h

/-- A path into the definition of a locale leads through the table of the definition. -/
theorem exists_definition {document : Value} (hdocument : document.Distinct) (hs : Described document.toJson s)
    {name key : String} {path : List String} (h : document.Leads ("locales" :: name :: key :: path) v) :
    ∃ entries inner d, (Value.table entries).Distinct ∧
      LocaleDefinition.ofJson? (Value.table entries).toJson = some d ∧ s.locales.get? name = some d ∧
      (key, inner) ∈ entries ∧ inner.Leads path v := by
  rcases h with ⟨top, _, rfl, hlocales, names, _, rfl, hname, entries, inner, rfl, hinner, h⟩
  have hnames : (Value.table names).Distinct := hdocument.of_mem hlocales
  have hread : localesOf (Value.table names).toJson = some s.locales :=
    Field.locales.decode_of_mem hdocument hs.locales hlocales
  rcases exists_of_localesOf hnames hread hname with ⟨d, hd, hget⟩
  exact ⟨entries, inner, d, hnames.of_mem hname, hd, hget, hinner, h⟩

/-- What settings hold for a setting is read from the value that their document has for it. -/
theorem decode?_of_leads {document : Value} (hdocument : document.Distinct) (hs : Described document.toJson s)
    {setting : Setting} (h : document.Leads setting.path v) :
    setting.kind.decode? v.toJson = some (setting.held? s) := by
  cases setting with
  | debug =>
      rcases h with ⟨entries, _, rfl, hv, rfl⟩
      exact congrArg (Option.map _) (Field.debug.decode_of_mem hdocument hs.debug hv)
  | logLevel =>
      rcases h with ⟨entries, _, rfl, hv, rfl⟩
      exact congrArg (Option.map _) (Field.logLevel.decode_of_mem hdocument hs.logLevel hv)
  | locale =>
      rcases h with ⟨entries, _, rfl, hv, rfl⟩
      exact congrArg (Option.map _) (Field.locale.decode_of_mem hdocument hs.locale hv)
  | asyncTimeout =>
      rcases h with ⟨entries, _, rfl, hv, rfl⟩
      exact Kind.decode?_optionalNumber (Field.asyncTimeout.decode_of_mem hdocument hs.asyncTimeout hv)
  | dateFormat name =>
      rcases exists_definition hdocument hs h with ⟨entries, _, d, hentries, hd, hget, hv, rfl⟩
      rcases LocaleDefinition.decode_of_ofJson? hentries hd with ⟨hformat, -, -⟩
      rw [Setting.held?, hget]
      exact congrArg (Option.map _) (hformat _ hv)
  | decimalSeparator name =>
      rcases exists_definition hdocument hs h with ⟨entries, _, d, hentries, hd, hget, hv, rfl⟩
      rcases LocaleDefinition.decode_of_ofJson? hentries hd with ⟨-, -, hseparator⟩
      rw [Setting.held?, hget]
      exact congrArg (Option.map _) (hseparator _ hv)
  | group name c =>
      rcases exists_definition hdocument hs h with ⟨entries, _, d, hentries, hd, hget, hinner, h⟩
      rcases h with ⟨groups, _, rfl, hv, rfl⟩
      rcases LocaleDefinition.decode_of_ofJson? hentries hd with ⟨-, hgroups, -⟩
      rw [Setting.held?, hget]
      exact DateGroups.decode?_of_mem (hentries.of_mem hinner) (hgroups _ hinner) hv name

/-- The settings hold what is kept of all that the document gives for them. -/
structure Keeps (s : Settings) (document : Value) : Prop where
  defined : ∀ name v, document.Leads ["locales", name] v → ∃ d, s.locales.get? name = some d
  takes : ∀ setting v, document.Leads (Setting.path setting) v → setting.kind.Takes v
  held : ∀ setting v, document.Leads (Setting.path setting) v → setting.held? s = v.kept?

theorem Described.keeps {document : Value} (hdocument : document.Distinct) (hs : Described document.toJson s) :
    s.Keeps document where
  defined name v h := by
    rcases h with ⟨top, _, rfl, hlocales, names, _, rfl, hname, rfl⟩
    have hread := Field.locales.decode_of_mem hdocument hs.locales hlocales
    rcases exists_of_localesOf (hdocument.of_mem hlocales) hread hname with ⟨d, -, hget⟩
    exact ⟨d, hget⟩
  takes _ _ h := (Kind.takes_of_decode? (decode?_of_leads hdocument hs h)).1
  held _ _ h := (Kind.takes_of_decode? (decode?_of_leads hdocument hs h)).2

variable {text : String} {document : Value}

theorem documentOf_toml (h : Toml.read? text = some document) :
    documentOf .toml text = some document.toJson := by
  rw [documentOf, h, Option.map_some, Option.map_some,
    Json.settled_of_distinct (Toml.distinct_read? h).toJson]

/-- What is read as a document either describes settings, or no settings fit it. -/
theorem ofText_toml_cases (h : Toml.read? text = some document) :
    (∃ s, ofText .toml text = .ok s) ∨ ofText .toml text = .error (.configuration (.unfitSettings .toml)) := by
  rw [ofText, documentOf_toml h]
  dsimp only
  cases ofDocument? document.toJson with
  | none => exact .inr rfl
  | some s => exact .inl ⟨s, rfl⟩

theorem keeps_of_ofText (hs : ofText .toml text = .ok s) (h : Toml.read? text = some document) :
    s.Keeps document := by
  rcases exists_of_ofText hs with ⟨j, hj, hdescribed⟩
  rw [documentOf_toml h] at hj
  cases hj
  exact hdescribed.keeps (Toml.distinct_read? h)

/-- Settings that a text describes hold what is kept of all that the document gives for them, and a document that
gives for a setting what this does not take describes none. -/
theorem ofText_toml_keeps (text : String) :
    (∀ s, ofText .toml text = .ok s → ∃ document, Toml.read? text = some document ∧ s.Keeps document) ∧
    ∀ document setting v, Toml.read? text = some document → document.Leads (Setting.path setting) v →
      ¬setting.kind.Takes v → ofText .toml text = .error (.configuration (.unfitSettings .toml)) := by
  constructor
  · intro s hs
    rcases exists_of_ofText hs with ⟨j, hj, -⟩
    rcases Option.map_eq_some_iff.1 hj with ⟨_, hread, -⟩
    rcases Option.map_eq_some_iff.1 hread with ⟨document, hdocument, -⟩
    exact ⟨document, hdocument, keeps_of_ofText hs hdocument⟩
  · intro document setting v h hleads hnot
    rcases ofText_toml_cases h with ⟨s, hs⟩ | hunfit
    · exact absurd ((keeps_of_ofText hs h).takes setting v hleads) hnot
    · exact hunfit

/-- A document whose level of logging is a day, with a Polish locale whose group of the hour is infinite. -/
def polishText : String :=
  "log_level = 1979-05-27\n[locales.pl]\ndecimal_separator = ','\n" ++
    "[locales.pl.date_format_groups]\nday = 1\nmonth = 2\nyear = 3\nhour = inf\nminute = 6\n"

def polishDocument : Value :=
  .table [("log_level", .moment (.day ⟨1979, 5, 27⟩)),
    ("locales", .table [("pl", .table [("decimal_separator", .text ","),
      ("date_format_groups", .table [("day", .integer 1), ("month", .integer 2), ("year", .integer 3),
        ("hour", .decimal (.infinite false)), ("minute", .integer 6)])])])]

theorem read?_polishText : Toml.read? polishText = some polishDocument := by
  decide +kernel

def polishSettings : Settings where
  logLevel := "1979-05-27"
  locales := .ofList [("pl", { groups := ⟨1, 2, 3, none, some 6, none⟩, decimalSeparator := ',' })]

theorem ofText_toml_keeps_polish :
    Toml.read? polishText = some polishDocument ∧ ofText .toml polishText = .ok polishSettings ∧
    polishSettings.Keeps polishDocument ∧
    ofText .toml "async_timeout_ms = '5'" = .error (.configuration (.unfitSettings .toml)) := by
  have hread := read?_polishText
  have hquoted : Toml.read? "async_timeout_ms = '5'" = some (.table [("async_timeout_ms", .text "5")]) := by
    decide +kernel
  have hs : ofText .toml polishText = .ok polishSettings :=
    ofText_of_described (documentOf_toml hread) (Toml.distinct_read? hread).toJson
      { shape := trivial, debug := rfl, logLevel := rfl, locale := rfl, asyncTimeout := rfl, locales := rfl }
  rcases (ofText_toml_keeps polishText).1 _ hs with ⟨document, hdocument, hkeeps⟩
  cases hread.symm.trans hdocument
  have hunfit := (ofText_toml_keeps "async_timeout_ms = '5'").2 _ .asyncTimeout _ hquoted
    ⟨_, _, rfl, List.mem_singleton_self _, rfl⟩ fun h => by cases h
  exact ⟨hread, hs, hkeeps, hunfit⟩

/-- A time limit that a document gives may be lost: where it is not a number, it is absent from the settings. -/
theorem asyncTimeout_lost :
    ¬∀ text document s setting v, Toml.read? text = some document → ofText .toml text = .ok s →
      document.Leads (Setting.path setting) v → ∃ held, setting.held? s = some held := by
  intro hall
  have hread : Toml.read? "async_timeout_ms = nan" = some (.table [("async_timeout_ms", .decimal .nan)]) := by
    decide +kernel
  have hs : ofText .toml "async_timeout_ms = nan" = .ok {} :=
    ofText_of_described (documentOf_toml hread) (Toml.distinct_read? hread).toJson
      { shape := trivial, debug := rfl, logLevel := rfl, locale := rfl, asyncTimeout := rfl, locales := rfl }
  rcases hall _ _ _ .asyncTimeout _ hread hs ⟨_, _, rfl, List.mem_singleton_self _, rfl⟩ with ⟨_, hheld⟩
  cases hheld

end Settings
end FormValidation
