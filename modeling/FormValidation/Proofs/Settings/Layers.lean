import FormValidation.Proofs.Engine.Configured
import FormValidation.Proofs.Settings.Document
import FormValidation.Proofs.Text.LowerCase
import FormValidation.Proofs.Text.Numeral

/-!
# The layers of settings

Variables of the environment go before what a settings file says, and that goes before the defaults
(`Settings.Layered`).  Settings that are loaded are layered like this, whichever function puts texts in lower
case; putting the variables in once more changes nothing; and a time limit is the same whether a file or the
environment asks for it (`Settings.load_layered`).
-/

namespace FormValidation

namespace Settings

open Text (LowerCase)

/-! ## The variables -/

variable {l : LowerCase} {text : String} {env : Environment} {s : Settings}

/-- What a text asks for as the time limit: none at all, or so many milliseconds. -/
inductive AsksFor (l : LowerCase) (text : String) : Option Nat → Prop where
  | noLimit (h : l.lower (Text.trim text) ∈ ["", "0", "none"]) : AsksFor l text none
  | limit {n : Nat} (hword : l.lower (Text.trim text) ∉ ["", "0", "none"])
      (h : Text.IsUnsigned64 (l.lower (Text.trim text)).toList n) : AsksFor l text (some n)

theorem isPlain_of_mem_debugWords : ∀ word ∈ debugWords, Text.IsPlain word := by
  decide

theorem isPlain_of_mem_clearingWords : ∀ word ∈ clearingWords, Text.IsPlain word := by
  decide

/-- A digit, like a plus, is an ASCII character and no letter. -/
theorem isPlain_of_isUnsigned64 {word : String} {n : Nat} (h : Text.IsUnsigned64 word.toList n) :
    Text.IsPlain word := by
  rcases h with ⟨digits, -, hdigits, hword, -⟩
  have hplain : ∀ c ∈ digits, c.toNat < 128 ∧ c ≠ 'k' := by
    intro c hc
    have hdigit : 48 ≤ c.toNat ∧ c.toNat ≤ 57 := Char.isDigit_iff_toNat.1 (hdigits c hc)
    refine ⟨by omega, ?_⟩
    rintro rfl
    exact absurd hdigit (by decide)
  intro c hc
  rcases hword with hword | hword
  · exact hplain c (hword ▸ hc)
  · rcases List.mem_cons.1 (hword ▸ hc) with rfl | hc
    · decide
    · exact hplain c hc

theorem isUnsigned64_lower_iff (l : LowerCase) {n : Nat} :
    Text.IsUnsigned64 (l.lower text).toList n ↔ Text.IsUnsigned64 (Text.lower text).toList n := by
  constructor
  · intro h
    rwa [(l.lower_eq_iff (isPlain_of_isUnsigned64 h)).1 rfl]
  · intro h
    rwa [(l.lower_eq_iff (isPlain_of_isUnsigned64 h)).2 rfl]

theorem contains_clearingWords_iff (l : LowerCase) :
    clearingWords.contains (Text.lower text) = true ↔ l.lower text ∈ ["", "0", "none"] := by
  rw [List.contains_iff_mem]
  exact (l.lower_mem_iff isPlain_of_mem_clearingWords).symm

theorem timeoutOf_of_asksFor {limit : Option Nat} (h : AsksFor l text limit) (old : Option Nat) :
    timeoutOf old text = limit := by
  rw [timeoutOf]
  cases h with
  | noLimit hword => exact if_pos ((contains_clearingWords_iff l).2 hword)
  | limit hword h =>
      rw [if_neg fun hmem => hword ((contains_clearingWords_iff l).1 hmem),
        Text.unsigned64?_eq_some_iff.2 ((isUnsigned64_lower_iff l).1 h)]
      rfl

/-- A text that asks for nothing changes nothing. -/
theorem timeoutOf_of_not_asksFor (h : ∀ limit, ¬AsksFor l text limit) (old : Option Nat) :
    timeoutOf old text = old := by
  have hword : l.lower (Text.trim text) ∉ ["", "0", "none"] := fun hmem => h none (.noLimit hmem)
  have hnumber : Text.unsigned64? (Text.lower (Text.trim text)).toList = none := by
    rw [Option.eq_none_iff_forall_ne_some]
    intro n hn
    exact h (some n) (.limit hword ((isUnsigned64_lower_iff l).2 (Text.unsigned64?_eq_some_iff.1 hn)))
  rw [timeoutOf, if_neg fun hmem => hword ((contains_clearingWords_iff l).1 hmem), hnumber]
  rfl

/-- The variables are put in once and for all. -/
theorem override_override (s : Settings) (env : Environment) :
    (s.override env).override env = s.override env := by
  have htimeout : ∀ old text, timeoutOf (timeoutOf old text) text = timeoutOf old text := by
    intro old text
    -- What a text asks for does not depend on what there was before.
    by_cases h : ∃ limit, AsksFor .letters text limit
    · rcases h with ⟨limit, h⟩
      rw [timeoutOf_of_asksFor h, timeoutOf_of_asksFor h]
    · rw [timeoutOf_of_not_asksFor (not_exists.1 h), timeoutOf_of_not_asksFor (not_exists.1 h)]
  simp only [override]
  cases env "VALIDATORS_DEBUG" <;> cases env "VALIDATORS_LOG_LEVEL" <;> cases env "VALIDATORS_LOCALE" <;>
    cases env "VALIDATORS_ASYNC_TIMEOUT_MS" <;> simp [htimeout]

/-! ## Layers -/

/-- Field by field the settings have the value of the variable of the environment, otherwise what the document
gives, and otherwise the default. -/
structure Layered (l : LowerCase) (env : Environment) (document : Json) (s : Settings) : Prop where
  debug :
    match env "VALIDATORS_DEBUG" with
    | some text => s.debug = true ↔ l.lower text ∈ ["true", "1", "yes"]
    | none => Field.debug.Gives Json.asBool ({} : Settings).debug document s.debug
  logLevel :
    match env "VALIDATORS_LOG_LEVEL" with
    | some text => s.logLevel = text
    | none => Field.logLevel.Gives Json.asText ({} : Settings).logLevel document s.logLevel
  locale :
    match env "VALIDATORS_LOCALE" with
    | some text => s.locale = text
    | none => Field.locale.Gives Json.asText ({} : Settings).locale document s.locale
  /-- The variable only counts if it asks for something. -/
  asyncTimeout :
    (∃ text, env "VALIDATORS_ASYNC_TIMEOUT_MS" = some text ∧ AsksFor l text s.asyncTimeout) ∨
      (∀ text, env "VALIDATORS_ASYNC_TIMEOUT_MS" = some text → ∀ limit, ¬AsksFor l text limit) ∧
        Field.asyncTimeout.Gives (Json.asOption Json.asNatural) ({} : Settings).asyncTimeout document
          s.asyncTimeout
  /-- There is no variable for the locales. -/
  locales : Field.locales.Gives localesOf ({} : Settings).locales document s.locales

theorem layered_override (l : LowerCase) (env : Environment) {document : Json}
    (h : Described document s) : Layered l env document (s.override env) := by
  -- Where a variable is set the document does not matter, and otherwise the variable does not.
  refine { debug := ?_, logLevel := ?_, locale := ?_, asyncTimeout := ?_, locales := h.locales }
  · cases henv : env "VALIDATORS_DEBUG" with
    | some text =>
        simp only [override, henv, Option.map_some, Option.getD_some]
        rw [List.contains_iff_mem]
        exact (l.lower_mem_iff isPlain_of_mem_debugWords).symm
    | none =>
        simp only [override, henv, Option.map_none, Option.getD_none]
        exact h.debug
  · cases henv : env "VALIDATORS_LOG_LEVEL" with
    | some text => simp only [override, henv, Option.getD_some]
    | none =>
        simp only [override, henv, Option.getD_none]
        exact h.logLevel
  · cases henv : env "VALIDATORS_LOCALE" with
    | some text => simp only [override, henv, Option.getD_some]
    | none =>
        simp only [override, henv, Option.getD_none]
        exact h.locale
  · cases henv : env "VALIDATORS_ASYNC_TIMEOUT_MS" with
    | none =>
        simp only [override, henv]
        exact .inr ⟨nofun, h.asyncTimeout⟩
    | some text =>
        simp only [override, henv]
        by_cases hasks : ∃ limit, AsksFor l text limit
        · rcases hasks with ⟨limit, hasks⟩
          rw [timeoutOf_of_asksFor hasks]
          exact .inl ⟨text, rfl, hasks⟩
        · rw [timeoutOf_of_not_asksFor (not_exists.1 hasks)]
          refine .inr ⟨?_, h.asyncTimeout⟩
          rintro _ ⟨⟩
          exact not_exists.1 hasks

/-! ## Time limits -/

/-- Whichever engine the settings describe has the time limit. -/
def HasLimit (s : Settings) (limit : Option Nat) : Prop :=
  ∀ e, Engine.ofSettings s = .ok e → e.timeLimit = limit

/-- The time limit that so many milliseconds stand for. -/
def limitOf (n : Nat) : Option Nat :=
  if n = 0 then none else some n

/-- A document that asks for a time limit and for nothing else. -/
def limitDocument (n : Nat) : Json :=
  .obj [("async_timeout_ms", .num (.natural n))]

theorem timeLimit?_of_some {n : Nat} (h : s.asyncTimeout = some n) : s.timeLimit? = limitOf n := by
  rw [timeLimit?, h, limitOf]
  by_cases hn : n = 0
  · subst hn
    rfl
  · rw [if_neg hn]
    exact Option.filter_some_pos (decide_eq_true (Nat.pos_of_ne_zero hn))

theorem hasLimit_of_given {document : Json} {n : Nat} (h : Described document s)
    (hgiven : Field.asyncTimeout.given? document = some (.num (.natural n))) : s.HasLimit (limitOf n) := by
  have htimeout := h.asyncTimeout
  rw [Field.Gives, hgiven] at htimeout
  intro e he
  rw [(Engine.ofSettings_eq_ok he).2.2, timeLimit?_of_some (Option.some.inj htimeout).symm]

/-- A numeral asks for its number; the one that is a word of its own asks for no limit, which zero stands for. -/
theorem hasLimit_of_numeral {n : Nat} (henv : env "VALIDATORS_ASYNC_TIMEOUT_MS" = some text)
    (h : Text.IsUnsigned64 (l.lower (Text.trim text)).toList n) :
    (s.override env).HasLimit (limitOf n) := by
  intro e he
  rw [(Engine.ofSettings_eq_ok he).2.2]
  have htimeout : (s.override env).asyncTimeout = timeoutOf s.asyncTimeout text := by
    simp only [override, henv]
  by_cases hword : l.lower (Text.trim text) ∈ ["", "0", "none"]
  · have hzero : n = 0 := by
      have hread := Text.unsigned64?_eq_some_iff.2 h
      simp only [List.mem_cons, List.not_mem_nil, or_false] at hword
      rcases hword with hword | hword | hword <;> rw [hword] at hread
      · cases hread
      · exact (Option.some.inj hread).symm
      · cases hread
    rw [timeLimit?, htimeout, timeoutOf_of_asksFor (.noLimit hword), hzero]
    rfl
  · refine timeLimit?_of_some ?_
    rw [htimeout, timeoutOf_of_asksFor (.limit hword h)]

theorem ofText_limitDocument {n : Nat} (h : n < 2 ^ 64) :
    ofText .json (limitDocument n).compact = .ok { asyncTimeout := some n } := by
  have hdistinct : (limitDocument n).Distinct :=
    .obj (List.nodup_singleton _) (List.forall_mem_singleton.2 (.num _))
  have hread : Json.read? (limitDocument n).compact = some (limitDocument n) :=
    Json.read?_compact (And.intro h trivial)
  refine ofText_json_of_described hread hdistinct ?_
  exact { shape := trivial, debug := rfl, logLevel := rfl, locale := rfl, asyncTimeout := rfl, locales := rfl }

/-! ## Loading -/

/-- A document that says nothing describes the default settings. -/
theorem ofText_emptyDocument : ofText .json "\x7b\x7d" = .ok {} := by
  have htext : Json.compact (.obj []) = "\x7b\x7d" := by
    decide
  have hread : Json.read? "\x7b\x7d" = some (.obj []) :=
    htext ▸ Json.read?_compact (j := .obj []) trivial
  refine ofText_json_of_described hread (.obj List.nodup_nil nofun) ?_
  exact { shape := trivial, debug := rfl, logLevel := rfl, locale := rfl, asyncTimeout := rfl, locales := rfl }

/-- What is loaded are the variables over the file over the defaults; the variables can be put in again without
a change, and where there is no file there might be one that says nothing.  A number of milliseconds has the
same effect in a file as in the environment. -/
theorem load_layered (l : LowerCase) :
    (∀ files env path s₀, ofFile files path = .ok s₀ →
      ∃ text document s, files path = some text ∧ documentOf (formatOf path) text = some document ∧
        load files env (some path) = .ok s ∧ Layered l env document s ∧ s.locales = s₀.locales) ∧
    (∀ files env path x, ofFile files path = .error x → load files env (some path) = .error x) ∧
    (∀ s env, (override s env).override env = override s env) ∧
    (∀ files env, load files env none = (ofText .json "\x7b\x7d").map fun s => s.override env) ∧
    ∀ n < 2 ^ 64,
      (∀ format text document s, documentOf format text = some document →
        Field.asyncTimeout.given? document = some (.num (.natural n)) → ofText format text = .ok s →
        s.HasLimit (limitOf n)) ∧
      (∀ env text s, env "VALIDATORS_ASYNC_TIMEOUT_MS" = some text →
        Text.IsUnsigned64 (l.lower (Text.trim text)).toList n → (override s env).HasLimit (limitOf n)) ∧
      ofText .json (limitDocument n).compact = .ok { asyncTimeout := some n } ∧
      ∃ e, Engine.ofSettings { asyncTimeout := some n } = .ok e := by
  refine ⟨?_, ?_, override_override, ?_, ?_⟩
  · intro files env path s₀ h
    have htext : ∃ text, files path = some text ∧ ofText (formatOf path) text = .ok s₀ := by
      rw [ofFile, ofFileAs] at h
      cases hfile : files path with
      | none => rw [hfile] at h; cases h
      | some text => rw [hfile] at h; exact ⟨text, rfl, h⟩
    rcases htext with ⟨text, hfile, hs₀⟩
    rcases exists_of_ofText hs₀ with ⟨document, hdocument, hdescribed⟩
    refine ⟨text, document, s₀.override env, hfile, hdocument, ?_, layered_override l env hdescribed, rfl⟩
    rw [load, h]
    rfl
  · intro files env path x h
    rw [load, h]
    rfl
  · intro files env
    rw [load, ofText_emptyDocument]
    rfl
  · intro n hn
    refine ⟨?_, fun env text s => hasLimit_of_numeral, ofText_limitDocument hn, ?_⟩
    · intro format text document s hdocument hgiven hs
      rcases exists_of_ofText hs with ⟨document', hdocument', hdescribed⟩
      rw [hdocument] at hdocument'
      cases hdocument'
      exact hasLimit_of_given hdescribed hgiven
    · exact ⟨_, rfl⟩

/-- A document that sets the level of logging and a time limit. -/
def quietDocument : Json :=
  .obj [("log_level", .str "warn"), ("async_timeout_ms", .num (.natural 5))]

def quietFiles : Files := fun path =>
  if path = "quiet.json" then some quietDocument.pretty else none

/-- An environment that switches debugging on and asks for another time limit. -/
def patientEnvironment : Environment
  | "VALIDATORS_DEBUG" => some "Yes"
  | "VALIDATORS_ASYNC_TIMEOUT_MS" => some " +0300 "
  | _ => none

theorem load_layered_quiet :
    ofFile quietFiles "quiet.json" = .ok { logLevel := "warn", asyncTimeout := some 5 } ∧
      (∃ document s, load quietFiles patientEnvironment (some "quiet.json") = .ok s ∧
        Layered .letters patientEnvironment document s) ∧
      Text.IsUnsigned64 (Text.lower (Text.trim " +0300 ")).toList 300 ∧
      (override {} patientEnvironment).HasLimit (some 300) := by
  have hfile : ofFile quietFiles "quiet.json" = .ok { logLevel := "warn", asyncTimeout := some 5 } := by
    have hdistinct : quietDocument.Distinct := by
      refine .obj (by decide) ?_
      simp only [List.forall_mem_cons]
      exact ⟨.str _, .num _, nofun⟩
    have hread : Json.read? quietDocument.pretty = some quietDocument := by
      refine Json.read?_pretty (And.intro trivial (And.intro ?_ trivial))
      exact (by decide : 5 < 0x10000000000000000)
    have htext : ofText .json quietDocument.pretty = .ok { logLevel := "warn", asyncTimeout := some 5 } :=
      ofText_json_of_described hread hdistinct
        { shape := trivial, debug := rfl, logLevel := rfl, locale := rfl, asyncTimeout := rfl, locales := rfl }
    have hformat : formatOf "quiet.json" = .json := by
      decide +kernel
    rw [ofFile, ofFileAs, hformat, quietFiles, if_pos rfl]
    exact htext
  have hnumeral : Text.IsUnsigned64 (Text.lower (Text.trim " +0300 ")).toList 300 :=
    Text.unsigned64?_eq_some_iff.1 (by decide +kernel)
  rcases (load_layered .letters).1 quietFiles patientEnvironment "quiet.json" _ hfile with
    ⟨-, document, s, -, -, hload, hlayered, -⟩
  have hlimit := ((load_layered .letters).2.2.2.2 300 (by decide)).2.1 patientEnvironment " +0300 " {} rfl
  exact ⟨hfile, ⟨document, s, hload, hlayered⟩, hnumeral, hlimit hnumeral⟩

end Settings
end FormValidation
