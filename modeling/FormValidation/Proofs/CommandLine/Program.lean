import FormValidation.CommandLine.Program
import FormValidation.Proofs.Calendar.Printing
import FormValidation.Proofs.CommandLine.Arguments
import FormValidation.Proofs.Engine.Synchronous
import FormValidation.Proofs.Form.Document
import FormValidation.Proofs.Json.Layout

/-!
# The program and what it runs

The program loads settings, makes an engine of them under the locale that is asked for, and has a form validated
or a date read (`Checks`, `Reads`).  Its exit code tells whether all of that succeeded and what came of it, and
what it prints is that (`Program.report_agrees`).  Lines that are logged on the way are no part of a report, and
nothing is said about them here.
-/

namespace FormValidation

/-! ## Engines of settings -/

namespace Settings

/-- The engine of the settings, under the locale that is given, if there is one. -/
def Sets (s : Settings) (locale : Option String) (e : Engine) : Prop :=
  ∃ e₀, Engine.ofSettings s = .ok e₀ ∧
    match locale with
    | none => e = e₀
    | some name => e₀.setLocale name = .ok e

variable {s : Settings} {locale : Option String} {e : Engine}

theorem engine_eq_ok_iff : s.engine locale = .ok e ↔ s.Sets locale e := by
  rw [engine, bind_eq_ok]
  cases locale with
  | none =>
      constructor
      · rintro ⟨e₀, he₀, h⟩
        cases h
        exact ⟨e, he₀, rfl⟩
      · rintro ⟨e₀, he₀, rfl⟩
        exact ⟨e, he₀, rfl⟩
  | some name => exact .rfl

namespace Sets

/-- It is one of the settings in which the locale is active that is asked for. -/
theorem exists_engine (h : s.Sets locale e) :
    ∃ e₀, Engine.ofSettings s = .ok e₀ ∧
      e = { e₀ with locales := { e₀.locales with active := some (locale.getD s.locale) } } := by
  rcases h with ⟨e₀, he₀, h⟩
  refine ⟨e₀, he₀, ?_⟩
  cases locale with
  | none =>
      cases h
      rw [Option.getD_none, ← (Engine.ofSettings_eq_ok he₀).1]
  | some name => exact Engine.setLocale_eq_ok h

theorem active (h : s.Sets locale e) : e.locales.active = some (locale.getD s.locale) := by
  rcases h.exists_engine with ⟨e₀, -, rfl⟩
  rfl

theorem validators (h : s.Sets locale e) : e.validators = .empty := by
  rcases h.exists_engine with ⟨e₀, he₀, rfl⟩
  exact (Engine.ofSettings_eq_ok he₀).2.1

theorem configured (h : s.Sets locale e) : e.Configured := by
  rcases h with ⟨e₀, he₀, h⟩
  cases locale with
  | none =>
      cases h
      exact .ofSettings he₀
  | some name => exact .setLocale (.ofSettings he₀) h

/-- The locale that is asked for is there. -/
theorem exists_locale (h : s.Sets locale e) :
    ∃ l, e.locales.get? (locale.getD s.locale) = some l ∧ e.locales.current = .ok l := by
  rcases h.configured.exists_current with ⟨l, hl⟩
  have hcurrent := hl
  rw [LocaleTable.current, h.active] at hcurrent
  cases hget : e.locales.get? (locale.getD s.locale) with
  | none => simp [hget] at hcurrent
  | some l' =>
      simp only [hget] at hcurrent
      cases hcurrent
      exact ⟨l, rfl, hl⟩

end Sets

end Settings

/-! ## What is run -/

section

variable (files : Settings.Files) (env : Settings.Environment)

/-- The settings are loaded, the form is read, and an engine of the settings validates it with the outcome. -/
inductive Checks (settings : Option String) (form : String) (group locale : Option String) :
    RunOutcome → Prop where
  | intro {s : Settings} {text : String} {f : Form} {e : Engine} {outcome : RunOutcome}
      (hsettings : Settings.load files env settings = .ok s) (hfile : files form = some text)
      (hform : Form.ofText text = .ok f) (hengine : s.Sets locale e)
      (houtcome : (e.validate f group).2 = .ok outcome) : Checks settings form group locale outcome

/-- The settings are loaded, and an engine of them reads the date in the locale that is asked for. -/
inductive Reads (settings locale : Option String) (input : String) : Except DateError Instant → Prop where
  | intro {s : Settings} {e : Engine} {l : Locale} (hsettings : Settings.load files env settings = .ok s)
      (hengine : s.Sets locale e) (hlocale : e.locales.get? (locale.getD s.locale) = some l) :
      Reads settings locale input (l.readDate input)

variable {files env}

theorem checks_iff {settings group locale : Option String} {form : String} {outcome : RunOutcome} :
    (Settings.load files env settings >>= fun s => s.checkForm files form group locale) = .ok outcome ↔
      Checks files env settings form group locale outcome := by
  constructor
  · intro h
    rcases bind_eq_ok.1 h with ⟨s, hs, h⟩
    rcases bind_eq_ok.1 h with ⟨f, hf, h⟩
    rcases bind_eq_ok.1 h with ⟨e, he, h⟩
    rw [Settings.formOf] at hf
    cases hfile : files form with
    | none => simp [hfile] at hf
    | some text =>
        rw [hfile] at hf
        exact .intro hs hfile hf (Settings.engine_eq_ok_iff.1 he) h
  · rintro ⟨hs, hfile, hform, hengine, houtcome⟩
    refine bind_eq_ok.2 ⟨_, hs, bind_eq_ok.2 ⟨_, ?_, bind_eq_ok.2 ⟨_, ?_, houtcome⟩⟩⟩
    · rw [Settings.formOf, hfile]
      exact hform
    · exact Settings.engine_eq_ok_iff.2 hengine

/-- What the program finds out about a date is whether there is one. -/
theorem reads_iff {settings locale : Option String} {input : String} {date : Option Instant} :
    (Settings.load files env settings >>= fun s => s.readDate input locale) = .ok date ↔
      ∃ result, Reads files env settings locale input result ∧ date = result.toOption := by
  constructor
  · intro h
    rcases bind_eq_ok.1 h with ⟨s, hs, h⟩
    rcases bind_eq_ok.1 h with ⟨e, he, h⟩
    cases h
    have hsets := Settings.engine_eq_ok_iff.1 he
    -- The active locale of the engine is the one that was asked for.
    rcases hsets.exists_locale with ⟨l, hget, hl⟩
    refine ⟨_, .intro hs hsets hget, ?_⟩
    rw [Engine.date?, hl]
    rfl
  · rintro ⟨result, ⟨hs, hsets, hlocale⟩, rfl⟩
    rcases hsets.exists_locale with ⟨l, hget, hl⟩
    rw [hlocale] at hget
    cases hget
    refine bind_eq_ok.2 ⟨_, hs, bind_eq_ok.2 ⟨_, Settings.engine_eq_ok_iff.2 hsets, ?_⟩⟩
    rw [Engine.date?, hl]
    rfl

/-- There is one result only. -/
theorem Reads.unique {settings locale : Option String} {input : String}
    {result result' : Except DateError Instant} (h : Reads files env settings locale input result)
    (h' : Reads files env settings locale input result') : result' = result := by
  rcases h with ⟨hs, hsets, hlocale⟩
  rcases h' with ⟨hs', hsets', hlocale'⟩
  cases hs.symm.trans hs'
  cases (Settings.engine_eq_ok_iff.2 hsets).symm.trans (Settings.engine_eq_ok_iff.2 hsets')
  cases hlocale.symm.trans hlocale'
  rfl

end

/-! ## Custom rules -/

theorem mem_of_mapM_eq_ok {ε α β : Type} {f : α → Except ε β} {as : List α} {bs : List β}
    (h : as.mapM f = .ok bs) {a : α} {b : β} (ha : a ∈ as) (hb : f a = .ok b) : b ∈ bs := by
  induction as generalizing bs with
  | nil => cases ha
  | cons a' as ih =>
      rw [List.mapM_cons] at h
      rcases bind_eq_ok.1 h with ⟨b', hb', h⟩
      rcases bind_eq_ok.1 h with ⟨bs', hbs', h⟩
      cases h
      rcases List.mem_cons.1 ha with rfl | ha
      · cases hb.symm.trans hb'
        exact List.mem_cons_self
      · exact List.mem_cons_of_mem _ (ih hbs' ha)

/-- One of the declarations of the form is a custom rule that the request asks for. -/
def Form.AsksForCustom (form : Form) (requested : Option String) : Prop :=
  ∃ d ∈ form.validators, ∃ r, Rule.ofAttributes d.attributes = .ok r ∧ r.kind = .custom ∧
    r.isApplicable requested = true

/-- Without validators no run comes to an end that has a custom rule to evaluate. -/
theorem Engine.validate_ne_ok_of_asksForCustom {e : Engine} (he : e.validators = .empty) {form : Form}
    {requested : Option String} (h : form.AsksForCustom requested) (outcome : RunOutcome) :
    (e.validate form requested).2 ≠ .ok outcome := by
  rcases h with ⟨d, hd, r, hr, hkind, happlicable⟩
  intro hrun
  rcases validate_eq_ok_iff.1 hrun with ⟨l, rules, -, hrules, hnone, -⟩
  have hmem : r ∈ rules := mem_of_mapM_eq_ok hrules hd hr
  rcases synchronousStep_of_refusal?_eq_none (hnone r hmem) with
    ⟨hnot, -⟩ | ⟨-, evaluation, hevaluation, -, -⟩
  · rw [happlicable] at hnot
    cases hnot
  · rcases bind_eq_ok.1 hevaluation with ⟨control, -, hon⟩
    rw [Rule.evaluateOn, if_pos hkind, he] at hon
    -- The rule would have to find the validator that it names.
    rcases Rule.delegate_eq_ok hon with ⟨name, decide, value, -, hget, -, -⟩
    rw [NameMap.get?_empty] at hget
    cases hget

/-! ## Outcomes as text -/

namespace RunOutcome

/-- The text is a JSON object that tells the status and the messages. -/
def IsToldBy (o : RunOutcome) (text : String) : Prop :=
  ∃ members, Json.read? text = some (.obj members) ∧
    Json.required "status" Json.asBool members = some o.status ∧
    Json.required "messages" (Json.asList Json.asText) members = some o.messages

theorem isToldBy_json (o : RunOutcome) : o.IsToldBy o.json := by
  have hmessages : Json.FitsItems (o.messages.map Json.str) (Json.Reader.depthLimit - 2) := by
    rw [Json.fitsItems_iff, List.forall_mem_map]
    exact fun _ _ => trivial
  have hfits : o.toJson.Fits Json.Reader.depthLimit := ⟨trivial, hmessages, trivial⟩
  have htext : ∀ message, Json.asText (.str message) = some message := fun _ => rfl
  exact ⟨_, Json.read?_pretty hfits, rfl, Json.asList_map htext o.messages⟩

end RunOutcome

/-! ## Reports -/

/-- What `check` leaves behind, given which outcomes there are. -/
structure CheckReport (outcome : RunOutcome → Prop) (asJson : Bool) (r : Report) : Prop where
  valid : r.exitCode = 0 ↔ ∃ o, outcome o ∧ o.status = true
  invalid : r.exitCode = 1 ↔ ∃ o, outcome o ∧ o.status = false
  printed : ∀ o, outcome o → r.printed = o.render asJson ++ "\n" ∧ r.errors = ""
  failed : (¬∃ o, outcome o) → r.exitCode = 2 ∧ r.printed = ""

/-- What `parse-date` leaves behind, given which results of reading there are. -/
structure DateReport (result : Except DateError Instant → Prop) (r : Report) : Prop where
  date : r.exitCode = 0 ↔ ∃ i, result (.ok i)
  printed : ∀ i, result (.ok i) → r.printed = i.text ++ "\n" ∧ i.IsToldBy i.text ∧ r.errors = ""
  noDate : r.exitCode = 1 ↔ ∃ x, result (.error x)
  notPrinted : (¬∃ i, result (.ok i)) → r.printed = ""
  failed : (¬∃ x, result x) → r.exitCode = 2

theorem checkReport_of_error {outcome : RunOutcome → Prop} (h : ¬∃ o, outcome o) (asJson : Bool)
    (x : Error) : CheckReport outcome asJson (.ofError x) where
  valid := iff_of_false (nofun : (2 : Nat) ≠ 0) fun ⟨o, ho, _⟩ => h ⟨o, ho⟩
  invalid := iff_of_false (nofun : (2 : Nat) ≠ 1) fun ⟨o, ho, _⟩ => h ⟨o, ho⟩
  printed o ho := absurd ⟨o, ho⟩ h
  failed _ := ⟨rfl, rfl⟩

theorem checkReport_of_outcome {outcome : RunOutcome → Prop} {o : RunOutcome}
    (h : ∀ o', outcome o' ↔ o' = o) (asJson : Bool) :
    CheckReport outcome asJson ⟨if o.status then 0 else 1, o.render asJson ++ "\n", ""⟩ := by
  obtain rfl : outcome = fun o' => o' = o := funext fun o' => propext (h o')
  refine { valid := ?_, invalid := ?_, printed := ?_, failed := fun hnone => absurd ⟨o, rfl⟩ hnone }
  · cases hstatus : o.status <;> simp [hstatus]
  · cases hstatus : o.status <;> simp [hstatus]
  · rintro _ rfl
    exact ⟨rfl, rfl⟩

theorem dateReport_of_error {result : Except DateError Instant → Prop} (h : ¬∃ x, result x) (x : Error) :
    DateReport result (.ofError x) where
  date := iff_of_false (nofun : (2 : Nat) ≠ 0) fun ⟨i, hi⟩ => h ⟨.ok i, hi⟩
  printed i hi := absurd ⟨.ok i, hi⟩ h
  noDate := iff_of_false (nofun : (2 : Nat) ≠ 1) fun ⟨x, hx⟩ => h ⟨.error x, hx⟩
  notPrinted _ := rfl
  failed _ := rfl

/-- What is left behind when a date was read, or none. -/
def dateReport (input : String) : Option Instant → Report
  | some i => ⟨0, i.text ++ "\n", ""⟩
  | none => ⟨1, "", "Not a valid date: " ++ input ++ "\n"⟩

theorem dateReport_of_result {result : Except DateError Instant → Prop} {x : Except DateError Instant}
    (h : ∀ x', result x' ↔ x' = x) (input : String) :
    DateReport result (dateReport input x.toOption) := by
  obtain rfl : result = fun x' => x' = x := funext fun x' => propext (h x')
  cases x with
  | error x =>
      exact
        { date := iff_of_false (nofun : (1 : Nat) ≠ 0) nofun
          printed := nofun
          noDate := iff_of_true rfl ⟨x, rfl⟩
          notPrinted := fun _ => rfl
          failed := fun hnone => absurd ⟨_, rfl⟩ hnone }
  | ok i =>
      refine
        { date := iff_of_true rfl ⟨i, rfl⟩
          printed := ?_
          noDate := iff_of_false (nofun : (0 : Nat) ≠ 1) nofun
          notPrinted := fun hnone => absurd ⟨i, rfl⟩ hnone
          failed := fun hnone => absurd ⟨_, rfl⟩ hnone }
      rintro _ ⟨⟩
      exact ⟨rfl, i.isToldBy_text, rfl⟩

/-! ## The program -/

namespace Program

variable {wording : Usage → String} {files : Settings.Files} {env : Settings.Environment}
  {words : List String} {a : Arguments} {m : Matches} {argument : String}

/-- The subcommand that was read is run with the settings. -/
theorem report_eq (h : CommandTable.full.grammar.read words = .ok a) {c : Command}
    (hcommand : a.command = some (c.name, m)) :
    report wording files env words =
      .ofResult (Settings.load files env a.settingsPath >>= fun s => c.run files s m) := by
  rw [report, h]
  show Report.ofResult (a.run files env) = _
  simp only [Arguments.run, CommandTable.execute, hcommand, CommandTable.get?_name]

theorem checkReport_report (h : CommandTable.full.grammar.read words = .ok a)
    (hcommand : a.command = some ("check", m)) (hargument : m.argument = some argument) :
    CheckReport (Checks files env a.settingsPath argument (m.option? "group") (m.option? "locale"))
      (m.flag "json") (report wording files env words) := by
  have hrun : (Settings.load files env a.settingsPath >>= fun s => Command.check.run files s m) =
      (Settings.load files env a.settingsPath >>= fun s =>
        s.checkForm files argument (m.option? "group") (m.option? "locale")) >>= fun o =>
          .ok ⟨if o.status then 0 else 1, o.render (m.flag "json") ++ "\n", ""⟩ := by
    rw [bind_assoc]
    simp only [Command.run, hargument, Option.getD_some]
    rfl
  rw [report_eq (c := .check) h hcommand, hrun]
  -- All that can fail fails before anything is reported.
  cases hresult : Settings.load files env a.settingsPath >>= fun s =>
      s.checkForm files argument (m.option? "group") (m.option? "locale") with
  | error x =>
      refine checkReport_of_error ?_ _ x
      rintro ⟨o, ho⟩
      rw [← checks_iff, hresult] at ho
      cases ho
  | ok o =>
      refine checkReport_of_outcome ?_ _
      intro o'
      rw [← checks_iff, hresult, Except.ok.injEq, eq_comm]

theorem dateReport_report (h : CommandTable.full.grammar.read words = .ok a)
    (hcommand : a.command = some ("parse-date", m)) (hargument : m.argument = some argument) :
    DateReport (Reads files env a.settingsPath (m.option? "locale") argument)
      (report wording files env words) := by
  have hrun : (Settings.load files env a.settingsPath >>= fun s => Command.parseDate.run files s m) =
      (Settings.load files env a.settingsPath >>= fun s => s.readDate argument (m.option? "locale")) >>=
        fun date => .ok (dateReport argument date) := by
    rw [bind_assoc]
    simp only [Command.run, hargument, Option.getD_some]
    refine bind_congr fun s => bind_congr fun date => ?_
    cases date <;> rfl
  rw [report_eq (c := .parseDate) h hcommand, hrun]
  cases hresult : Settings.load files env a.settingsPath >>= fun s =>
      s.readDate argument (m.option? "locale") with
  | error x =>
      refine dateReport_of_error ?_ x
      rintro ⟨result, hreads⟩
      have hok := reads_iff.2 ⟨result, hreads, rfl⟩
      rw [hresult] at hok
      cases hok
  | ok date =>
      rcases reads_iff.1 hresult with ⟨result, hreads, rfl⟩
      refine dateReport_of_result ?_ argument
      intro result'
      constructor
      · exact hreads.unique
      · rintro rfl
        exact hreads

/-- Of arguments that are read, `check` and `parse-date` end the program with what the library makes of the files.
The exit code tells whether there is an outcome and what it is, and the outcome is printed, or nothing if there is
none; lines that are logged are another matter.  Without validators there is none for a form with a custom rule that
is asked for.  What is printed as JSON tells the outcome, and what is printed of a date tells the instant and no
other one. -/
theorem report_agrees (wording : Usage → String) (files : Settings.Files) (env : Settings.Environment)
    (words : List String) (a : Arguments) (h : CommandTable.full.grammar.read words = .ok a) :
    (∀ m, a.command = some ("check", m) → ∃ form, m.argument = some form ∧
      CheckReport (Checks files env a.settingsPath form (m.option? "group") (m.option? "locale"))
        (m.flag "json") (report wording files env words) ∧
      ∀ text f, files form = some text → Form.ofText text = .ok f → f.AsksForCustom (m.option? "group") →
        (report wording files env words).exitCode = 2) ∧
    (∀ m, a.command = some ("parse-date", m) → ∃ input, m.argument = some input ∧
      DateReport (Reads files env a.settingsPath (m.option? "locale") input) (report wording files env words)) ∧
    (∀ o : RunOutcome, o.IsToldBy o.json) ∧ ∀ i i' : Instant, i'.IsToldBy i.text ↔ i' = i := by
  rcases CommandTable.exists_command h with ⟨c, m, argument, hcommand, hargument⟩
  refine ⟨?_, ?_, RunOutcome.isToldBy_json, Instant.isToldBy_text_iff⟩
  · intro m' hm'
    obtain ⟨-, rfl⟩ := Prod.mk.inj (Option.some.inj (hcommand.symm.trans hm'))
    have hreport : CheckReport
        (Checks files env a.settingsPath argument (m.option? "group") (m.option? "locale"))
        (m.flag "json") (report wording files env words) := checkReport_report h hm' hargument
    refine ⟨argument, hargument, hreport, ?_⟩
    intro text f hfile hform hcustom
    -- An outcome would be one of this form, and of an engine that knows no validator.
    refine (hreport.failed ?_).1
    rintro ⟨o, ho⟩
    rcases ho with ⟨-, hfile', hform', hsets, houtcome⟩
    cases hfile.symm.trans hfile'
    cases hform.symm.trans hform'
    exact Engine.validate_ne_ok_of_asksForCustom hsets.validators hcustom _ houtcome
  · intro m' hm'
    obtain ⟨-, rfl⟩ := Prod.mk.inj (Option.some.inj (hcommand.symm.trans hm'))
    exact ⟨argument, hargument, dateReport_report h hm' hargument⟩

/-- A form with a custom rule and nothing else. -/
def customForm : Form where
  controls := []
  validators := [.ofList [("validate", "custom"), ("function", "known")]]

/-- The members of the value that the form is written as. -/
def customMembers : List (String × Json) :=
  [("validators", .arr [.obj [("validate", .str "custom"), ("function", .str "known")]])]

/-- The members of a value that the empty form is written as. -/
def emptyMembers : List (String × Json) :=
  [("controls", .arr [])]

def formFiles : Settings.Files
  | "custom.json" => some (Json.compact (.obj customMembers))
  | "empty.json" => some (Json.compact (.obj emptyMembers))
  | _ => none

theorem ofText_members {members : List (String × Json)} (hne : members ≠ [])
    (hfits : Json.FitsMembers members (Json.Reader.depthLimit - 1))
    (hknown : ∀ m ∈ members, ["controls", "validators"].contains m.1 = true) {f : Form}
    (h : Form.ofJson? (.obj members) = some f) : Form.ofText (Json.compact (.obj members)) = .ok f := by
  rw [Form.ofText, Json.readMembers?_compact hne hfits hknown, Option.bind_some, h]

theorem report_agrees_custom :
    (report (fun _ => "") formFiles (fun _ => none)
        ["check", "--locale=fr", "--json", "--", "custom.json"]).exitCode = 2 ∧
      (report (fun _ => "") formFiles (fun _ => none) ["check", "--", "empty.json"]).printed =
        "Form is valid\n" ∧
      (report (fun _ => "") formFiles (fun _ => none) ["parse-date", "--", "2024-01-10 08:15"]).printed =
        "2024-01-10 08:15:00\n" := by
  have hcustom : CommandTable.full.grammar.read ["check", "--locale=fr", "--json", "--", "custom.json"] =
      .ok ⟨{}, some ("check", ⟨[("locale", "fr"), ("json", "")], some "custom.json"⟩)⟩ := by
    have hgiven : ∀ g ∈ [(Command.localeOption, "fr"), (⟨"json", none, .flag⟩, "")],
        g.1 ∈ Command.check.level.options ∧ g.1.Takes g.2 := by
      simp only [List.forall_mem_cons]
      exact ⟨⟨by decide, .inl rfl⟩, ⟨by decide, .inr ⟨rfl, rfl⟩⟩, nofun⟩
    exact CommandTable.read_words .check hgiven (by decide) "custom.json"
  have hbare : ∀ (c : Command) (argument : String),
      CommandTable.full.grammar.read [c.name, "--", argument] =
        .ok ⟨{}, some (c.name, ⟨[], some argument⟩)⟩ := by
    intro c argument
    have hgiven : ∀ g ∈ ([] : List (OptionSpec × String)), g.1 ∈ c.level.options ∧ g.1.Takes g.2 := nofun
    exact CommandTable.read_words c hgiven List.nodup_nil argument
  have hagrees := report_agrees (fun _ => "") formFiles (fun _ => none)
  have hsettings : Settings.load formFiles (fun _ => none) none = .ok {} := rfl
  refine ⟨?_, ?_, ?_⟩
  · have hfits : Json.FitsMembers customMembers (Json.Reader.depthLimit - 1) :=
      ⟨⟨⟨trivial, trivial, trivial⟩, trivial⟩, trivial⟩
    have hform : Form.ofText (Json.compact (.obj customMembers)) = .ok customForm :=
      ofText_members (List.cons_ne_nil _ _) hfits (by simp) rfl
    have hasks : customForm.AsksForCustom none :=
      ⟨_, List.mem_singleton_self _, _, rfl, rfl, rfl⟩
    rcases (hagrees _ _ hcustom).1 _ rfl with ⟨form, hargument, -, hexit⟩
    cases hargument
    exact hexit _ _ rfl hform hasks
  · have hfits : Json.FitsMembers emptyMembers (Json.Reader.depthLimit - 1) := ⟨trivial, trivial⟩
    have hform : Form.ofText (Json.compact (.obj emptyMembers)) = .ok .empty :=
      ofText_members (List.cons_ne_nil _ _) hfits (by simp) rfl
    rcases (hagrees _ _ (hbare .check "empty.json")).1 _ rfl with ⟨form, hargument, hreport, -⟩
    cases hargument
    -- Without rules there is nothing to refuse.
    have hengine : ∃ e, Engine.ofSettings {} = .ok e := ⟨_, rfl⟩
    rcases hengine with ⟨e, he⟩
    have hsets : Settings.Sets {} none e := ⟨e, he, rfl⟩
    rcases hsets.exists_locale with ⟨l, -, hl⟩
    have hrun : (e.validate .empty none).2 = .ok (.ofVerdicts []) :=
      Engine.validate_eq_ok_iff.2 ⟨l, [], hl, rfl, List.forall_mem_nil _, rfl⟩
    have hchecks : Checks formFiles (fun _ => none) none "empty.json" none none (.ofVerdicts []) :=
      .intro hsettings rfl hform hsets hrun
    exact (hreport.printed _ hchecks).1
  · have hengine : ∃ e, Engine.ofSettings {} = .ok e ∧ e.locales.get? Locale.defaultName = some .enUS :=
      ⟨_, rfl, rfl⟩
    rcases hengine with ⟨e, he, hlocale⟩
    have hread : Locale.enUS.readDate "2024-01-10 08:15" = .ok ⟨2024, 1, 10, 8, 15, 0⟩ := by decide +kernel
    have hreads : Reads formFiles (fun _ => none) none none "2024-01-10 08:15"
        (.ok ⟨2024, 1, 10, 8, 15, 0⟩) := by
      rw [← hread]
      exact .intro hsettings ⟨e, he, rfl⟩ hlocale
    rcases (hagrees _ _ (hbare .parseDate "2024-01-10 08:15")).2.1 _ rfl with ⟨input, hargument, hreport⟩
    cases hargument
    have htext : Instant.text ⟨2024, 1, 10, 8, 15, 0⟩ ++ "\n" = "2024-01-10 08:15:00\n" := by decide +kernel
    exact (hreport.printed _ hreads).1.trans htext

end Program
end FormValidation
