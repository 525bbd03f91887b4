import Mathlib.Data.List.Nodup
import FormValidation.CommandLine.Command
import FormValidation.Proofs.Rule.Evaluation
import FormValidation.Proofs.Text.Pieces

/-!
# Arguments that are read

Arguments that the grammar reads name a subcommand, and give it the argument that it needs
(`CommandTable.exists_command`).  Whatever values are to be given for the options of a subcommand, there are
words that are read as these (`Command.words`, `CommandTable.read_words`).
-/

namespace FormValidation

/-! ## What is read -/

namespace Level

/-- The argument is there where one is needed. -/
theorem exists_argument {l : Level} (htakes : l.takesArgument = true) {words : List String} {m : Matches}
    (h : l.readAll words = .ok m) : ∃ argument, m.argument = some argument := by
  rcases bind_eq_ok.1 h with ⟨⟨p, rest⟩, -, h⟩
  rcases bind_eq_ok.1 h with ⟨p', -, h⟩
  rw [htakes, Bool.true_and] at h
  cases hargument : p'.found.argument with
  | none =>
      rw [hargument, Option.isNone_none, if_pos rfl] at h
      cases h
  | some argument =>
      rw [hargument, Option.isNone_some, if_neg Bool.false_ne_true] at h
      cases h
      exact ⟨argument, hargument⟩

end Level

namespace CommandTable

theorem grammar_commands : full.grammar.commands = Command.all.map fun c => (c.name, c.level) := by
  decide

theorem get?_name (c : Command) : full.get? c.name = some c := by
  cases c <;> decide

/-- There is a subcommand, with the argument that it needs. -/
theorem exists_command {words : List String} {a : Arguments} (h : full.grammar.read words = .ok a) :
    ∃ (c : Command) (m : Matches) (argument : String),
      a.command = some (c.name, m) ∧ m.argument = some argument := by
  rcases bind_eq_ok.1 h with ⟨⟨p, rest⟩, -, h⟩
  cases rest with
  | none =>
      rcases bind_eq_ok.1 h with ⟨p', -, h⟩
      -- Without a subcommand the arguments are refused one way or the other.
      have hrequires : full.grammar.requiresCommand = true := rfl
      rw [hrequires, if_pos rfl] at h
      split at h <;> cases h
  | some next =>
      obtain ⟨name, words'⟩ := next
      cases hlevel : List.lookup name full.grammar.commands with
      | none =>
          simp only [hlevel] at h
          cases h
      | some level =>
          simp only [hlevel] at h
          rcases bind_eq_ok.1 h with ⟨m, hm, h⟩
          rcases bind_eq_ok.1 h with ⟨p', -, h⟩
          cases h
          have hmem : (name, level) ∈ full.grammar.commands := by
            rcases List.lookup_eq_some_iff.1 hlevel with ⟨before, after, heq, -⟩
            exact heq ▸ List.mem_append_right _ List.mem_cons_self
          rw [grammar_commands, List.mem_map] at hmem
          rcases hmem with ⟨c, -, hc⟩
          cases hc
          rcases Level.exists_argument rfl hm with ⟨argument, hargument⟩
          exact ⟨c, m, argument, rfl, hargument⟩

end CommandTable

/-! ## Words for options -/

namespace OptionSpec

/-- The option with a value attached to it; a flag has none. -/
def word (o : OptionSpec) (value : String) : String :=
  match o.action with
  | .store => "--" ++ o.name ++ "=" ++ value
  | _ => "--" ++ o.name

/-- Any value may be given for an option, but none for a flag. -/
def Takes (o : OptionSpec) (value : String) : Prop :=
  o.action = .store ∨ o.action = .flag ∧ value = ""

end OptionSpec

namespace Level

variable {l : Level} {p : Progress} {o : OptionSpec} {value : String}

/-- The options have names of their own, which are not empty and have no equals sign. -/
structure Named (l : Level) : Prop where
  find? : ∀ o ∈ l.options, l.options.find? (fun o' => o'.name.toList == o.name.toList) = some o
  ne_nil : ∀ o ∈ l.options, o.name.toList ≠ []
  no_equals : ∀ o ∈ l.options, (o.name.toList.all fun c => c != '=') = true

/-- Options are recorded with their values. -/
def recorded (p : Progress) (given : List (OptionSpec × String)) : Progress :=
  { p with found := { p.found with options := p.found.options ++ given.map fun g => (g.1.name, g.2) } }

theorem recorded_recorded (p : Progress) (given given' : List (OptionSpec × String)) :
    recorded (recorded p given) given' = recorded p (given ++ given') := by
  simp [recorded]

theorem splitValue_append {name : List Char} (h : ∀ c ∈ name, (c != '=') = true) (value : List Char) :
    splitValue (name ++ '=' :: value) = (name, some value) := by
  have hequals : ∀ c ∈ ('=' :: value).head?, (c != '=') = false := by
    simp
  have hcut := Text.takeWhile_append_of_head? h hequals
  rw [splitValue, hcut.2, hcut.1]

theorem splitValue_of_forall {name : List Char} (h : ∀ c ∈ name, (c != '=') = true) :
    splitValue name = (name, none) := by
  rw [splitValue, List.dropWhile_eq_nil_iff.2 h]

/-- The word for an option is read as the option with its value. -/
theorem word_word (hl : l.Named) (ho : o ∈ l.options) (htakes : o.Takes value)
    (hpending : p.pending = none) (hnew : p.found.flag o.name = false) :
    l.word p (o.word value) = .ok (recorded p [(o, value)]) := by
  have hsettle : p.settle = .ok p := by rw [Progress.settle, hpending]
  have hrecord : p.record o.name value = .ok (recorded p [(o, value)]) := by
    rw [Progress.record, hnew, if_neg Bool.false_ne_true]
    rfl
  have hequals : ∀ c ∈ o.name.toList, (c != '=') = true := List.all_eq_true.1 (hl.no_equals o ho)
  -- The word is not the one of two hyphens that ends the options.
  rcases List.exists_cons_of_ne_nil (hl.ne_nil o ho) with ⟨c, cs, hname⟩
  rcases htakes with hstore | ⟨hflag, rfl⟩
  · have hword : (o.word value).toList = '-' :: '-' :: c :: (cs ++ '=' :: value.toList) := by
      simp [OptionSpec.word, hstore, hname]
    have hlong : l.longOption p (c :: (cs ++ '=' :: value.toList)) = .ok (recorded p [(o, value)]) := by
      rw [← List.cons_append, ← hname, longOption, splitValue_append hequals]
      simp only [hl.find? o ho]
      rw [Progress.meetWith, hstore]
      simp only [hsettle, String.ofList_toList]
      exact hrecord
    rw [Level.word, hword]
    exact hlong
  · have hword : (o.word "").toList = '-' :: '-' :: c :: cs := by
      simp [OptionSpec.word, hflag, hname]
    have hlong : l.longOption p (c :: cs) = .ok (recorded p [(o, "")]) := by
      rw [← hname, longOption, splitValue_of_forall hequals]
      simp only [hl.find? o ho]
      rw [Progress.meet, hsettle, hflag]
      exact hrecord
    rw [Level.word, hword]
    exact hlong

/-- The words for different options are read one after the other. -/
theorem read_given (hl : l.Named) (hsubcommands : l.subcommands = []) {given : List (OptionSpec × String)}
    (hgiven : ∀ g ∈ given, g.1 ∈ l.options ∧ g.1.Takes g.2) (hnames : (given.map fun g => g.1.name).Nodup)
    (hnew : ∀ g ∈ given, p.found.flag g.1.name = false) (hpending : p.pending = none)
    (honly : p.onlyArguments = false) (rest : List String) :
    l.read p ((given.map fun g => g.1.word g.2) ++ rest) = l.read (recorded p given) rest := by
  induction given generalizing p with
  | nil => simp [recorded]
  | cons g given ih =>
      rw [List.map_cons, List.nodup_cons] at hnames
      have hfirst := hgiven g List.mem_cons_self
      have hword := word_word hl hfirst.1 hfirst.2 hpending (hnew g List.mem_cons_self)
      -- The names of the options behind the first one are still new.
      have hnext : ∀ g' ∈ given, (recorded p [g]).found.flag g'.1.name = false := by
        intro g' hg'
        have hne : (g'.1.name == g.1.name) = false :=
          beq_false_of_ne fun heq => hnames.1 (List.mem_map.2 ⟨g', hg', heq⟩)
        have hbefore := hnew g' (List.mem_cons_of_mem _ hg')
        rw [Matches.flag, Matches.option?] at hbefore ⊢
        simp only [recorded, List.map_cons, List.map_nil, List.lookup_append, Option.isSome_or, hbefore,
          List.lookup_cons, List.lookup_nil, hne, Option.isSome_none, Bool.or_false]
      have hrest := ih (fun g' hg' => hgiven g' (List.mem_cons_of_mem _ hg')) hnames.2 hnext hpending honly
      have hno : (!p.awaitsValue && l.subcommands.contains (g.1.word g.2)) = false := by
        rw [hsubcommands]
        simp
      rw [recorded_recorded] at hrest
      rw [List.map_cons, List.cons_append, read, honly, if_neg Bool.false_ne_true, hno,
        if_neg Bool.false_ne_true, hword]
      exact hrest

end Level

namespace Command

/-- Words that run a subcommand with these values of its options. -/
def words (c : Command) (given : List (OptionSpec × String)) (argument : String) : List String :=
  c.name :: ((given.map fun g => g.1.word g.2) ++ ["--", argument])

theorem named_level (c : Command) : c.level.Named := by
  cases c <;> exact ⟨by decide, by decide, by decide⟩

end Command

namespace CommandTable

/-- Each of the options of a subcommand may be given at most once, with any value that it takes. -/
theorem read_words (c : Command) {given : List (OptionSpec × String)}
    (hgiven : ∀ g ∈ given, g.1 ∈ c.level.options ∧ g.1.Takes g.2)
    (hnames : (given.map fun g => g.1.name).Nodup) (argument : String) :
    full.grammar.read (c.words given argument) =
      .ok ⟨{}, some (c.name, ⟨given.map fun g => (g.1.name, g.2), some argument⟩)⟩ := by
  have htop : full.grammar.top.read {} (c.words given argument) =
      .ok ({}, some (c.name, (given.map fun g => g.1.word g.2) ++ ["--", argument])) := by
    have hname : full.grammar.top.subcommands.contains c.name = true := by
      cases c <;> decide
    rw [Command.words, Level.read]
    simp only [Progress.awaitsValue, Bool.false_eq_true, if_false, Bool.not_false, Bool.true_and, hname,
      if_true]
  have hlevel : List.lookup c.name full.grammar.commands = some c.level := by
    rw [grammar_commands]
    cases c <;> rfl
  have hinner : c.level.readAll ((given.map fun g => g.1.word g.2) ++ ["--", argument]) =
      .ok ⟨given.map fun g => (g.1.name, g.2), some argument⟩ := by
    rw [Level.readAll, Level.read_given c.named_level rfl hgiven hnames (fun _ _ => rfl) rfl rfl]
    rfl
  rw [Grammar.read, htop]
  simp only [bind, Except.bind, hlevel, hinner]
  rfl

end CommandTable
end FormValidation
