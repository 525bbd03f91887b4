import FormValidation.CommandLine.Usage

/-!
# The grammar of arguments

A program has options and subcommands; a subcommand has options and at most one argument of its own.
Options are written `--name value`, `--name=value`, `-n value`, `-nvalue` or `-n=value`, flags `--name` or
`-n`, and several flags as `-ab`.  Everything behind `--` is an argument.  What an option stands for is
recorded when the next option or argument is met, so the first of several mistakes is the one that is met
first; a word of which no option is known is met at once.

* `Level.read` — reads the arguments of a program or a subcommand up to the name of a subcommand;
* `Grammar.read` — reads all arguments.
-/

namespace FormValidation

/-! ## Grammars -/

/-- What an option does. -/
inductive OptionAction where
  /-- It takes a value. -/
  | store
  /-- It is a flag. -/
  | flag
  | help
  | version
  deriving Repr, DecidableEq

structure OptionSpec where
  name : String
  letter : Option Char
  action : OptionAction
  deriving Repr, DecidableEq

/-- The grammar of the arguments of a program or of a subcommand. -/
structure Level where
  options : List OptionSpec
  subcommands : List String
  /-- Whether there is an argument, which then is required. -/
  takesArgument : Bool
  deriving Repr, DecidableEq

/-- A grammar: that of the program, and those of its subcommands. -/
structure Grammar where
  options : List OptionSpec
  commands : List (String × Level)
  /-- Whether there must be a subcommand. -/
  requiresCommand : Bool := true
  deriving Repr, DecidableEq

/-! ## What was read -/

/-- What was read of the arguments of one level. -/
structure Matches where
  /-- The options that were given, with their values; a flag has an empty one. -/
  options : List (String × String) := []
  argument : Option String := none
  deriving Repr, DecidableEq

namespace Matches

def option? (m : Matches) (name : String) : Option String :=
  List.lookup name m.options

def flag (m : Matches) (name : String) : Bool :=
  (m.option? name).isSome

end Matches

/-- What was read so far, and the option that was met last. -/
structure Progress where
  found : Matches := {}
  /-- The option that was met last, and its value, if there is one already. -/
  pending : Option (String × Option String) := none
  /-- Whether `--` was met. -/
  onlyArguments : Bool := false
  deriving Repr, DecidableEq

namespace Progress

/-- Records an option; it must not have been given before. -/
def record (p : Progress) (name value : String) : Except Usage Progress :=
  if p.found.flag name then .error .argumentConflict
  else .ok { p with found := { p.found with options := p.found.options ++ [(name, value)] } }

/-- Records the option that was met last, which needs a value by now. -/
def settle (p : Progress) : Except Usage Progress :=
  match p.pending with
  | none => .ok p
  | some (_, none) => .error .invalidValue
  | some (name, some value) => { p with pending := none }.record name value

/-- Whether the next word is the value of the option that was met last. -/
def awaitsValue (p : Progress) : Bool :=
  match p.pending with
  | some (_, none) => true
  | _ => false

/-- Meets an option that stands alone. -/
def meet (p : Progress) (o : OptionSpec) : Except Usage Progress := do
  let p ← p.settle
  match o.action with
  | .store => return { p with pending := some (o.name, none) }
  | .flag => p.record o.name ""
  | .help => .error .displayHelp
  | .version => .error .displayVersion

/-- Meets an option with a value attached to it. -/
def meetWith (p : Progress) (o : OptionSpec) (value : String) : Except Usage Progress := do
  match o.action with
  | .store => (← p.settle).record o.name value
  | _ => .error .tooManyValues

end Progress

/-! ## Reading -/

namespace Level

/-- The text before and behind the first equals sign, if there is one. -/
def splitValue (cs : List Char) : List Char × Option (List Char) :=
  match cs.dropWhile fun c => c != '=' with
  | _ :: value => (cs.takeWhile fun c => c != '=', some value)
  | [] => (cs, none)

/-- A word that begins with two hyphens. -/
def longOption (l : Level) (p : Progress) (cs : List Char) : Except Usage Progress :=
  let (name, value) := splitValue cs
  match l.options.find? fun o => o.name.toList == name with
  | none => .error .unknownArgument
  | some o =>
      match value with
      | none => p.meet o
      | some value => p.meetWith o (String.ofList value)

/-- The letters of a word behind a single hyphen.  The first option that takes a value takes what is left
of the word, without an equals sign in front. -/
def letters (l : Level) (p : Progress) : List Char → Except Usage Progress
  | [] => .ok p
  | c :: cs =>
      match l.options.find? fun o => o.letter == some c with
      | none => .error .unknownArgument
      | some o =>
          match o.action, cs with
          | .store, [] => p.meet o
          | .store, '=' :: value => p.meetWith o (String.ofList value)
          | .store, value => p.meetWith o (String.ofList value)
          | _, cs => do l.letters (← p.meet o) cs

/-- Why a word for which there is no place is refused.  Where there are subcommands it counts as one, but
behind `--` the name of a subcommand does not. -/
def misplaced (l : Level) (p : Progress) (word : String) : Usage :=
  if l.subcommands.isEmpty || (p.onlyArguments && l.subcommands.contains word) then .unknownArgument
  else .invalidSubcommand

def argument (l : Level) (p : Progress) (word : String) : Except Usage Progress :=
  if l.takesArgument && p.found.argument.isNone then do
    let p ← p.settle
    return { p with found := { p.found with argument := some word } }
  else .error (l.misplaced p word)

/-- A word that is neither behind `--` nor the name of a subcommand. -/
def word (l : Level) (p : Progress) (word : String) : Except Usage Progress :=
  match word.toList with
  | ['-', '-'] => .ok { p with onlyArguments := true }
  | '-' :: '-' :: cs => l.longOption p cs
  | '-' :: c :: cs => l.letters p (c :: cs)
  | _ =>
      match p.pending with
      -- The word is the value of the option before it.
      | some (name, none) => .ok { p with pending := some (name, some word) }
      | _ => l.argument p word

/-- Reads words up to the name of a subcommand: what was read, and that name with the words behind it. -/
def read (l : Level) (p : Progress) :
    List String → Except Usage (Progress × Option (String × List String))
  | [] => .ok (p, none)
  | w :: words =>
      if p.onlyArguments then do l.read (← l.argument p w) words
      else if !p.awaitsValue && l.subcommands.contains w then .ok (p, some (w, words))
      else do l.read (← l.word p w) words

def readAll (l : Level) (words : List String) : Except Usage Matches := do
  let (p, _) ← l.read {} words
  let p ← p.settle
  if l.takesArgument && p.found.argument.isNone then .error .missingRequiredArgument
  else return p.found

end Level

/-! ## Programs -/

structure Arguments where
  options : Matches
  /-- The subcommand and what was read of its arguments. -/
  command : Option (String × Matches)
  deriving Repr, DecidableEq

namespace Grammar

def helpName : String := "help"

/-- The names of the subcommands; if there are any there is also one that shows help. -/
def commandNames (g : Grammar) : List String :=
  if g.commands.isEmpty then [] else g.commands.map Prod.fst ++ [helpName]

def top (g : Grammar) : Level where
  options := g.options
  subcommands := g.commandNames
  takesArgument := false

/-- What the subcommand that shows help makes of the words behind it: at most one, which is the name of
a subcommand. -/
def help (g : Grammar) : List String → Usage
  | [] => .displayHelp
  | [name] => if g.commandNames.contains name then .displayHelp else .invalidSubcommand
  | _ => .invalidSubcommand

/-- Reads all words.  The mistakes behind the name of a subcommand are met first. -/
def read (g : Grammar) (words : List String) : Except Usage Arguments := do
  match ← g.top.read {} words with
  | (p, none) =>
      let p ← p.settle
      if g.requiresCommand then
        if p.found.options.isEmpty then .error .displayHelpOnMissing else .error .missingSubcommand
      else return ⟨p.found, none⟩
  | (p, some (name, words)) =>
      match List.lookup name g.commands with
      | none => .error (g.help words)
      | some level =>
          -- A mistake of the subcommand goes before one of an option that is still open.
          let inner ← level.readAll words
          let p ← p.settle
          return ⟨p.found, some (name, inner)⟩

end Grammar
end FormValidation
