import FormValidation.Pattern.Regex
import FormValidation.Pattern.Syntax
import FormValidation.Unicode.WhiteSpace

/-!
# What a pattern means

`Syntax.meaning` applies the modes of a pattern and turns it into a regular expression.  It fails on a
property that does not exist and, where Unicode mode is switched off, on everything that could match a
part of a character.
-/

namespace FormValidation
namespace Pattern

/-! ## Modes -/

/-- The modes in force at a place of a pattern. -/
structure Modes where
  ignoreCase : Bool := false
  multiLine : Bool := false
  dotAll : Bool := false
  swapGreed : Bool := false
  unicode : Bool := true
  returns : Bool := false
  deriving Repr, DecidableEq

def Modes.apply (m : Modes) (c : ModeChange) : Modes where
  ignoreCase := (c.says? .ignoreCase).getD m.ignoreCase
  multiLine := (c.says? .multiLine).getD m.multiLine
  dotAll := (c.says? .dotAll).getD m.dotAll
  swapGreed := (c.says? .swapGreed).getD m.swapGreed
  unicode := (c.says? .unicode).getD m.unicode
  returns := (c.says? .returns).getD m.returns

/-! ## Classes -/

/-- The members of `\d`, `\s` and `\w`. -/
def LetterClass.members (k : LetterClass) (unicode : Bool) : Unicode.Ranges :=
  match k, unicode with
  | .digit, true => Unicode.digits
  | .digit, false => [(0x30, 0x39)]
  | .space, true => Unicode.whiteSpace
  | .space, false => [(0x9, 0xd), (0x20, 0x20)]
  | .word, true => Unicode.wordCharacters
  | .word, false => asciiWord

/-- The class, closed under case if case does not count. -/
def Modes.fold (m : Modes) (s : CharClass) : CharClass :=
  if m.ignoreCase then (if m.unicode then .anyCase s else .anyAsciiCase s) else s

/-- The class or its complement.  Without Unicode mode a complement would hold parts of characters. -/
def Modes.negate? (m : Modes) (negated : Bool) (s : CharClass) : Option CharClass :=
  if negated then (if m.unicode then some (.compl s) else none) else some s

/-- The members of a property, which only Unicode mode knows. -/
def Modes.property? (m : Modes) (q : Unicode.Query) (negated : Bool) : Option CharClass :=
  if m.unicode then
    (Unicode.members? q).bind fun rs => m.negate? negated (m.fold (.ranges rs))
  else none

/-- Whether a character may stand in a class: without Unicode mode only ASCII may. -/
def Modes.admits (m : Modes) (c : Char) : Bool :=
  m.unicode || c.toNat < 0x80

mutual

/-- The set of characters that a class in square brackets stands for. -/
def ClassSyntax.meaning (m : Modes) : ClassSyntax → Option CharClass
  | .char c => if m.admits c then some (.single c) else none
  | .range a b => if m.admits a && m.admits b then some (.ranges [(a.toNat, b.toNat)]) else none
  | .letter k negated => m.negate? negated (.ranges (k.members m.unicode))
  | .ascii members negated => m.negate? negated (m.fold (.ranges members))
  | .property q negated => m.property? q negated
  | .bracketed body negated => (body.meaning m).bind fun s => m.negate? negated (m.fold s)
  | .union items => ClassSyntax.unionMeaning m items
  | .inter a b => do return .inter (m.fold (← a.meaning m)) (m.fold (← b.meaning m))
  | .diff a b => do return .diff (m.fold (← a.meaning m)) (m.fold (← b.meaning m))
  | .symmDiff a b => do return .symmDiff (m.fold (← a.meaning m)) (m.fold (← b.meaning m))

def ClassSyntax.unionMeaning (m : Modes) : List ClassSyntax → Option CharClass
  | [] => some .none
  | [a] => a.meaning m
  | a :: rest => do return .union (← a.meaning m) (← ClassSyntax.unionMeaning m rest)

end

/-! ## Characters and conditions -/

def Modes.literal (m : Modes) (c : Char) : Regex :=
  if m.ignoreCase then
    let orbit := if m.unicode then Unicode.orbit c.toNat else CharClass.asciiOrbit c.toNat
    .char (.ranges (orbit.map fun n => (n, n)))
  else .char (.single c)

def Modes.dot? (m : Modes) : Option Regex :=
  if !m.unicode then none
  else if m.dotAll then some (.char .all)
  else if m.returns then some (.char (.compl (.ranges [(0xa, 0xa), (0xd, 0xd)])))
  else some (.char (.compl (.single '\n')))

def Modes.assertion (m : Modes) : Anchor → Assertion
  | .lineStart =>
      if m.multiLine then (if m.returns then .lineStartReturn else .lineStart) else .textStart
  | .lineEnd => if m.multiLine then (if m.returns then .lineEndReturn else .lineEnd) else .textEnd
  | .textStart => .textStart
  | .textEnd => .textEnd
  | .wordBoundary => .wordBoundary m.unicode
  | .notWordBoundary => .notWordBoundary m.unicode
  | .wordStart => .wordStart m.unicode
  | .wordEnd => .wordEnd m.unicode
  | .wordStartHalf => .wordStartHalf m.unicode
  | .wordEndHalf => .wordEndHalf m.unicode

/-! ## Patterns -/

mutual

/-- The expression that a pattern stands for where the modes `m` are in force, and the modes that are in
force after it. -/
def Syntax.meaning (m : Modes) : Syntax → Option (Regex × Modes)
  | .empty => some (.empty, m)
  | .modes change => some (.empty, m.apply change)
  | .char c twoDigit =>
      -- Such a character would be a byte that is no text.
      if !m.unicode && twoDigit && c.toNat ≥ 0x80 then none else some (m.literal c, m)
  | .dot => m.dot?.map fun r => (r, m)
  | .anchor a => some (.assertion (m.assertion a), m)
  | .letter k negated =>
      (m.negate? negated (.ranges (k.members m.unicode))).map fun s => (.char s, m)
  | .property q negated => (m.property? q negated).map fun s => (.char s, m)
  | .bracketed body negated =>
      ((body.meaning m).bind fun s => m.negate? negated (m.fold s)).map fun s => (.char s, m)
  | .rep body min max greedy =>
      (body.meaning m).map fun (r, m') => (.rep r min max (greedy != m'.swapGreed), m')
  -- Changes of modes within a group end with it.
  | .group (.capture index) body => (body.meaning m).map fun (r, _) => (.group index r, m)
  | .group (.plain change) body => (body.meaning (m.apply change)).map fun (r, _) => (r, m)
  | .alternation branches => Syntax.branchesMeaning m branches
  | .concat items => (Syntax.itemsMeaning m items).map fun (rs, m') => (Regex.concat rs, m')

def Syntax.itemsMeaning (m : Modes) : List Syntax → Option (List Regex × Modes)
  | [] => some ([], m)
  | item :: rest => do
      let (r, m') ← item.meaning m
      let (rs, m'') ← Syntax.itemsMeaning m' rest
      return (r :: rs, m'')

/-- The expression of branches, the first of which is preferred. -/
def Syntax.branchesMeaning (m : Modes) : List Syntax → Option (Regex × Modes)
  | [] => some (.empty, m)
  | [branch] => branch.meaning m
  | branch :: rest => do
      -- Changes of modes in a branch hold in the branches behind it.
      let (r, m') ← branch.meaning m
      let (s, m'') ← Syntax.branchesMeaning m' rest
      return (.alt r s, m'')

end

end Pattern
end FormValidation
