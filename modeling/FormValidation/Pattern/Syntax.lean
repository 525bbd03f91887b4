import FormValidation.Unicode.Property

/-!
# What a pattern says

The tree of a pattern as it is written, before its modes are applied.  What it means is defined in
`FormValidation.Pattern.Meaning`.
-/

namespace FormValidation
namespace Pattern

/-! ## Modes -/

/-- The modes that a letter in a group such as `(?i-s)` switches. -/
inductive Mode where
  | ignoreCase
  | multiLine
  | dotAll
  | swapGreed
  | unicode
  | returns
  | extended
  deriving Repr, DecidableEq

/-- The modes that a group switches on and off. -/
structure ModeChange where
  on : List Mode := []
  off : List Mode := []
  deriving Repr, DecidableEq

def ModeChange.says? (c : ModeChange) (m : Mode) : Option Bool :=
  if c.on.contains m then some true else if c.off.contains m then some false else none

/-! ## Classes -/

/-- The classes `\d`, `\s` and `\w`. -/
inductive LetterClass where
  | digit
  | space
  | word
  deriving Repr, DecidableEq

/-- The items of a class in square brackets. -/
inductive ClassSyntax where
  | char (c : Char)
  | range (first last : Char)
  | letter (k : LetterClass) (negated : Bool)
  /-- A class such as `[:alpha:]`, by its ranges. -/
  | ascii (members : Unicode.Ranges) (negated : Bool)
  | property (q : Unicode.Query) (negated : Bool)
  | bracketed (body : ClassSyntax) (negated : Bool)
  | union (items : List ClassSyntax)
  | inter (a b : ClassSyntax)
  | diff (a b : ClassSyntax)
  | symmDiff (a b : ClassSyntax)

/-! ## Patterns -/

/-- Conditions on a place, as written. -/
inductive Anchor where
  | lineStart
  | lineEnd
  | textStart
  | textEnd
  | wordBoundary
  | notWordBoundary
  | wordStart
  | wordEnd
  | wordStartHalf
  | wordEndHalf
  deriving Repr, DecidableEq

/-- What a group does besides holding its body together. -/
inductive GroupKind where
  | capture (index : Nat)
  | plain (change : ModeChange)
  deriving Repr, DecidableEq

/-- A pattern as it is written. -/
inductive Syntax where
  | empty
  /-- A change of modes for the rest of the enclosing group. -/
  | modes (change : ModeChange)
  /-- A character; `twoDigit` if it was written as `\x` with two digits. -/
  | char (c : Char) (twoDigit : Bool)
  | dot
  | anchor (a : Anchor)
  | letter (k : LetterClass) (negated : Bool)
  | property (q : Unicode.Query) (negated : Bool)
  | bracketed (body : ClassSyntax) (negated : Bool)
  | rep (body : Syntax) (min : Nat) (max : Option Nat) (greedy : Bool)
  | group (kind : GroupKind) (body : Syntax)
  | alternation (branches : List Syntax)
  | concat (items : List Syntax)

namespace Syntax

def ofItems : List Syntax → Syntax
  | [] => .empty
  | [a] => a
  | items => .concat items

def ofBranches : List Syntax → Syntax
  | [a] => a
  | branches => .alternation branches

end Syntax

/-- The items of a class, which are none, one or several. -/
def ClassSyntax.ofItems : List ClassSyntax → ClassSyntax
  | [a] => a
  | items => .union items

/-! ## Nesting -/

mutual

/-- How deeply the brackets, unions and operations of a class are nested. -/
def ClassSyntax.depth : ClassSyntax → Nat
  | .bracketed body _ => body.depth + 1
  | .union items => if items.isEmpty then 0 else ClassSyntax.depths items + 1
  | .inter a b | .diff a b | .symmDiff a b => max a.depth b.depth + 1
  | _ => 0

def ClassSyntax.depths : List ClassSyntax → Nat
  | [] => 0
  | a :: rest => max a.depth (ClassSyntax.depths rest)

end

mutual

/-- How deeply the groups, repetitions and lists of a pattern are nested. -/
def Syntax.depth : Syntax → Nat
  | .bracketed body _ => body.depth + 1
  | .rep body _ _ _ => body.depth + 1
  | .group _ body => body.depth + 1
  | .alternation branches => Syntax.depths branches + 1
  | .concat items => Syntax.depths items + 1
  | _ => 0

def Syntax.depths : List Syntax → Nat
  | [] => 0
  | a :: rest => max a.depth (Syntax.depths rest)

end

end Pattern
end FormValidation
