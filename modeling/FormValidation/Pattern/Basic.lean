import FormValidation.Pattern.Meaning
import FormValidation.Pattern.Reader

/-!
# Patterns

A pattern is a text together with the regular expression that it stands for.  `Pattern.read?` reads a
text as a pattern; it refuses texts that are none and patterns whose repetitions, written out, would
take too many states.
-/

namespace FormValidation

/-- A text and the regular expression that it stands for. -/
structure Pattern where
  source : String
  regex : Pattern.Regex
  deriving Repr, DecidableEq

namespace Pattern

/-! ## The size of an expression -/

/-- About how many states a machine needs to read one character of a class byte by byte. -/
def CharClass.states : CharClass → Nat
  | .ranges rs => rs.foldl (fun n r => if r.2 < 0x80 then n else n + 2) 1
  | .union a b | .inter a b | .diff a b | .symmDiff a b => a.states + b.states
  | .compl a => a.states + 10
  | .anyCase a | .anyAsciiCase a => a.states

/-- About how many states a machine for the expression needs when its repetitions are written out. -/
def Regex.states : Regex → Nat
  | .empty | .assertion _ => 1
  | .char set => set.states
  | .seq r s => r.states + s.states
  | .alt r s => r.states + s.states + 1
  | .group _ r => r.states + 2
  | .rep r min max _ =>
      match max with
      | none => Nat.max min 1 * r.states + 1
      | some m => m * r.states + (m - min)

/-- The greatest number of states that a pattern may need. -/
def stateLimit : Nat := 327680

/-! ## Reading and matching -/

def read? (source : String) : Option Pattern := do
  let tree ← Syntax.read? source
  let (regex, _) ← tree.meaning {}
  if regex.states ≤ stateLimit then some ⟨source, regex⟩ else none

def groupCount (p : Pattern) : Nat :=
  p.regex.groupCount

/-- What the groups matched in the leftmost match, `none` if there is no match. -/
def captures? (p : Pattern) (text : String) : Option Captures :=
  (p.regex.find? text.toList).map Hit.captures

/-- Whether the pattern matches anywhere in the text. -/
def isMatch (p : Pattern) (text : String) : Bool :=
  p.regex.isMatch text.toList

end Pattern
end FormValidation
