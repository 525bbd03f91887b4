import FormValidation.Unicode.CaseOrbit
import FormValidation.Unicode.Ranges

/-!
# Character classes

A class is a set of code points, built from ranges by the operations that patterns can write.  What it
contains is decided by recursion on how it was built, so no operation ever computes a set.
-/

namespace FormValidation
namespace Pattern

/-- A set of code points. -/
inductive CharClass where
  | ranges (rs : Unicode.Ranges)
  | union (a b : CharClass)
  | inter (a b : CharClass)
  | diff (a b : CharClass)
  | symmDiff (a b : CharClass)
  | compl (a : CharClass)
  /-- All characters that equal a member up to case. -/
  | anyCase (a : CharClass)
  /-- All members, and the letters `A` to `Z` that equal one up to case. -/
  | anyAsciiCase (a : CharClass)
  deriving Repr, DecidableEq

namespace CharClass

/-- A letter `A` to `Z`, large or small, and its partner; any other code point alone. -/
def asciiOrbit (n : Nat) : List Nat :=
  if 0x41 ≤ n && n ≤ 0x5a then [n, n + 32]
  else if 0x61 ≤ n && n ≤ 0x7a then [n, n - 32]
  else [n]

def contains : CharClass → Nat → Bool
  | .ranges rs, n => rs.contains n
  | .union a b, n => a.contains n || b.contains n
  | .inter a b, n => a.contains n && b.contains n
  | .diff a b, n => a.contains n && !b.contains n
  | .symmDiff a b, n => a.contains n != b.contains n
  | .compl a, n => !a.contains n
  | .anyCase a, n => (Unicode.orbit n).any fun m => a.contains m
  | .anyAsciiCase a, n => (asciiOrbit n).any fun m => a.contains m

def single (c : Char) : CharClass :=
  .ranges [(c.toNat, c.toNat)]

def all : CharClass :=
  .ranges [(0, 0x10ffff)]

def none : CharClass :=
  .ranges []

/-- The digits `0` to `9`. -/
def digit : CharClass :=
  .ranges [(0x30, 0x39)]

end CharClass

end Pattern
end FormValidation
