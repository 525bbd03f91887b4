/-!
# Sets of code points as ranges

A property of characters is a list of inclusive ranges of code points.  The tables of this folder are
written in a short coding: after each other, how many code points are skipped and how many are taken,
in hexadecimal.  `Ranges.ofLines` reads that coding.
-/

namespace FormValidation
namespace Unicode

/-- Inclusive ranges of code points. -/
abbrev Ranges := List (Nat × Nat)

/-- Rows of names (in the form of `looseName`) and members (in the coding of `Ranges.ofLines`). -/
abbrev Table := List (List String × List String)

namespace Ranges

/-- Whether a code point lies in one of the ranges. -/
def contains (rs : Ranges) (n : Nat) : Bool :=
  rs.any fun r => r.1 ≤ n && n ≤ r.2

/-! ## The coding of the tables -/

def digitValue (c : Char) : Nat :=
  if '0' ≤ c ∧ c ≤ '9' then c.toNat - '0'.toNat else c.toNat - 'a'.toNat + 10

/-- The hexadecimal numbers of a text, which single spaces separate. -/
def numbers (current : Nat) : List Char → List Nat
  | [] => [current]
  | ' ' :: cs => current :: numbers 0 cs
  | c :: cs => numbers (16 * current + digitValue c) cs

/-- Turns skipped and taken counts into ranges, from `start` on. -/
def ofCounts (start : Nat) : List Nat → Ranges
  | skipped :: taken :: rest =>
      (start + skipped, start + skipped + taken - 1) :: ofCounts (start + skipped + taken) rest
  | _ => []

def ofLines (lines : List String) : Ranges :=
  ofCounts 0 (lines.flatMap fun line => numbers 0 line.toList)

end Ranges

/-- The members of the row that has the given name. -/
def Table.find? (t : Table) (name : String) : Option Ranges :=
  (List.find? (fun row => row.1.contains name) t).map fun row => Ranges.ofLines row.2

end Unicode
end FormValidation
