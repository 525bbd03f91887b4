/-!
# Decimal numerals

Numerals are written in the digits `0` to `9`.  This file reads natural numbers and integers of a fixed
range, and writes natural numbers with a least width.  Leading zeros never matter, and no value is ever
cut to fit: a numeral whose value is out of range is not read at all.
-/

namespace FormValidation
namespace Text

/-! ## Reading -/

def natural? (cs : List Char) : Option Nat :=
  if cs ≠ [] ∧ cs.all Char.isDigit then some (Nat.ofDigitChars 10 cs 0) else none

/-- The value of digits with an optional sign before them. -/
def integer? : List Char → Option Int
  | '-' :: cs => (natural? cs).map fun n => -(n : Int)
  | '+' :: cs => (natural? cs).map Int.ofNat
  | cs => (natural? cs).map Int.ofNat

def fitsSigned64 (i : Int) : Bool :=
  -9223372036854775808 ≤ i && i ≤ 9223372036854775807

/-- Whether a value fits into 64 bits without a sign. -/
def fitsUnsigned64 (n : Nat) : Bool :=
  n ≤ 18446744073709551615

def signed64? (cs : List Char) : Option Int :=
  (integer? cs).filter fitsSigned64

/-- A natural number of 64 bits, with an optional `+`. -/
def unsigned64? : List Char → Option Nat
  | '+' :: cs => (natural? cs).filter fitsUnsigned64
  | cs => (natural? cs).filter fitsUnsigned64

/-! ## Writing -/

def decimal (n : Nat) : List Char :=
  Nat.toDigits 10 n

/-- The digits of a number, with zeros before them up to the given width. -/
def padded (width n : Nat) : List Char :=
  List.replicate (width - (decimal n).length) '0' ++ decimal n

/-- The digits of an integer, after a `-` if it is negative. -/
def integer (i : Int) : List Char :=
  if i < 0 then '-' :: decimal i.natAbs else decimal i.natAbs

end Text
end FormValidation
