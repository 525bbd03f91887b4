import FormValidation.Locale.Date
import FormValidation.Number.Binary64

/-!
# Values

The values that rules compare: integers of 64 bits, decimal numbers and dates.  `Value.read?` reads a
text as a value of a kind under a locale.

A decimal number is an optional sign, digits and optionally a separator with more digits.  The separator
may be a point, a comma or the decimal separator of the locale; wherever the latter two stand they are
taken for points, so a locale whose separator is a digit or a hyphen gives up that sign.
-/

namespace FormValidation

/-! ## Kinds -/

/-- The kinds of values that can be compared. -/
inductive ValueKind where
  | int
  | float
  | date
  deriving Repr, DecidableEq

def ValueKind.name : ValueKind → String
  | .int => "int"
  | .float => "float"
  | .date => "date"

inductive Value where
  | int (i : Int)
  | float (x : Binary64)
  | date (i : Instant)
  deriving Repr, DecidableEq

namespace Value

/-! ## Reading -/

/-- An optional minus sign and the characters after it. -/
def sign : List Char → Bool × List Char
  | '-' :: cs => (true, cs)
  | cs => (false, cs)

/-- The integer that a text spells with an optional minus sign and digits, if it has 64 bits. -/
def int? (cs : List Char) : Option Int :=
  let (negative, digits) := sign cs
  ((Text.natural? digits).map fun n => if negative then -(n : Int) else n).filter Text.fitsSigned64

/-- The text with points for commas and for the separator. -/
def withPoints (separator : Char) (cs : List Char) : List Char :=
  cs.map fun c => if c = ',' ∨ c = separator then '.' else c

/-- The decimal number that a text spells with an optional minus sign, digits, and optionally a point
and more digits. -/
def decimal? (cs : List Char) : Option Binary64 :=
  let (negative, cs) := sign cs
  let whole := cs.takeWhile Char.isDigit
  match whole, cs.dropWhile Char.isDigit with
  | [], _ => none
  | _, [] => some (.ofFraction negative (Nat.ofDigitChars 10 whole 0) 1)
  | _, '.' :: fraction =>
      (Text.natural? fraction).map fun _ =>
        .ofFraction negative (Nat.ofDigitChars 10 (whole ++ fraction) 0) (Nat.pow 10 fraction.length)
  | _, _ => none

/-- The value of a kind that a text spells under a locale. -/
def read? (l : Locale) (kind : ValueKind) (text : String) : Option Value :=
  match kind with
  | .int => (int? text.toList).map .int
  | .float => (decimal? (withPoints l.decimalSeparator text.toList)).map .float
  | .date => (l.date? text).map .date

/-! ## Order -/

/-- The order of two values of one kind; values of different kinds are not ordered. -/
def compare? : Value → Value → Option Ordering
  | .int a, .int b => some (Ord.compare a b)
  | .float a, .float b => some (a.compare b)
  | .date a, .date b => some (a.compare b)
  | _, _ => none

end Value
end FormValidation
