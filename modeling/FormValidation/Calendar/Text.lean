import FormValidation.Calendar.Basic
import FormValidation.Text.Numeral

/-!
# Instants as text

An instant is written in the international order, `2024-01-10 08:15:42`.  The year has at least four
digits, and a sign if it lies outside of 0 to 9999.
-/

namespace FormValidation
namespace Instant

/-- A year of four digits or more, with a sign outside of 0 to 9999. -/
def yearText (year : Int) : List Char :=
  if 0 ≤ year && year ≤ 9999 then Text.padded 4 year.toNat
  else (if 0 ≤ year then '+' else '-') :: Text.padded 4 year.natAbs

def text (i : Instant) : String :=
  String.ofList <|
    yearText i.year ++ '-' :: Text.padded 2 i.month ++ '-' :: Text.padded 2 i.day ++
      ' ' :: Text.padded 2 i.hour ++ ':' :: Text.padded 2 i.minute ++ ':' :: Text.padded 2 i.second

end Instant
end FormValidation
