/-!
# Letter case in names

Names of attributes, rule kinds and operators are compared without regard to the case of the letters
`A` to `Z`; all other characters stand for themselves.
-/

namespace FormValidation
namespace Text

/-- The text with the letters `A` to `Z` in lower case. -/
def lower (s : String) : String :=
  String.ofList (s.toList.map Char.toLower)

/-- Whether two texts differ at most in the case of the letters `A` to `Z`. -/
def sameLetters (s t : String) : Bool :=
  lower s == lower t

end Text
end FormValidation
