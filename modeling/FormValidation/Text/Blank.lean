import FormValidation.Unicode.WhiteSpace

/-!
# Blanks, trimming and comma-separated pieces

White space is the `White_Space` property of the Unicode standard.  This file defines

* `isBlank` — that property;
* `trim` — a text without the white space at its two ends;
* `split` and `pieces` — the parts of a text between separators, as they are and trimmed.
-/

namespace FormValidation
namespace Text

/-! ## White space -/

/-- The `White_Space` property. -/
def isBlank (c : Char) : Bool :=
  Unicode.whiteSpace.contains c.toNat

/-- A list of characters without white space at its ends. -/
def trimChars (cs : List Char) : List Char :=
  ((cs.dropWhile isBlank).reverse.dropWhile isBlank).reverse

def trim (s : String) : String :=
  String.ofList (trimChars s.toList)

/-! ## Pieces between separators -/

/-- The stretches between the occurrences of `sep`, one more than there are occurrences. -/
def splitChars (sep : Char) : List Char → List (List Char)
  | [] => [[]]
  | c :: cs =>
      if c = sep then [] :: splitChars sep cs
      else
        match splitChars sep cs with
        | [] => [[c]]
        | piece :: rest => (c :: piece) :: rest

/-- The stretches of a text between the occurrences of `sep`. -/
def split (sep : Char) (s : String) : List String :=
  (splitChars sep s.toList).map String.ofList

/-- The comma-separated pieces of a text, trimmed, without those that are empty then. -/
def pieces (s : String) : List String :=
  ((split ',' s).map trim).filter fun piece => piece != ""

theorem splitChars_ne_nil (sep : Char) (cs : List Char) : splitChars sep cs ≠ [] := by
  cases cs with
  | nil => simp [splitChars]
  | cons c cs =>
      simp only [splitChars]
      split
      · simp
      · split <;> simp

end Text
end FormValidation
