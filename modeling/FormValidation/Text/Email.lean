import FormValidation.Text.Blank

/-!
# Email addresses

An address is a name, the sign `@` and a domain.  A name is made of words of ASCII letters, digits and
underscores, joined by single points and hyphens.  A domain is a name that ends in a point and a word of
two characters or more.
-/

namespace FormValidation
namespace Email

def isWordChar (c : Char) : Bool :=
  c.isAlphanum || c == '_'

/-- Whether the characters are a word. -/
def isWord (cs : List Char) : Bool :=
  !cs.isEmpty && cs.all isWordChar

/-- The stretches between points and hyphens. -/
def parts (cs : List Char) : List (List Char) :=
  Text.splitChars '.' (cs.map fun c => if c = '-' then '.' else c)

/-- Whether the characters are words joined by single points and hyphens. -/
def isName (cs : List Char) : Bool :=
  (parts cs).all isWord

/-- Whether the characters are a name that ends in a point and a word of two characters or more. -/
def isDomain (cs : List Char) : Bool :=
  -- The domain is split at its last point, from behind.
  let lastWord := cs.reverse.takeWhile isWordChar
  match cs.reverse.dropWhile isWordChar with
  | '.' :: before => decide (2 ≤ lastWord.length) && isName before.reverse
  | _ => false

def isAddress (s : String) : Bool :=
  match Text.splitChars '@' s.toList with
  | [name, domain] => isName name && isDomain domain
  | _ => false

end Email
end FormValidation
