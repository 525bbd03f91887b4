import FormValidation.Json.Basic
import FormValidation.Text.Numeral

/-!
# Writing JSON

`Json.compact` writes a value without blanks, `Json.pretty` on several lines, two blanks for each level.
In strings the quote, the backslash and the control characters below the blank are escaped, and nothing
else is.
-/

namespace FormValidation
namespace Json
namespace Printer

/-! ## Strings and numbers -/

def hexDigit (n : Nat) : Char :=
  Nat.digitChar n

def char (c : Char) : List Char :=
  match c with
  | '"' => ['\\', '"']
  | '\\' => ['\\', '\\']
  | '\n' => ['\\', 'n']
  | '\r' => ['\\', 'r']
  | '\t' => ['\\', 't']
  | '\x08' => ['\\', 'b']
  | '\x0c' => ['\\', 'f']
  | c =>
      if c.toNat < 0x20 then
        ['\\', 'u', '0', '0', hexDigit (c.toNat / 16), hexDigit (c.toNat % 16)]
      else [c]

def string (s : String) : List Char :=
  '"' :: s.toList.flatMap char ++ ['"']

def number : Number → List Char
  | .natural n => Text.decimal n
  | .negative n => '-' :: Text.decimal n
  | .decimal mantissa exponent =>
      Text.integer mantissa ++ ['.', '0', 'e'] ++ Text.integer exponent

/-! ## Values on one line -/

mutual

def compact : Json → List Char
  | .null => ['n', 'u', 'l', 'l']
  | .bool true => ['t', 'r', 'u', 'e']
  | .bool false => ['f', 'a', 'l', 's', 'e']
  | .num n => number n
  | .str s => string s
  | .arr items => '[' :: compactItems items ++ [']']
  | .obj members => '\x7b' :: compactMembers members ++ ['\x7d']

def compactItems : List Json → List Char
  | [] => []
  | [j] => compact j
  | j :: rest => compact j ++ ',' :: compactItems rest

def compactMembers : List (String × Json) → List Char
  | [] => []
  | [(key, j)] => string key ++ ':' :: compact j
  | (key, j) :: rest => string key ++ ':' :: compact j ++ ',' :: compactMembers rest

end

/-! ## Values on several lines -/

def newLine (level : Nat) : List Char :=
  '\n' :: List.replicate (2 * level) ' '

mutual

def pretty (level : Nat) : Json → List Char
  | .arr [] => ['[', ']']
  | .arr items => '[' :: prettyItems (level + 1) items ++ newLine level ++ [']']
  | .obj [] => ['\x7b', '\x7d']
  | .obj members => '\x7b' :: prettyMembers (level + 1) members ++ newLine level ++ ['\x7d']
  | j => compact j

def prettyItems (level : Nat) : List Json → List Char
  | [] => []
  | [j] => newLine level ++ pretty level j
  | j :: rest => newLine level ++ pretty level j ++ ',' :: prettyItems level rest

def prettyMembers (level : Nat) : List (String × Json) → List Char
  | [] => []
  | [(key, j)] => newLine level ++ string key ++ [':', ' '] ++ pretty level j
  | (key, j) :: rest =>
      newLine level ++ string key ++ [':', ' '] ++ pretty level j ++ ',' :: prettyMembers level rest

end

end Printer

def compact (j : Json) : String :=
  String.ofList (Printer.compact j)

def pretty (j : Json) : String :=
  String.ofList (Printer.pretty 0 j)

end Json
end FormValidation
