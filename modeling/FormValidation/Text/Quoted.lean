import FormValidation.Unicode.Property

/-!
# Quoted text

A text between double quotes in which every character that would not show as itself is escaped:
controls, the quote and the backslash, marks that would join the character before them, and characters
that have no visible form.
-/

namespace FormValidation
namespace Text

/-- The categories whose members have no visible form of their own. -/
def hiddenCategories : List String :=
  ["cc", "cf", "cs", "co", "cn", "zl", "zp", "zs"]

def escapedRanges : Unicode.Ranges :=
  (hiddenCategories.flatMap fun c => (Unicode.category? c).getD []) ++
    (Unicode.binary? "graphemeextend").getD []

def quotedChar (c : Char) : List Char :=
  match c with
  | '\x00' => ['\\', '0']
  | '\t' => ['\\', 't']
  | '\r' => ['\\', 'r']
  | '\n' => ['\\', 'n']
  | '"' => ['\\', '"']
  | '\\' => ['\\', '\\']
  | c =>
      if c != ' ' && escapedRanges.contains c.toNat then
        ['\\', 'u', '\x7b'] ++ Nat.toDigits 16 c.toNat ++ ['\x7d']
      else [c]

def quoted (s : String) : String :=
  String.ofList ('"' :: s.toList.flatMap quotedChar ++ ['"'])

end Text
end FormValidation
