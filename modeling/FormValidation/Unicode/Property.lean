import FormValidation.Unicode.Age
import FormValidation.Unicode.Binary
import FormValidation.Unicode.Category
import FormValidation.Unicode.Script
import FormValidation.Unicode.Segment

/-!
# Properties by name

`members?` answers a query for a property with the set of characters that have it.  Names are compared
loosely: case, spaces, hyphens, underscores and a leading `is` do not count.
-/

namespace FormValidation
namespace Unicode

/-! ## Loose names -/

/-- The form in which names are compared. -/
def looseName (name : String) : String :=
  let cs := name.toList
  let isPrefixed :=
    match cs with
    | c :: d :: _ => c.toLower == 'i' && d.toLower == 's'
    | _ => false
  let kept := (if isPrefixed then cs.drop 2 else cs).filter fun c =>
    c.toNat < 0x80 && !(c == ' ' || c == '_' || c == '-')
  let lowered := kept.map Char.toLower
  -- The short name of the ISO comment keeps its first two letters.
  if isPrefixed && lowered == ['c'] then "isc" else String.ofList lowered

/-! ## Queries -/

/-- A property asked for by one name, or by the names of a property and of one of its values. -/
inductive Query where
  | named (name : String)
  | valued (property value : String)

/-- The categories that a one-letter category, or another union of categories, stands for. -/
def categoryUnion? (name : String) : Option (List String) :=
  if ["c", "other"].contains name then some ["cc", "cf", "cn", "co", "cs"]
  else if ["l", "letter"].contains name then some ["ll", "lm", "lo", "lt", "lu"]
  else if ["lc", "casedletter"].contains name then some ["ll", "lt", "lu"]
  else if ["m", "mark", "combiningmark"].contains name then some ["mc", "me", "mn"]
  else if ["n", "number"].contains name then some ["nd", "nl", "no"]
  else if ["p", "punctuation", "punct"].contains name then
    some ["pc", "pd", "pe", "pf", "pi", "po", "ps"]
  else if ["s", "symbol"].contains name then some ["sc", "sk", "sm", "so"]
  else if ["z", "separator"].contains name then some ["zl", "zp", "zs"]
  else if name == "assigned" then
    some ["cc", "cf", "co", "cs", "ll", "lm", "lo", "lt", "lu", "mc", "me", "mn", "nd", "nl", "no",
      "pc", "pd", "pe", "pf", "pi", "po", "ps", "sc", "sk", "sm", "so", "zl", "zp", "zs"]
  else none

/-- The members of a general category, given by its loose name. -/
def category? (name : String) : Option Ranges :=
  if name == "any" then some [(0, 0x10ffff)]
  else if name == "ascii" then some [(0, 0x7f)]
  else
    match categoryUnion? name with
    | some parts => some (parts.flatMap fun part => (categories.find? part).getD [])
    | none => categories.find? name

/-- The members of a script together with the characters it shares with others. -/
def scriptExtension? (name : String) : Option Ranges :=
  (scriptExtensions.find? name).or (scripts.find? name)

/-- The characters that were assigned in the given version or before it. -/
def assignedBy? (version : String) : Option Ranges :=
  let (older, rest) := List.span (fun row => !row.1.contains version) ages
  match rest with
  | [] => none
  | row :: _ => some ((older ++ [row]).flatMap fun r => Ranges.ofLines r.2)

/-- The members of a property asked for by one loose name: a binary property, else a general category,
else a script. -/
def binary? (name : String) : Option Ranges :=
  (binaryProperties.find? name).or ((category? name).or (scripts.find? name))

/-- The characters that a query asks for, `none` if there is no such property. -/
def members? : Query → Option Ranges
  | .named name => binary? (looseName name)
  | .valued property value =>
      let property := looseName property
      let value := looseName value
      if ["gc", "generalcategory"].contains property then category? value
      else if ["sc", "script"].contains property then scripts.find? value
      else if ["scx", "scriptextensions"].contains property then scriptExtension? value
      else if property == "age" then assignedBy? value
      else if ["gcb", "graphemeclusterbreak"].contains property then graphemeBreaks.find? value
      else if ["wb", "wordbreak"].contains property then wordBreaks.find? value
      else if ["sb", "sentencebreak"].contains property then sentenceBreaks.find? value
      else none

/-! ## Classes that patterns name by one letter -/

def digits : Ranges :=
  (categories.find? "nd").getD []

/-- Letters, marks, decimal digits, connectors and joiners: what words are made of. -/
def wordCharacters : Ranges :=
  ["alphabetic", "m", "nd", "pc", "joincontrol"].flatMap fun name => (binary? name).getD []

end Unicode
end FormValidation
