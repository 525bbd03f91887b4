import FormValidation.Calendar.Basic
import FormValidation.Json.Reader
import FormValidation.Toml.Table

/-!
# Reading TOML

`Toml.read?` reads a whole text as a TOML 1.0 document.  Integers have 64 bits, and a positive decimal
number must not lie beyond the largest number of double precision.  Arrays and inline tables may be
nested 79 deep, and a dotted key may have 79 parts.

Each reader takes the text that is left and gives what it read and the text behind it.
-/

namespace FormValidation
namespace Toml
namespace Reader

/-! ## Blanks, comments and the ends of lines -/

def isBlank (c : Char) : Bool :=
  c == ' ' || c == '\t'

/-- The text from the first character on that is no blank within a line. -/
def skipBlanks (cs : List Char) : List Char :=
  cs.dropWhile isBlank

/-- Whether a character may stand in comments and strings: all but the controls, of which the tabulator
is allowed. -/
def isPlain (c : Char) : Bool :=
  c == '\t' || (0x20 ≤ c.toNat && c.toNat != 0x7f)

/-- The text behind the end of a line, or the end of the whole text. -/
def lineBreak? : List Char → Option (List Char)
  | [] => some []
  | '\n' :: cs => some cs
  | '\r' :: '\n' :: cs => some cs
  | _ => none

/-- The text behind the rest of a line that holds at most a comment. -/
def lineEnd? (cs : List Char) : Option (List Char) :=
  match skipBlanks cs with
  | '#' :: cs => lineBreak? (cs.dropWhile isPlain)
  | cs => lineBreak? cs

/-- The text from the first character on that belongs to no blank, line break or comment.  A comment
must end in a line break. -/
def skipLines (inComment : Bool) : List Char → List Char
  | [] => []
  | '\n' :: cs => skipLines false cs
  | '\r' :: '\n' :: cs => skipLines false cs
  | c :: cs =>
      if inComment then if isPlain c then skipLines true cs else c :: cs
      else if isBlank c then skipLines false cs
      else if c == '#' then skipLines true cs
      else c :: cs

/-! ## Strings -/

def hexValue? (cs : List Char) : Option Nat :=
  cs.foldlM (fun n c => (Json.Reader.hexDigit? c).map fun d => 16 * n + d) 0

def scalar? (digits : List Char) : Option Char := do
  let n ← hexValue? digits
  if n.isValidChar then some (Char.ofNat n) else none

def escape? : Char → Option Char
  | 'b' => some '\x08'
  | 'f' => some '\x0c'
  | 'n' => some '\n'
  | 'r' => some '\r'
  | 't' => some '\t'
  | '\\' => some '\\'
  | '"' => some '"'
  | _ => none

/-- Puts a character in front of what was read after it. -/
def consChar (c : Char) (r : List Char × List Char) : List Char × List Char :=
  (c :: r.1, r.2)

def basicBody : List Char → Option (List Char × List Char)
  | [] => none
  | '"' :: cs => some ([], cs)
  | '\\' :: 'u' :: a :: b :: c :: d :: cs => do
      return consChar (← scalar? [a, b, c, d]) (← basicBody cs)
  | '\\' :: 'U' :: a :: b :: c :: d :: e :: f :: g :: h :: cs => do
      return consChar (← scalar? [a, b, c, d, e, f, g, h]) (← basicBody cs)
  | '\\' :: e :: cs => do return consChar (← escape? e) (← basicBody cs)
  | c :: cs =>
      if isPlain c && c != '\\' then (basicBody cs).map (consChar c) else none

def literalBody : List Char → Option (List Char × List Char)
  | [] => none
  | '\'' :: cs => some ([], cs)
  | c :: cs => if isPlain c then (literalBody cs).map (consChar c) else none

/-- Whether a line break follows, perhaps after blanks. -/
def breaksLine (cs : List Char) : Bool :=
  match skipBlanks cs with
  | '\n' :: _ => true
  | '\r' :: '\n' :: _ => true
  | _ => false

/-- The rest of a string between triple quotes.  A backslash at the end of a line takes away all blanks
and line breaks that follow; `skipping` says that it is at work. -/
def basicLines (skipping : Bool) : List Char → Option (List Char × List Char)
  | [] => none
  -- Up to two quotes before the closing ones belong to the string.
  | '"' :: '"' :: '"' :: '"' :: '"' :: cs => some (['"', '"'], cs)
  | '"' :: '"' :: '"' :: '"' :: cs => some (['"'], cs)
  | '"' :: '"' :: '"' :: cs => some ([], cs)
  | '\r' :: '\n' :: cs =>
      if skipping then basicLines true cs else (basicLines false cs).map (consChar '\n')
  | '\n' :: cs =>
      if skipping then basicLines true cs else (basicLines false cs).map (consChar '\n')
  | '\\' :: 'u' :: a :: b :: c :: d :: cs => do
      return consChar (← scalar? [a, b, c, d]) (← basicLines false cs)
  | '\\' :: 'U' :: a :: b :: c :: d :: e :: f :: g :: h :: cs => do
      return consChar (← scalar? [a, b, c, d, e, f, g, h]) (← basicLines false cs)
  | '\\' :: e :: cs =>
      if breaksLine (e :: cs) then basicLines true (e :: cs)
      else do return consChar (← escape? e) (← basicLines false cs)
  | c :: cs =>
      if skipping && isBlank c then basicLines true cs
      else if isPlain c && c != '\\' then (basicLines false cs).map (consChar c)
      else none

/-- The rest of a string between triple apostrophes. -/
def literalLines : List Char → Option (List Char × List Char)
  | [] => none
  | '\'' :: '\'' :: '\'' :: '\'' :: '\'' :: cs => some (['\'', '\''], cs)
  | '\'' :: '\'' :: '\'' :: '\'' :: cs => some (['\''], cs)
  | '\'' :: '\'' :: '\'' :: cs => some ([], cs)
  | '\r' :: '\n' :: cs => (literalLines cs).map (consChar '\n')
  | c :: cs => if isPlain c || c == '\n' then (literalLines cs).map (consChar c) else none

/-- A line break just after the opening of a string of several lines does not belong to it. -/
def afterOpening : List Char → List Char
  | '\n' :: cs => cs
  | '\r' :: '\n' :: cs => cs
  | cs => cs

def lineString : List Char → Option (List Char × List Char)
  | '"' :: cs => basicBody cs
  | '\'' :: cs => literalBody cs
  | _ => none

def string : List Char → Option (List Char × List Char)
  | '"' :: '"' :: '"' :: cs => basicLines false (afterOpening cs)
  | '\'' :: '\'' :: '\'' :: cs => literalLines (afterOpening cs)
  | cs => lineString cs

/-! ## Keys -/

def isBare (c : Char) : Bool :=
  c.isAlphanum || c == '-' || c == '_'

def simpleKey (cs : List Char) : Option (String × List Char) :=
  match cs with
  | '"' :: _ | '\'' :: _ => (lineString cs).map fun (s, cs) => (String.ofList s, cs)
  | cs =>
      let key := cs.takeWhile isBare
      if key.isEmpty then none else some (String.ofList key, cs.dropWhile isBare)

/-- The parts of a key, at most so many, and the text behind the blanks that follow. -/
def keyParts : Nat → List Char → Option (List String × List Char)
  | 0, _ => none
  | more + 1, cs => do
      let (part, cs) ← simpleKey (skipBlanks cs)
      match skipBlanks cs with
      | '.' :: cs =>
          let (parts, cs) ← keyParts more cs
          return (part :: parts, cs)
      | cs => return ([part], cs)

/-- How many parts a key may have, and how deeply arrays and inline tables may be nested. -/
def depthLimit : Nat := 79

/-- A key: the parts before the last one, and the last one. -/
def key (cs : List Char) : Option ((List String × String) × List Char) := do
  let (parts, cs) ← keyParts depthLimit cs
  match parts.reverse with
  | last :: before => return ((before.reverse, last), cs)
  | [] => none

/-! ## Moments -/

def expect (c : Char) : List Char → Option (List Char)
  | d :: cs => if d = c then some cs else none
  | [] => none

def numberOf (width low high : Nat) (cs : List Char) : Option (Nat × List Char) := do
  let digits := cs.take width
  let n ← Text.natural? digits
  if digits.length = width ∧ low ≤ n ∧ n ≤ high then some (n, cs.drop width) else none

def lastDay (year month : Nat) : Nat :=
  (Calendar.monthLengths[month - 1]?).getD 0 +
    if month == 2 && Calendar.isGregorianLeap year then 1 else 0

def day (cs : List Char) : Option (Day × List Char) := do
  let (year, cs) ← numberOf 4 0 9999 cs
  let (month, cs) ← numberOf 2 1 12 (← expect '-' cs)
  let (day, cs) ← numberOf 2 1 (lastDay year month) (← expect '-' cs)
  return (⟨year, month, day⟩, cs)

/-- The nanoseconds of the digits behind a point; digits beyond the ninth do not count. -/
def nanoseconds (digits : List Char) : Nat :=
  let kept := digits.take 9
  Nat.ofDigitChars 10 kept 0 * Nat.pow 10 (9 - kept.length)

def fraction (cs : List Char) : Nat × List Char :=
  match cs with
  | '.' :: rest =>
      let digits := rest.takeWhile Char.isDigit
      if digits.isEmpty then (0, cs) else (nanoseconds digits, rest.dropWhile Char.isDigit)
  | cs => (0, cs)

def clock (cs : List Char) : Option (Clock × List Char) := do
  let (hour, cs) ← numberOf 2 0 23 cs
  let (minute, cs) ← numberOf 2 0 59 (← expect ':' cs)
  let (second, cs) ← numberOf 2 0 60 (← expect ':' cs)
  let (nanosecond, cs) := fraction cs
  return (⟨hour, minute, second, nanosecond⟩, cs)

def signedOffset (negative : Bool) (cs : List Char) : Option (Offset × List Char) := do
  let (hours, cs) ← numberOf 2 0 23 cs
  let (minutes, cs) ← numberOf 2 0 59 (← expect ':' cs)
  let total : Int := hours * 60 + minutes
  return (.minutes (if negative then -total else total), cs)

def offset (cs : List Char) : Option (Option Offset × List Char) :=
  match cs with
  | 'Z' :: cs | 'z' :: cs => some (some .universal, cs)
  | '+' :: cs => (signedOffset false cs).map fun (o, cs) => (some o, cs)
  | '-' :: cs => (signedOffset true cs).map fun (o, cs) => (some o, cs)
  | cs => some (none, cs)

/-- The time that follows a day, if there is one. -/
def clockAfterDay : List Char → Option (Clock × List Char)
  | 'T' :: cs | 't' :: cs | ' ' :: cs => clock cs
  | _ => none

def moment (cs : List Char) : Option (Moment × List Char) :=
  match day cs with
  | some (d, cs) =>
      -- Without a proper time behind it the day stands alone.
      match clockAfterDay cs with
      | some (c, cs) => (offset cs).map fun (o, cs) => (.dayAndClock d c o, cs)
      | none => some (.day d, cs)
  | none => (clock cs).map fun (c, cs) => (.clock c, cs)

/-! ## Numbers -/

/-- The digits from here on, with single underscores between them. -/
def moreDigits (isDigit : Char → Bool) : List Char → Option (List Char × List Char)
  | [] => some ([], [])
  | '_' :: c :: cs => if isDigit c then (moreDigits isDigit cs).map (consChar c) else none
  | c :: cs =>
      if isDigit c then (moreDigits isDigit cs).map (consChar c)
      else if c == '_' then none
      else some ([], c :: cs)

/-- One digit or more, with single underscores between them. -/
def digits (isDigit : Char → Bool) : List Char → Option (List Char × List Char)
  | c :: cs => if isDigit c then (moreDigits isDigit cs).map (consChar c) else none
  | [] => none

/-- A sign, if there is one, and whether it is a minus. -/
def sign : List Char → Bool × List Char
  | '-' :: cs => (true, cs)
  | '+' :: cs => (false, cs)
  | cs => (false, cs)

/-- The digits of a whole number, which has no zero in front. -/
def wholeDigits : List Char → Option (List Char × List Char)
  | '0' :: cs => some (['0'], cs)
  | cs => digits Char.isDigit cs

def exponent (cs : List Char) : Option (Int × List Char) := do
  let (negative, cs) := sign cs
  let (ds, cs) ← digits Char.isDigit cs
  let n : Int := Nat.ofDigitChars 10 ds 0
  return (if negative then -n else n, cs)

/-- The decimal number `± mantissa * 10 ^ exponent`, unless it is too large. -/
def decimal? (negative : Bool) (mantissa : Nat) (exponent : Int) : Option Decimal :=
  if Json.Reader.inRange mantissa exponent then
    some (.finite (if negative then -(mantissa : Int) else mantissa) exponent)
  -- Only a negative number may round to infinity.
  else if negative then some (.infinite true)
  else none

/-- An integer of 64 bits. -/
def integer? (i : Int) : Option Value :=
  if Text.fitsSigned64 i then some (.integer i) else none

/-- What follows the whole part of a decimal number, as digits behind the point and an exponent. -/
def decimalTail (cs : List Char) : Option (List Char × Int × List Char) :=
  match cs with
  | 'e' :: cs | 'E' :: cs => (exponent cs).map fun (e, cs) => ([], e, cs)
  | '.' :: cs => do
      let (ds, cs) ← digits Char.isDigit cs
      match cs with
      | 'e' :: cs | 'E' :: cs => (exponent cs).map fun (e, cs) => (ds, e, cs)
      | cs => return (ds, 0, cs)
  | _ => none

def decimalNumber (cs : List Char) : Option (Value × List Char) := do
  let (negative, cs) := sign cs
  match cs with
  | 'i' :: 'n' :: 'f' :: cs => return (.decimal (.infinite negative), cs)
  | 'n' :: 'a' :: 'n' :: cs => return (.decimal .nan, cs)
  | cs =>
      let (whole, cs) ← wholeDigits cs
      match cs with
      | 'e' :: _ | 'E' :: _ | '.' :: _ =>
          let (ds, e, cs) ← decimalTail cs
          let d ← decimal? negative (Nat.ofDigitChars 10 (whole ++ ds) 0) (e - ds.length)
          return (.decimal d, cs)
      | cs =>
          let n : Int := Nat.ofDigitChars 10 whole 0
          return (← integer? (if negative then -n else n), cs)

def binaryNumber (base : Nat) (isDigit : Char → Bool) (cs : List Char) :
    Option (Value × List Char) := do
  let (ds, cs) ← digits isDigit cs
  let n := ds.foldl (fun n c => base * n + (Json.Reader.hexDigit? c).getD 0) 0
  return (← integer? n, cs)

def number : List Char → Option (Value × List Char)
  | '0' :: 'x' :: cs => binaryNumber 16 (fun c => (Json.Reader.hexDigit? c).isSome) cs
  | '0' :: 'o' :: cs => binaryNumber 8 (fun c => '0' ≤ c && c ≤ '7') cs
  | '0' :: 'b' :: cs => binaryNumber 2 (fun c => c == '0' || c == '1') cs
  | cs => decimalNumber cs

/-! ## Values -/

mutual

/-- A value, in which arrays and inline tables are nested at most `depth` deep. -/
def value : Nat → Nat → List Char → Option (Value × List Char)
  | 0, _, _ => none
  | fuel + 1, depth, cs =>
      match cs with
      | '"' :: _ | '\'' :: _ => (string cs).map fun (s, cs) => (.text (String.ofList s), cs)
      | 't' :: 'r' :: 'u' :: 'e' :: cs => some (.bool true, cs)
      | 'f' :: 'a' :: 'l' :: 's' :: 'e' :: cs => some (.bool false, cs)
      | '[' :: cs =>
          if depth = 0 then none
          else (items fuel (depth - 1) cs).map fun (l, cs) => (.array l, cs)
      | '\x7b' :: cs =>
          if depth = 0 then none
          else
            match skipBlanks cs with
            | '\x7d' :: cs => some (.table [], cs)
            | cs => (members fuel (depth - 1) [] cs).map fun (es, cs) =>
                (.table (closeEntries es), cs)
      | cs =>
          -- A moment begins with digits as numbers do, so it is tried first.
          match moment cs with
          | some (m, cs) => some (.moment m, cs)
          | none => number cs

def items : Nat → Nat → List Char → Option (List Value × List Char)
  | 0, _, _ => none
  | fuel + 1, depth, cs =>
      match skipLines false cs with
      | ']' :: cs => some ([], cs)
      | cs => do
          let (v, cs) ← value fuel depth cs
          match skipLines false cs with
          -- Behind the comma the array may also end.
          | ',' :: cs =>
              let (rest, cs) ← items fuel depth cs
              return (v :: rest, cs)
          | ']' :: cs => return ([v], cs)
          | _ => failure

/-- The members of an inline table up to its end, put one after the other into `done`. -/
def members : Nat → Nat → Entries → List Char → Option (Entries × List Char)
  | 0, _, _, _ => none
  | fuel + 1, depth, done, cs => do
      let ((path, last), cs) ← key cs
      let (v, cs) ← value fuel depth (skipBlanks (← expect '=' cs))
      let done ← Entries.assign path last v .header done
      match skipBlanks cs with
      -- Behind the comma another member must follow.
      | ',' :: cs => members fuel depth done cs
      | '\x7d' :: cs => return (done, cs)
      | _ => failure

end

/-! ## Documents -/

/-- A number of steps that is enough for a text. -/
def enough (cs : List Char) : Nat :=
  2 * cs.length + 2

def entry (d : Draft) (cs : List Char) : Option (Draft × List Char) := do
  let ((path, last), cs) ← key cs
  let cs := skipBlanks (← expect '=' cs)
  let (v, cs) ← value (enough cs) depthLimit cs
  return (← d.assign path last v, ← lineEnd? cs)

/-- The header of a table behind its opening bracket. -/
def tableHeader (d : Draft) (cs : List Char) : Option (Draft × List Char) := do
  let ((path, last), cs) ← key cs
  let cs ← lineEnd? (← expect ']' cs)
  return (← d.openTable path last, cs)

/-- The header of a table of an array behind its opening brackets. -/
def itemHeader (d : Draft) (cs : List Char) : Option (Draft × List Char) := do
  let ((path, last), cs) ← key cs
  let cs ← lineEnd? (← expect ']' (← expect ']' cs))
  return (← d.openItem path last, cs)

def lines : Nat → Draft → List Char → Option Draft
  | 0, _, _ => none
  | fuel + 1, d, cs =>
      match skipBlanks cs with
      | [] => some d
      | '\n' :: cs => lines fuel d cs
      | '\r' :: '\n' :: cs => lines fuel d cs
      | '#' :: cs => do lines fuel d (← lineEnd? ('#' :: cs))
      | '[' :: '[' :: cs => do
          let (d, cs) ← itemHeader d cs
          lines fuel d cs
      | '[' :: cs => do
          let (d, cs) ← tableHeader d cs
          lines fuel d cs
      | cs => do
          let (d, cs) ← entry d cs
          lines fuel d cs

/-- The text without a byte order mark in front. -/
def withoutMark : List Char → List Char
  | '\uFEFF' :: cs => cs
  | cs => cs

end Reader

def read? (text : String) : Option Value := do
  let cs := Reader.withoutMark text.toList
  let d ← Reader.lines (Reader.enough cs) {} cs
  return .table (closeEntries d.root)

end Toml
end FormValidation
