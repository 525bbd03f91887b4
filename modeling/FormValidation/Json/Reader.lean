import FormValidation.Json.Basic

/-!
# Reading JSON

`Json.read?` reads a whole text as one value.  Values may be nested 127 deep, numbers must not lie
beyond the largest number of double precision, and a code point written as two escapes must be a proper
surrogate pair.  `Json.Reader.value` with `careful := false` checks the grammar only; it is for members
that are skipped.
-/

namespace FormValidation
namespace Json
namespace Reader

/-! ## Blanks, digits and strings -/

/-- The text from the first character on that is no blank. -/
def skipBlanks : List Char → List Char
  | [] => []
  | c :: cs =>
      if c == ' ' || c == '\t' || c == '\n' || c == '\r' then skipBlanks cs else c :: cs

def hexDigit? (c : Char) : Option Nat :=
  if '0' ≤ c ∧ c ≤ '9' then some (c.toNat - '0'.toNat)
  else if 'a' ≤ c ∧ c ≤ 'f' then some (c.toNat - 'a'.toNat + 10)
  else if 'A' ≤ c ∧ c ≤ 'F' then some (c.toNat - 'A'.toNat + 10)
  else none

def hexFour? (a b c d : Char) : Option Nat := do
  return 4096 * (← hexDigit? a) + 256 * (← hexDigit? b) + 16 * (← hexDigit? c) + (← hexDigit? d)

def escape? : Char → Option Char
  | '"' => some '"'
  | '\\' => some '\\'
  | '/' => some '/'
  | 'b' => some '\x08'
  | 'f' => some '\x0c'
  | 'n' => some '\n'
  | 'r' => some '\r'
  | 't' => some '\t'
  | _ => none

/-- Puts a character in front of what was read after it. -/
def consChar (c : Char) (r : List Char × List Char) : List Char × List Char :=
  (c :: r.1, r.2)

/-- A string from behind its opening quote on, and the text behind its closing quote.  `high` is the
first half of a surrogate pair that was just read. -/
def string (careful : Bool) (high : Option Nat) : List Char → Option (List Char × List Char)
  | [] => none
  | '"' :: cs => if high.isSome then none else some ([], cs)
  | '\\' :: 'u' :: a :: b :: c :: d :: cs =>
      match hexFour? a b c d with
      | none => none
      | some n =>
          if !careful then string careful none cs
          else
            -- The halves of a pair must stand next to each other.
            match high with
            | some h =>
                if 0xdc00 ≤ n && n ≤ 0xdfff then
                  let code := 0x10000 + (h - 0xd800) * 0x400 + (n - 0xdc00)
                  (string careful none cs).map (consChar (Char.ofNat code))
                else none
            | none =>
                if 0xd800 ≤ n && n ≤ 0xdbff then string careful (some n) cs
                else if 0xdc00 ≤ n && n ≤ 0xdfff then none
                else (string careful none cs).map (consChar (Char.ofNat n))
  | '\\' :: e :: cs =>
      match high, escape? e with
      | none, some c => (string careful none cs).map (consChar c)
      | _, _ => none
  | c :: cs =>
      if high.isSome || c.toNat < 0x20 || c == '\\' then none
      else (string careful none cs).map (consChar c)

/-! ## Numbers -/

/-- Whether `mantissa * 10 ^ exponent` rounds to a finite number of double precision. -/
def inRange (mantissa : Nat) (exponent : Int) : Bool :=
  let size : Int := (Nat.toDigits 10 mantissa).length + exponent
  if mantissa == 0 || size < 300 then true
  else if 320 < size then false
  else
    -- From here on the number rounds to infinity.
    let bound : Nat := Nat.pow 2 1024 - Nat.pow 2 970
    if 0 ≤ exponent then mantissa * Nat.pow 10 exponent.toNat < bound
    else mantissa < bound * Nat.pow 10 exponent.natAbs

/-- The number with the given sign, digits before and behind the point, and exponent. -/
def number? (negative : Bool) (whole : List Char) (fraction : Option (List Char))
    (exponent : Option Int) : Option Number :=
  let signed (n : Nat) : Int := if negative then -n else n
  match fraction, exponent with
  | none, none =>
      -- A whole number beyond 64 bits is read as a decimal one.
      let n := Nat.ofDigitChars 10 whole 0
      if !negative && n < 0x10000000000000000 then some (.natural n)
      else if negative && 0 < n && n ≤ 0x8000000000000000 then some (.negative n)
      else if inRange n 0 then some (.decimal (signed n) 0)
      else none
  | fraction, exponent =>
      let digits := fraction.getD []
      let mantissa := Nat.ofDigitChars 10 (whole ++ digits) 0
      let e := exponent.getD 0 - digits.length
      if inRange mantissa e then some (.decimal (signed mantissa) e) else none

/-- The exponent part of a number, if there is one. -/
def exponentPart : List Char → Option (Option Int × List Char)
  | c :: cs =>
      if c == 'e' || c == 'E' then
        let (negative, cs) :=
          match cs with
          | '-' :: rest => (true, rest)
          | '+' :: rest => (false, rest)
          | rest => (false, rest)
        let digits := cs.takeWhile Char.isDigit
        if digits.isEmpty then none
        else
          let n : Int := Nat.ofDigitChars 10 digits 0
          some (some (if negative then -n else n), cs.dropWhile Char.isDigit)
      else some (none, c :: cs)
  | [] => some (none, [])

/-- The part of a number from the point on, if there is one. -/
def fractionPart : List Char → Option (Option (List Char) × List Char)
  | '.' :: cs =>
      let digits := cs.takeWhile Char.isDigit
      if digits.isEmpty then none else some (some digits, cs.dropWhile Char.isDigit)
  | cs => some (none, cs)

def number (careful negative : Bool) (cs : List Char) : Option (Json × List Char) := do
  let whole := cs.takeWhile Char.isDigit
  if whole.isEmpty || (whole.head? == some '0' && whole.length != 1) then failure
  let (fraction, cs) ← fractionPart (cs.dropWhile Char.isDigit)
  let (exponent, cs) ← exponentPart cs
  if careful then return (.num (← number? negative whole fraction exponent), cs)
  else return (.null, cs)

/-! ## Values -/

mutual

/-- A value, nested at most `depth` deep if it is read with care, and the text behind it. -/
def value (careful : Bool) : Nat → Nat → List Char → Option (Json × List Char)
  | 0, _, _ => none
  | fuel + 1, depth, cs =>
      match skipBlanks cs with
      | 'n' :: 'u' :: 'l' :: 'l' :: cs => some (.null, cs)
      | 't' :: 'r' :: 'u' :: 'e' :: cs => some (.bool true, cs)
      | 'f' :: 'a' :: 'l' :: 's' :: 'e' :: cs => some (.bool false, cs)
      | '"' :: cs => (string careful none cs).map fun (s, cs) => (.str (String.ofList s), cs)
      | '-' :: cs => number careful true cs
      | '[' :: cs =>
          if careful && depth == 0 then none
          else
            match skipBlanks cs with
            | ']' :: cs => some (.arr [], cs)
            | cs => (items careful fuel (depth - 1) cs).map fun (l, cs) => (.arr l, cs)
      | '\x7b' :: cs =>
          if careful && depth == 0 then none
          else
            match skipBlanks cs with
            | '\x7d' :: cs => some (.obj [], cs)
            | cs => (members careful fuel (depth - 1) cs).map fun (l, cs) => (.obj l, cs)
      | cs => number careful false cs

/-- The items of an array from the first one on, and the text behind the closing bracket. -/
def items (careful : Bool) : Nat → Nat → List Char → Option (List Json × List Char)
  | 0, _, _ => none
  | fuel + 1, depth, cs => do
      let (j, cs) ← value careful fuel depth cs
      match skipBlanks cs with
      | ',' :: cs =>
          let (rest, cs) ← items careful fuel depth cs
          return (j :: rest, cs)
      | ']' :: cs => return ([j], cs)
      | _ => failure

/-- The members of an object from the first one on, and the text behind the closing brace. -/
def members (careful : Bool) : Nat → Nat → List Char → Option (List (String × Json) × List Char)
  | 0, _, _ => none
  | fuel + 1, depth, cs => do
      match skipBlanks cs with
      | '"' :: cs =>
          let (key, cs) ← string careful none cs
          match skipBlanks cs with
          | ':' :: cs =>
              let (j, cs) ← value careful fuel depth cs
              match skipBlanks cs with
              | ',' :: cs =>
                  let (rest, cs) ← members careful fuel depth cs
                  return ((String.ofList key, j) :: rest, cs)
              | '\x7d' :: cs => return ([(String.ofList key, j)], cs)
              | _ => failure
          | _ => failure
      | _ => failure

end

/-- The members of an object from the first one on, and the text behind the closing brace.  Members
whose keys are not among `known` are not read with care. -/
def membersOf (known : List String) :
    Nat → Nat → List Char → Option (List (String × Json) × List Char)
  | 0, _, _ => none
  | fuel + 1, depth, cs => do
      match skipBlanks cs with
      | '"' :: cs =>
          let (key, cs) ← string true none cs
          match skipBlanks cs with
          | ':' :: cs =>
              let (j, cs) ← value (known.contains (String.ofList key)) fuel depth cs
              match skipBlanks cs with
              | ',' :: cs =>
                  let (rest, cs) ← membersOf known fuel depth cs
                  return ((String.ofList key, j) :: rest, cs)
              | '\x7d' :: cs => return ([(String.ofList key, j)], cs)
              | _ => failure
          | _ => failure
      | _ => failure

/-- How deeply arrays and objects may be nested. -/
def depthLimit : Nat := 127

/-- A number of steps that is enough for a text. -/
def enough (cs : List Char) : Nat :=
  2 * cs.length + 2

end Reader

/-- The value that the whole of a text spells, read by `r`. -/
def whole (r : List Char → Option (Json × List Char)) (text : String) : Option Json := do
  let (j, rest) ← r text.toList
  if (Reader.skipBlanks rest).isEmpty then some j else none

def read? (text : String) : Option Json :=
  whole (fun cs => Reader.value true (Reader.enough cs) Reader.depthLimit cs) text

/-- Reads a text as one value; if it is an object, members whose keys are not among `known` are only
checked for their grammar. -/
def readMembers? (known : List String) (text : String) : Option Json :=
  whole (fun cs =>
    match Reader.skipBlanks cs with
    | '\x7b' :: cs =>
        match Reader.skipBlanks cs with
        | '\x7d' :: cs => some (.obj [], cs)
        | cs => (Reader.membersOf known (Reader.enough cs) (Reader.depthLimit - 1) cs).map
            fun (l, cs) => (.obj l, cs)
    | cs => Reader.value true (Reader.enough cs) Reader.depthLimit cs) text

end Json
end FormValidation
