import FormValidation.Pattern.Syntax
import FormValidation.Text.Blank

/-!
# Reading patterns

`Syntax.read?` reads the text of a pattern.  A text that is no pattern is refused without a reason.

In extended mode white space and comments between the signs of a pattern do not count.  `skip` drops
them, and does nothing in the other modes.
-/

namespace FormValidation
namespace Pattern
namespace Reader

open Text (isBlank)

/-! ## State -/

/-- Where a reader is in the text, and what it has to remember. -/
structure State where
  rest : List Char
  extended : Bool := false
  /-- How many capturing groups were opened. -/
  groups : Nat := 0
  /-- The names of the named groups. -/
  names : List (List Char) := []

/-- A reader of a part of a pattern. -/
abbrev Reading (α : Type) := StateT State Option α

/-- Drops white space and comments, which begin with `#` and end with the line. -/
def dropBlanks (inComment : Bool) : List Char → List Char
  | [] => []
  | c :: cs =>
      if inComment then dropBlanks (c != '\n') cs
      else if isBlank c then dropBlanks false cs
      else if c == '#' then dropBlanks true cs
      else c :: cs

/-- Drops what does not count in extended mode. -/
def skip : Reading Unit :=
  modify fun s => if s.extended then { s with rest := dropBlanks false s.rest } else s

def rest : Reading (List Char) := do
  return (← get).rest

/-- Goes on behind the first `n` characters. -/
def drop (n : Nat) : Reading Unit :=
  modify fun s => { s with rest := s.rest.drop n }

/-- Goes on behind the next character and what does not count after it. -/
def advance : Reading Unit := do
  drop 1
  skip

def current : Reading Char := do
  match (← get).rest with
  | [] => failure
  | c :: _ => return c

def accept (text : List Char) : Reading Bool := do
  let cs ← rest
  if text.isPrefixOf cs then
    drop text.length
    return true
  else return false

/-! ## Numbers and code points -/

def isHex (c : Char) : Bool :=
  c.isDigit || ('a' ≤ c && c ≤ 'f') || ('A' ≤ c && c ≤ 'F')

def hexValue (cs : List Char) : Nat :=
  cs.foldl (fun n c => 16 * n + Unicode.Ranges.digitValue c.toLower) 0

/-- The character with the given code point, if there is one. -/
def scalar? (n : Nat) : Option Char :=
  if n < 0xd800 || (0xdfff < n && n < 0x110000) then some (Char.ofNat n) else none

/-- The digits of a decimal number; in extended mode blanks may stand between them. -/
def decimalDigits : Nat → Reading (List Char)
  | 0 => failure
  | fuel + 1 => do
      match ← rest with
      | c :: _ =>
          if c.isDigit then
            advance
            return c :: (← decimalDigits fuel)
          else return []
      | [] => return []

/-- A decimal number of 32 bits between optional blanks, `none` if no digit is there. -/
def decimal? : Reading (Option Nat) := do
  modify fun s => { s with rest := s.rest.dropWhile isBlank }
  let cs ← rest
  let digits ← decimalDigits (cs.length + 1)
  modify fun s => { s with rest := s.rest.dropWhile isBlank }
  if digits.isEmpty then return none
  let n := Nat.ofDigitChars 10 digits 0
  if n < 4294967296 then return some n else failure

/-! ## Escapes -/

/-- The characters that have a meaning of their own somewhere in a pattern. -/
def isMeta (c : Char) : Bool :=
  "\\.+*?()|[]\x7b\x7d^$#&-~".toList.contains c

/-- The characters that stand for themselves after a backslash. -/
def isEscapable (c : Char) : Bool :=
  isMeta c ||
    (c.toNat < 0x80 && !c.isDigit && !('A' ≤ c && c ≤ 'Z') && !('a' ≤ c && c ≤ 'z') &&
      c != '<' && c != '>')

/-- So many hexadecimal digits, the first of which comes next. -/
def hexDigits : Nat → Reading (List Char)
  | 0 => return []
  | 1 => do
      let c ← current
      if !isHex c then failure
      advance
      return [c]
  | n + 2 => do
      let c ← current
      if !isHex c then failure
      advance
      return c :: (← hexDigits (n + 1))

def bracedHex : Nat → Reading (List Char)
  | 0 => failure
  | fuel + 1 => do
      let c ← current
      if c == '\x7d' then
        advance
        return []
      if !isHex c then failure
      advance
      return c :: (← bracedHex fuel)

/-- A character written by its code point, at the letter after the backslash. -/
def codePoint (digits : Nat) : Reading Char := do
  advance
  let c ← current
  let hex ←
    if c == '\x7b' then do
      advance
      let hex ← bracedHex ((← rest).length + 1)
      if hex.isEmpty then failure
      pure hex
    else hexDigits digits
  match scalar? (hexValue hex) with
  | some c => return c
  | none => failure

/-- Splits a text at the first occurrence of a separator. -/
def splitAtFirst? (sep : List Char) : List Char → Option (List Char × List Char)
  | [] => none
  | c :: cs =>
      if sep.isPrefixOf (c :: cs) then some ([], (c :: cs).drop sep.length)
      else (splitAtFirst? sep cs).map fun (a, b) => (c :: a, b)

/-- The property that the text between the braces asks for, and whether it asks for the opposite. -/
def propertyQuery (text : List Char) : Unicode.Query × Bool :=
  let valued (parts : List Char × List Char) : Unicode.Query :=
    .valued (String.ofList parts.1) (String.ofList parts.2)
  match splitAtFirst? ['!', '='] text with
  | some parts => (valued parts, true)
  | none =>
    match splitAtFirst? [':'] text with
    | some parts => (valued parts, false)
    | none =>
      match splitAtFirst? ['='] text with
      | some parts => (valued parts, false)
      | none => (.named (String.ofList text), false)

def bracedText : Nat → Reading (List Char)
  | 0 => failure
  | fuel + 1 => do
      let c ← current
      if c == '\x7d' then
        drop 1
        return []
      advance
      return c :: (← bracedText fuel)

/-- A property, at the letter `p` or `P`. -/
def property : Reading Syntax := do
  let negated := (← current) == 'P'
  advance
  let c ← current
  if c == '\x7b' then
    advance
    let text ← bracedText ((← rest).length + 1)
    let (query, opposite) := propertyQuery text
    return .property query (negated != opposite)
  else if c == '\\' then failure
  else
    advance
    return .property (.named (String.ofList [c])) negated

/-- The letters and hyphens of the name of a word boundary. -/
def boundaryName : Nat → Reading (List Char)
  | 0 => failure
  | fuel + 1 => do
      match ← rest with
      | c :: _ =>
          if c == '-' || ('a' ≤ c && c ≤ 'z') || ('A' ≤ c && c ≤ 'Z') then
            advance
            return c :: (← boundaryName fuel)
          else return []
      | [] => return []

/-- What follows `\b`: the name of a special boundary in braces, or nothing that belongs to it. -/
def wordBoundary : Reading Anchor := do
  let before ← get
  match before.rest with
  | '\x7b' :: _ =>
      advance
      let _ ← current
      let name ← boundaryName ((← rest).length + 1)
      -- Without a name the braces are the counts of a repetition.
      if name.isEmpty then
        set before
        return .wordBoundary
      if (← current) != '\x7d' then failure
      drop 1
      match String.ofList name with
      | "start" => return .wordStart
      | "end" => return .wordEnd
      | "start-half" => return .wordStartHalf
      | "end-half" => return .wordEndHalf
      | _ => failure
  | _ => return .wordBoundary

/-- An escape, at the backslash. -/
def escape : Reading Syntax := do
  drop 1
  let c ← current
  match c with
  | 'x' =>
      -- Two digits may also stand for a byte, which matters without Unicode mode.
      let twoDigit := ((← rest).drop 1).head? != some '\x7b'
      return .char (← codePoint 2) twoDigit
  | 'u' => return .char (← codePoint 4) false
  | 'U' => return .char (← codePoint 8) false
  | 'p' | 'P' => property
  | _ =>
    drop 1
    match c with
    | 'd' => return .letter .digit false
    | 'D' => return .letter .digit true
    | 's' => return .letter .space false
    | 'S' => return .letter .space true
    | 'w' => return .letter .word false
    | 'W' => return .letter .word true
    | 'a' => return .char '\x07' false
    | 'f' => return .char '\x0c' false
    | 't' => return .char '\t' false
    | 'n' => return .char '\n' false
    | 'r' => return .char '\r' false
    | 'v' => return .char '\x0b' false
    | 'A' => return .anchor .textStart
    | 'z' => return .anchor .textEnd
    | 'b' => return .anchor (← wordBoundary)
    | 'B' => return .anchor .notWordBoundary
    | '<' => return .anchor .wordStart
    | '>' => return .anchor .wordEnd
    | _ => if isEscapable c then return .char c false else failure

/-! ## Classes in square brackets -/

/-- The classes such as `[:alpha:]`. -/
def asciiClass? : List Char → Option Unicode.Ranges
  | ['a', 'l', 'n', 'u', 'm'] => some [(0x30, 0x39), (0x41, 0x5a), (0x61, 0x7a)]
  | ['a', 'l', 'p', 'h', 'a'] => some [(0x41, 0x5a), (0x61, 0x7a)]
  | ['a', 's', 'c', 'i', 'i'] => some [(0, 0x7f)]
  | ['b', 'l', 'a', 'n', 'k'] => some [(0x9, 0x9), (0x20, 0x20)]
  | ['c', 'n', 't', 'r', 'l'] => some [(0, 0x1f), (0x7f, 0x7f)]
  | ['d', 'i', 'g', 'i', 't'] => some [(0x30, 0x39)]
  | ['g', 'r', 'a', 'p', 'h'] => some [(0x21, 0x7e)]
  | ['l', 'o', 'w', 'e', 'r'] => some [(0x61, 0x7a)]
  | ['p', 'r', 'i', 'n', 't'] => some [(0x20, 0x7e)]
  | ['p', 'u', 'n', 'c', 't'] => some [(0x21, 0x2f), (0x3a, 0x40), (0x5b, 0x60), (0x7b, 0x7e)]
  | ['s', 'p', 'a', 'c', 'e'] => some [(0x9, 0xd), (0x20, 0x20)]
  | ['u', 'p', 'p', 'e', 'r'] => some [(0x41, 0x5a)]
  | ['w', 'o', 'r', 'd'] => some [(0x30, 0x39), (0x41, 0x5a), (0x5f, 0x5f), (0x61, 0x7a)]
  | ['x', 'd', 'i', 'g', 'i', 't'] => some [(0x30, 0x39), (0x41, 0x46), (0x61, 0x66)]
  | _ => none

/-- A class such as `[:alpha:]`, if one comes next; else the reader stays where it is. -/
def asciiClass : Reading (Option ClassSyntax) := do
  let (negated, body) :=
    match ← rest with
    | '[' :: ':' :: '^' :: cs => (true, some cs)
    | '[' :: ':' :: cs => (false, some cs)
    | _ => (false, none)
  match body with
  | none => return none
  | some cs =>
      let name := cs.takeWhile (· != ':')
      match cs.dropWhile (· != ':'), asciiClass? name with
      | ':' :: ']' :: after, some members =>
          modify fun s => { s with rest := after }
          return some (.ascii members negated)
      | _, _ => return none

/-- One end of a range, or an item that is no character. -/
def classAtom : Reading Syntax := do
  let c ← current
  if c == '\\' then escape
  else
    drop 1
    return .char c false

/-- The character that comes after the next one, blanks apart in extended mode. -/
def following? : Reading (Option Char) := do
  let s ← get
  let cs := s.rest.drop 1
  if s.extended then
    match cs.dropWhile isBlank with
    | '#' :: after => return (after.dropWhile isBlank).head?
    | after => return after.head?
  else return cs.head?

/-- A character, a range of characters or an escape for a class. -/
def classItem : Reading ClassSyntax := do
  let first ← classAtom
  skip
  let c ← current
  let next ← following?
  -- A hyphen before the closing bracket or before another hyphen makes no range.
  if c != '-' || next == some ']' || next == some '-' then
    match first with
    | .char c _ => return .char c
    | .letter k negated => return .letter k negated
    | .property q negated => return .property q negated
    | _ => failure
  else
    advance
    let last ← classAtom
    match first, last with
    | .char a _, .char b _ => if a ≤ b then return .range a b else failure
    | _, _ => failure

/-- What was read of a class before an operator such as `&&`, and the operator. -/
abbrev Pending := Option (ClassSyntax × (ClassSyntax → ClassSyntax → ClassSyntax))

/-- Applies a pending operator. -/
def Pending.apply (p : Pending) (right : ClassSyntax) : ClassSyntax :=
  match p with
  | none => right
  | some (left, op) => op left right

/-- Hyphens at the start of a class stand for themselves. -/
def leadingHyphens : Nat → Reading (List ClassSyntax)
  | 0 => failure
  | fuel + 1 => do
      if (← current) == '-' then
        advance
        let _ ← current
        return .char '-' :: (← leadingHyphens fuel)
      else return []

/-- The opening of a class, at the bracket: whether it is negated, and the characters that stand for
themselves because of where they are. -/
def classOpening : Reading (Bool × List ClassSyntax) := do
  advance
  let negated := (← current) == '^'
  if negated then advance
  let hyphens ← leadingHyphens ((← rest).length + 1)
  if hyphens.isEmpty && (← current) == ']' then
    advance
    let _ ← current
    return (negated, [.char ']'])
  return (negated, hyphens)

/-- The body of a class up to its closing bracket; `items` are the items read so far, the latest
first. -/
def classBody : Nat → Pending → List ClassSyntax → Reading ClassSyntax
  | 0, _, _ => failure
  | fuel + 1, pending, items => do
      skip
      let union := ClassSyntax.ofItems items.reverse
      match ← rest with
      | [] => failure
      | '[' :: _ =>
          match ← asciiClass with
          | some item => classBody fuel pending (item :: items)
          | none =>
              -- A class within the class, which has operators of its own.
              let (negated, start) ← classOpening
              let inner ← classBody fuel none start.reverse
              classBody fuel pending (.bracketed inner negated :: items)
      | ']' :: _ =>
          drop 1
          return Pending.apply pending union
      | '&' :: '&' :: _ =>
          drop 2
          classBody fuel (some (Pending.apply pending union, .inter)) []
      | '-' :: '-' :: _ =>
          drop 2
          classBody fuel (some (Pending.apply pending union, .diff)) []
      | '~' :: '~' :: _ =>
          drop 2
          classBody fuel (some (Pending.apply pending union, .symmDiff)) []
      | _ =>
          let item ← classItem
          classBody fuel pending (item :: items)

/-- A class, at its opening bracket. -/
def bracketed : Reading Syntax := do
  let (negated, start) ← classOpening
  let body ← classBody ((← rest).length + 1) none start.reverse
  return .bracketed body negated

/-! ## Groups -/

def modeOf? : Char → Option Mode
  | 'i' => some .ignoreCase
  | 'm' => some .multiLine
  | 's' => some .dotAll
  | 'U' => some .swapGreed
  | 'u' => some .unicode
  | 'R' => some .returns
  | 'x' => some .extended
  | _ => none

/-- The letters of a change of modes, up to a colon or a closing bracket.  No mode may be named twice,
and after a hyphen, of which there is at most one, a mode must follow. -/
def modeLetters : Nat → ModeChange → Bool → Reading ModeChange
  | 0, _, _ => failure
  | fuel + 1, change, negated => do
      let c ← current
      if c == ':' || c == ')' then
        if negated && change.off.isEmpty then failure
        return change
      else
        drop 1
        if c == '-' then
          if negated then failure
          modeLetters fuel change true
        else
          match modeOf? c with
          | none => failure
          | some m =>
              if (change.says? m).isSome then failure
              let change' :=
                if negated then { change with off := m :: change.off }
                else { change with on := m :: change.on }
              modeLetters fuel change' negated

/-- Whether a character may stand in the name of a group. -/
def isNameChar (first : Bool) (c : Char) : Bool :=
  let inClass (name : String) : Bool := ((Unicode.binary? name).getD []).contains c.toNat
  c == '_' || inClass "alphabetic" ||
    (!first && (c == '.' || c == '[' || c == ']' || inClass "n"))

/-- The name of a group, up to the closing angle bracket. -/
def groupName : Reading Unit := do
  let s ← get
  let name := s.rest.takeWhile (· != '>')
  match name, s.rest.dropWhile (· != '>') with
  | c :: cs, '>' :: after =>
      if isNameChar true c && cs.all (isNameChar false) && !s.names.contains name then
        set { s with rest := after, names := name :: s.names }
      else failure
  | _, _ => failure

def nextGroup : Reading Nat := do
  let s ← get
  set { s with groups := s.groups + 1 }
  return s.groups + 1

/-- The opening of a group, at the bracket: a change of modes for the enclosing group, or the kind of a
group that now begins. -/
def groupOpening : Reading (ModeChange ⊕ GroupKind) := do
  drop 1
  skip
  let cs ← rest
  -- Looking ahead or behind is not part of the language.
  if [['?', '='], ['?', '!'], ['?', '<', '='], ['?', '<', '!']].any (·.isPrefixOf cs) then failure
  if ← accept ['?', 'P', '<'] then
    let index ← nextGroup
    groupName
    return .inr (.capture index)
  if ← accept ['?', '<'] then
    let index ← nextGroup
    groupName
    return .inr (.capture index)
  if ← accept ['?'] then
    let start ← rest
    let change ← modeLetters (start.length + 1) {} false
    let c ← current
    drop 1
    if c == ')' then
      -- A change of modes that names none is refused.
      if start.head? == some ')' then failure
      return .inl change
    else return .inr (.plain change)
  return .inr (.capture (← nextGroup))

/-- Switches extended mode as a change of modes says. -/
def applyExtended (change : ModeChange) : Reading Unit :=
  modify fun s => { s with extended := (change.says? .extended).getD s.extended }

/-! ## Repetitions -/

/-- The last item read, if it can be repeated, and the items before it. -/
def repeatable : List Syntax → Reading (Syntax × List Syntax)
  | [] | .empty :: _ | .modes _ :: _ => failure
  | item :: items => return (item, items)

/-- Whether a repetition is greedy: a question mark makes it lazy. -/
def greed : Reading Bool := do
  return !(← accept ['?'])

/-- The counts of a repetition, at the opening brace. -/
def counts : Reading (Nat × Option Nat) := do
  advance
  let _ ← current
  let low ← decimal?
  let range ←
    if (← current) == ',' then do
      advance
      if (← current) == '\x7d' then
        match low with
        | some n => pure (n, none)
        | none => failure
      else
        match low, ← decimal? with
        | some n, some m => pure (n, some m)
        | _, _ => failure
    else
      match low with
      | some n => pure (n, some n)
      | none => failure
  if (← current) != '\x7d' then failure
  return range

/-! ## Patterns -/

/-- The rest of a group: the branches read so far and the items of the current branch, the latest
first.  It ends before a closing bracket or at the end of the text. -/
def groupBody : Nat → List Syntax → List Syntax → Reading Syntax
  | 0, _, _ => failure
  | fuel + 1, branches, items => do
      skip
      let branch := Syntax.ofItems items.reverse
      match ← rest with
      | [] | ')' :: _ => return Syntax.ofBranches (branch :: branches).reverse
      | '(' :: _ =>
          let before := (← get).extended
          match ← groupOpening with
          | .inl change =>
              applyExtended change
              groupBody fuel branches (.modes change :: items)
          | .inr kind =>
              match kind with
              | .plain change => applyExtended change
              | .capture _ => pure ()
              let body ← groupBody fuel [] []
              if !(← accept [')']) then failure
              -- What the group changed ends with it.
              modify fun s => { s with extended := before }
              groupBody fuel branches (.group kind body :: items)
      | '|' :: _ =>
          drop 1
          groupBody fuel (branch :: branches) []
      | '[' :: _ =>
          let item ← bracketed
          groupBody fuel branches (item :: items)
      | '?' :: _ =>
          let (item, items) ← repeatable items
          drop 1
          groupBody fuel branches (.rep item 0 (some 1) (← greed) :: items)
      | '*' :: _ =>
          let (item, items) ← repeatable items
          drop 1
          groupBody fuel branches (.rep item 0 none (← greed) :: items)
      | '+' :: _ =>
          let (item, items) ← repeatable items
          drop 1
          groupBody fuel branches (.rep item 1 none (← greed) :: items)
      | '\x7b' :: _ =>
          let (item, items) ← repeatable items
          let (low, high) ← counts
          advance
          let greedy ← greed
          -- The counts are compared only when the whole repetition is read.
          if high.any (· < low) then failure
          groupBody fuel branches (.rep item low high greedy :: items)
      | '\\' :: _ =>
          let item ← escape
          groupBody fuel branches (item :: items)
      | '.' :: _ =>
          drop 1
          groupBody fuel branches (.dot :: items)
      | '^' :: _ =>
          drop 1
          groupBody fuel branches (.anchor .lineStart :: items)
      | '$' :: _ =>
          drop 1
          groupBody fuel branches (.anchor .lineEnd :: items)
      | c :: _ =>
          drop 1
          groupBody fuel branches (.char c false :: items)

end Reader

/-- The greatest depth to which a pattern may be nested. -/
def depthLimit : Nat := 250

def Syntax.read? (text : String) : Option Syntax := do
  let cs := text.toList
  let (tree, s) ← (Reader.groupBody (cs.length + 1) [] []).run { rest := cs }
  if s.rest.isEmpty && tree.depth ≤ depthLimit then some tree else none

end Pattern
end FormValidation
