import FormValidation.Pattern.CharClass
import FormValidation.Unicode.Property

/-!
# Regular expressions and their matches

A match may end in several places.  `Regex.hits` lists the ends of all matches of an expression that
start at a given place, the preferred one first: the left branch of an alternative before the right
one, more repetitions before fewer if the repetition is greedy.  Two matches that end in the same place
have the same continuations, so only the preferred one is kept; hence the list is never longer than the
text, and matching takes polynomial time whatever the expression.

* `Regex.hits` — the ends of the matches from one place, in order of preference;
* `Regex.find?` — the preferred match from the leftmost place that has one;
* `Regex.isMatch` — whether there is a match anywhere.
-/

namespace FormValidation
namespace Pattern

/-! ## Places in a text -/

/-- A place between two characters of a text. -/
structure Cursor where
  /-- How many characters are before the place. -/
  offset : Nat
  /-- The character just before the place. -/
  before : Option Char
  /-- The characters after the place. -/
  rest : List Char
  deriving Repr, DecidableEq

namespace Cursor

def start (cs : List Char) : Cursor :=
  ⟨0, none, cs⟩

/-- The place after the next character, and that character. -/
def next? (p : Cursor) : Option (Char × Cursor) :=
  match p.rest with
  | [] => none
  | c :: cs => some (c, ⟨p.offset + 1, some c, cs⟩)

end Cursor

/-- The stretch of text between two places. -/
structure Capture where
  start : Cursor
  stop : Cursor
  deriving Repr, DecidableEq

def Capture.text (c : Capture) : List Char :=
  c.start.rest.take (c.stop.offset - c.start.offset)

/-- What the groups of a pattern matched, the latest match of a group first. -/
abbrev Captures := List (Nat × Capture)

/-- The text that a group matched, `none` if it took no part in the match. -/
def Captures.text? (cs : Captures) (group : Nat) : Option (List Char) :=
  (List.lookup group cs).map Capture.text

/-- The end of a match, and what the groups matched on the way there. -/
structure Hit where
  cursor : Cursor
  captures : Captures
  deriving Repr, DecidableEq

namespace Hit

/-- The hits that are the first of the list to end where they end. -/
def firsts (seen : List Nat) : List Hit → List Hit
  | [] => []
  | h :: hs =>
      if seen.contains h.cursor.offset then firsts seen hs
      else h :: firsts (h.cursor.offset :: seen) hs

end Hit

/-! ## Conditions on a place -/

/-- A condition on a place that no character takes part in. -/
inductive Assertion where
  | textStart
  | textEnd
  | lineStart
  | lineEnd
  /-- As `lineStart`, where a carriage return also ends a line. -/
  | lineStartReturn
  /-- As `lineEnd`, where a carriage return also ends a line. -/
  | lineEndReturn
  | wordBoundary (unicode : Bool)
  | notWordBoundary (unicode : Bool)
  | wordStart (unicode : Bool)
  | wordEnd (unicode : Bool)
  /-- No word character before the place. -/
  | wordStartHalf (unicode : Bool)
  /-- No word character after the place. -/
  | wordEndHalf (unicode : Bool)
  deriving Repr, DecidableEq

def asciiWord : Unicode.Ranges :=
  [(0x30, 0x39), (0x41, 0x5a), (0x5f, 0x5f), (0x61, 0x7a)]

/-- Whether a character is there and belongs to a word. -/
def isWord (unicode : Bool) : Option Char → Bool
  | none => false
  | some c => (if unicode then Unicode.wordCharacters else asciiWord).contains c.toNat

def Assertion.holds (a : Assertion) (p : Cursor) : Bool :=
  let after := p.rest.head?
  match a with
  | .textStart => p.before.isNone
  | .textEnd => after.isNone
  | .lineStart => p.before.isNone || p.before == some '\n'
  | .lineEnd => after.isNone || after == some '\n'
  | .lineStartReturn =>
      p.before.isNone || p.before == some '\n' || (p.before == some '\r' && after != some '\n')
  | .lineEndReturn =>
      after.isNone || after == some '\r' || (after == some '\n' && p.before != some '\r')
  | .wordBoundary u => isWord u p.before != isWord u after
  | .notWordBoundary u => isWord u p.before == isWord u after
  | .wordStart u => !isWord u p.before && isWord u after
  | .wordEnd u => isWord u p.before && !isWord u after
  | .wordStartHalf u => !isWord u p.before
  | .wordEndHalf u => !isWord u after

/-! ## Expressions -/

inductive Regex where
  | empty
  | char (set : CharClass)
  | assertion (a : Assertion)
  | seq (r s : Regex)
  | alt (r s : Regex)
  /-- Remembers what `r` matched under the given number. -/
  | group (index : Nat) (r : Regex)
  /-- At least `min` and, if `max` is given, at most `max` matches of `r` after each other. -/
  | rep (r : Regex) (min : Nat) (max : Option Nat) (greedy : Bool)
  deriving Repr, DecidableEq

/-! ## Repetition -/

namespace Repetition

/-- A visit that is still to be paid while the matches of a repetition are listed. -/
inductive Visit where
  /-- Go on from a hit, after which so many more matches are allowed (`none`: any number). -/
  | enter (more : Option Nat) (h : Hit)
  /-- List a hit. -/
  | leave (h : Hit)

/-- Exactly `n` matches of the body after each other. -/
def copies (body : Hit → List Hit) : Nat → List Hit → List Hit
  | 0, hs => hs
  | n + 1, hs => copies body n (Hit.firsts [] (hs.flatMap body))

/-- The number under which a place of the loop is marked as visited. -/
def mark (stride : Nat) (more : Option Nat) (h : Hit) : Nat :=
  more.getD 0 * stride + h.cursor.offset

/-- The visits that one more match of the body leads to.  In a loop without a bound a match of the empty
text leads nowhere new. -/
def onward (body : Hit → List Hit) (more : Option Nat) (h : Hit) : List Visit :=
  match more with
  | none => ((body h).filter fun q => q.cursor.offset != h.cursor.offset).map (.enter none)
  | some 0 => []
  | some (k + 1) => (body h).map (.enter (some k))

/-- Works off the visits depth first and lists the hits.  A place that was entered before has been
continued already, with preference. -/
def walk (body : Hit → List Hit) (greedy : Bool) (stride : Nat) :
    Nat → List Nat → List Visit → List Hit
  | 0, _, _ => []
  | _ + 1, _, [] => []
  | fuel + 1, seen, .leave h :: visits => h :: walk body greedy stride fuel seen visits
  | fuel + 1, seen, .enter more h :: visits =>
      if seen.contains (mark stride more h) then walk body greedy stride fuel seen visits
      else
        -- A greedy loop lists the place itself behind all that one more match leads to.
        let visits' :=
          if greedy then onward body more h ++ .leave h :: visits
          else .leave h :: (onward body more h ++ visits)
        walk body greedy stride fuel (mark stride more h :: seen) visits'

/-- A number of steps that is enough for a walk from `h` on: each place is entered once for each number
of matches still allowed, and leads to at most as many visits as there are places after it. -/
def enough (bound : Nat) (h : Hit) : Nat :=
  (bound + 2) * (h.cursor.rest.length + 2) * (h.cursor.rest.length + 2)

/-- Up to `bound` matches of the body after each other. -/
def upTo (body : Hit → List Hit) (greedy : Bool) (bound : Nat) (h : Hit) : List Hit :=
  Hit.firsts [] <|
    walk body greedy (h.cursor.offset + h.cursor.rest.length + 1) (enough bound h) []
      [.enter (some bound) h]

def plus (body : Hit → List Hit) (greedy : Bool) (h : Hit) : List Hit :=
  let first := (body h).map fun q =>
    if q.cursor.offset == h.cursor.offset then Visit.leave q else Visit.enter none q
  Hit.firsts [] (walk body greedy 0 (enough 0 h) [] first)

def star (body : Hit → List Hit) (greedy : Bool) (h : Hit) : List Hit :=
  Hit.firsts [] (if greedy then plus body greedy h ++ [h] else h :: plus body greedy h)

/-- The matches of a repetition. -/
def hits (body : Hit → List Hit) (min : Nat) (max : Option Nat) (greedy : Bool) (h : Hit) :
    List Hit :=
  match max with
  | some m => Hit.firsts [] ((copies body min [h]).flatMap (upTo body greedy (m - min)))
  | none =>
    match min with
    | 0 => star body greedy h
    | n + 1 => Hit.firsts [] ((copies body n [h]).flatMap (plus body greedy))

end Repetition

/-! ## Matches -/

namespace Regex

/-- The ends of all matches that start where `h` ended, the preferred one first. -/
def hits : Regex → Hit → List Hit
  | .empty, h => [h]
  | .char set, h =>
      match h.cursor.next? with
      | some (c, p) => if set.contains c.toNat then [{ h with cursor := p }] else []
      | none => []
  | .assertion a, h => if a.holds h.cursor then [h] else []
  | .seq r s, h => Hit.firsts [] ((r.hits h).flatMap s.hits)
  | .alt r s, h => Hit.firsts [] (r.hits h ++ s.hits h)
  | .group i r, h =>
      (r.hits h).map fun q => { q with captures := (i, ⟨h.cursor, q.cursor⟩) :: q.captures }
  | .rep r min max greedy, h => Repetition.hits r.hits min max greedy h

/-- The preferred match that starts at the first of the places that has one. -/
def findFrom (r : Regex) (offset : Nat) (before : Option Char) : List Char → Option Hit
  | [] => (r.hits ⟨⟨offset, before, []⟩, []⟩).head?
  | c :: cs =>
      match (r.hits ⟨⟨offset, before, c :: cs⟩, []⟩).head? with
      | some h => some h
      | none => r.findFrom (offset + 1) (some c) cs

/-- The preferred match from the leftmost place of the text that has one. -/
def find? (r : Regex) (cs : List Char) : Option Hit :=
  r.findFrom 0 none cs

/-- Whether the text has a match anywhere. -/
def isMatch (r : Regex) (cs : List Char) : Bool :=
  (r.find? cs).isSome

/-- The greatest number of a group that can take part in a match, 0 if there is none. -/
def groupCount : Regex → Nat
  | .empty | .char _ | .assertion _ => 0
  | .seq r s | .alt r s => max r.groupCount s.groupCount
  | .group i r => max i r.groupCount
  | .rep r _ max _ => if max = some 0 then 0 else r.groupCount

def concat : List Regex → Regex
  | [] => .empty
  | r :: rs => rs.foldl .seq r

end Regex

end Pattern
end FormValidation
