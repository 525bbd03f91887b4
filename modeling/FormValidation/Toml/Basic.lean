import FormValidation.Json.Basic
import FormValidation.Text.Numeral

/-!
# TOML values

A TOML value is a text, a number, a truth value, a moment, an array or a table.  `Toml.toJson` writes it
as a JSON value: a moment becomes its text, and a decimal number that is not finite becomes null.
-/

namespace FormValidation
namespace Toml

/-! ## Moments -/

structure Day where
  year : Nat
  month : Nat
  day : Nat
  deriving Repr, DecidableEq

/-- A time of a day; the last minute of a day may have 61 seconds. -/
structure Clock where
  hour : Nat
  minute : Nat
  second : Nat
  nanosecond : Nat
  deriving Repr, DecidableEq

/-- The distance of a local time from universal time. -/
inductive Offset where
  | universal
  | minutes (m : Int)
  deriving Repr, DecidableEq

/-- A day, a time of any day, or a time of a day. -/
inductive Moment where
  | day (d : Day)
  | clock (c : Clock)
  | dayAndClock (d : Day) (c : Clock) (offset : Option Offset)
  deriving Repr, DecidableEq

def Day.text (d : Day) : List Char :=
  Text.padded 4 d.year ++ '-' :: Text.padded 2 d.month ++ '-' :: Text.padded 2 d.day

/-- The fraction of a second, without the zeros at its end. -/
def Clock.fraction (c : Clock) : List Char :=
  if c.nanosecond = 0 then []
  else '.' :: ((Text.padded 9 c.nanosecond).reverse.dropWhile fun d => d == '0').reverse

def Clock.text (c : Clock) : List Char :=
  Text.padded 2 c.hour ++ ':' :: Text.padded 2 c.minute ++ ':' :: Text.padded 2 c.second ++
    c.fraction

def Offset.text : Offset → List Char
  | .universal => ['Z']
  | .minutes m =>
      (if m < 0 then '-' else '+') ::
        Text.padded 2 (m.natAbs / 60) ++ ':' :: Text.padded 2 (m.natAbs % 60)

def Moment.text : Moment → List Char
  | .day d => d.text
  | .clock c => c.text
  | .dayAndClock d c offset => d.text ++ 'T' :: c.text ++ (offset.map Offset.text).getD []

/-! ## Values -/

/-- A decimal number. -/
inductive Decimal where
  /-- The number `mantissa * 10 ^ exponent`. -/
  | finite (mantissa exponent : Int)
  | infinite (negative : Bool)
  | nan
  deriving Repr, DecidableEq

def Decimal.toJson : Decimal → Json
  | .finite mantissa exponent => .num (.decimal mantissa exponent)
  | .infinite _ | .nan => .null

inductive Value where
  | text (s : String)
  | integer (i : Int)
  | decimal (d : Decimal)
  | bool (b : Bool)
  | moment (m : Moment)
  | array (items : List Value)
  | table (entries : List (String × Value))
  deriving Repr

mutual

def Value.toJson : Value → Json
  | .text s => .str s
  | .integer i => .ofInt i
  | .decimal d => d.toJson
  | .bool b => .bool b
  | .moment m => .str (String.ofList m.text)
  | .array items => .arr (itemsToJson items)
  | .table entries => .obj (entriesToJson entries)

def itemsToJson : List Value → List Json
  | [] => []
  | v :: rest => v.toJson :: itemsToJson rest

def entriesToJson : List (String × Value) → List (String × Json)
  | [] => []
  | (key, v) :: rest => (key, v.toJson) :: entriesToJson rest

end

/-! ## Equality -/

mutual

def Value.same : Value → Value → Bool
  | .text s, .text t => s == t
  | .integer i, .integer j => i == j
  | .decimal d, .decimal e => d == e
  | .bool b, .bool c => b == c
  | .moment m, .moment n => m == n
  | .array items, .array items' => sameItems items items'
  | .table entries, .table entries' => sameEntries entries entries'
  | _, _ => false

def sameItems : List Value → List Value → Bool
  | [], [] => true
  | v :: rest, w :: rest' => v.same w && sameItems rest rest'
  | _, _ => false

def sameEntries : List (String × Value) → List (String × Value) → Bool
  | [], [] => true
  | (key, v) :: rest, (key', w) :: rest' => key == key' && v.same w && sameEntries rest rest'
  | _, _ => false

end

mutual

theorem Value.same_iff : ∀ v w : Value, v.same w = true ↔ v = w
  | .text _, w => by cases w <;> simp [Value.same]
  | .integer _, w => by cases w <;> simp [Value.same]
  | .decimal _, w => by cases w <;> simp [Value.same]
  | .bool _, w => by cases w <;> simp [Value.same]
  | .moment _, w => by cases w <;> simp [Value.same]
  | .array items, w => by cases w <;> simp [Value.same, sameItems_iff items]
  | .table entries, w => by cases w <;> simp [Value.same, sameEntries_iff entries]

theorem sameItems_iff : ∀ l l' : List Value, sameItems l l' = true ↔ l = l'
  | [], l' => by cases l' <;> simp [sameItems]
  | v :: rest, l' => by cases l' <;> simp [sameItems, v.same_iff, sameItems_iff rest]

theorem sameEntries_iff : ∀ l l' : List (String × Value), sameEntries l l' = true ↔ l = l'
  | [], l' => by cases l' <;> simp [sameEntries]
  | (_, v) :: rest, l' => by
      cases l' <;> simp [sameEntries, v.same_iff, sameEntries_iff rest, Prod.ext_iff]

end

instance : DecidableEq Value :=
  fun v w => decidable_of_iff (v.same w = true) (v.same_iff w)

end Toml
end FormValidation
