/-!
# JSON values

A JSON value as data.  An object keeps its members in the order in which they were written, a repeated
key included; `Json.settled` resolves repetitions in favour of the last one.
-/

namespace FormValidation

namespace Json

/-- A number.  Integers of 64 bits are kept as such; every other number as a decimal fraction. -/
inductive Number where
  | natural (n : Nat)
  /-- The number `-n`, where `n` is positive. -/
  | negative (n : Nat)
  /-- The number `mantissa * 10 ^ exponent`. -/
  | decimal (mantissa : Int) (exponent : Int)
  deriving Repr, DecidableEq

end Json

/-- A JSON value. -/
inductive Json where
  | null
  | bool (b : Bool)
  | num (n : Json.Number)
  | str (s : String)
  | arr (items : List Json)
  | obj (members : List (String × Json))
  deriving Repr, BEq

namespace Json

def ofInt (i : Int) : Json :=
  if 0 ≤ i then .num (.natural i.toNat) else .num (.negative i.natAbs)

/-- The value of a key that is present once, or of its last member. -/
def lookup? (key : String) (members : List (String × Json)) : Option Json :=
  List.lookup key members.reverse

/-! ## Repeated keys -/

/-- Puts a member in the place of the one with the same key, or at the end. -/
def put (key : String) (value : Json) : List (String × Json) → List (String × Json)
  | [] => [(key, value)]
  | (k, v) :: rest => if k = key then (key, value) :: rest else (k, v) :: put key value rest

mutual

/-- The value with the last member of each key only. -/
def settled : Json → Json
  | .arr items => .arr (settledItems items)
  | .obj members => .obj (settledMembers [] members)
  | j => j

def settledItems : List Json → List Json
  | [] => []
  | j :: rest => j.settled :: settledItems rest

/-- The members, settled, put one after the other into `done`. -/
def settledMembers (done : List (String × Json)) : List (String × Json) → List (String × Json)
  | [] => done
  | (key, value) :: rest => settledMembers (put key value.settled done) rest

end

end Json
end FormValidation
