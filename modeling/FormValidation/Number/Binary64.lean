/-!
# Numbers of double precision

A number of double precision that is no NaN is a sign and a magnitude, where the magnitude is the 63 bits
that follow the sign bit in the binary interchange format.  The bits grow with the number they stand for,
so numbers are compared by comparing bits.

* `Binary64.scaledValue` — what the bits of a finite magnitude stand for, in units of `2 ^ -1074`;
* `Binary64.nearest` — the magnitude nearest to a fraction, a tie going to the even one, and infinity
  from the middle between the largest finite number and the next power of two on.
-/

namespace FormValidation

namespace Binary64

def infinity : Nat := 0x7ff0000000000000

/-- The bit that a magnitude leaves out, `2 ^ 52`, which is also the size of a binade. -/
def implicitBit : Nat := 0x10000000000000

/-- The value of a finite magnitude in units of `2 ^ -1074`. -/
def scaledValue (bits : Nat) : Nat :=
  if bits < implicitBit then bits
  else (implicitBit + bits % implicitBit) * Nat.pow 2 (bits / implicitBit - 1)

/-- The quotient of two numbers, rounded to the nearest integer, a tie to the even one. -/
def roundDiv (n d : Nat) : Nat :=
  let q := n / d
  let r := n % d
  if 2 * r < d then q else if d < 2 * r then q + 1 else q + q % 2

/-- The magnitude nearest to `n / d`. -/
def nearest (n d : Nat) : Nat :=
  let scaled := n * Nat.pow 2 1074
  -- How many binary digits of the scaled value are beyond the 53 that are kept.
  let excess := Nat.log2 (scaled / d) - 52
  min (excess * implicitBit + roundDiv scaled (d * Nat.pow 2 excess)) infinity

theorem nearest_le (n d : Nat) : nearest n d ≤ infinity :=
  Nat.min_le_right _ _

end Binary64

/-- A number of double precision that is no NaN. -/
structure Binary64 where
  negative : Bool
  magnitude : Nat
  magnitude_le : magnitude ≤ Binary64.infinity
  deriving Repr, DecidableEq

namespace Binary64

/-- The number nearest to `n / d`, or to `-n / d`. -/
def ofFraction (negative : Bool) (n d : Nat) : Binary64 :=
  ⟨negative, nearest n d, nearest_le n d⟩

/-- The position of a number in the order of all numbers; the two zeros have the same. -/
def key (x : Binary64) : Int :=
  if x.negative then -(x.magnitude : Int) else x.magnitude

def compare (x y : Binary64) : Ordering :=
  Ord.compare x.key y.key

def bits (x : Binary64) : Nat :=
  (if x.negative then 0x8000000000000000 else 0) + x.magnitude

end Binary64
end FormValidation
