/-!
# Integers of a number of bits

Numbers are kept in so many bits, and an integer fits into them if it is what they hold then (`signed?`,
`unsigned?`).  Sums and differences are integers of 64 bits with a sign: one that does not fit wraps around
(`wrapped`).
-/

namespace FormValidation
namespace Integer

/-- The integer, if it fits into so many bits of which one is the sign. -/
def signed? (bits : Nat) (i : Int) : Option Int :=
  if (BitVec.ofInt bits i).toInt = i then some i else none

/-- The integer, if it fits into so many bits without a sign. -/
def unsigned? (bits : Nat) (i : Int) : Option Nat :=
  if ((BitVec.ofInt bits i).toNat : Int) = i then some i.toNat else none

/-- The integer that 64 bits hold of `i`. -/
def wrapped (i : Int) : Int :=
  (BitVec.ofInt 64 i).toInt

theorem eq_of_signed? {bits : Nat} {i j : Int} (h : signed? bits i = some j) : j = i := by
  unfold signed? at h
  split at h
  · exact (Option.some.inj h).symm
  · cases h

end Integer
end FormValidation
