import Mathlib.Algebra.Order.Field.Basic
import Mathlib.Algebra.Order.Field.Rat
import Mathlib.Algebra.Order.Ring.Abs
import Mathlib.Order.Monotone.Basic
import Mathlib.Tactic.Linarith
import Mathlib.Tactic.Ring
import FormValidation.Number.Binary64

/-!
# Rounding

The magnitude that `Binary64.nearest` computes for a fraction is the one whose value is closest to it, and the
even one of two that are equally close (`Binary64.isNearest_nearest`).  There is no other such magnitude
(`Binary64.IsNearest.unique`).

The finite magnitudes lie on a grid that becomes coarser by a factor of two from one binade to the next.  In
the binade of the fraction rounding gives the closest point of the grid; the points of the finer
grids are all below that binade, and the points of the coarser ones are points of this one, too.
-/

namespace FormValidation
namespace Binary64

/-! ## Binades -/

theorem implicitBit_eq : implicitBit = 2 ^ 52 := by
  decide

theorem implicitBit_pos : 0 < implicitBit := by
  decide

theorem scaledValue_of_lt {m : Nat} (h : m < implicitBit) : scaledValue m = m :=
  if_pos h

theorem scaledValue_normal (e : Nat) {r : Nat} (hr : r < implicitBit) :
    scaledValue ((e + 1) * implicitBit + r) = (implicitBit + r) * 2 ^ e := by
  have hge : ¬ (e + 1) * implicitBit + r < implicitBit := by
    rw [Nat.add_mul]
    omega
  have hquotient : ((e + 1) * implicitBit + r) / implicitBit = e + 1 := by
    rw [Nat.add_comm, Nat.add_mul_div_right _ _ implicitBit_pos, Nat.div_eq_of_lt hr, Nat.zero_add]
  have hremainder : ((e + 1) * implicitBit + r) % implicitBit = r := by
    rw [Nat.add_comm, Nat.add_mul_mod_self_right, Nat.mod_eq_of_lt hr]
  rw [scaledValue, if_neg hge, hquotient, hremainder]
  rfl

/-- The bits of a magnitude count the points of the grid of its binade. -/
structure InBinade (e q : Nat) : Prop where
  normal : e = 0 ∨ implicitBit ≤ q
  le : q ≤ 2 * implicitBit

theorem scaledValue_inBinade {e q : Nat} (h : InBinade e q) :
    scaledValue (e * implicitBit + q) = q * 2 ^ e := by
  rcases Nat.lt_or_ge q implicitBit with hq | hq
  · obtain rfl : e = 0 := h.normal.resolve_right (by omega)
    rw [Nat.zero_mul, Nat.zero_add, scaledValue_of_lt hq, Nat.pow_zero, Nat.mul_one]
  · rcases Nat.exists_eq_add_of_le hq with ⟨r, rfl⟩
    have hle := h.le
    rcases Nat.lt_or_ge r implicitBit with hr | hr
    · rw [← scaledValue_normal e hr, Nat.add_mul, Nat.one_mul, Nat.add_assoc]
    · -- The upper end of the binade is the lower end of the next one.
      obtain rfl : r = implicitBit := by omega
      have hnext := scaledValue_normal (e + 1) implicitBit_pos
      have hupper : e * implicitBit + (implicitBit + implicitBit) = (e + 1 + 1) * implicitBit + 0 := by
        ring
      rw [hupper, hnext]
      ring

theorem exists_inBinade (m : Nat) :
    ∃ e q, m = e * implicitBit + q ∧ InBinade e q ∧ q < 2 * implicitBit := by
  rcases Nat.lt_or_ge m implicitBit with hm | hm
  · exact ⟨0, m, by simp, ⟨.inl rfl, by omega⟩, by omega⟩
  · have hremainder := Nat.mod_lt m implicitBit_pos
    have hquotient : 1 ≤ m / implicitBit := (Nat.one_le_div_iff implicitBit_pos).2 hm
    refine ⟨m / implicitBit - 1, implicitBit + m % implicitBit, ?_, ⟨.inr ?_, ?_⟩, ?_⟩ <;> try omega
    have hsplit := Nat.div_add_mod m implicitBit
    rcases Nat.exists_eq_add_of_le hquotient with ⟨e, he⟩
    rw [he, Nat.add_sub_cancel_left]
    rw [he, Nat.mul_add, Nat.mul_one, Nat.mul_comm] at hsplit
    omega

theorem strictMono_scaledValue : StrictMono scaledValue := by
  refine strictMono_nat_of_lt_succ fun m => ?_
  rcases exists_inBinade m with ⟨e, q, rfl, hq, hlt⟩
  have hsucc : InBinade e (q + 1) := ⟨hq.normal.imp_right (by omega), by omega⟩
  rw [scaledValue_inBinade hq, Nat.add_assoc, scaledValue_inBinade hsucc]
  exact Nat.mul_lt_mul_of_pos_right (Nat.lt_succ_self q) (Nat.two_pow_pos e)

/-- Values below a binade aside, all values are points of its grid. -/
theorem lt_or_exists_grid (e m : Nat) :
    scaledValue m < implicitBit * 2 ^ e ∨ ∃ j, scaledValue m = j * 2 ^ e := by
  rcases exists_inBinade m with ⟨e', q, rfl, hq, hlt⟩
  rw [scaledValue_inBinade hq]
  rcases Nat.lt_or_ge e' e with he | he
  · left
    calc
      q * 2 ^ e' < 2 * implicitBit * 2 ^ e' := Nat.mul_lt_mul_of_pos_right hlt (Nat.two_pow_pos e')
      _ = implicitBit * 2 ^ (e' + 1) := by ring
      _ ≤ implicitBit * 2 ^ e := Nat.mul_le_mul_left _ (Nat.pow_le_pow_right (by decide) he)
  · right
    rcases Nat.exists_eq_add_of_le he with ⟨k, rfl⟩
    exact ⟨q * 2 ^ k, by ring⟩

/-! ## Rounding to integers -/

/-- How a quotient is rounded, by the remainder of the division. -/
theorem roundDiv_cases {n d : Nat} (hd : 0 < d) :
    ∃ q r, q = n / d ∧ n = q * d + r ∧ r < d ∧
      (2 * r < d ∧ roundDiv n d = q ∨ d < 2 * r ∧ roundDiv n d = q + 1 ∨
        2 * r = d ∧ roundDiv n d = q + q % 2) := by
  refine ⟨n / d, n % d, rfl, (Nat.div_add_mod' n d).symm, Nat.mod_lt n hd, ?_⟩
  simp only [roundDiv]
  rcases Nat.lt_trichotomy (2 * (n % d)) d with h | h | h
  · exact .inl ⟨h, if_pos h⟩
  · refine .inr (.inr ⟨h, ?_⟩)
    rw [if_neg (by omega), if_neg (by omega)]
  · refine .inr (.inl ⟨h, ?_⟩)
    rw [if_neg (by omega), if_pos h]

theorem roundDiv_bounds {n d : Nat} (hd : 0 < d) :
    n / d ≤ roundDiv n d ∧ roundDiv n d ≤ n / d + 1 := by
  rcases roundDiv_cases (n := n) hd with ⟨q, r, hq, -, -, ⟨-, h⟩ | ⟨-, h⟩ | ⟨-, h⟩⟩ <;> omega

/-- A quotient is rounded by at most one half, and to an even integer if by one half. -/
theorem roundDiv_error {n d : Nat} (hd : 0 < d) :
    2 * |(roundDiv n d : ℤ) * d - n| ≤ d ∧
      (2 * |(roundDiv n d : ℤ) * d - n| = d → roundDiv n d % 2 = 0) := by
  rcases roundDiv_cases (n := n) hd with
    ⟨q, r, -, hn, hr, ⟨hcase, h⟩ | ⟨hcase, h⟩ | ⟨hcase, h⟩⟩
  -- The error is the remainder where it was dropped, and what it lacks of the divisor where it was filled up.
  · have herror : (roundDiv n d : ℤ) * d - n = -r := by
      rw [h, hn]
      push_cast
      ring
    rw [herror, abs_neg, Nat.abs_cast]
    omega
  · have herror : (roundDiv n d : ℤ) * d - n = (d - r : ℕ) := by
      rw [h, hn, Nat.cast_sub hr.le]
      push_cast
      ring
    rw [herror, Nat.abs_cast]
    omega
  · -- Of two integers that are equally close, the even one was taken.
    have herror : |(roundDiv n d : ℤ) * d - n| = r := by
      rw [h, hn]
      rcases Nat.mod_two_eq_zero_or_one q with hparity | hparity
      · rw [hparity, show ((q + 0 : ℕ) : ℤ) * d - (q * d + r : ℕ) = -r by push_cast; ring, abs_neg,
          Nat.abs_cast]
      · have hhalf : (d : ℤ) = 2 * r := by omega
        rw [hparity, show ((q + 1 : ℕ) : ℤ) * d - (q * d + r : ℕ) = r by push_cast; linarith,
          Nat.abs_cast]
    rw [herror]
    omega

/-- An integer that a quotient was rounded to is the closest one, and the only one as close if it was
rounded by less than one half. -/
theorem abs_le_of_ne {q j s n : ℤ} (hs : 0 < s) (hq : 2 * |q * s - n| ≤ s) (hj : j ≠ q) :
    |q * s - n| ≤ |j * s - n| ∧ (|j * s - n| = |q * s - n| → 2 * |q * s - n| = s) := by
  have hapart : s ≤ |j * s - q * s| := by
    rw [← sub_mul, abs_mul, abs_of_pos hs]
    exact le_mul_of_one_le_left hs.le (Int.one_le_abs (sub_ne_zero.2 hj))
  have htriangle : |j * s - q * s| ≤ |j * s - n| + |q * s - n| := by
    rw [abs_sub_comm (q * s) n]
    exact abs_sub_le _ _ _
  constructor
  · omega
  · intro heq
    omega

/-! ## Distances -/

/-- How far so many units are from `n / d` units, in parts of the denominator. -/
def distance (n d units : Nat) : ℤ :=
  |(units : ℤ) * d - n|

theorem distance_of_le {n d v : Nat} (h : v * d ≤ n) : distance n d v = n - v * d := by
  rw [distance, abs_sub_comm, abs_of_nonneg]
  have hle : (v : ℤ) * d ≤ n := by exact_mod_cast h
  omega

/-- Below a fraction the greater value is the closer one. -/
theorem distance_lt_of_lt {n d v w : Nat} (hd : 0 < d) (hvw : v < w) (hw : w * d ≤ n) :
    distance n d w < distance n d v := by
  have hlt : v * d < w * d := Nat.mul_lt_mul_of_pos_right hvw hd
  have hlt' : (v : ℤ) * d < w * d := by exact_mod_cast hlt
  rw [distance_of_le hw, distance_of_le (hlt.le.trans hw)]
  omega

/-! ## The binade of a fraction -/

/-- The exponent of the binade in which a fraction is rounded. -/
def exponent (n d : Nat) : Nat :=
  Nat.log2 (n / d) - 52

/-- The point of the grid of its binade that a fraction is rounded to. -/
def gridPoint (n d : Nat) : Nat :=
  roundDiv n (d * 2 ^ exponent n d)

theorem exponent_spec (n d : Nat) :
    (exponent n d = 0 ∨ implicitBit * 2 ^ exponent n d ≤ n / d) ∧
      n / d < 2 * implicitBit * 2 ^ exponent n d := by
  have hupper : n / d < 2 ^ (Nat.log2 (n / d) + 1) := Nat.lt_log2_self
  rcases Nat.lt_or_ge (Nat.log2 (n / d)) 52 with hlog | hlog
  · have hexponent : exponent n d = 0 := Nat.sub_eq_zero_of_le hlog.le
    refine ⟨.inl hexponent, ?_⟩
    calc
      n / d < 2 ^ (Nat.log2 (n / d) + 1) := hupper
      _ ≤ 2 ^ 52 := Nat.pow_le_pow_right (by decide) hlog
      _ ≤ 2 * implicitBit * 2 ^ exponent n d := by rw [hexponent, implicitBit_eq]; decide
  · have hexponent : Nat.log2 (n / d) = 52 + exponent n d := (Nat.add_sub_cancel' hlog).symm
    have hne : n / d ≠ 0 := by
      intro hzero
      rw [hzero] at hlog
      exact absurd hlog (by decide)
    constructor
    · right
      calc
        implicitBit * 2 ^ exponent n d = 2 ^ (52 + exponent n d) := by rw [implicitBit_eq, Nat.pow_add]
        _ = 2 ^ Nat.log2 (n / d) := by rw [hexponent]
        _ ≤ n / d := Nat.log2_self_le hne
    · calc
        n / d < 2 ^ (Nat.log2 (n / d) + 1) := hupper
        _ = 2 * implicitBit * 2 ^ exponent n d := by
          rw [hexponent, implicitBit_eq, Nat.pow_succ, Nat.pow_add]
          ring

theorem inBinade_gridPoint {n d : Nat} (hd : 0 < d) : InBinade (exponent n d) (gridPoint n d) := by
  have hpos : 0 < 2 ^ exponent n d := Nat.two_pow_pos _
  rcases exponent_spec n d with ⟨hlower, hupper⟩
  rcases roundDiv_bounds (n := n) (Nat.mul_pos hd hpos) with ⟨hge, hle⟩
  rw [← Nat.div_div_eq_div_mul] at hge hle
  constructor
  · exact hlower.imp_right fun h => ((Nat.le_div_iff_mul_le hpos).2 h).trans hge
  · have hlt : n / d / 2 ^ exponent n d < 2 * implicitBit := (Nat.div_lt_iff_lt_mul hpos).2 hupper
    exact hle.trans hlt

/-- The magnitude of the point of the grid, were there no greatest exponent. -/
def unbounded (n d : Nat) : Nat :=
  exponent n d * implicitBit + gridPoint n d

/-- How many units there are in one. -/
def unitsInOne : Nat :=
  Nat.pow 2 1074

theorem nearest_eq (n d : Nat) : nearest n d = min (unbounded (n * unitsInOne) d) infinity := by
  unfold nearest unitsInOne
  generalize Nat.pow 2 1074 = units
  rfl

theorem scaledValue_unbounded {n d : Nat} (hd : 0 < d) :
    scaledValue (unbounded n d) = gridPoint n d * 2 ^ exponent n d :=
  scaledValue_inBinade (inBinade_gridPoint hd)

theorem unbounded_even {n d : Nat} (h : gridPoint n d % 2 = 0) : unbounded n d % 2 = 0 := by
  have hbinade : exponent n d * implicitBit % 2 = 0 := by
    rw [Nat.mul_mod, show implicitBit % 2 = 0 by decide, Nat.mul_zero, Nat.zero_mod]
  rw [unbounded]
  omega

theorem distance_grid (n d q : Nat) :
    distance n d (q * 2 ^ exponent n d) = |(q : ℤ) * (d * 2 ^ exponent n d : ℕ) - n| := by
  rw [distance]
  push_cast
  ring_nf

theorem distance_gridPoint {n d : Nat} (hd : 0 < d) {j : Nat} (hj : j ≠ gridPoint n d) :
    distance n d (gridPoint n d * 2 ^ exponent n d) ≤ distance n d (j * 2 ^ exponent n d) ∧
      (distance n d (j * 2 ^ exponent n d) = distance n d (gridPoint n d * 2 ^ exponent n d) →
        gridPoint n d % 2 = 0) := by
  have hstep : 0 < d * 2 ^ exponent n d := Nat.mul_pos hd (Nat.two_pow_pos _)
  rcases roundDiv_error (n := n) hstep with ⟨herror, htie⟩
  have hne : (j : ℤ) ≠ gridPoint n d := by exact_mod_cast hj
  rcases abs_le_of_ne (by exact_mod_cast hstep) herror hne with ⟨hle, heq⟩
  rw [distance_grid, distance_grid]
  exact ⟨hle, fun h => htie (heq h)⟩

/-- No other value is closer to a fraction than the point of the grid, and none is as close if the
point is odd. -/
theorem unbounded_closest {n d : Nat} (hd : 0 < d) {m : Nat} (hm : m ≠ unbounded n d) :
    distance n d (scaledValue (unbounded n d)) ≤ distance n d (scaledValue m) ∧
      (distance n d (scaledValue m) = distance n d (scaledValue (unbounded n d)) →
        unbounded n d % 2 = 0) := by
  have hgrid : ∀ j, scaledValue m = j * 2 ^ exponent n d → j ≠ gridPoint n d := by
    rintro j hj rfl
    rw [← scaledValue_unbounded hd] at hj
    exact hm (strictMono_scaledValue.injective hj)
  rw [scaledValue_unbounded hd]
  rcases lt_or_exists_grid (exponent n d) m with hbelow | ⟨j, hj⟩
  · rcases (exponent_spec n d).1 with hzero | hlower
    · -- The grid of the lowest binade holds all integers.
      have hj : scaledValue m = scaledValue m * 2 ^ exponent n d := by rw [hzero, Nat.pow_zero, Nat.mul_one]
      rw [hj]
      exact (distance_gridPoint hd (hgrid _ hj)).imp_right fun h heq => unbounded_even (h heq)
    · -- What is below the binade is farther away than its lower end, which is a point of the grid.
      have hend : implicitBit * 2 ^ exponent n d * d ≤ n := (Nat.le_div_iff_mul_le hd).1 hlower
      have hfar := distance_lt_of_lt hd hbelow hend
      have hnear : distance n d (gridPoint n d * 2 ^ exponent n d) ≤
          distance n d (implicitBit * 2 ^ exponent n d) := by
        by_cases hq : implicitBit = gridPoint n d
        · rw [← hq]
        · exact (distance_gridPoint hd hq).1
      exact ⟨(hnear.trans_lt hfar).le, fun heq => absurd heq (hnear.trans_lt hfar).ne'⟩
  · rw [hj]
    exact (distance_gridPoint hd (hgrid j hj)).imp_right fun h heq => unbounded_even (h heq)

/-! ## Correct rounding -/

/-- The number that a magnitude stands for.  Infinity counts as the power of two that follows the largest
finite number. -/
def value (m : Nat) : ℚ :=
  scaledValue m / unitsInOne

theorem cast_unitsInOne : (unitsInOne : ℚ) = 2 ^ (1074 : ℤ) := by
  unfold unitsInOne
  rw [show (1074 : ℤ) = ((1074 : ℕ) : ℤ) from rfl]
  generalize 1074 = e
  rw [zpow_natCast]
  exact Nat.cast_pow 2 e

/-- Behind the bits of the exponent are those of a fraction, to which all exponents but the least add a leading
bit. -/
theorem value_eq (m : Nat) :
    value m =
      if m / implicitBit = 0 then ((m % implicitBit : ℕ) : ℚ) * 2 ^ (-1074 : ℤ)
      else ((implicitBit + m % implicitBit : ℕ) : ℚ) * 2 ^ ((m / implicitBit : ℕ) - 1075 : ℤ) := by
  rw [value, cast_unitsInOne]
  rcases Nat.lt_or_ge m implicitBit with hm | hm
  · rw [if_pos (Nat.div_eq_of_lt hm), Nat.mod_eq_of_lt hm, scaledValue_of_lt hm, zpow_neg]
    rfl
  · have hquotient : 0 < m / implicitBit := Nat.div_pos hm implicitBit_pos
    have hexponent : ((m / implicitBit : ℕ) - 1075 : ℤ) = (m / implicitBit - 1 : ℕ) - 1074 := by
      omega
    have hscaled : scaledValue m = (implicitBit + m % implicitBit) * 2 ^ (m / implicitBit - 1) :=
      if_neg (Nat.not_lt.2 hm)
    rw [if_neg hquotient.ne', hexponent, zpow_sub₀ two_ne_zero, hscaled, zpow_natCast, Nat.cast_mul,
      Nat.cast_pow, Nat.cast_two, mul_div_assoc]

/-- The magnitude is the one that stands for the number closest to `x`, and of two such magnitudes the
even one. -/
structure IsNearest (x : ℚ) (m : Nat) : Prop where
  le_infinity : m ≤ infinity
  closest : ∀ k ≤ infinity, |value m - x| ≤ |value k - x|
  even_of_tie : ∀ k ≤ infinity, k ≠ m → |value k - x| = |value m - x| → m % 2 = 0

theorem unitsInOne_pos : 0 < unitsInOne := by
  unfold unitsInOne
  generalize 1074 = e
  exact Nat.two_pow_pos e

theorem strictMono_value : StrictMono value := by
  intro m k hmk
  have hunits : (0 : ℚ) < unitsInOne := by exact_mod_cast unitsInOne_pos
  have hscaled : (scaledValue m : ℚ) < scaledValue k := by exact_mod_cast strictMono_scaledValue hmk
  exact div_lt_div_of_pos_right hscaled hunits

theorem abs_value_sub {n d : Nat} (hd : 0 < d) (m : Nat) :
    |value m - n / d| = distance (n * unitsInOne) d (scaledValue m) / (d * unitsInOne) := by
  have hunits : (0 : ℚ) < unitsInOne := by exact_mod_cast unitsInOne_pos
  have hd' : (0 : ℚ) < d := by exact_mod_cast hd
  have hsub : value m - n / d =
      ((scaledValue m : ℚ) * d - n * unitsInOne) / (d * unitsInOne) := by
    rw [value, div_sub_div _ _ hunits.ne' hd'.ne']
    ring
  rw [hsub, abs_div, abs_of_pos (mul_pos hd' hunits), distance]
  push_cast
  rfl

/-- Of three values, the middle one is closer to a number that is as far from the first as from the last. -/
theorem abs_sub_lt_of_between {a b c x : ℚ} (hab : a < b) (hbc : b < c) (h : |a - x| = |c - x|) :
    |b - x| < |a - x| := by
  rcases abs_eq_abs.1 h with heq | heq
  · linarith
  · rw [neg_sub] at heq
    rw [abs_of_neg (by linarith : a - x < 0)]
    exact abs_lt.2 ⟨by linarith, by linarith⟩

theorem value_unbounded_closest {n d : Nat} (hd : 0 < d) {m : Nat}
    (hm : m ≠ unbounded (n * unitsInOne) d) :
    |value (unbounded (n * unitsInOne) d) - n / d| ≤ |value m - n / d| ∧
      (|value m - n / d| = |value (unbounded (n * unitsInOne) d) - n / d| →
        unbounded (n * unitsInOne) d % 2 = 0) := by
  have hparts : (0 : ℚ) < d * unitsInOne := by exact_mod_cast Nat.mul_pos hd unitsInOne_pos
  rcases unbounded_closest (n := n * unitsInOne) hd hm with ⟨hle, heven⟩
  rw [abs_value_sub hd, abs_value_sub hd, div_le_div_iff_of_pos_right hparts, div_left_inj' hparts.ne',
    Int.cast_le, Int.cast_inj]
  exact ⟨hle, heven⟩

/-- The computed magnitude is the correctly rounded one. -/
theorem isNearest_nearest {n d : Nat} (hd : 0 < d) : IsNearest (n / d) (nearest n d) := by
  have hclosest := @value_unbounded_closest n d hd
  rw [nearest_eq]
  generalize unbounded (n * unitsInOne) d = m at hclosest
  rcases Nat.lt_or_ge infinity m with hm | hm
  · -- Were there an exponent for it, the closest number would be beyond infinity.
    have hbeyond : value infinity < n / d := by
      have hvalue := strictMono_value hm
      by_contra hnot
      have hle := (hclosest hm.ne).1
      rw [abs_of_nonneg (by linarith), abs_of_nonneg (by linarith)] at hle
      linarith
    rw [Nat.min_eq_right hm.le]
    refine ⟨Nat.le_refl _, fun k hk => ?_, fun _ _ _ _ => by decide⟩
    have hvalue := strictMono_value.monotone hk
    rw [abs_of_neg (by linarith), abs_of_neg (by linarith)]
    linarith
  · rw [Nat.min_eq_left hm]
    refine ⟨hm, fun k _ => ?_, fun k _ hne heq => (hclosest hne).2 heq⟩
    by_cases hk : k = m
    · rw [hk]
    · exact (hclosest hk).1

/-- A number is rounded in one way only. -/
theorem IsNearest.unique {x : ℚ} {m k : Nat} (hm : IsNearest x m) (hk : IsNearest x k) : m = k := by
  wlog hmk : m < k generalizing m k
  · by_contra hne
    exact hne (this hk hm (by omega)).symm
  have hequal : |value m - x| = |value k - x| :=
    le_antisymm (hm.closest k hk.le_infinity) (hk.closest m hm.le_infinity)
  have hmeven := hm.even_of_tie k hk.le_infinity hmk.ne' hequal.symm
  have hkeven := hk.even_of_tie m hm.le_infinity hmk.ne hequal
  -- Between two even magnitudes there is an odd one, which is closer.
  have hnext : m + 1 < k := by omega
  have hcloser :=
    abs_sub_lt_of_between (strictMono_value (Nat.lt_succ_self m)) (strictMono_value hnext) hequal
  exact absurd (hm.closest (m + 1) (hnext.le.trans hk.le_infinity)) (not_le.2 hcloser)

/-- A number is rounded to infinity from the middle between the largest finite number and the next power
of two on. -/
theorem isNearest_infinity_iff {x : ℚ} :
    IsNearest x infinity ↔ (value (infinity - 1) + value infinity) / 2 ≤ x := by
  have hlast : value (infinity - 1) < value infinity := strictMono_value (by decide)
  constructor
  · intro h
    by_contra hnot
    have hclosest := h.closest (infinity - 1) (Nat.sub_le _ _)
    rw [abs_of_pos (by linarith : 0 < value infinity - x)] at hclosest
    have hcloser : |value (infinity - 1) - x| < value infinity - x :=
      abs_lt.2 ⟨by linarith, by linarith⟩
    linarith
  · intro h
    refine ⟨Nat.le_refl _, fun k hk => ?_, fun _ _ _ _ => by decide⟩
    rcases hk.eq_or_lt with rfl | hlt
    · exact le_refl _
    · have hvalue : value k ≤ value (infinity - 1) := strictMono_value.monotone (by omega)
      rw [abs_of_neg (by linarith : value k - x < 0)]
      exact abs_le.2 ⟨by linarith, by linarith⟩

end Binary64
end FormValidation
