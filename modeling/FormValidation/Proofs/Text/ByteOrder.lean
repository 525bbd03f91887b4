import Mathlib.Order.Basic

/-!
# The order of texts is the order of their bytes

Texts are compared by their characters, and characters by their code points.  In UTF-8 that is the order of
the bytes (`lt_iff_bytes_lt`): of two characters the one with the greater code point has the greater byte at
the first place where they differ.
-/

namespace FormValidation
namespace Text

/-- The bytes of a text in UTF-8. -/
def bytes (s : String) : List UInt8 :=
  s.toUTF8.data.toList

theorem bytes_eq_flatMap (s : String) : bytes s = s.toList.flatMap String.utf8EncodeChar := by
  show s.toByteArray.data.toList = _
  rw [← String.utf8Encode_toList]
  exact List.toList_data_toByteArray

/-! ## Characters -/

/-- The bytes of a code point: six bits of it in each byte but the first, whose upper bits tell how many there
are. -/
inductive Encodes : Nat → List UInt8 → Prop where
  | one {a : Nat} (ha : a < 0x80) : Encodes a [.ofNat a]
  | two {a b : Nat} (ha : a < 32) (hb : b < 64) (h : 0x80 ≤ a * 64 + b) :
      Encodes (a * 64 + b) [.ofNat (a + 192), .ofNat (b + 128)]
  | three {a b c : Nat} (ha : a < 16) (hb : b < 64) (hc : c < 64) (h : 0x800 ≤ (a * 64 + b) * 64 + c) :
      Encodes ((a * 64 + b) * 64 + c) [.ofNat (a + 224), .ofNat (b + 128), .ofNat (c + 128)]
  | four {a b c d : Nat} (ha : a < 8) (hb : b < 64) (hc : c < 64) (hd : d < 64)
      (h : 0x10000 ≤ ((a * 64 + b) * 64 + c) * 64 + d) :
      Encodes (((a * 64 + b) * 64 + c) * 64 + d)
        [.ofNat (a + 240), .ofNat (b + 128), .ofNat (c + 128), .ofNat (d + 128)]

namespace Encodes

theorem utf8EncodeChar (c : Char) : Encodes c.val.toNat (String.utf8EncodeChar c) := by
  have hvalid : c.val.toNat < 0x110000 := by
    rcases c.valid with h | ⟨-, h⟩
    · exact Nat.lt_of_lt_of_le h (by decide)
    · exact h
  unfold String.utf8EncodeChar
  generalize c.val.toNat = v at hvalid
  by_cases h₁ : v ≤ 0x7f
  · rw [if_pos h₁]
    exact .one (by omega)
  by_cases h₂ : v ≤ 0x7ff
  · rw [if_neg h₁, if_pos h₂]
    have hv : v / 64 % 32 * 64 + v % 64 = v := by omega
    have h := two (a := v / 64 % 32) (b := v % 64) (by omega) (by omega) (by omega)
    rwa [hv] at h
  by_cases h₃ : v ≤ 0xffff
  · rw [if_neg h₁, if_neg h₂, if_pos h₃]
    have hv : (v / 4096 % 16 * 64 + v / 64 % 64) * 64 + v % 64 = v := by omega
    have h := three (a := v / 4096 % 16) (b := v / 64 % 64) (c := v % 64) (by omega) (by omega)
      (by omega) (by omega)
    rwa [hv] at h
  · rw [if_neg h₁, if_neg h₂, if_neg h₃]
    have hv : ((v / 262144 % 8 * 64 + v / 4096 % 64) * 64 + v / 64 % 64) * 64 + v % 64 = v := by
      omega
    have h := four (a := v / 262144 % 8) (b := v / 4096 % 64) (c := v / 64 % 64) (d := v % 64)
      (by omega) (by omega) (by omega) (by omega) (by omega)
    rwa [hv] at h

theorem ne_nil {v : Nat} {bs : List UInt8} (h : Encodes v bs) : bs ≠ [] := by
  cases h <;> exact List.cons_ne_nil _ _

/-- The bytes of a greater code point are greater, whatever comes behind them. -/
theorem append_lt {v w : Nat} {bs cs : List UInt8} (hv : Encodes v bs) (hw : Encodes w cs) (h : v < w)
    (l l' : List UInt8) : bs ++ l < cs ++ l' := by
  cases hv <;> cases hw <;>
    simp only [List.cons_append, List.nil_append, List.cons_lt_cons_iff, UInt8.lt_iff_toNat_lt,
      ← UInt8.toNat_inj, UInt8.toNat_ofNat'] <;>
    omega

end Encodes

/-! ## Texts -/

theorem flatMap_utf8EncodeChar_lt {l l' : List Char} (h : l < l') :
    l.flatMap String.utf8EncodeChar < l'.flatMap String.utf8EncodeChar := by
  induction l generalizing l' with
  | nil =>
      cases l' with
      | nil => exact absurd h (List.lt_irrefl _)
      | cons d l' =>
          have hne : String.utf8EncodeChar d ≠ [] := (Encodes.utf8EncodeChar d).ne_nil
          rcases List.exists_cons_of_ne_nil hne with ⟨b, bs, hbs⟩
          rw [List.flatMap_nil, List.flatMap_cons, hbs]
          exact List.nil_lt_cons _ _
  | cons c l ih =>
      cases l' with
      | nil => exact absurd h (List.not_lt_nil _)
      | cons d l' =>
          rw [List.flatMap_cons, List.flatMap_cons]
          rcases List.cons_lt_cons_iff.1 h with hcd | ⟨rfl, hl⟩
          · exact (Encodes.utf8EncodeChar c).append_lt (.utf8EncodeChar d) hcd _ _
          · exact List.append_left_lt (ih hl)

/-- One text goes before another exactly if its bytes do. -/
theorem lt_iff_bytes_lt (s t : String) : s < t ↔ bytes s < bytes t := by
  have hlt : ∀ s t : String, s < t → bytes s < bytes t := by
    intro s t h
    rw [bytes_eq_flatMap, bytes_eq_flatMap]
    exact flatMap_utf8EncodeChar_lt h
  refine ⟨hlt s t, ?_⟩
  intro h
  by_contra hnot
  by_cases hts : t < s
  · exact List.lt_asymm h (hlt t s hts)
  · -- Neither text goes before the other, so they are the same.
    obtain rfl : s = t := String.le_antisymm (String.not_lt.1 hts) (String.not_lt.1 hnot)
    exact List.lt_irrefl _ h

end Text
end FormValidation
