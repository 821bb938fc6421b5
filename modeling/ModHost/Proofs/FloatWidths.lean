import Mathlib
import ModHost.FloatWidth

set_option autoImplicit false

/-!
# Floats of two widths

Every number of single width is one of double width, with room to spare, so making it wider and
narrower again gives it back. Words are followed through their parts: a finite number of single
width has at most 24 places, widening fills them up to 53, and narrowing drops just the zeros
that were put there.
-/

namespace ModHost

open Float.Model (Format UnpackedFloat totalExponent)
open Float.Model.UnpackedFloat

theorem shift_exact (m k : Nat) :
    ExtendedMantissa.ofMantissaAndAccuracy (m * 2 ^ k) .exact >>> k = ⟨m, false, false⟩ := by
  change Nat.repeat ExtendedMantissa.shiftRightOne k ⟨m * 2 ^ k, false, false⟩ = _
  induction k generalizing m with
  | zero => simp [Nat.repeat]
  | succ k ih =>
    have apart : m * 2 ^ (k + 1) = (m * 2) * 2 ^ k := by
      rw [Nat.pow_succ, Nat.mul_comm (2 ^ k), Nat.mul_assoc]
    rw [Nat.repeat, apart, ih]
    simp [ExtendedMantissa.shiftRightOne]

theorem log2_shift {m : Nat} (pos : 0 < m) (k : Nat) : (m * 2 ^ k).log2 = m.log2 + k := by
  induction k with
  | zero => simp
  | succ k ih =>
    have more : 0 < m * 2 ^ k := Nat.mul_pos pos (Nat.two_pow_pos k)
    have apart : m * 2 ^ (k + 1) = 2 * (m * 2 ^ k) := by rw [Nat.pow_succ]; ac_rfl
    rw [apart, Nat.log2_two_mul (by omega), ih]
    omega

theorem totalExponent_shift {m : Nat} (pos : 0 < m) (e : Int) (k : Nat) :
    totalExponent (m * 2 ^ k) (e - k) = totalExponent m e := by
  have log := log2_shift pos k
  unfold totalExponent
  omega

/-- Rounding drops the zeros below the last place of the format. -/
theorem roundWithAccuracy_shift (format : Format) (s : Sign) {m : Nat} (pos : 0 < m) {e : Int}
    (placed : format.targetExponent (totalExponent m e) = e) (k : Nat) :
    roundWithAccuracy format s (m * 2 ^ k) (e - k) .exact = .finite s m e pos := by
  have first : shiftToTargetExponent format (m * 2 ^ k) (e - k) .exact = (⟨m, false, false⟩, e) := by
    unfold shiftToTargetExponent shiftToExponent
    have amount : (e - (e - k)).toNat = k := by omega
    have back : e - k + k = e := by omega
    simp only [totalExponent_shift pos, placed, amount, shift_exact, back]
  have second : shiftToTargetExponent format m e .exact = (⟨m, false, false⟩, e) := by
    have still := shift_exact m 0
    rw [Nat.pow_zero, Nat.mul_one] at still
    unfold shiftToTargetExponent shiftToExponent
    simp [placed, still]
  have kept : (⟨m, false, false⟩ : ExtendedMantissa).roundedMantissa = m := rfl
  unfold roundWithAccuracy
  simp [first, kept, second, Nat.ne_of_gt pos]

theorem round_shift (format : Format) (s : Sign) {m : Nat} (pos : 0 < m) {e : Int}
    (placed : format.targetExponent (totalExponent m e) = e) (k : Nat) :
    UnpackedFloat.round format s (m * 2 ^ k) (e - k) = .finite s m e pos := by
  have amount : (e - k - e).toNat = 0 := by omega
  unfold UnpackedFloat.round decreaseExponent
  simp only [totalExponent_shift pos, placed, amount]
  simpa using roundWithAccuracy_shift format s pos placed k

theorem round_fill (format : Format) (s : Sign) {m : Nat} (pos : 0 < m) {e : Int} {k : Nat}
    (placed : format.targetExponent (totalExponent m e) = e - k) :
    UnpackedFloat.round format s m e =
      .finite s (m * 2 ^ k) (e - k) (Nat.mul_pos pos (Nat.two_pow_pos k)) := by
  have amount : (e - (e - k)).toNat = k := by omega
  have filled : 0 < m * 2 ^ k := Nat.mul_pos pos (Nat.two_pow_pos k)
  have there : format.targetExponent (totalExponent (m * 2 ^ k) (e - k)) = e - k := by
    rw [totalExponent_shift pos, placed]
  have settled := roundWithAccuracy_shift format s filled there 0
  unfold UnpackedFloat.round decreaseExponent
  simp only [placed, amount, Nat.shiftLeft_eq]
  simpa using settled

/-- The word of a finite number. Only when all places are taken is its exponent written. -/
theorem pack_finite {format : Format} {s : Sign} {m : Nat} {pos : 0 < m} {e : Int} {biased : Nat}
    (placed : (e + format.exponentBias + format.mantissaBitsWithoutImplicit).toNat = biased)
    (fits : biased + 1 < 2 ^ format.exponentBits) :
    pack format (.finite s m e pos) = packComponents format s
      (if m.log2 + 1 = format.mantissaBits then BitVec.ofNat _ biased else 0#_)
      (BitVec.ofNat _ m) := by
  subst placed
  rw [pack, if_neg (Nat.not_le.2 fits)]
  split <;> rfl

/-- Where a finite number of single width has its places. -/
structure SinglePlaces (m : Nat) (e : Int) : Prop where
  small : m < 2 ^ 24
  low : -149 ≤ e
  high : e ≤ 104
  full : e = -149 ∨ 2 ^ 23 ≤ m

/-- What the words of single width stand for. -/
inductive IsSingle : UnpackedFloat → Prop
  | notANumber : IsSingle .notANumber
  | infinity (s : Sign) : IsSingle (.infinity s)
  | zero (s : Sign) : IsSingle (.zero s)
  | finite (s : Sign) {m : Nat} {e : Int} (pos : 0 < m) (places : SinglePlaces m e) :
      IsSingle (.finite s m e pos)

theorem toNat_implicit {w : Nat} (v : BitVec w) : (1#1 ++ v).toNat = 2 ^ w + v.toNat := by
  rw [BitVec.toNat_append, ← Nat.shiftLeft_add_eq_or_of_lt v.isLt]
  simp [Nat.shiftLeft_eq]

theorem isSingle_unpack (b : BitVec Format.binary32.numBits) : IsSingle (unpack .binary32 b) := by
  have bias : ((Format.binary32.exponentBias : Nat) : Int) = 127 := rfl
  have mantissa : (unpackMantissa b).toNat < 2 ^ 23 := (unpackMantissa b).isLt
  have exponent : (unpackExponent b).toNat < 2 ^ 8 := (unpackExponent b).isLt
  rw [unpack]
  dsimp only
  split
  · split
    · exact .infinity _
    · exact .notANumber
  · next notLast =>
    split
    · next least =>
      split
      · exact .zero _
      · have zero : (unpackExponent b).toNat = 0 := by rw [least]; rfl
        exact .finite _ _ ⟨by omega, by omega, by omega, by omega⟩
    · next notLeast =>
      have implicit : (1#1 ++ unpackMantissa b).toNat = 2 ^ 23 + (unpackMantissa b).toNat :=
        toNat_implicit _
      have notLast : (unpackExponent b).toNat ≠ 2 ^ 8 - 1 := fun last =>
        notLast (BitVec.eq_of_toNat_eq last)
      have notLeast : (unpackExponent b).toNat ≠ 0 := fun zero =>
        notLeast (BitVec.eq_of_toNat_eq zero)
      exact .finite _ _ ⟨by omega, by omega, by omega, by omega⟩

theorem packComponents_unpack (b : BitVec Format.binary32.numBits) :
    packComponents .binary32 (Sign.ofBitVec (unpackSign b)) (unpackExponent b) (unpackMantissa b) =
      b := by
  have sign (v : BitVec 1) : (Sign.ofBitVec v).toBitVec = v := by decide +revert
  simp only [packComponents, sign, unpackSign, unpackExponent, unpackMantissa, BitVec.extractLsb]
  ext i hi
  grind

theorem pack_unpack {b : BitVec Format.binary32.numBits} (valid : Format.binary32.Valid b) :
    pack .binary32 (unpack .binary32 b) = b := by
  have bias : ((Format.binary32.exponentBias : Nat) : Int) = 127 := rfl
  have width : ((Format.binary32.mantissaBitsWithoutImplicit : Nat) : Int) = 23 := rfl
  have places : Format.binary32.mantissaBits = 24 := rfl
  have mantissa : (unpackMantissa b).toNat < 2 ^ 23 := (unpackMantissa b).isLt
  have exponent : (unpackExponent b).toNat < 2 ^ 8 := (unpackExponent b).isLt
  have whole := packComponents_unpack b
  rw [unpack]
  dsimp only
  split
  · next last =>
    split
    · next blank =>
      rw [last, blank] at whole
      exact whole
    · next filled => exact (valid.eq_packedNaN last filled).symm
  · next notLast =>
    split
    · next least =>
      split
      · next blank =>
        rw [least, blank] at whole
        exact whole
      · next filled =>
        have filled : (unpackMantissa b).toNat ≠ 0 := fun zero => filled (BitVec.eq_of_toNat_eq zero)
        have zero : (unpackExponent b).toNat = 0 := by rw [least]; rfl
        have short : (unpackMantissa b).toNat.log2 < 23 := (Nat.log2_lt filled).2 mantissa
        rw [pack_finite (show _ = 1 by rw [bias, width]; omega) (by decide),
          if_neg (by rw [places]; omega), BitVec.ofNat_toNat, BitVec.setWidth_eq]
        rw [least] at whole
        exact whole
    · next notLeast =>
      have implicit : (1#1 ++ unpackMantissa b).toNat = 2 ^ 23 + (unpackMantissa b).toNat :=
        toNat_implicit _
      have notLast : (unpackExponent b).toNat ≠ 2 ^ 8 - 1 := fun last =>
        notLast (BitVec.eq_of_toNat_eq last)
      have full : (1#1 ++ unpackMantissa b).toNat.log2 = 23 :=
        (Nat.log2_eq_iff (by omega)).2 ⟨by omega, by omega⟩
      have stored : BitVec.ofNat 23 (1#1 ++ unpackMantissa b).toNat = unpackMantissa b := by
        apply BitVec.eq_of_toNat_eq
        rw [implicit, BitVec.toNat_ofNat]
        omega
      have fits : (unpackExponent b).toNat + 1 < 2 ^ 8 := by omega
      rw [pack_finite (show _ = (unpackExponent b).toNat by rw [bias, width]; omega) fits,
        if_pos (by rw [full, places]), stored, BitVec.ofNat_toNat, BitVec.setWidth_eq]
      exact whole

theorem unpackSign_packComponents (s : Sign) (exponent : BitVec Format.binary64.exponentBits)
    (mantissa : BitVec Format.binary64.mantissaBitsWithoutImplicit) :
    unpackSign (packComponents .binary64 s exponent mantissa) = s.toBitVec := by
  simp only [unpackSign, packComponents, BitVec.extractLsb]
  ext i hi
  grind

theorem unpack_pack_full (s : Sign) {m : Nat} (pos : 0 < m) {e : Int} (full : m.log2 = 52)
    (low : -1074 ≤ e) (high : e ≤ 971) :
    unpack .binary64 (pack .binary64 (.finite s m e pos)) = .finite s m e pos := by
  have bias : ((Format.binary64.exponentBias : Nat) : Int) = 1023 := rfl
  have width : ((Format.binary64.mantissaBitsWithoutImplicit : Nat) : Int) = 52 := rfl
  have places : Format.binary64.mantissaBits = 53 := rfl
  obtain ⟨least, most⟩ := (Nat.log2_eq_iff (by omega)).1 full
  have packed : pack .binary64 (.finite s m e pos) =
      packComponents .binary64 s (BitVec.ofNat _ (e + 1075).toNat) (BitVec.ofNat _ m) := by
    have fits : (e + 1075).toNat + 1 < 2 ^ 11 := by omega
    rw [pack_finite (show _ = (e + 1075).toNat by rw [bias, width]; omega) fits,
      if_pos (by rw [full, places])]
  have exponent : (BitVec.ofNat 11 (e + 1075).toNat).toNat = (e + 1075).toNat := by
    rw [BitVec.toNat_ofNat]
    omega
  have notLast : BitVec.ofNat 11 (e + 1075).toNat ≠ -1#11 := by
    intro last
    have value : (e + 1075).toNat = 2047 := by rw [← exponent, last]; rfl
    omega
  have notLeast : BitVec.ofNat 11 (e + 1075).toNat ≠ 0#11 := by
    intro zero
    have value : (e + 1075).toNat = 0 := by rw [← exponent, zero]; rfl
    omega
  have mantissa : (1#1 ++ BitVec.ofNat 52 m).toNat = m := by
    rw [toNat_implicit, BitVec.toNat_ofNat]
    omega
  have sign (s : Sign) : Sign.ofBitVec s.toBitVec = s := by cases s <;> rfl
  rw [packed, unpack]
  simp only [unpackMantissa_packComponents, unpackExponent_packComponents,
    unpackSign_packComponents, sign]
  rw [if_neg notLast, if_neg notLeast]
  congr 1
  rw [exponent, bias, width]
  omega

theorem targetExponent_single (t : Int) : Format.binary32.targetExponent t = max (t - 24) (-149) :=
  rfl

theorem targetExponent_double (t : Int) :
    Format.binary64.targetExponent t = max (t - 53) (-1074) := rfl

theorem roundTo_single {u : UnpackedFloat} (single : IsSingle u) :
    roundTo .binary32 (unpack .binary64 (pack .binary64 (roundTo .binary64 u))) = u := by
  cases single with
  | notANumber => rfl
  | infinity s => cases s <;> rfl
  | zero s => cases s <;> rfl
  | @finite s m e pos places =>
    obtain ⟨small, low, high, full⟩ := places
    have short : m.log2 < 24 := (Nat.log2_lt (by omega)).2 small
    have long : e = -149 ∨ 23 ≤ m.log2 := full.imp_right (Nat.le_log2 (by omega)).2
    have wide : Format.binary64.targetExponent (totalExponent m e) = e - (52 - m.log2 : Nat) := by
      rw [targetExponent_double, totalExponent]
      omega
    have narrow : Format.binary32.targetExponent (totalExponent m e) = e := by
      rw [targetExponent_single, totalExponent]
      omega
    have log : (m * 2 ^ (52 - m.log2)).log2 = 52 := by
      rw [log2_shift pos]
      omega
    rw [roundTo, round_fill .binary64 s pos wide,
      unpack_pack_full s _ log (by omega) (by omega), roundTo]
    exact round_shift .binary32 s pos narrow _

/-- Making a float of single width wider loses nothing. -/
theorem narrowed_widened (x : Float32) : narrowed (widened x) = x := by
  obtain ⟨⟨bits, valid⟩⟩ := x
  have found := roundTo_single (isSingle_unpack bits.toBitVec)
  have word := pack_unpack valid
  simp only [narrowed, widened, Float32.Model.unpack, Float.Model.unpack, Float.Model.pack,
    Float32.Model.pack]
  simp only [found, word]

theorem widened_inj {x y : Float32} : widened x = widened y ↔ x = y := by
  refine ⟨fun same => ?_, congrArg widened⟩
  rw [← narrowed_widened x, same, narrowed_widened]

end ModHost
