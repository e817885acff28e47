import Mathlib
import Mahjong.Decimal.Binary

/-!
This module contains the correspondence between doubles and their codes. Every double is determined
by its sign and its code, and every code of a finite value is the code of a double. A double that is
finite and not below zero is at least zero.
-/

namespace Mahjong.Decimal

open Float.Model Float.Model.UnpackedFloat

theorem toNat_unpackExponent (bits : UInt64)
    : (@unpackExponent Format.binary64 bits.toBitVec).toNat
        =
      bits.toNat / 2 ^ 52 % 2 ^ 11 := by
  simp [unpackExponent, Nat.shiftRight_eq_div_pow]

theorem toBits_ofBits {bits : UInt64}
    (hfinite : @unpackExponent Format.binary64 bits.toBitVec ≠ -1#11)
    : (Float.ofBits bits).toBits = bits := by
  have hvalid : Format.binary64.Valid bits.toBitVec := by
    constructor
    intro hexp
    contradiction
  unfold Float.ofBits Float.toBits Float.Model.ofBits Float.Model.pack
  simp only [pack_unpack_of_valid hvalid]

theorem ofCode_codeOf (x : Float) : ofCode (isNegative x) (codeOf x) = x := by
  have hlt := x.toBits.toNat_lt
  have hbits : (if isNegative x then signBit + codeOf x else codeOf x) = x.toBits.toNat := by
    unfold isNegative codeOf signBit
    simp only [decide_eq_true_eq, Nat.pow_eq]
    split <;> omega
  unfold ofCode
  rw [hbits, UInt64.ofNat_toNat, Float.ofBits_toBits]

theorem toNat_toBits_ofCode (negative : Bool) {code : Nat} (hcode : code < infinityCode)
    : (ofCode negative code).toBits.toNat = if negative then signBit + code else code := by
  have hcode : code < 2047 * 2 ^ 52 := hcode
  have hsign : signBit = 2 ^ 63 := by rfl
  unfold ofCode
  generalize hn : (if negative then signBit + code else code) = n
  have hlt : n < 2 ^ 64 := by
    rw [← hn, hsign]
    split <;> omega
  rw [toBits_ofBits]
  . exact UInt64.toNat_ofNat_of_lt' hlt
  . intro hexp
    have hfields := congrArg BitVec.toNat hexp
    rw [toNat_unpackExponent, UInt64.toNat_ofNat_of_lt' hlt, ← hn, hsign] at hfields
    simp at hfields
    split at hfields <;> omega

theorem codeOf_ofCode (negative : Bool) {code : Nat} (hcode : code < infinityCode)
    : codeOf (ofCode negative code) = code := by
  have hcode' : code < 2047 * 2 ^ 52 := hcode
  have hsign : signBit = 2 ^ 63 := by rfl
  unfold codeOf
  rw [toNat_toBits_ofCode negative hcode, hsign]
  split <;> omega

theorem isFinite_ofCode (negative : Bool) {code : Nat} (hcode : code < infinityCode)
    : isFinite (ofCode negative code) = true := by
  unfold isFinite
  rw [codeOf_ofCode negative hcode]
  simp [hcode]

theorem isFinite_unpack_iff {spec : Float.Model.Format} (bits : BitVec spec.numBits)
    : (UnpackedFloat.unpack spec bits).isFinite ↔ unpackExponent bits ≠ -1#_ := by
  unfold UnpackedFloat.unpack
  dsimp only
  split
  . next hexp =>
    split
    . simp [UnpackedFloat.isFinite, hexp]
    . simp [UnpackedFloat.isFinite, hexp]
  . next hexp =>
    split
    . split
      . simp [UnpackedFloat.isFinite, hexp]
      . simp [UnpackedFloat.isFinite, hexp]
    . simp [UnpackedFloat.isFinite, hexp]

theorem isFinite_eq (x : Float) : isFinite x = x.isFinite := by
  have hfields := toNat_unpackExponent x.toBits
  have hones : (-1#11).toNat = 2047 := by
    rfl
  have hfinite : x.isFinite ↔ @unpackExponent Format.binary64 x.toBits.toBitVec ≠ -1#11 := by
    apply @isFinite_unpack_iff Format.binary64
  have hcode : isFinite x ↔ x.toBits.toNat % 2 ^ 63 < 2047 * 2 ^ 52 := by
    apply decide_eq_true_iff
  apply Bool.eq_iff_iff.2
  rw [hfinite, hcode, Ne, ← BitVec.toNat_inj, hfields, hones]
  omega

theorem lt_iff (x y : Float) : x < y ↔ x.toModel.unpack.lt y.toModel.unpack := by
  show decide (x.toModel < y.toModel) ↔ _
  rw [decide_eq_true_iff]
  rfl

theorem le_iff (x y : Float) : x ≤ y ↔ x.toModel.unpack.le y.toModel.unpack := by
  show decide (x.toModel ≤ y.toModel) ↔ _
  rw [decide_eq_true_iff]
  rfl

theorem zero_le_of_isFinite {x : Float} (hfinite : x.isFinite) (h : ¬x < 0) : 0 ≤ x := by
  have hzero : (0 : Float).toModel.unpack = .zero .positive := by
    rfl
  have hfinite : x.toModel.unpack.isFinite := hfinite
  rw [lt_iff, hzero] at h
  rw [le_iff, hzero]
  cases hx : x.toModel.unpack with
  | infinity s =>
    rw [hx] at hfinite
    contradiction
  | notANumber =>
    rw [hx] at hfinite
    contradiction
  | zero s => rfl
  | finite s m e hm =>
    cases s with
    | positive => rfl
    | negative =>
      rw [hx] at h
      contradiction

end Mahjong.Decimal
