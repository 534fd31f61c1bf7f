import Lewsql.DiskManager.PosixDisk
import Mathlib.Data.Int.ModEq
import Mathlib.Tactic.Ring

/-!
# Byte offsets of pages

`prepare_rw` multiplies an `int32_t` cursor by an `unsigned int` page size and
adds the page size, all modulo `2^32`.  The values it gets are the unbounded
ones modulo `2^32`, and the unbounded ones themselves where the access is in
range.
-/

namespace Lewsql

/-- The page lies below the size limit, computed without bounds. -/
def InRange (pageSize maxDiskSize : UInt32) (cursor : DiskPageCursor) :
    Prop :=
  0 ≤ cursor.toInt ∧
    (cursor.toInt + 1) * pageSize.toNat < maxDiskSize.toNat

instance (pageSize maxDiskSize : UInt32) (cursor : DiskPageCursor) :
    Decidable (InRange pageSize maxDiskSize cursor) :=
  inferInstanceAs (Decidable (_ ∧ _))

def foffset (pageSize : UInt32) (cursor : DiskPageCursor) : UInt32 :=
  cursor.toUInt32 * pageSize

def newByteSize (pageSize : UInt32) (cursor : DiskPageCursor) : UInt32 :=
  foffset pageSize cursor + pageSize

/-- The offset is one that `seek` does not take for a failure. -/
def Seekable (pageSize : UInt32) (cursor : DiskPageCursor) : Prop :=
  (foffset pageSize cursor).toNat ≠ 2 ^ 32 - 1

theorem toUInt32_toNat (cursor : DiskPageCursor) :
    (cursor.toUInt32.toNat : Int) = cursor.toInt % 2 ^ 32 := by
  have signed : cursor.toInt = cursor.toBitVec.toInt := rfl
  have bits : cursor.toBitVec.toNat = cursor.toUInt32.toNat := rfl
  have small := cursor.toUInt32.toNat_lt
  rw [signed, BitVec.toInt_eq_toNat_bmod, bits]
  have reduced :
      Int.bmod (cursor.toUInt32.toNat : Int) (2 ^ 32) % (2 ^ 32 : Nat) =
        (cursor.toUInt32.toNat : Int) % (2 ^ 32 : Nat) :=
    Int.bmod_emod
  norm_num at reduced ⊢
  omega

theorem foffset_toNat (pageSize : UInt32) (cursor : DiskPageCursor) :
    ((foffset pageSize cursor).toNat : Int) =
      cursor.toInt * pageSize.toNat % 2 ^ 32 := by
  have reduced :
      cursor.toInt % 2 ^ 32 * (pageSize.toNat : Int) % 2 ^ 32 =
        cursor.toInt * pageSize.toNat % 2 ^ 32 :=
    (Int.mod_modEq cursor.toInt (2 ^ 32)).mul_right _
  simp only [foffset]
  rw [UInt32.toNat_mul]
  push_cast
  rw [toUInt32_toNat]
  exact reduced

theorem newByteSize_toNat (pageSize : UInt32) (cursor : DiskPageCursor) :
    ((newByteSize pageSize cursor).toNat : Int) =
      (cursor.toInt + 1) * pageSize.toNat % 2 ^ 32 := by
  have reduced :
      (cursor.toInt * (pageSize.toNat : Int) % 2 ^ 32 + pageSize.toNat) %
          2 ^ 32 =
        (cursor.toInt * pageSize.toNat + pageSize.toNat) % 2 ^ 32 :=
    (Int.mod_modEq _ (2 ^ 32)).add_right _
  have split :
      (cursor.toInt + 1) * (pageSize.toNat : Int) =
        cursor.toInt * pageSize.toNat + pageSize.toNat := by
    ring
  simp only [newByteSize]
  rw [UInt32.toNat_add, split]
  push_cast
  rw [foffset_toNat]
  exact reduced

section InRange

variable {pageSize maxDiskSize : UInt32} {cursor : DiskPageCursor}

/-- An end below `2^32` is not reduced, and neither is the offset. -/
theorem foffset_of_not_wrapped (nonneg : 0 ≤ cursor.toInt)
    (small : (cursor.toInt + 1) * pageSize.toNat < 2 ^ 32) :
    (foffset pageSize cursor).toNat =
      cursor.toNatClampNeg * pageSize.toNat := by
  have value := foffset_toNat pageSize cursor
  have split :
      (cursor.toInt + 1) * (pageSize.toNat : Int) =
        cursor.toInt * pageSize.toNat + pageSize.toNat := by
    ring
  have product : 0 ≤ cursor.toInt * (pageSize.toNat : Int) :=
    Int.mul_nonneg nonneg (Int.natCast_nonneg _)
  rw [Int.emod_eq_of_lt product (by omega)] at value
  have back : (cursor.toNatClampNeg : Int) = cursor.toInt :=
    Int.toNat_of_nonneg nonneg
  rw [← back] at value
  exact_mod_cast value

theorem newByteSize_of_not_wrapped (nonneg : 0 ≤ cursor.toInt)
    (small : (cursor.toInt + 1) * pageSize.toNat < 2 ^ 32) :
    (newByteSize pageSize cursor).toNat =
      cursor.toNatClampNeg * pageSize.toNat + pageSize.toNat := by
  have offset := foffset_of_not_wrapped nonneg small
  have back : (cursor.toNatClampNeg : Int) = cursor.toInt :=
    Int.toNat_of_nonneg nonneg
  have bound :
      cursor.toNatClampNeg * pageSize.toNat + pageSize.toNat < 2 ^ 32 := by
    have split :
        (cursor.toInt + 1) * (pageSize.toNat : Int) =
          ((cursor.toNatClampNeg * pageSize.toNat + pageSize.toNat : Nat) :
            Int) := by
      push_cast
      rw [back]
      ring
    rw [split] at small
    exact_mod_cast small
  simp only [newByteSize]
  rw [UInt32.toNat_add, offset, Nat.mod_eq_of_lt bound]

theorem InRange.lt_size (inRange : InRange pageSize maxDiskSize cursor) :
    (cursor.toInt + 1) * pageSize.toNat < 2 ^ 32 := by
  have limit := maxDiskSize.toNat_lt
  have below := inRange.2
  omega

theorem InRange.foffset (inRange : InRange pageSize maxDiskSize cursor) :
    (foffset pageSize cursor).toNat =
      cursor.toNatClampNeg * pageSize.toNat :=
  foffset_of_not_wrapped inRange.1 inRange.lt_size

theorem InRange.newByteSize
    (inRange : InRange pageSize maxDiskSize cursor) :
    (newByteSize pageSize cursor).toNat =
      cursor.toNatClampNeg * pageSize.toNat + pageSize.toNat :=
  newByteSize_of_not_wrapped inRange.1 inRange.lt_size

/-- The check of `prepare_rw` lets an access in range pass. -/
theorem InRange.newByteSize_lt
    (inRange : InRange pageSize maxDiskSize cursor) :
    Lewsql.newByteSize pageSize cursor < maxDiskSize := by
  rw [UInt32.lt_iff_toNat_lt]
  have value := newByteSize_toNat pageSize cursor
  have nonneg : 0 ≤ (cursor.toInt + 1) * (pageSize.toNat : Int) :=
    Int.mul_nonneg (by have := inRange.1; omega) (Int.natCast_nonneg _)
  rw [Int.emod_eq_of_lt nonneg inRange.lt_size] at value
  have below := inRange.2
  omega

/-- The end of an access in range, as a natural number. -/
theorem InRange.end_lt (inRange : InRange pageSize maxDiskSize cursor) :
    cursor.toNatClampNeg * pageSize.toNat + pageSize.toNat <
      maxDiskSize.toNat := by
  have below := inRange.newByteSize_lt
  rw [UInt32.lt_iff_toNat_lt, inRange.newByteSize] at below
  exact below

theorem InRange.seekable (inRange : InRange pageSize maxDiskSize cursor)
    (positive : pageSize ≠ 0) : Seekable pageSize cursor := by
  have below := inRange.end_lt
  have limit := maxDiskSize.toNat_lt
  have size := Nat.pos_of_ne_zero
    (fun zero => positive (UInt32.toNat_inj.mp zero))
  simp only [Seekable]
  rw [inRange.foffset]
  omega

/-- The end of an access in range does not carry. -/
theorem InRange.noCarry (inRange : InRange pageSize maxDiskSize cursor) :
    (Lewsql.foffset pageSize cursor).toNat + pageSize.toNat < 2 ^ 32 := by
  have below := inRange.end_lt
  have limit := maxDiskSize.toNat_lt
  rw [inRange.foffset]
  omega

end InRange

end Lewsql
