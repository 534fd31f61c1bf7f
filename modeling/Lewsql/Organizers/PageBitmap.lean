import Lewsql.Library.BitmapSet
import Lewsql.Organizers.Heap

/-!
# The bitmap of a page

`insert_tuple` reads a bitmap from behind the list pointers of a page, takes its
first free bit and writes the bitmap back.  The bits that are read are bits of the
page as far as the copied bytes go, and clear behind them.
-/

namespace Lewsql

open Bytes

namespace Heap

/-! ## Taking a slot -/

section TakeSlot

variable {bitmap after : Bitmap} {slot : UInt32} {index : Nat}

theorem takeSlot_of_free (covered : bitmap.Covered)
    (lowest : bitmap.lowestFree = some index) :
    takeSlot bitmap =
      .ok (UInt32.ofNat index, bitmap.withBit index true) := by
  obtain ⟨below, free, _⟩ := Bitmap.lowestFree_eq_some_iff.mp lowest
  have inside := covered.index_lt below
  have small := covered.small
  have position : (UInt32.ofNat index).toNat = index :=
    UInt32.toNat_ofNat_of_lt' (by change _ < 2 ^ 32; omega)
  have positive : UInt32.ofNat bitmap.numFree > 0 := by
    rw [gt_iff_lt, UInt32.lt_iff_toNat_lt, covered.toNat_count]
    exact Bitmap.numFree_pos_iff.mpr ⟨index, below, free⟩
  have taken :
      bitmap.setBitVal (UInt32.ofNat index) true =
        .ok (bitmap.withBit index true) := by
    rw [Bitmap.setBitVal_eq (by rw [position]; exact inside), position]
  simp only [takeSlot]
  rw [Bitmap.getNumFreeBits_eq covered, Bitmap.getFirstFreeBit_eq covered,
    lowest]
  change
    (if ¬ UInt32.ofNat bitmap.numFree > 0 then _ else _) = _
  rw [if_neg (not_not_intro positive)]
  change
    ((bitmap.setBitVal (UInt32.ofNat index) true).mapError _ >>= _) = _
  rw [taken]
  rfl

theorem takeSlot_of_full (covered : bitmap.Covered)
    (full : bitmap.numFree = 0) :
    takeSlot bitmap = .error .assertFreeBits := by
  simp only [takeSlot]
  rw [Bitmap.getNumFreeBits_eq covered, full]
  rfl

theorem takeSlot_of_not_covered (uncovered : ¬ bitmap.Covered) :
    ∃ failure, takeSlot bitmap = .error (.bitmap failure) := by
  cases counted : bitmap.getNumFreeBits with
  | ok count => exact absurd (Bitmap.covered_of_counted counted) uncovered
  | error failure =>
      refine ⟨failure, ?_⟩
      simp only [takeSlot]
      rw [counted]
      rfl

/-- A slot that was taken is the lowest free one. -/
theorem takeSlot_eq_ok (taken : takeSlot bitmap = .ok (slot, after)) :
    bitmap.Covered ∧
      bitmap.lowestFree = some slot.toNat ∧
      after = bitmap.withBit slot.toNat true := by
  by_cases covered : bitmap.Covered
  · cases lowest : bitmap.lowestFree with
    | none =>
        rw [takeSlot_of_full covered
          (Bitmap.lowestFree_eq_none_iff.mp lowest)] at taken
        cases taken
    | some index =>
        rw [takeSlot_of_free covered lowest] at taken
        cases taken
        obtain ⟨below, _, _⟩ := Bitmap.lowestFree_eq_some_iff.mp lowest
        have small := covered.small
        have position : (UInt32.ofNat index).toNat = index :=
          UInt32.toNat_ofNat_of_lt' (by change _ < 2 ^ 32; omega)
        rw [position]
        exact ⟨covered, rfl, rfl⟩
  · obtain ⟨failure, failed⟩ := takeSlot_of_not_covered covered
    rw [failed] at taken
    cases taken

/-- An assert fails only for a bitmap without a free bit. -/
theorem takeSlot_eq_assert {failure : HeapFailure}
    (failed : takeSlot bitmap = .error failure)
    (assert : failure.isAssert = true) : bitmap.numFree = 0 := by
  by_cases covered : bitmap.Covered
  · by_contra free
    cases lowest : bitmap.lowestFree with
    | none => exact free (Bitmap.lowestFree_eq_none_iff.mp lowest)
    | some index =>
        rw [takeSlot_of_free covered lowest] at failed
        cases failed
  · obtain ⟨reason, other⟩ := takeSlot_of_not_covered covered
    rw [other] at failed
    cases failed
    cases assert

end TakeSlot

/-! ## The bitmap in a page -/

def bitmapBytes (self : Heap) : Nat :=
  (Bitmap.numBytesOf self.bitmapSize).toNat

/-- The bitmap that `insert_tuple` reads from a page. -/
def bitmapOf (storage : UInt32 → Nat) (self : Heap) (page : Memory) :
    Bitmap where
  numBits := self.bitmapSize
  numBytes := Bitmap.numBytesOf self.bitmapSize
  bytes :=
    page.read 8 self.bitmapBytes ++
      List.replicate (storage self.bitmapSize - self.bitmapBytes) 0

/-- The copied bytes fit the array. -/
def Stored (storage : UInt32 → Nat) (self : Heap) : Prop :=
  self.bitmapBytes ≤ storage self.bitmapSize

def slotOffset (self : Heap) (slot : Nat) (tuple : Tuple) : Nat :=
  (firstTupleOffset (Bitmap.numBytesOf self.bitmapSize) +
    UInt32.ofNat slot * tuple.size).toNat

/-- A page with the bitmap of a page with one more slot taken. -/
def withBitmap (storage : UInt32 → Nat) (self : Heap) (page : Memory)
    (slot : Nat) : Memory :=
  page.write 8
    (((self.bitmapOf storage page).withBit slot true).bytes.take
      self.bitmapBytes)

def withTuple (storage : UInt32 → Nat) (self : Heap) (tuple : Tuple)
    (page : Memory) (slot : Nat) : Memory :=
  (self.withBitmap storage page slot).write (self.slotOffset slot tuple)
    (Tuple.image tuple.cells)

section PageBitmap

variable {storage : UInt32 → Nat} {self : Heap} {page : Memory}
variable {slot index : Nat} {tuple : Tuple}

theorem length_bitmapOf (stored : self.Stored storage) :
    (self.bitmapOf storage page).bytes.length =
      storage self.bitmapSize := by
  have fits : self.bitmapBytes ≤ storage self.bitmapSize := stored
  rw [bitmapOf, List.length_append, Memory.length_read,
    List.length_replicate]
  omega

theorem construct_of_stored (stored : self.Stored storage) :
    Bitmap.construct (storage self.bitmapSize) self.bitmapSize =
      .ok ⟨self.bitmapSize, Bitmap.numBytesOf self.bitmapSize,
        List.replicate (storage self.bitmapSize) 0⟩ := by
  have fits : self.bitmapBytes ≤ storage self.bitmapSize := stored
  have fills :
      (Bitmap.numBytesOf self.bitmapSize).toNat ≤
        (List.replicate (storage self.bitmapSize) (0 : UInt8)).length := by
    rw [List.length_replicate]
    exact fits
  have whole :
      self.bitmapBytes + (storage self.bitmapSize - self.bitmapBytes) =
        storage self.bitmapSize := by
    omega
  simp only [Bitmap.construct, Bitmap.fillZero]
  rw [if_pos fills, List.drop_replicate]
  change
    Except.ok (Bitmap.mk _ _
      (List.replicate self.bitmapBytes 0 ++ List.replicate _ 0)) = _
  rw [List.replicate_append_replicate]
  change
    Except.ok (Bitmap.mk _ _
      (List.replicate
        (self.bitmapBytes +
          (storage self.bitmapSize - self.bitmapBytes)) 0)) = _
  rw [whole]

theorem construct_of_not_stored (short : ¬ self.Stored storage) :
    Bitmap.construct (storage self.bitmapSize) self.bitmapSize =
      .error .outOfBounds := by
  simp only [Bitmap.construct, Bitmap.fillZero]
  rw [if_neg]
  rw [List.length_replicate]
  exact short

theorem deserialize_of_stored (stored : self.Stored storage) :
    Bitmap.deserialize (page.read 8 self.bitmapBytes)
        ⟨self.bitmapSize, Bitmap.numBytesOf self.bitmapSize,
          List.replicate (storage self.bitmapSize) 0⟩ =
      .ok (self.bitmapOf storage page) := by
  have copies :
      (Bitmap.numBytesOf self.bitmapSize).toNat ≤
        (List.replicate (storage self.bitmapSize) (0 : UInt8)).length := by
    rw [List.length_replicate]
    exact stored
  simp only [Bitmap.deserialize]
  rw [if_pos copies, List.drop_replicate]
  apply congrArg Except.ok
  simp only [bitmapOf]
  change
    Bitmap.mk _ _
      ((page.read 8 self.bitmapBytes).take self.bitmapBytes ++ _) = _
  rw [Memory.take_read (Nat.le_refl _)]
  rfl

theorem serialize_withBit (stored : self.Stored storage) (val : Bool) :
    ((self.bitmapOf storage page).withBit slot val).serialize =
      .ok (((self.bitmapOf storage page).withBit slot val).bytes.take
        self.bitmapBytes) := by
  simp only [Bitmap.serialize]
  rw [if_pos]
  · rfl
  · rw [Bitmap.withBit_length, length_bitmapOf stored]
    exact stored

private theorem getD_replicate_zero (count place : Nat) :
    (List.replicate count (0 : UInt8)).getD place 0 = 0 := by
  rw [List.getD_eq_getElem?_getD, List.getElem?_replicate]
  split <;> rfl

/-- The bits that a page with copied bytes of an array gives. -/
theorem bit_of_copied (stored : self.Stored storage) {bitmap : Bitmap}
    (length : bitmap.bytes.length = storage self.bitmapSize)
    (copied :
      page.read 8 self.bitmapBytes =
        bitmap.bytes.take self.bitmapBytes) :
    (self.bitmapOf storage page).bit index =
      if index / 8 < self.bitmapBytes then bitmap.bit index else false := by
  have fits : self.bitmapBytes ≤ storage self.bitmapSize := stored
  have taken :
      (bitmap.bytes.take self.bitmapBytes).length = self.bitmapBytes := by
    rw [List.length_take]
    omega
  simp only [Bitmap.bit]
  rw [bitmapOf, copied]
  dsimp only
  by_cases inside : index / 8 < self.bitmapBytes
  · rw [if_pos inside, List.getD_append _ _ _ _ (by omega),
      List.getD_eq_getElem _ _ (by omega),
      List.getD_eq_getElem _ _ (by omega), List.getElem_take]
  · rw [if_neg inside, List.getD_append_right _ _ _ _ (by omega),
      getD_replicate_zero, isBitSet_eq_getLsbD _ (by omega)]
    exact BitVec.getLsbD_zero

/-- The bits of a page itself. -/
theorem bit_bitmapOf :
    (self.bitmapOf storage page).bit index =
      if index / 8 < self.bitmapBytes then
        isBitSet (page (8 + index / 8)) (index % 8)
      else false := by
  simp only [Bitmap.bit, bitmapOf]
  by_cases inside : index / 8 < self.bitmapBytes
  · have copied : index / 8 < (page.read 8 self.bitmapBytes).length := by
      rw [Memory.length_read]
      exact inside
    rw [if_pos inside, List.getD_append _ _ _ _ copied,
      List.getD_eq_getElem _ _ copied, Memory.getElem_read]
  · have behind :
        (page.read 8 self.bitmapBytes).length ≤ index / 8 := by
      rw [Memory.length_read]
      exact Nat.not_lt.mp inside
    rw [if_neg inside, List.getD_append_right _ _ _ _ behind,
      getD_replicate_zero, isBitSet_eq_getLsbD _ (by omega)]
    exact BitVec.getLsbD_zero

/-- No bit of an empty page is taken. -/
theorem bit_zeros :
    (self.bitmapOf storage fun _ => 0).bit index = false := by
  have clear (bit : Nat) (small : bit < 8) : isBitSet 0 bit = false := by
    rw [isBitSet_eq_getLsbD _ small]
    exact BitVec.getLsbD_zero
  rw [bit_bitmapOf]
  split
  · exact clear _ (by omega)
  · rfl

theorem numFree_zeros :
    (self.bitmapOf storage fun _ => 0).numFree =
      self.bitmapSize.toNat := by
  have all :
      (List.range (self.bitmapOf storage fun _ => 0).numBits.toNat).countP
          (fun index => !(self.bitmapOf storage fun _ => 0).bit index) =
        (List.range
          (self.bitmapOf storage fun _ => 0).numBits.toNat).length := by
    apply List.countP_eq_length.mpr
    intro index _
    rw [bit_zeros]
    rfl
  exact all.trans List.length_range

theorem lowestFree_zeros (positive : 0 < self.bitmapSize.toNat) :
    (self.bitmapOf storage fun _ => 0).lowestFree = some 0 :=
  Bitmap.lowestFree_eq_some_iff.mpr
    ⟨positive, bit_zeros, fun _ lower => absurd lower (by omega)⟩

theorem length_copied (stored : self.Stored storage) :
    (((self.bitmapOf storage page).withBit slot true).bytes.take
      self.bitmapBytes).length = self.bitmapBytes := by
  have fits : self.bitmapBytes ≤ storage self.bitmapSize := stored
  rw [List.length_take, Bitmap.withBit_length, length_bitmapOf stored]
  omega

/-- A tuple behind the bitmap leaves the bits that were written. -/
theorem bit_withTuple (stored : self.Stored storage)
    (behind : 8 + self.bitmapBytes ≤ self.slotOffset slot tuple) :
    (self.bitmapOf storage (self.withTuple storage tuple page slot)).bit
        index =
      if index / 8 < self.bitmapBytes then
        ((self.bitmapOf storage page).withBit slot true).bit index
      else false := by
  apply bit_of_copied stored
  · rw [Bitmap.withBit_length, length_bitmapOf stored]
  · simp only [withTuple, withBitmap]
    rw [Memory.read_write_apart (Or.inl behind),
      Memory.read_write_of_length (length_copied stored)]

/-- A slot that is free after one was taken is still free in the page. -/
theorem free_withTuple (stored : self.Stored storage)
    (behind : 8 + self.bitmapBytes ≤ self.slotOffset slot tuple)
    (free :
      ((self.bitmapOf storage page).withBit slot true).bit index = false) :
    (self.bitmapOf storage (self.withTuple storage tuple page slot)).bit
        index = false := by
  rw [bit_withTuple stored behind, free]
  exact ite_self false

end PageBitmap

end Heap

end Lewsql
