import Lewsql.Organizers.NewHeap
import Lewsql.Organizers.TupleExtent

/-!
# Where slots lie

The number of slots of a page is a formula of its size alone, while their width
is the size of the tuple, and the offset of a slot is reduced modulo `2^32`.  So a
page goes on handing out slots when the ones inside it are taken, and a tuple may
end behind the page also in a slot that starts inside.
-/

namespace Lewsql

open Bytes

namespace Heap

section Offsets

variable {heap : Heap} {tuple : Tuple} {slot : Nat}

theorem toNat_firstTupleOffset (small : 8 + heap.bitmapBytes < 2 ^ 32) :
    (firstTupleOffset (Bitmap.numBytesOf heap.bitmapSize)).toNat =
      8 + heap.bitmapBytes := by
  simp only [firstTupleOffset]
  rw [UInt32.mul_one, UInt32.toNat_add]
  change (8 + heap.bitmapBytes) % 2 ^ 32 = 8 + heap.bitmapBytes
  exact Nat.mod_eq_of_lt small

/-- The offset of a slot before it is reduced. -/
theorem slotOffset_eq_mod (small : 8 + heap.bitmapBytes < 2 ^ 32)
    (slot : Nat) (tuple : Tuple) :
    heap.slotOffset slot tuple =
      (8 + heap.bitmapBytes + slot * tuple.cells.length % 2 ^ 32) %
        2 ^ 32 := by
  simp only [slotOffset]
  rw [UInt32.toNat_add, toNat_firstTupleOffset small, UInt32.toNat_mul,
    tuple.toNat_size, UInt32.toNat_ofNat', ← Nat.mul_mod]

/-- The offset of a slot that is not reduced. -/
theorem slotOffset_eq
    (small :
      8 + heap.bitmapBytes + slot * tuple.cells.length < 2 ^ 32) :
    heap.slotOffset slot tuple =
      8 + heap.bitmapBytes + slot * tuple.cells.length := by
  have width : slot * tuple.cells.length < 2 ^ 32 := by omega
  calc
    heap.slotOffset slot tuple =
        (8 + heap.bitmapBytes + slot * tuple.cells.length % 2 ^ 32) %
          2 ^ 32 :=
      slotOffset_eq_mod (by omega) slot tuple
    _ = (8 + heap.bitmapBytes + slot * tuple.cells.length) % 2 ^ 32 := by
      rw [Nat.mod_eq_of_lt width]
    _ = 8 + heap.bitmapBytes + slot * tuple.cells.length :=
      Nat.mod_eq_of_lt small

theorem tupleOffset_of_takeSlot {storage : UInt32 → Nat} {page : Memory}
    {taken : UInt32} {after : Bitmap}
    (handed :
      takeSlot (heap.bitmapOf storage page) = .ok (taken, after)) :
    (tupleOffsetWithinPage after taken tuple).toNat =
      heap.slotOffset taken.toNat tuple := by
  obtain ⟨_, _, same⟩ := takeSlot_eq_ok handed
  simp only [slotOffset]
  rw [same, UInt32.ofNat_toNat]
  rfl

end Offsets

/-! ## The room of a page -/

/-- The bit of a slot in the bytes of the bitmap of a page. -/
def slotTaken (self : Heap) (page : Memory) (slot : Nat) : Bool :=
  decide (slot / 8 < self.bitmapBytes) &&
    isBitSet (page (8 + slot / 8)) (slot % 8)

/-- The bytes behind the bitmap. -/
def room (self : Heap) : Nat :=
  self.pageSize.toNat - (8 + self.bitmapBytes)

/-- The number of slots as wide as the size of a tuple that are in the page. -/
def slotsInside (self : Heap) (tuple : Tuple) : Nat :=
  self.room / tuple.size.toNat

/-- The bytes behind the bitmap without the ones of taken slots. -/
def remainingRoom (self : Heap) (page : Memory) (tuple : Tuple) : Nat :=
  self.room -
    (List.range (self.slotsInside tuple)).countP (self.slotTaken page) *
      tuple.size.toNat

/-- Some slot is free in the bitmap in which the bytes of the tuple end inside the
page. -/
def HasRoom (self : Heap) (page : Memory) (tuple : Tuple) : Prop :=
  ∃ slot < self.bitmapSize.toNat, self.slotTaken page slot = false ∧
    8 + self.bitmapBytes + slot * tuple.size.toNat +
      Tuple.extent tuple.cells ≤ self.pageSize.toNat

/-- The slot lies inside the page, `serialize` stores nothing behind the page, and
a page with too little room for one more slot reports no free bit. -/
structure StaysInside (storage : UInt32 → Nat) (heap : Heap)
    (page : Memory) (tuple : Tuple) (slot : UInt32) (after : Bitmap) :
    Prop where
  inside :
    (tupleOffsetWithinPage after slot tuple).toNat + tuple.size.toNat ≤
      heap.pageSize.toNat
  stored : ∀ place,
    tuple.StoresTo (tupleOffsetWithinPage after slot tuple).toNat place →
      place < heap.pageSize.toNat
  reported : heap.remainingRoom page tuple < tuple.size.toNat →
    (heap.bitmapOf storage page).getNumFreeBits = .ok 0

section Room

variable {storage : UInt32 → Nat} {self : Heap} {page : Memory}
variable {tuple : Tuple} {slot : UInt32} {after : Bitmap}

theorem bit_eq_slotTaken (index : Nat) :
    (self.bitmapOf storage page).bit index = self.slotTaken page index := by
  rw [bit_bitmapOf, slotTaken]
  by_cases copied : index / 8 < self.bitmapBytes
  · rw [if_pos copied, decide_eq_true copied, Bool.true_and]
  · rw [if_neg copied, decide_eq_false copied, Bool.false_and]

theorem lt_slotsInside_iff {index : Nat} (some : 0 < tuple.size.toNat) :
    index < self.slotsInside tuple ↔
      (index + 1) * tuple.size.toNat ≤ self.room := by
  rw [slotsInside, ← Nat.succ_le_iff]
  exact Nat.le_div_iff_mul_le some

/-- There is room for one more slot exactly if one inside the page is free. -/
theorem size_le_remainingRoom_iff (some : 0 < tuple.size.toNat) :
    tuple.size.toNat ≤ self.remainingRoom page tuple ↔
      ∃ index < self.slotsInside tuple,
        self.slotTaken page index = false := by
  have one :
      tuple.size.toNat ≤ self.remainingRoom page tuple ↔
        (List.range (self.slotsInside tuple)).countP
            (self.slotTaken page) < self.slotsInside tuple := by
    rw [lt_slotsInside_iff some, remainingRoom, Nat.add_mul]
    omega
  rw [one, ← not_iff_not, Nat.not_lt]
  constructor
  · intro all free
    obtain ⟨index, below, free⟩ := free
    have every :=
      List.countP_eq_length.mp
        (Nat.le_antisymm List.countP_le_length
          (by rw [List.length_range]; exact all))
        index (List.mem_range.mpr below)
    rw [free] at every
    cases every
  · intro none
    refine Nat.le_of_eq ?_
    rw [List.countP_eq_length.mpr, List.length_range]
    intro index member
    by_contra free
    exact none ⟨index, List.mem_range.mp member, by simpa using free⟩

/-- A page that hands out a slot does not report that none is free. -/
theorem reports_of_takeSlot
    (handed :
      takeSlot (self.bitmapOf storage page) = .ok (slot, after)) :
    (self.bitmapOf storage page).getNumFreeBits ≠ .ok 0 := by
  obtain ⟨covered, lowest, _⟩ := takeSlot_eq_ok handed
  obtain ⟨below, free, _⟩ := Bitmap.lowestFree_eq_some_iff.mp lowest
  have positive := Bitmap.numFree_pos_iff.mpr ⟨slot.toNat, below, free⟩
  rw [Bitmap.getNumFreeBits_eq covered]
  intro reported
  have zero := congrArg UInt32.toNat (Except.ok.inj reported)
  rw [covered.toNat_count] at zero
  exact absurd zero (Nat.ne_of_gt positive)

/-- The offset of a slot whose tuple ends inside the page. -/
theorem tupleOffset_eq
    (handed :
      takeSlot (self.bitmapOf storage page) = .ok (slot, after))
    (ends :
      8 + self.bitmapBytes + slot.toNat * tuple.size.toNat < 2 ^ 32) :
    (tupleOffsetWithinPage after slot tuple).toNat =
      8 + self.bitmapBytes + slot.toNat * tuple.size.toNat := by
  have start : slot.toNat * tuple.size.toNat < 2 ^ 32 := by omega
  rw [tupleOffset_of_takeSlot handed, slotOffset_eq_mod (by omega),
    ← Nat.mul_mod_mod, ← tuple.toNat_size, Nat.mod_eq_of_lt start,
    Nat.mod_eq_of_lt ends]

/-- The first free slot is not behind another free one. -/
theorem slot_le_of_free
    (handed :
      takeSlot (self.bitmapOf storage page) = .ok (slot, after))
    {index : Nat} (free : self.slotTaken page index = false) :
    slot.toNat ≤ index := by
  obtain ⟨_, lowest, _⟩ := takeSlot_eq_ok handed
  obtain ⟨_, _, taken⟩ := Bitmap.lowestFree_eq_some_iff.mp lowest
  by_contra lower
  have bit := taken index (Nat.not_le.mp lower)
  rw [bit_eq_slotTaken, free] at bit
  cases bit

theorem size_le_extent (tuple : Tuple) :
    tuple.size.toNat ≤ Tuple.extent tuple.cells := by
  rw [tuple.toNat_size]
  exact (Nat.mod_le _ _).trans (Tuple.length_le_extent _)

theorem staysInside_of_hasRoom
    (handed :
      takeSlot (self.bitmapOf storage page) = .ok (slot, after))
    (some : 0 < tuple.size.toNat) (room : self.HasRoom page tuple) :
    self.StaysInside storage page tuple slot after := by
  obtain ⟨index, _, free, ends⟩ := room
  have bound := self.pageSize.toNat_lt
  have wide := size_le_extent tuple
  have start :
      slot.toNat * tuple.size.toNat ≤ index * tuple.size.toNat :=
    Nat.mul_le_mul_right _ (slot_le_of_free handed free)
  have offset := @tupleOffset_eq storage self page tuple slot after handed
    (by omega)
  constructor
  · rw [offset]
    omega
  · intro place stored
    have inside := (tuple.storesTo_iff.mp stored).2
    rw [offset] at inside
    omega
  · intro little
    have fits : (index + 1) * tuple.size.toNat ≤ self.room := by
      rw [Nat.add_mul, room]
      omega
    have enough :=
      (size_le_remainingRoom_iff some).mpr
        ⟨index, (lt_slotsInside_iff some).mpr fits, free⟩
    exact absurd enough (Nat.not_le.mpr little)

theorem hasRoom_of_staysInside
    (handed :
      takeSlot (self.bitmapOf storage page) = .ok (slot, after))
    (some : 0 < tuple.size.toNat)
    (fits :
      8 + self.bitmapBytes + tuple.size.toNat ≤ self.pageSize.toNat)
    (stays : self.StaysInside storage page tuple slot after) :
    self.HasRoom page tuple := by
  obtain ⟨covered, lowest, _⟩ := takeSlot_eq_ok handed
  obtain ⟨below, free, _⟩ := Bitmap.lowestFree_eq_some_iff.mp lowest
  rw [bit_eq_slotTaken] at free
  have enough :
      tuple.size.toNat ≤ self.remainingRoom page tuple := by
    by_contra little
    exact reports_of_takeSlot handed
      (stays.reported (Nat.not_le.mp little))
  obtain ⟨index, inside, freeInside⟩ :=
    (size_le_remainingRoom_iff some).mp enough
  -- Only now is it known that the offset of the slot is not reduced.
  have last : (slot.toNat + 1) * tuple.size.toNat ≤ self.room :=
    (lt_slotsInside_iff some).mp
      (Nat.lt_of_le_of_lt (slot_le_of_free handed freeInside) inside)
  rw [Nat.add_mul, room] at last
  have bound := self.pageSize.toNat_lt
  have offset := @tupleOffset_eq storage self page tuple slot after handed
    (by omega)
  have wide := size_le_extent tuple
  have lastByte :
      tuple.StoresTo (tupleOffsetWithinPage after slot tuple).toNat
        (8 + self.bitmapBytes + slot.toNat * tuple.size.toNat +
          Tuple.extent tuple.cells - 1) := by
    rw [tuple.storesTo_iff, offset]
    omega
  have stored := stays.stored _ lastByte
  exact ⟨slot.toNat, below, free, by omega⟩

end Room

/-- A page that hands out a slot keeps a tuple and its stores inside, and reports no
free bit once it has too little room, exactly if some slot is free in which the
tuple ends inside the page. -/
theorem slot_inside_page_iff {storage : UInt32 → Nat} {heap : Heap}
    {page : Memory} {tuple : Tuple} {slot : UInt32} {after : Bitmap}
    (handed :
      takeSlot (heap.bitmapOf storage page) = .ok (slot, after))
    (some : 0 < tuple.size.toNat)
    (fits :
      8 + heap.bitmapBytes + tuple.size.toNat ≤ heap.pageSize.toNat) :
    heap.StaysInside storage page tuple slot after ↔
      heap.HasRoom page tuple :=
  ⟨hasRoom_of_staysInside handed some fits,
    staysInside_of_hasRoom handed some⟩

/-- The first slot of an empty page. -/
theorem slot_inside_page_first :
    ∃ after,
      takeSlot ((secondHeap 20).bitmapOf UInt32.toNat fun _ => 0) =
          .ok (0, after) ∧
        ((secondHeap 20).StaysInside UInt32.toNat (fun _ => 0) oneCell 0
            after ↔
          (secondHeap 20).HasRoom (fun _ => 0) oneCell) := by
  have places :
      Places UInt32.toNat pageBase.pageSize.toNat (secondHeap 20) oneCell
        (fun _ => 0) 0 :=
    places_pageBase 1 (by decide)
  have handed := takeSlot_of_free places.covered places.lowest
  exact ⟨_, handed,
    slot_inside_page_iff handed (by decide) (by decide)⟩

def threeTaken : Memory :=
  fun address => if address = 8 then 7 else 0

/-- The fourth slot of this page is behind its end. -/
theorem slot_behind_page :
    ∃ after,
      takeSlot ((secondHeap 20).bitmapOf UInt32.toNat threeTaken) =
          .ok (3, after) ∧
        8 + (secondHeap 20).bitmapBytes + oneCell.size.toNat ≤
          (secondHeap 20).pageSize.toNat ∧
        ¬ (tupleOffsetWithinPage after 3 oneCell).toNat +
          oneCell.size.toNat ≤ (secondHeap 20).pageSize.toNat := by
  have stored : (secondHeap 20).Stored UInt32.toNat := stored_pageBase 1
  have covered :
      ((secondHeap 20).bitmapOf UInt32.toNat threeTaken).Covered := by
    constructor
    · rw [length_bitmapOf stored]
      decide
    · decide
  have lowest :
      ((secondHeap 20).bitmapOf UInt32.toNat threeTaken).lowestFree =
        some 3 := by
    apply Bitmap.lowestFree_eq_some_iff.mpr
    refine ⟨by decide, ?_, ?_⟩
    · rw [bit_bitmapOf]
      decide
    · intro lower below
      rw [bit_bitmapOf]
      interval_cases lower <;> decide
  have handed := takeSlot_of_free covered lowest
  refine ⟨_, handed, by decide, ?_⟩
  rw [show (3 : UInt32) = UInt32.ofNat 3 from rfl,
    tupleOffset_of_takeSlot handed]
  decide

end Heap

end Lewsql
