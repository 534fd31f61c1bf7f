import Mathlib.Data.List.GetD
import Mathlib.Data.List.Range
import Mathlib.Data.UInt
import Mathlib.Tactic.IntervalCases

/-!
# `Bitmap`

Bits packed eight to a byte.  The object has the number of its bits, the number of
bytes that are copied, and an array whose length is what was allocated; these are
three different computations.  An access outside the array, and an `int` counter
that passes the largest `int`, are failures.
-/

namespace Lewsql

inductive BitmapFailure where
  | outOfBounds
  | signedOverflow
  /-- `std::bad_optional_access`. -/
  | badOptionalAccess
  deriving DecidableEq, Repr

def isBitSet (byte : UInt8) (bit : Nat) : Bool :=
  byte &&& (1 <<< UInt8.ofNat bit) != 0

def setBit (byte : UInt8) (bit : Nat) : UInt8 :=
  byte ||| (1 <<< UInt8.ofNat bit)

def unsetBit (byte : UInt8) (bit : Nat) : UInt8 :=
  byte &&& ~~~(1 <<< UInt8.ofNat bit)

structure Bitmap where
  numBits : UInt32
  numBytes : UInt32
  bytes : List UInt8
  deriving DecidableEq, Repr

namespace Bitmap

/-- The number of bytes that `serialize` and `deserialize` copy. -/
def numBytesOf (numBits : UInt32) : UInt32 :=
  if numBits % 2 ≠ 0 then numBits / 8 + 1 else numBits / 8

/-- `std::fill_n(bitmap.get(), num_bytes, 0)`. -/
def fillZero (self : Bitmap) : Except BitmapFailure Bitmap :=
  if self.numBytes.toNat ≤ self.bytes.length then
    .ok { self with
      bytes :=
        List.replicate self.numBytes.toNat 0 ++
          self.bytes.drop self.numBytes.toNat }
  else
    .error .outOfBounds

/-- The constructor, with an array of some length. -/
def construct (storage : Nat) (numBits : UInt32) :
    Except BitmapFailure Bitmap :=
  fillZero ⟨numBits, numBytesOf numBits, List.replicate storage 0⟩

/-- The constructor, with the array that it allocates. -/
def new (numBits : UInt32) : Except BitmapFailure Bitmap :=
  construct (numBits / 8).toNat numBits

/-- `serialize`: the bytes that it copies to its destination. -/
def serialize (self : Bitmap) : Except BitmapFailure (List UInt8) :=
  if self.numBytes.toNat ≤ self.bytes.length then
    .ok (self.bytes.take self.numBytes.toNat)
  else
    .error .outOfBounds

/-- `deserialize` from a source of at least `num_bytes` bytes. -/
def deserialize (src : List UInt8) (self : Bitmap) :
    Except BitmapFailure Bitmap :=
  if self.numBytes.toNat ≤ self.bytes.length then
    .ok { self with
      bytes :=
        src.take self.numBytes.toNat ++
          self.bytes.drop self.numBytes.toNat }
  else
    .error .outOfBounds

def clearBits (self : Bitmap) : Except BitmapFailure Bitmap :=
  self.fillZero

def load (self : Bitmap) (index : Nat) : Except BitmapFailure UInt8 :=
  match self.bytes[index]? with
  | some byte => .ok byte
  | none => .error .outOfBounds

def store (self : Bitmap) (index : Nat) (byte : UInt8) :
    Except BitmapFailure Bitmap :=
  if index < self.bytes.length then
    .ok { self with bytes := self.bytes.set index byte }
  else
    .error .outOfBounds

/-- `i++` of an `int`. -/
def next (i : Nat) : Except BitmapFailure Nat :=
  if i = 2 ^ 31 - 1 then .error .signedOverflow else .ok (i + 1)

/-- The rounds of the loop of `get_num_free_bits` from `i` on. -/
def countFree (self : Bitmap) :
    Nat → Nat → UInt32 → Except BitmapFailure UInt32
  | 0, _, freeBits => .ok freeBits
  | rounds + 1, i, freeBits => do
      let byte ← self.load (i / 8)
      let freeBits :=
        if !isBitSet byte (i % 8) then freeBits + 1 else freeBits
      self.countFree rounds (← next i) freeBits

def getNumFreeBits (self : Bitmap) : Except BitmapFailure UInt32 :=
  self.countFree self.numBits.toNat 0 0

def getNumTakenBits (self : Bitmap) : Except BitmapFailure UInt32 := do
  return self.numBits - (← self.getNumFreeBits)

/-- The rounds of the loop of `get_first_free_bit` from `i` on. -/
def firstFree (self : Bitmap) :
    Nat → Nat → Except BitmapFailure (Option UInt32)
  | 0, _ => .ok none
  | rounds + 1, i => do
      let byte ← self.load (i / 8)
      if !isBitSet byte (i % 8) then
        return some (UInt32.ofNat i)
      else
        self.firstFree rounds (← next i)

def getFirstFreeBit (self : Bitmap) :
    Except BitmapFailure (Option UInt32) :=
  self.firstFree self.numBits.toNat 0

def getBitVal (self : Bitmap) (bit : UInt32) :
    Except BitmapFailure Bool := do
  return isBitSet (← self.load (bit / 8).toNat) (bit % 8).toNat

def setBitVal (self : Bitmap) (bit : UInt32) (val : Bool) :
    Except BitmapFailure Bitmap := do
  let byte ← self.load (bit / 8).toNat
  if val then
    self.store (bit / 8).toNat (setBit byte (bit % 8).toNat)
  else
    self.store (bit / 8).toNat (unsetBit byte (bit % 8).toNat)

end Bitmap

/-! ## Bits of a byte -/

section Bytes

variable (byte : UInt8) {bit other : Nat}

private theorem mask_toBitVec (small : bit < 8) :
    ((1 : UInt8) <<< UInt8.ofNat bit).toBitVec = BitVec.twoPow 8 bit := by
  interval_cases bit <;> decide

theorem isBitSet_eq_getLsbD (small : bit < 8) :
    isBitSet byte bit = byte.toBitVec.getLsbD bit := by
  simp only [isBitSet]
  rw [Bool.eq_iff_iff, bne_iff_ne, ne_eq, ← UInt8.toBitVec_inj,
    UInt8.toBitVec_and, mask_toBitVec small, BitVec.and_twoPow]
  cases byte.toBitVec.getLsbD bit with
  | false => simp
  | true =>
      simp only [if_true, iff_true]
      interval_cases bit <;> decide

theorem isBitSet_setBit (small : bit < 8) (smallOther : other < 8) :
    isBitSet (setBit byte bit) other =
      if other = bit then true else isBitSet byte other := by
  rw [isBitSet_eq_getLsbD _ smallOther, isBitSet_eq_getLsbD _ smallOther]
  simp only [setBit]
  rw [UInt8.toBitVec_or, mask_toBitVec small, BitVec.getLsbD_or,
    BitVec.getLsbD_twoPow]
  by_cases same : other = bit
  · simp [same, small]
  · simp [same, Ne.symm same]

theorem isBitSet_unsetBit (small : bit < 8) (smallOther : other < 8) :
    isBitSet (unsetBit byte bit) other =
      if other = bit then false else isBitSet byte other := by
  rw [isBitSet_eq_getLsbD _ smallOther, isBitSet_eq_getLsbD _ smallOther]
  simp only [unsetBit]
  rw [UInt8.toBitVec_and, UInt8.toBitVec_not, mask_toBitVec small,
    BitVec.getLsbD_and, BitVec.getLsbD_not, BitVec.getLsbD_twoPow]
  by_cases same : other = bit
  · simp [same, small]
  · simp [same, Ne.symm same, smallOther]

end Bytes

namespace Bitmap

/-! ## The bits -/

def bit (self : Bitmap) (index : Nat) : Bool :=
  isBitSet (self.bytes.getD (index / 8) 0) (index % 8)

def numFree (self : Bitmap) : Nat :=
  (List.range self.numBits.toNat).countP fun index => !self.bit index

def lowestFree (self : Bitmap) : Option Nat :=
  (List.range self.numBits.toNat).find? fun index => !self.bit index

/-- Every bit has its byte in the array, and no counter overflows. -/
structure Covered (bitmap : Bitmap) : Prop where
  inside : bitmap.numBits.toNat ≤ 8 * bitmap.bytes.length
  small : bitmap.numBits.toNat < 2 ^ 31

section Loops

variable {self : Bitmap}

theorem load_eq {index : Nat} (inside : index < self.bytes.length) :
    self.load index = .ok (self.bytes.getD index 0) := by
  simp only [load]
  rw [List.getElem?_eq_getElem inside, List.getD_eq_getElem _ _ inside]

theorem countFree_eq (rounds i : Nat) (freeBits : UInt32)
    (inside : i + rounds ≤ 8 * self.bytes.length)
    (small : i + rounds < 2 ^ 31) :
    self.countFree rounds i freeBits =
      .ok (freeBits + UInt32.ofNat
        ((List.range' i rounds).countP fun index => !self.bit index)) := by
  induction rounds generalizing i freeBits with
  | zero =>
      change Except.ok freeBits = _
      rw [List.range'_zero, List.countP_nil]
      simp
  | succ rounds inductionHypothesis =>
      have loaded : self.load (i / 8) =
          .ok (self.bytes.getD (i / 8) 0) :=
        load_eq (by omega)
      have noOverflow : next i = .ok (i + 1) :=
        if_neg (by omega)
      have rest (count : UInt32) :=
        inductionHypothesis (i + 1) count (by omega) (by omega)
      rw [List.range'_succ, List.countP_cons]
      change
        (self.load (i / 8) >>= fun byte =>
          next i >>= fun following => self.countFree rounds following _) =
          _
      rw [loaded]
      change (next i >>= fun following => _) = _
      rw [noOverflow]
      change self.countFree rounds (i + 1) _ = _
      rw [rest]
      apply congrArg Except.ok
      change (if (!self.bit i) = true then _ else _) + _ = _
      cases self.bit i with
      | false =>
          simp only [Bool.not_false, if_true, UInt32.ofNat_add]
          rw [UInt32.add_assoc, UInt32.add_comm 1]
          rfl
      | true =>
          simp

theorem firstFree_eq (rounds i : Nat)
    (inside : i + rounds ≤ 8 * self.bytes.length)
    (small : i + rounds < 2 ^ 31) :
    self.firstFree rounds i =
      .ok (((List.range' i rounds).find? fun index =>
        !self.bit index).map UInt32.ofNat) := by
  induction rounds generalizing i with
  | zero => rfl
  | succ rounds inductionHypothesis =>
      have loaded : self.load (i / 8) =
          .ok (self.bytes.getD (i / 8) 0) :=
        load_eq (by omega)
      have noOverflow : next i = .ok (i + 1) :=
        if_neg (by omega)
      have rest :=
        inductionHypothesis (i + 1) (by omega) (by omega)
      rw [List.range'_succ]
      change
        (self.load (i / 8) >>= fun byte =>
          if (!isBitSet byte (i % 8)) = true then
            pure (some (UInt32.ofNat i))
          else next i >>= fun following => self.firstFree rounds following) =
          _
      rw [loaded]
      change
        (if (!self.bit i) = true then _ else _) = _
      cases free : self.bit i with
      | false => simp [free]; rfl
      | true =>
          simp only [Bool.not_true, Bool.false_eq_true, if_false]
          rw [noOverflow, List.find?_cons_of_neg (by simp [free]), ← rest]
          rfl

theorem getNumFreeBits_eq (covered : self.Covered) :
    self.getNumFreeBits = .ok (UInt32.ofNat self.numFree) := by
  have counted :=
    countFree_eq self.numBits.toNat 0 0
      (by rw [Nat.zero_add]; exact covered.inside)
      (by rw [Nat.zero_add]; exact covered.small)
  simp only [getNumFreeBits, numFree]
  rw [counted, List.range_eq_range', UInt32.zero_add]

theorem getFirstFreeBit_eq (covered : self.Covered) :
    self.getFirstFreeBit = .ok (self.lowestFree.map UInt32.ofNat) := by
  have found :=
    firstFree_eq self.numBits.toNat 0
      (by rw [Nat.zero_add]; exact covered.inside)
      (by rw [Nat.zero_add]; exact covered.small)
  simp only [getFirstFreeBit, lowestFree]
  rw [found, List.range_eq_range']

end Loops

/-! ## Reading and writing one bit -/

section Access

variable {self : Bitmap} {index other : Nat} {val : Bool}

def withBit (self : Bitmap) (index : Nat) (val : Bool) : Bitmap :=
  let byte := self.bytes.getD (index / 8) 0
  { self with
    bytes := self.bytes.set (index / 8)
      (if val then setBit byte (index % 8) else unsetBit byte (index % 8)) }

@[simp]
theorem withBit_numBits : (self.withBit index val).numBits = self.numBits :=
  rfl

@[simp]
theorem withBit_numBytes :
    (self.withBit index val).numBytes = self.numBytes :=
  rfl

@[simp]
theorem withBit_length :
    (self.withBit index val).bytes.length = self.bytes.length :=
  List.length_set

/-- One bit is replaced and the others are kept. -/
theorem bit_withBit (inside : index / 8 < self.bytes.length) :
    (self.withBit index val).bit other =
      if other = index then val else self.bit other := by
  simp only [bit, withBit]
  by_cases sameByte : other / 8 = index / 8
  · rw [sameByte]
    have replaced (byte : UInt8) :
        (self.bytes.set (index / 8) byte).getD (index / 8) 0 = byte := by
      rw [List.getD_eq_getElem _ _ (by rw [List.length_set]; exact inside),
        List.getElem_set_self]
    rw [replaced]
    have sameBit : other % 8 = index % 8 ↔ other = index := by omega
    cases val with
    | true =>
        rw [if_pos rfl, isBitSet_setBit _ (by omega) (by omega)]
        simp only [sameBit]
    | false =>
        rw [if_neg Bool.false_ne_true,
          isBitSet_unsetBit _ (by omega) (by omega)]
        simp only [sameBit]
  · have different : other ≠ index := by
      intro equal
      rcases equal with rfl
      exact sameByte rfl
    rw [if_neg different, List.getD_eq_getElem?_getD,
      List.getElem?_set_ne (Ne.symm sameByte),
      ← List.getD_eq_getElem?_getD]

theorem getBitVal_eq {position : UInt32}
    (inside : position.toNat / 8 < self.bytes.length) :
    self.getBitVal position = .ok (self.bit position.toNat) := by
  have loaded :
      self.load (position / 8).toNat =
        .ok (self.bytes.getD (position.toNat / 8) 0) := by
    rw [UInt32.toNat_div]
    exact load_eq inside
  simp only [getBitVal]
  rw [loaded]
  change Except.ok (isBitSet _ (position % 8).toNat) = _
  rw [UInt32.toNat_mod]
  rfl

theorem setBitVal_eq {position : UInt32}
    (inside : position.toNat / 8 < self.bytes.length) :
    self.setBitVal position val =
      .ok (self.withBit position.toNat val) := by
  have loaded :
      self.load (position / 8).toNat =
        .ok (self.bytes.getD (position.toNat / 8) 0) := by
    rw [UInt32.toNat_div]
    exact load_eq inside
  have stored (byte : UInt8) :
      self.store (position / 8).toNat byte =
        .ok { self with bytes :=
          self.bytes.set (position.toNat / 8) byte } := by
    rw [UInt32.toNat_div]
    exact if_pos inside
  simp only [setBitVal]
  rw [loaded]
  change (if val = true then _ else _) = _
  simp only [withBit]
  cases val with
  | true =>
      rw [if_pos rfl, stored, UInt32.toNat_mod]
      rfl
  | false =>
      rw [if_neg Bool.false_ne_true, stored, UInt32.toNat_mod]
      rfl

end Access

end Bitmap

end Lewsql
