import Lewsql.Library.Bitmap

/-!
# The array behind a bitmap

The constructor allocates `num_bits / 8` bytes, fills and copies one more when
`num_bits` is odd, and addresses a bit at byte `bit / 8`.  The three agree when
`num_bits` is a multiple of 8.
-/

namespace Lewsql

namespace Bitmap

def Succeeds {Value : Type} (result : Except BitmapFailure Value) : Prop :=
  ∃ value, result = .ok value

/-- A bitmap over the array that its constructor allocates, with any
contents. -/
structure SizedFor (numBits : UInt32) (bitmap : Bitmap) : Prop where
  bits : bitmap.numBits = numBits
  copies : bitmap.numBytes = numBytesOf numBits
  allocated : bitmap.bytes.length = (numBits / 8).toNat

/-- Every operation on a bitmap of this size stays in the array, and the bytes that
are copied hold every bit. -/
structure StorageCovers (numBits : UInt32) : Prop where
  constructed : Succeeds (new numBits)
  cleared : ∀ bitmap, SizedFor numBits bitmap →
    Succeeds bitmap.clearBits
  serialized : ∀ bitmap, SizedFor numBits bitmap →
    Succeeds bitmap.serialize
  deserialized : ∀ bitmap, SizedFor numBits bitmap → ∀ src : List UInt8,
    src.length = (numBytesOf numBits).toNat →
      Succeeds (bitmap.deserialize src)
  counted : ∀ bitmap, SizedFor numBits bitmap →
    Succeeds bitmap.getNumFreeBits
  searched : ∀ bitmap, SizedFor numBits bitmap →
    Succeeds bitmap.getFirstFreeBit
  read : ∀ bitmap, SizedFor numBits bitmap → ∀ position < numBits,
    Succeeds (bitmap.getBitVal position)
  written : ∀ bitmap, SizedFor numBits bitmap → ∀ position < numBits,
    ∀ val, Succeeds (bitmap.setBitVal position val)
  copied : ∀ position < numBits,
    position.toNat / 8 < (numBytesOf numBits).toNat
  restored : ∀ bitmap other, SizedFor numBits bitmap →
    SizedFor numBits other →
      ∃ src after, bitmap.serialize = .ok src ∧
        other.deserialize src = .ok after ∧
        ∀ position < numBits,
          after.getBitVal position = bitmap.getBitVal position

section Loops

variable {self : Bitmap}

/-- A count that returned met no byte outside and no overflow. -/
theorem inside_of_countFree {rounds i : Nat} {freeBits result : UInt32}
    (counted : self.countFree rounds i freeBits = .ok result) :
    ∀ round < rounds, (i + round) / 8 < self.bytes.length ∧
      i + round ≠ 2 ^ 31 - 1 := by
  induction rounds generalizing i freeBits with
  | zero =>
      intro round impossible
      omega
  | succ rounds inductionHypothesis =>
      cases loaded : self.load (i / 8) with
      | error failure =>
          have failed :
              self.countFree (rounds + 1) i freeBits = .error failure := by
            simp only [countFree, loaded]
            rfl
          rw [failed] at counted
          cases counted
      | ok byte =>
          have inside : i / 8 < self.bytes.length := by
            by_contra outside
            simp only [load] at loaded
            rw [List.getElem?_eq_none (Nat.le_of_not_lt outside)] at loaded
            cases loaded
          cases following : next i with
          | error failure =>
              have failed :
                  self.countFree (rounds + 1) i freeBits =
                    .error failure := by
                simp only [countFree, loaded, following]
                rfl
              rw [failed] at counted
              cases counted
          | ok last =>
              have noOverflow : i ≠ 2 ^ 31 - 1 := by
                intro largest
                simp only [next] at following
                rw [if_pos largest] at following
                cases following
              have moved : last = i + 1 := by
                simp only [next] at following
                rw [if_neg noOverflow] at following
                exact (Except.ok.inj following).symm
              have rest :
                  self.countFree rounds (i + 1)
                    (if (!isBitSet byte (i % 8)) = true then freeBits + 1
                      else freeBits) = .ok result := by
                rw [← counted]
                simp only [countFree, loaded, following, moved]
                rfl
              intro round below
              cases round with
              | zero => exact ⟨inside, noOverflow⟩
              | succ round =>
                  have later := inductionHypothesis rest round (by omega)
                  rw [show i + (round + 1) = i + 1 + round by omega]
                  exact later

end Loops

section Sizes

variable {numBits : UInt32}

theorem numBytesOf_of_dvd (whole : numBits.toNat % 8 = 0) :
    numBytesOf numBits = numBits / 8 := by
  simp only [numBytesOf]
  rw [if_neg]
  intro odd
  apply odd
  apply UInt32.toNat_inj.mp
  rw [UInt32.toNat_mod]
  change numBits.toNat % 2 = 0
  omega

theorem SizedFor.covered {bitmap : Bitmap}
    (sized : SizedFor numBits bitmap) (whole : numBits.toNat % 8 = 0)
    (small : numBits.toNat < 2 ^ 31) : bitmap.Covered := by
  constructor
  · rw [sized.bits, sized.allocated, UInt32.toNat_div]
    change numBits.toNat ≤ 8 * (numBits.toNat / 8)
    omega
  · rw [sized.bits]
    exact small

theorem SizedFor.inside {bitmap : Bitmap}
    (sized : SizedFor numBits bitmap) (whole : numBits.toNat % 8 = 0)
    {position : UInt32} (below : position < numBits) :
    position.toNat / 8 < bitmap.bytes.length := by
  rw [UInt32.lt_iff_toNat_lt] at below
  rw [sized.allocated, UInt32.toNat_div]
  change position.toNat / 8 < numBits.toNat / 8
  omega

theorem SizedFor.numBytes_eq {bitmap : Bitmap}
    (sized : SizedFor numBits bitmap) (whole : numBits.toNat % 8 = 0) :
    bitmap.numBytes.toNat = bitmap.bytes.length := by
  rw [sized.copies, numBytesOf_of_dvd whole, sized.allocated]

/-- The bitmap of a constructor call, all zeros. -/
theorem sizedFor_zeros (numBits : UInt32) :
    SizedFor numBits
      ⟨numBits, numBytesOf numBits,
        List.replicate (numBits / 8).toNat 0⟩ :=
  ⟨rfl, rfl, List.length_replicate⟩

end Sizes

/-- The storage covers the bits exactly for the multiples of 8 that an `int` can
count to. -/
theorem storage_covers_iff (numBits : UInt32) :
    StorageCovers numBits ↔
      numBits.toNat % 8 = 0 ∧ numBits.toNat < 2 ^ 31 := by
  constructor
  · intro covers
    obtain ⟨count, counted⟩ :=
      covers.counted _ (sizedFor_zeros numBits)
    have inside := inside_of_countFree counted
    simp only [Nat.zero_add, List.length_replicate, UInt32.toNat_div]
      at inside
    constructor
    · by_contra notWhole
      have last := (inside (numBits.toNat - 1) (by omega)).1
      change (numBits.toNat - 1) / 8 < numBits.toNat / 8 at last
      omega
    · by_contra large
      exact (inside (2 ^ 31 - 1) (by omega)).2 rfl
  · intro page
    rcases page with ⟨whole, small⟩
    refine ⟨?_, ?_, ?_, ?_, ?_, ?_, ?_, ?_, ?_, ?_⟩
    · exact ⟨_, if_pos
        (Nat.le_of_eq ((sizedFor_zeros numBits).numBytes_eq whole))⟩
    · exact fun bitmap sized =>
        ⟨_, if_pos (Nat.le_of_eq (sized.numBytes_eq whole))⟩
    · exact fun bitmap sized =>
        ⟨_, if_pos (Nat.le_of_eq (sized.numBytes_eq whole))⟩
    · exact fun bitmap sized src full =>
        ⟨_, if_pos (Nat.le_of_eq (sized.numBytes_eq whole))⟩
    · exact fun bitmap sized =>
        ⟨_, getNumFreeBits_eq (sized.covered whole small)⟩
    · exact fun bitmap sized =>
        ⟨_, getFirstFreeBit_eq (sized.covered whole small)⟩
    · exact fun bitmap sized position below =>
        ⟨_, getBitVal_eq (sized.inside whole below)⟩
    · exact fun bitmap sized position below val =>
        ⟨_, setBitVal_eq (sized.inside whole below)⟩
    · intro position below
      rw [numBytesOf_of_dvd whole, ← (sizedFor_zeros numBits).allocated]
      exact (sizedFor_zeros numBits).inside whole below
    · intro bitmap other sized sizedOther
      have length := sized.numBytes_eq whole
      have lengthOther := sizedOther.numBytes_eq whole
      refine ⟨bitmap.bytes.take bitmap.numBytes.toNat, _,
        if_pos (Nat.le_of_eq length), if_pos (Nat.le_of_eq lengthOther),
        ?_⟩
      intro position below
      have same :
          ((bitmap.bytes.take bitmap.numBytes.toNat).take
              other.numBytes.toNat ++
            other.bytes.drop other.numBytes.toNat) = bitmap.bytes := by
        rw [lengthOther, List.drop_length, List.append_nil,
          sizedOther.allocated, ← sized.allocated, length,
          List.take_length, List.take_length]
      have inside := sized.inside whole below
      have insideAfter :
          position.toNat / 8 <
            ((bitmap.bytes.take bitmap.numBytes.toNat).take
              other.numBytes.toNat ++
            other.bytes.drop other.numBytes.toNat).length := by
        rw [same]
        exact inside
      rw [getBitVal_eq inside]
      refine (getBitVal_eq (by exact insideAfter)).trans ?_
      simp only [bit]
      simp only [same]

/-- With nine bits the constructor fills a byte that it did not allocate. -/
theorem nine_bits_not_covered :
    new 9 = .error .outOfBounds ∧ ¬ StorageCovers 9 := by
  refine ⟨rfl, fun covers => ?_⟩
  obtain ⟨bitmap, constructed⟩ := covers.constructed
  cases constructed

end Bitmap

end Lewsql
