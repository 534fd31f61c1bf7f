import Lewsql.Library.BitmapStorage
import Mathlib.Data.Finset.Card
import Mathlib.Data.Finset.Range

/-!
# A bitmap as a set of bits

The calls that change bits refine a set: setting one bit inserts it or takes it out,
clearing empties the set, and loading replaces it by the bits of the loaded bytes.
Over a run of such calls each bit has the value that it was last given.
-/

namespace Lewsql

namespace Bitmap

/-! ## Free bits -/

section Free

variable {self : Bitmap} {index : Nat}

theorem numFree_eq_card (self : Bitmap) :
    self.numFree =
      ((Finset.range self.numBits.toNat).filter
        fun index => self.bit index = false).card := by
  simp only [numFree]
  rw [List.countP_eq_length_filter]
  have same :
      (List.range self.numBits.toNat).filter (fun index => !self.bit index) =
        (List.range self.numBits.toNat).filter
          (fun index => decide (self.bit index = false)) := by
    apply List.filter_congr
    intro index _
    cases self.bit index <;> rfl
  rw [same]
  rfl

theorem numFree_pos_iff :
    0 < self.numFree ↔
      ∃ index < self.numBits.toNat, self.bit index = false := by
  rw [numFree_eq_card, Finset.card_pos]
  constructor
  · intro ⟨index, member⟩
    obtain ⟨below, free⟩ := Finset.mem_filter.mp member
    exact ⟨index, Finset.mem_range.mp below, free⟩
  · intro ⟨index, below, free⟩
    exact ⟨index, Finset.mem_filter.mpr ⟨Finset.mem_range.mpr below, free⟩⟩

theorem numFree_le (self : Bitmap) : self.numFree ≤ self.numBits.toNat := by
  rw [numFree_eq_card]
  refine (Finset.card_filter_le _ _).trans ?_
  rw [Finset.card_range]

/-- Taking a free bit leaves one less. -/
theorem numFree_withBit (inside : index / 8 < self.bytes.length)
    (below : index < self.numBits.toNat) (free : self.bit index = false) :
    (self.withBit index true).numFree + 1 = self.numFree := by
  have member :
      index ∈ (Finset.range self.numBits.toNat).filter
        fun index => self.bit index = false :=
    Finset.mem_filter.mpr ⟨Finset.mem_range.mpr below, free⟩
  have erased :
      ((Finset.range (self.withBit index true).numBits.toNat).filter
          fun other => (self.withBit index true).bit other = false) =
        ((Finset.range self.numBits.toNat).filter
          fun index => self.bit index = false).erase index := by
    ext other
    rw [Finset.mem_erase, Finset.mem_filter, Finset.mem_filter,
      withBit_numBits, bit_withBit inside]
    by_cases same : other = index
    · simp [same]
    · simp [same]
  rw [numFree_eq_card, numFree_eq_card, erased,
    Finset.card_erase_add_one member]

theorem lowestFree_eq_some_iff :
    self.lowestFree = some index ↔
      index < self.numBits.toNat ∧ self.bit index = false ∧
        ∀ lower < index, self.bit lower = true := by
  simp only [lowestFree]
  rw [List.find?_range_eq_some, List.mem_range]
  simp only [Bool.not_eq_true', Bool.not_not]
  constructor
  · intro found
    rcases found with ⟨free, below, taken⟩
    exact ⟨below, free, taken⟩
  · intro lowest
    rcases lowest with ⟨below, free, taken⟩
    exact ⟨free, below, taken⟩

theorem lowestFree_eq_none_iff : self.lowestFree = none ↔ self.numFree = 0 := by
  rw [← Nat.le_zero, ← Nat.not_lt, numFree_pos_iff]
  simp only [lowestFree]
  rw [List.find?_range_eq_none]
  simp

/-- A count that returned looked at all bits. -/
theorem covered_of_counted {count : UInt32}
    (counted : self.getNumFreeBits = .ok count) : self.Covered := by
  have inside := inside_of_countFree counted
  simp only [Nat.zero_add] at inside
  constructor
  · by_contra longer
    have last := (inside (self.numBits.toNat - 1) (by omega)).1
    omega
  · by_contra large
    exact (inside (2 ^ 31 - 1) (by omega)).2 rfl

theorem Covered.index_lt (covered : self.Covered)
    (below : index < self.numBits.toNat) :
    index / 8 < self.bytes.length := by
  have inside := covered.inside
  omega

theorem Covered.withBit (covered : self.Covered) (val : Bool) :
    (self.withBit index val).Covered := by
  constructor
  · rw [withBit_length]
    exact covered.inside
  · exact covered.small

theorem Covered.toNat_count (covered : self.Covered) :
    (UInt32.ofNat self.numFree).toNat = self.numFree := by
  have small := covered.small
  have fewer := self.numFree_le
  exact UInt32.toNat_ofNat_of_lt' (by change _ < 2 ^ 32; omega)

end Free

/-! ## The set -/

structure Represents (numBits : UInt32) (bitmap : Bitmap)
    (members : Finset Nat) : Prop where
  sized : SizedFor numBits bitmap
  below : members ⊆ Finset.range numBits.toNat
  bits : ∀ index < numBits.toNat,
    bitmap.bit index = decide (index ∈ members)

/-- A bit of packed bytes: bit `index % 8` of byte `index / 8`. -/
def loadedBit (src : List UInt8) (index : Nat) : Bool :=
  (src.getD (index / 8) 0).toNat.testBit (index % 8)

theorem bit_eq_loadedBit (self : Bitmap) (index : Nat) :
    self.bit index = loadedBit self.bytes index :=
  isBitSet_eq_getLsbD _ (Nat.mod_lt _ (by decide))

section Represents

variable {numBits : UInt32} {bitmap : Bitmap} {members : Finset Nat}

theorem Represents.mem_iff (represents : Represents numBits bitmap members)
    {index : Nat} :
    index ∈ members ↔
      index < numBits.toNat ∧ bitmap.bit index = true := by
  constructor
  · intro member
    have below := Finset.mem_range.mp (represents.below member)
    refine ⟨below, ?_⟩
    rw [represents.bits index below]
    exact decide_eq_true member
  · intro set
    rcases set with ⟨below, isSet⟩
    rw [represents.bits index below] at isSet
    exact of_decide_eq_true isSet

theorem Represents.card_le (represents : Represents numBits bitmap members) :
    members.card ≤ numBits.toNat := by
  have bound := Finset.card_le_card represents.below
  rw [Finset.card_range] at bound
  exact bound

theorem Represents.numFree (represents : Represents numBits bitmap members) :
    bitmap.numFree = numBits.toNat - members.card := by
  have unset :
      ((Finset.range numBits.toNat).filter
          fun index => bitmap.bit index = false) =
        Finset.range numBits.toNat \ members := by
    ext index
    rw [Finset.mem_filter, Finset.mem_sdiff, represents.mem_iff,
      Finset.mem_range]
    cases bitmap.bit index <;> simp
  rw [numFree_eq_card, represents.sized.bits, unset,
    Finset.card_sdiff_of_subset represents.below, Finset.card_range]

theorem Represents.getNumFreeBits
    (represents : Represents numBits bitmap members)
    (whole : numBits.toNat % 8 = 0) (small : numBits.toNat < 2 ^ 31) :
    bitmap.getNumFreeBits =
      .ok (UInt32.ofNat (numBits.toNat - members.card)) := by
  rw [getNumFreeBits_eq (represents.sized.covered whole small),
    represents.numFree]

theorem Represents.getNumTakenBits
    (represents : Represents numBits bitmap members)
    (whole : numBits.toNat % 8 = 0) (small : numBits.toNat < 2 ^ 31) :
    bitmap.getNumTakenBits = .ok (UInt32.ofNat members.card) := by
  have bound := represents.card_le
  simp only [Bitmap.getNumTakenBits]
  rw [represents.getNumFreeBits whole small, represents.sized.bits]
  apply congrArg Except.ok
  apply UInt32.toNat_inj.mp
  rw [UInt32.toNat_sub_of_le]
  · rw [UInt32.toNat_ofNat_of_lt' (by change _ < 2 ^ 32; omega),
      UInt32.toNat_ofNat_of_lt' (by change _ < 2 ^ 32; omega)]
    omega
  · rw [UInt32.le_iff_toNat_le,
      UInt32.toNat_ofNat_of_lt' (by change _ < 2 ^ 32; omega)]
    omega

theorem Represents.getBitVal
    (represents : Represents numBits bitmap members)
    (whole : numBits.toNat % 8 = 0) {bit : UInt32} (below : bit < numBits) :
    bitmap.getBitVal bit = .ok (decide (bit.toNat ∈ members)) := by
  rw [getBitVal_eq (represents.sized.inside whole below),
    represents.bits _ (UInt32.lt_iff_toNat_lt.mp below)]

/-- Setting one bit inserts it or takes it out. -/
theorem Represents.setBitVal
    (represents : Represents numBits bitmap members)
    (whole : numBits.toNat % 8 = 0) {bit : UInt32} (below : bit < numBits)
    (val : Bool) :
    ∃ after, bitmap.setBitVal bit val = .ok after ∧
      Represents numBits after
        (if val then insert bit.toNat members
          else members.erase bit.toNat) := by
  have inside := represents.sized.inside whole below
  refine ⟨bitmap.withBit bit.toNat val, setBitVal_eq inside,
    ⟨represents.sized.bits, represents.sized.copies, ?_⟩, ?_, ?_⟩
  · rw [withBit_length]
    exact represents.sized.allocated
  · cases val with
    | true =>
        rw [if_pos rfl, Finset.insert_subset_iff, Finset.mem_range]
        exact ⟨UInt32.lt_iff_toNat_lt.mp below, represents.below⟩
    | false =>
        rw [if_neg Bool.false_ne_true]
        exact (Finset.erase_subset _ _).trans represents.below
  · intro index belowIndex
    rw [bit_withBit inside, represents.bits index belowIndex]
    by_cases same : index = bit.toNat
    · cases val <;> simp [same]
    · cases val <;> simp [same]

/-- Filling the array from the front replaces all of it. -/
private theorem represents_of_bytes (sized : SizedFor numBits bitmap)
    (whole : numBits.toNat % 8 = 0) {src : List UInt8}
    (enough : bitmap.numBytes.toNat ≤ src.length) :
    Represents numBits
      { bitmap with
        bytes := src.take bitmap.numBytes.toNat ++
          bitmap.bytes.drop bitmap.numBytes.toNat }
      ((Finset.range numBits.toNat).filter fun index =>
        loadedBit src index = true) := by
  have length := sized.numBytes_eq whole
  have replaced :
      src.take bitmap.numBytes.toNat ++
          bitmap.bytes.drop bitmap.numBytes.toNat =
        src.take bitmap.numBytes.toNat := by
    rw [length, List.drop_length, List.append_nil]
  refine ⟨⟨sized.bits, sized.copies, ?_⟩, Finset.filter_subset _ _, ?_⟩
  · change (_ ++ _ : List UInt8).length = _
    rw [replaced, List.length_take, Nat.min_eq_left enough, length]
    exact sized.allocated
  · intro index below
    have inside : index / 8 < bitmap.numBytes.toNat := by
      rw [length, sized.allocated, UInt32.toNat_div]
      change index / 8 < numBits.toNat / 8
      omega
    have same :
        loadedBit (src.take bitmap.numBytes.toNat) index =
          loadedBit src index := by
      simp only [loadedBit]
      rw [List.getD_eq_getElem?_getD, List.getElem?_take_of_lt inside,
        ← List.getD_eq_getElem?_getD]
    rw [bit_eq_loadedBit]
    change loadedBit (_ ++ _) index = _
    rw [replaced, same]
    simp [below]

/-- Loading replaces the set by the bits of the loaded bytes. -/
theorem Represents.deserialize
    (represents : Represents numBits bitmap members)
    (whole : numBits.toNat % 8 = 0) {src : List UInt8}
    (enough : (numBytesOf numBits).toNat ≤ src.length) :
    ∃ after, bitmap.deserialize src = .ok after ∧
      Represents numBits after
        ((Finset.range numBits.toNat).filter fun index =>
          loadedBit src index = true) := by
  rw [← represents.sized.copies] at enough
  have length := represents.sized.numBytes_eq whole
  exact ⟨_, if_pos (Nat.le_of_eq length),
    represents_of_bytes represents.sized whole enough⟩

private theorem loadedBit_zeros (length index : Nat) :
    loadedBit (List.replicate length 0) index = false := by
  have zero : (List.replicate length (0 : UInt8)).getD (index / 8) 0 = 0 := by
    simp [List.getD_eq_getElem?_getD, List.getElem?_replicate]
    split <;> rfl
  simp only [loadedBit]
  rw [zero]
  exact Nat.zero_testBit _

private theorem represents_fillZero (sized : SizedFor numBits bitmap)
    (whole : numBits.toNat % 8 = 0) :
    ∃ after, bitmap.fillZero = .ok after ∧
      Represents numBits after ∅ := by
  have length := sized.numBytes_eq whole
  have enough :
      bitmap.numBytes.toNat ≤
        (List.replicate bitmap.numBytes.toNat (0 : UInt8)).length := by
    rw [List.length_replicate]
  have filled := represents_of_bytes sized whole enough
  have none :
      ((Finset.range numBits.toNat).filter fun index =>
        loadedBit (List.replicate bitmap.numBytes.toNat 0) index = true) =
        ∅ := by
    apply Finset.filter_eq_empty_iff.mpr
    intro index _
    rw [loadedBit_zeros]
    exact Bool.false_ne_true
  rw [none, List.take_replicate, Nat.min_self] at filled
  exact ⟨_, if_pos (Nat.le_of_eq length), filled⟩

/-- Clearing empties the set. -/
theorem Represents.clearBits
    (represents : Represents numBits bitmap members)
    (whole : numBits.toNat % 8 = 0) :
    ∃ after, bitmap.clearBits = .ok after ∧
      Represents numBits after ∅ :=
  represents_fillZero represents.sized whole

theorem represents_new (whole : numBits.toNat % 8 = 0) :
    ∃ bitmap, new numBits = .ok bitmap ∧ Represents numBits bitmap ∅ :=
  represents_fillZero (sizedFor_zeros numBits) whole

/-- The first free bit is the least one that is not a member. -/
theorem Represents.getFirstFreeBit_some
    (represents : Represents numBits bitmap members)
    (whole : numBits.toNat % 8 = 0) (small : numBits.toNat < 2 ^ 31)
    {bit : UInt32} :
    bitmap.getFirstFreeBit = .ok (some bit) ↔
      bit < numBits ∧ bit.toNat ∉ members ∧
        ∀ lower < bit.toNat, lower ∈ members := by
  have found := getFirstFreeBit_eq (represents.sized.covered whole small)
  have lowest :
      bitmap.lowestFree = some bit.toNat ↔
        bit.toNat < numBits.toNat ∧ bit.toNat ∉ members ∧
          ∀ lower < bit.toNat, lower ∈ members := by
    rw [lowestFree_eq_some_iff, represents.sized.bits]
    apply and_congr_right
    intro below
    rw [represents.bits _ below, decide_eq_false_iff_not]
    apply and_congr_right
    intro _
    constructor
    · intro taken lower lowerBelow
      have isTaken := taken lower lowerBelow
      rw [represents.bits lower (by omega)] at isTaken
      exact of_decide_eq_true isTaken
    · intro taken lower lowerBelow
      rw [represents.bits lower (by omega)]
      exact decide_eq_true (taken lower lowerBelow)
  rw [found, UInt32.lt_iff_toNat_lt, ← lowest]
  constructor
  · intro same
    cases answer : bitmap.lowestFree with
    | none =>
        rw [answer] at same
        cases same
    | some index =>
        rw [answer] at same
        cases same
        have below := (lowestFree_eq_some_iff.mp answer).1
        rw [represents.sized.bits] at below
        rw [UInt32.toNat_ofNat_of_lt' (by change _ < 2 ^ 32; omega)]
  · intro same
    rw [same, Option.map_some, UInt32.ofNat_toNat]

/-- There is no free bit exactly when all bits are members. -/
theorem Represents.getFirstFreeBit_none
    (represents : Represents numBits bitmap members)
    (whole : numBits.toNat % 8 = 0) (small : numBits.toNat < 2 ^ 31) :
    bitmap.getFirstFreeBit = .ok none ↔
      members = Finset.range numBits.toNat := by
  have found := getFirstFreeBit_eq (represents.sized.covered whole small)
  have full :
      bitmap.lowestFree = none ↔ members = Finset.range numBits.toNat := by
    rw [lowestFree_eq_none_iff, represents.numFree]
    have bound := represents.card_le
    constructor
    · intro none
      apply Finset.eq_of_subset_of_card_le represents.below
      rw [Finset.card_range]
      omega
    · intro all
      rw [all, Finset.card_range, Nat.sub_self]
  rw [found, ← full]
  cases bitmap.lowestFree with
  | none => exact iff_of_true rfl rfl
  | some index =>
      refine iff_of_false ?_ ?_
      · intro same
        cases same
      · intro same
        cases same

end Represents

/-! ## Runs -/

inductive BitEvent where
  | loaded (src : List UInt8)
  | set (bit : UInt32) (val : Bool)
  | cleared
  deriving DecidableEq, Repr

namespace BitEvent

def perform (bitmap : Bitmap) : BitEvent → Except BitmapFailure Bitmap
  | .loaded src => bitmap.deserialize src
  | .set bit val => bitmap.setBitVal bit val
  | .cleared => bitmap.clearBits

/-- The bit is one of the bitmap, and a source has all bytes that are copied. -/
def Admissible (numBits : UInt32) : BitEvent → Prop
  | .loaded src => (numBytesOf numBits).toNat ≤ src.length
  | .set bit _ => bit < numBits
  | .cleared => True

def update (numBits : UInt32) (members : Finset Nat) :
    BitEvent → Finset Nat
  | .loaded src =>
      (Finset.range numBits.toNat).filter fun index =>
        loadedBit src index = true
  | .set bit val =>
      if val then insert bit.toNat members else members.erase bit.toNat
  | .cleared => ∅

def value (index : Nat) (before : Bool) : BitEvent → Bool
  | .loaded src => loadedBit src index
  | .set bit val => if bit.toNat = index then val else before
  | .cleared => false

end BitEvent

def afterEvents (numBits : UInt32) (events : List BitEvent) :
    Except BitmapFailure Bitmap := do
  events.foldlM BitEvent.perform (← new numBits)

/-- The value that a bit was last given: it is clear at the start. -/
def lastValue (events : List BitEvent) (index : Nat) : Bool :=
  events.foldl (BitEvent.value index) false

section Runs

variable {numBits : UInt32} {bitmap : Bitmap} {members : Finset Nat}

theorem Represents.perform (represents : Represents numBits bitmap members)
    (whole : numBits.toNat % 8 = 0) {event : BitEvent}
    (admissible : event.Admissible numBits) :
    ∃ after, event.perform bitmap = .ok after ∧
      Represents numBits after (event.update numBits members) := by
  cases event with
  | loaded src => exact represents.deserialize whole admissible
  | set bit val => exact represents.setBitVal whole admissible val
  | cleared => exact represents.clearBits whole

theorem Represents.performAll
    (represents : Represents numBits bitmap members)
    (whole : numBits.toNat % 8 = 0) {events : List BitEvent}
    (admissible : ∀ event ∈ events, event.Admissible numBits) :
    ∃ after, events.foldlM BitEvent.perform bitmap = .ok after ∧
      Represents numBits after
        (events.foldl (BitEvent.update numBits) members) := by
  induction events generalizing bitmap members with
  | nil => exact ⟨bitmap, rfl, represents⟩
  | cons event events inductionHypothesis =>
      obtain ⟨next, performed, nextRepresents⟩ :=
        represents.perform whole (admissible event List.mem_cons_self)
      obtain ⟨after, rest, afterRepresents⟩ :=
        inductionHypothesis nextRepresents fun later member =>
          admissible later (List.mem_cons_of_mem _ member)
      refine ⟨after, ?_, afterRepresents⟩
      rw [List.foldlM_cons, performed]
      exact rest

/-- One event changes the set as it changes each bit. -/
theorem BitEvent.mem_update_iff {event : BitEvent} {index : Nat}
    {before : Bool} (below : index < numBits.toNat)
    (same : index ∈ members ↔ before = true) :
    index ∈ event.update numBits members ↔
      event.value index before = true := by
  cases event with
  | loaded src =>
      simp only [update, value]
      rw [Finset.mem_filter, Finset.mem_range]
      exact and_iff_right below
  | set bit val =>
      simp only [update, value]
      by_cases here : bit.toNat = index
      · cases val <;> simp [here]
      · cases val <;> simp [here, Ne.symm here, same]
  | cleared => simp [update, value]

theorem mem_updates_iff {events : List BitEvent} {index : Nat}
    {before : Bool} (below : index < numBits.toNat)
    (same : index ∈ members ↔ before = true) :
    index ∈ events.foldl (BitEvent.update numBits) members ↔
      events.foldl (BitEvent.value index) before = true := by
  induction events generalizing members before with
  | nil => exact same
  | cons event events inductionHypothesis =>
      exact inductionHypothesis (BitEvent.mem_update_iff below same)

/-- The bitmap answers as the set of the bits with a given value does. -/
structure AnswersAs (numBits : UInt32) (value : Nat → Bool)
    (bitmap : Bitmap) : Prop where
  read : ∀ bit < numBits, bitmap.getBitVal bit = .ok (value bit.toNat)
  written : ∀ bit < numBits, ∀ val,
    ∃ after, bitmap.setBitVal bit val = .ok after ∧
      after.getBitVal bit = .ok val ∧
      ∀ other < numBits, other ≠ bit →
        after.getBitVal other = bitmap.getBitVal other
  free : ∃ count, bitmap.getNumFreeBits = .ok count ∧
    count.toNat =
      ((Finset.range numBits.toNat).filter fun index =>
        value index = false).card
  taken : ∃ count, bitmap.getNumTakenBits = .ok count ∧
    count.toNat =
      ((Finset.range numBits.toNat).filter fun index =>
        value index = true).card
  first : ∀ bit, bitmap.getFirstFreeBit = .ok (some bit) ↔
    bit < numBits ∧ value bit.toNat = false ∧
      ∀ lower < bit, value lower.toNat = true
  full : bitmap.getFirstFreeBit = .ok none ↔
    ∀ bit < numBits, value bit.toNat = true

section Answers

variable {value : Nat → Bool}

theorem Represents.filter_true
    (represents : Represents numBits bitmap members)
    (values : ∀ index < numBits.toNat,
      (index ∈ members ↔ value index = true)) :
    ((Finset.range numBits.toNat).filter fun index =>
      value index = true) = members := by
  ext index
  rw [Finset.mem_filter, Finset.mem_range]
  constructor
  · intro set
    rcases set with ⟨below, isSet⟩
    exact (values index below).mpr isSet
  · intro member
    have below := Finset.mem_range.mp (represents.below member)
    exact ⟨below, (values index below).mp member⟩

theorem Represents.card_filter_false
    (represents : Represents numBits bitmap members)
    (values : ∀ index < numBits.toNat,
      (index ∈ members ↔ value index = true)) :
    ((Finset.range numBits.toNat).filter fun index =>
      value index = false).card = numBits.toNat - members.card := by
  have complement :
      ((Finset.range numBits.toNat).filter fun index =>
        value index = false) = Finset.range numBits.toNat \ members := by
    rw [← represents.filter_true values, ← Finset.filter_not]
    apply Finset.filter_congr
    intro index _
    rw [Bool.not_eq_true]
  rw [complement, Finset.card_sdiff_of_subset represents.below,
    Finset.card_range]

/-- Setting a bit shows in that bit and in no other. -/
theorem Represents.setBitVal_answers
    (represents : Represents numBits bitmap members)
    (whole : numBits.toNat % 8 = 0) {bit : UInt32}
    (below : bit < numBits) (val : Bool) :
    ∃ after, bitmap.setBitVal bit val = .ok after ∧
      after.getBitVal bit = .ok val ∧
      ∀ other < numBits, other ≠ bit →
        after.getBitVal other = bitmap.getBitVal other := by
  obtain ⟨after, written, afterRepresents⟩ :=
    represents.setBitVal whole below val
  refine ⟨after, written, ?_, ?_⟩
  · rw [afterRepresents.getBitVal whole below]
    cases val <;> simp
  · intro other otherBelow different
    have apart : other.toNat ≠ bit.toNat := by
      intro same
      exact different (UInt32.toNat_inj.mp same)
    rw [afterRepresents.getBitVal whole otherBelow,
      represents.getBitVal whole otherBelow]
    cases val <;> simp [apart]

/-- The places below a bit are the bits below it. -/
theorem forall_below_iff {bit : UInt32} {holds : Nat → Prop} :
    (∀ index < bit.toNat, holds index) ↔
      ∀ lower < bit, holds lower.toNat := by
  have bound := bit.toNat_lt
  constructor
  · intro every lower below
    exact every _ (UInt32.lt_iff_toNat_lt.mp below)
  · intro every index below
    have back : (UInt32.ofNat index).toNat = index :=
      UInt32.toNat_ofNat_of_lt' (by change _ < 2 ^ 32; omega)
    rw [← back]
    apply every
    rw [UInt32.lt_iff_toNat_lt, back]
    exact below

theorem Represents.answersAs (represents : Represents numBits bitmap members)
    (whole : numBits.toNat % 8 = 0) (small : numBits.toNat < 2 ^ 31)
    (values : ∀ index < numBits.toNat,
      (index ∈ members ↔ value index = true)) :
    AnswersAs numBits value bitmap := by
  have bound := represents.card_le
  refine ⟨?_, fun bit below val => represents.setBitVal_answers whole below val,
    ⟨_, represents.getNumFreeBits whole small, ?_⟩,
    ⟨_, represents.getNumTakenBits whole small, ?_⟩, ?_, ?_⟩
  · intro bit below
    have member := values bit.toNat (UInt32.lt_iff_toNat_lt.mp below)
    rw [represents.getBitVal whole below]
    simp only [member, Bool.decide_eq_true]
  · rw [represents.card_filter_false values,
      UInt32.toNat_ofNat_of_lt' (by change _ < 2 ^ 32; omega)]
  · rw [represents.filter_true values,
      UInt32.toNat_ofNat_of_lt' (by change _ < 2 ^ 32; omega)]
  · intro bit
    rw [represents.getFirstFreeBit_some whole small,
      ← @forall_below_iff bit fun index => value index = true]
    apply and_congr_right
    intro below
    rw [UInt32.lt_iff_toNat_lt] at below
    rw [values _ below, Bool.not_eq_true]
    apply and_congr_right
    intro _
    apply forall₂_congr
    intro lower lowerBelow
    exact values lower (by omega)
  · rw [represents.getFirstFreeBit_none whole small,
      ← @forall_below_iff numBits fun index => value index = true]
    constructor
    · intro all index below
      apply (values index below).mp
      rw [all]
      exact Finset.mem_range.mpr below
    · intro all
      apply Finset.Subset.antisymm represents.below
      intro index member
      have below := Finset.mem_range.mp member
      exact (values index below).mpr (all index below)

end Answers

/-- After every run of loads, sets and clears the bitmap answers as the set of
the bits that were last given the value 1. -/
theorem bitmap_refines_set (whole : numBits.toNat % 8 = 0)
    (small : numBits.toNat < 2 ^ 31) {events : List BitEvent}
    (admissible : ∀ event ∈ events, event.Admissible numBits) :
    ∃ bitmap, afterEvents numBits events = .ok bitmap ∧
      AnswersAs numBits (lastValue events) bitmap := by
  obtain ⟨fresh, constructed, empty⟩ := represents_new whole
  obtain ⟨after, performed, represents⟩ :=
    empty.performAll whole admissible
  refine ⟨after, ?_, represents.answersAs whole small ?_⟩
  · simp only [afterEvents]
    rw [constructed]
    exact performed
  · intro index below
    exact mem_updates_iff below (by simp)

/-- Sixteen bits, loaded, with one bit set and one unset. -/
theorem bitmap_refines_set_small :
    ∃ bitmap,
      afterEvents 16 [.loaded [5, 128], .set 1 true, .set 0 false] =
        .ok bitmap ∧
      AnswersAs 16
        (lastValue [.loaded [5, 128], .set 1 true, .set 0 false])
        bitmap := by
  refine bitmap_refines_set (by decide) (by decide) ?_
  intro event member
  simp only [List.mem_cons, List.not_mem_nil, or_false] at member
  rcases member with rfl | rfl | rfl
  · exact Nat.le_refl 2
  · change (1 : UInt32) < 16
    decide
  · change (0 : UInt32) < 16
    decide

end Runs

end Bitmap

end Lewsql
