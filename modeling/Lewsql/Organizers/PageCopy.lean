import Lewsql.Organizers.HeapRuns

/-!
# `BufferPage::memcpy`

The copy checks its whole extent in a `size_t`, which has 64 bits on the supported
platform, and then stores one element after another through `to_ptr`, which checks
the first byte of each in an `unsigned int`.
-/

namespace Lewsql

open Interaction Bytes

inductive CopyFailure where
  | page (failure : HeapFailure)
  /-- `i++` past the largest `int`. -/
  | signedOverflow
  deriving DecidableEq, Repr

abbrev CopyEffect := Program heapCalls CopyFailure

def onPage {Value : Type} : HeapEffect Value → CopyEffect Value :=
  Program.mapCrash .page

/-- An array, as the bytes of its elements, with the `sizeof` of their type. -/
structure ElementArray where
  sizeofT : UInt64
  numElements : UInt32
  elements : List (List UInt8)
  positive : 0 < sizeofT.toNat
  length_elements : elements.length = numElements.toNat
  length_of_mem : ∀ element ∈ elements, element.length = sizeofT.toNat

namespace ElementArray

def byteSize (array : ElementArray) : Nat :=
  array.sizeofT.toNat * array.numElements.toNat

/-- The array and a page lie apart in the addresses that a `size_t` can tell. -/
def OutsidePage (array : ElementArray) (pageSize : UInt32) : Prop :=
  ∃ arrayAddress pageAddress : Nat,
    arrayAddress + array.byteSize ≤ 2 ^ 64 ∧
      pageAddress + pageSize.toNat ≤ 2 ^ 64 ∧
      (arrayAddress + array.byteSize ≤ pageAddress ∨
        pageAddress + pageSize.toNat ≤ arrayAddress)

end ElementArray

namespace BufferPage

/-- `i++` of the `int` that counts the elements. -/
def nextIndex (i : Nat) : CopyEffect Nat :=
  if i = 2 ^ 31 - 1 then crash .signedOverflow else return i + 1

def finalOffset (offset : UInt32) (sizeofT : UInt64) (i : Nat) : UInt32 :=
  (offset.toUInt64 + UInt64.ofNat i * sizeofT).toUInt32

/-- The rounds of the loop of `memcpy` from `i` on. -/
def memcpyLoop (offset : UInt32) (sizeofT : UInt64) (self : BufferPage) :
    List (List UInt8) → Nat → CopyEffect Unit
  | [], _ => return ()
  | element :: rest, i => do
      let pointer ← onPage (self.toPtr (finalOffset offset sizeofT i))
      onPage (self.writeBytes pointer element)
      self.memcpyLoop offset sizeofT rest (← nextIndex i)

/-- `offset + (sizeof(T) * num_elements)`. -/
def copyEnd (offset : UInt32) (array : ElementArray) : UInt64 :=
  offset.toUInt64 + array.sizeofT * array.numElements.toUInt64

def memcpy (offset : UInt32) (array : ElementArray)
    (self : BufferPage) : CopyEffect Unit :=
  if copyEnd offset array > self.pageSize.toUInt64 then
    crash (.page (.thrown .outOfPageBounds))
  else
    self.memcpyLoop offset array.sizeofT array.elements 0

end BufferPage

/-- Bytes copied to a page, and nothing else changed in any page. -/
structure Copied (diskId : DiskId) (cursor : DiskPageCursor)
    (offset : Nat) (bytes : List UInt8) (before after : HeapWorld) :
    Prop where
  copied : (after.page diskId cursor).read offset bytes.length = bytes
  kept : ∀ file other place,
    ¬ (file = before.fileOf diskId ∧ other = cursor ∧
      offset ≤ place ∧ place < offset + bytes.length) →
      after.pages file other place = before.pages file other place

/-! ## Offsets -/

namespace ElementArray

/-- The bytes of the elements in order. -/
theorem length_flatten (array : ElementArray) :
    array.elements.flatten.length = array.byteSize := by
  rw [List.length_flatten,
    List.map_eq_replicate_iff.mpr array.length_of_mem,
    List.sum_replicate_nat, array.length_elements]
  exact Nat.mul_comm _ _

end ElementArray

namespace BufferPage

theorem toNat_copyEnd (offset : UInt32) (array : ElementArray) :
    (copyEnd offset array).toNat =
      (offset.toNat + array.byteSize) % 2 ^ 64 := by
  simp only [copyEnd, ElementArray.byteSize]
  rw [UInt64.toNat_add, UInt64.toNat_mul, UInt32.toNat_toUInt64,
    UInt32.toNat_toUInt64, Nat.add_mod_mod]

theorem toNat_finalOffset {offset : UInt32} {sizeofT : UInt64} {i : Nat}
    (positive : 0 < sizeofT.toNat)
    (small : offset.toNat + i * sizeofT.toNat < 2 ^ 32) :
    (finalOffset offset sizeofT i).toNat =
      offset.toNat + i * sizeofT.toNat := by
  have index : i ≤ i * sizeofT.toNat := Nat.le_mul_of_pos_right _ positive
  have indexSmall : i < 2 ^ 64 := by omega
  calc
    (finalOffset offset sizeofT i).toNat =
        (offset.toNat + i * sizeofT.toNat) % 2 ^ 64 % 2 ^ 32 := by
      simp only [finalOffset]
      rw [UInt64.toNat_toUInt32, UInt64.toNat_add, UInt32.toNat_toUInt64,
        UInt64.toNat_mul, UInt64.toNat_ofNat_of_lt' indexSmall,
        Nat.add_mod_mod]
    _ = (offset.toNat + i * sizeofT.toNat) % 2 ^ 32 :=
      Nat.mod_mod_of_dvd _ (by decide)
    _ = offset.toNat + i * sizeofT.toNat := Nat.mod_eq_of_lt small

/-! ## Runs of the copy -/

section Runs

variable {base : DiskManager} {state : HeapWorld} {diskId : DiskId}
variable {cursor : DiskPageCursor} {offset : UInt32}

theorem run_onPage_of_done {Value : Type} {program : HeapEffect Value}
    {value : Value} {after : HeapWorld}
    (finished :
      program.run (serveHeap base) state = (.done value, after)) :
    (onPage program).run (serveHeap base) state =
      (.done value, after) := by
  simp only [onPage]
  rw [Program.run_mapCrash, finished]

theorem run_onPage_of_crashed {Value : Type} {program : HeapEffect Value}
    {failure : HeapFailure} {after : HeapWorld}
    (failed :
      program.run (serveHeap base) state = (.crashed failure, after)) :
    (onPage program).run (serveHeap base) state =
      (.crashed (.page failure), after) := by
  simp only [onPage]
  rw [Program.run_mapCrash, failed]

theorem run_toPtr_outside (outside : base.pageSize ≤ offset) :
    ((⟨diskId, cursor, base.pageSize⟩ : BufferPage).toPtr offset).run
        (serveHeap base) state =
      (.crashed (.thrown .outOfPageBounds), state) := by
  simp only [toPtr]
  rw [if_pos outside]
  rfl

variable {sizeofT : UInt64} {element : List UInt8}
variable {rest : List (List UInt8)} {i : Nat}

/-- One round stores one element. -/
theorem run_memcpyLoop_cons (small : base.pageSize.toNat < 2 ^ 31)
    (positive : 0 < sizeofT.toNat)
    (width : element.length = sizeofT.toNat)
    (ends :
      offset.toNat + i * sizeofT.toNat + element.length ≤
        base.pageSize.toNat) :
    ((⟨diskId, cursor, base.pageSize⟩ : BufferPage).memcpyLoop offset
        sizeofT (element :: rest) i).run (serveHeap base) state =
      ((⟨diskId, cursor, base.pageSize⟩ : BufferPage).memcpyLoop offset
        sizeofT rest (i + 1)).run (serveHeap base)
        (state.write diskId cursor (offset.toNat + i * sizeofT.toNat)
          element) := by
  have place :
      (finalOffset offset sizeofT i).toNat =
        offset.toNat + i * sizeofT.toNat :=
    toNat_finalOffset positive (by omega)
  have below : finalOffset offset sizeofT i < base.pageSize := by
    rw [UInt32.lt_iff_toNat_lt, place]
    omega
  have last : i ≠ 2 ^ 31 - 1 := by
    have index : i ≤ i * sizeofT.toNat :=
      Nat.le_mul_of_pos_right _ positive
    omega
  have counted : nextIndex i = Program.done (i + 1) := if_neg last
  rw [memcpyLoop,
    Program.run_bind_of_done _ (run_onPage_of_done (run_toPtr below)),
    place,
    Program.run_bind_of_done _ (run_onPage_of_done (run_writeBytes ends)),
    counted]
  rfl

/-- From the element `i` on, the rest of the elements are stored one behind the
other, as long as they end inside the page. -/
theorem run_memcpyLoop (small : base.pageSize.toNat < 2 ^ 31)
    (positive : 0 < sizeofT.toNat)
    (widths : ∀ element ∈ rest, element.length = sizeofT.toNat)
    (inside :
      offset.toNat + (i + rest.length) * sizeofT.toNat ≤
        base.pageSize.toNat) :
    ((⟨diskId, cursor, base.pageSize⟩ : BufferPage).memcpyLoop offset
        sizeofT rest i).run (serveHeap base) state =
      (.done (),
        state.write diskId cursor (offset.toNat + i * sizeofT.toNat)
          rest.flatten) := by
  induction rest generalizing i state with
  | nil =>
      rw [List.flatten_nil, HeapWorld.write_nil]
      rfl
  | cons element rest inductionHypothesis =>
      obtain ⟨width, widthsRest⟩ := List.forall_mem_cons.mp widths
      have later :
          offset.toNat + (i + 1 + rest.length) * sizeofT.toNat ≤
            base.pageSize.toNat := by
        rwa [List.length_cons, Nat.add_comm rest.length 1,
          ← Nat.add_assoc] at inside
      have next :
          (i + 1) * sizeofT.toNat = i * sizeofT.toNat + element.length := by
        rw [width, Nat.succ_mul]
      have ends :
          offset.toNat + i * sizeofT.toNat + element.length ≤
            base.pageSize.toNat := by
        rw [Nat.add_mul] at later
        omega
      let start := offset.toNat + i * sizeofT.toNat
      calc
        _ = ((⟨diskId, cursor, base.pageSize⟩ : BufferPage).memcpyLoop
              offset sizeofT rest (i + 1)).run (serveHeap base)
              (state.write diskId cursor start element) :=
          run_memcpyLoop_cons small positive width ends
        _ = (.done (),
              (state.write diskId cursor start element).write diskId
                cursor (start + element.length) rest.flatten) := by
          rw [inductionHypothesis widthsRest later, next, ← Nat.add_assoc]
        -- The later elements go right behind the one of this round.
        _ = (.done (),
              state.write diskId cursor start
                (element :: rest).flatten) := by
          rw [HeapWorld.write_write_within (Nat.le_refl _),
            List.take_length,
            List.drop_eq_nil_of_le (Nat.le_add_right _ _),
            List.append_nil, List.flatten_cons]

/-- The array fits the page from the offset on. -/
theorem run_memcpy_inside {array : ElementArray}
    (small : base.pageSize.toNat < 2 ^ 31)
    (inside : offset.toNat + array.byteSize ≤ base.pageSize.toNat) :
    ((⟨diskId, cursor, base.pageSize⟩ : BufferPage).memcpy offset
        array).run (serveHeap base) state =
      (.done (),
        state.write diskId cursor offset.toNat array.elements.flatten) := by
  have fits : ¬ copyEnd offset array > base.pageSize.toUInt64 := by
    rw [gt_iff_lt, UInt64.lt_iff_toNat_lt, toNat_copyEnd,
      UInt32.toNat_toUInt64, Nat.mod_eq_of_lt (by omega)]
    omega
  have every :
      offset.toNat + (0 + array.elements.length) * array.sizeofT.toNat ≤
        base.pageSize.toNat := by
    rw [Nat.zero_add, array.length_elements, Nat.mul_comm]
    exact inside
  simp only [memcpy]
  rw [if_neg fits,
    run_memcpyLoop small array.positive array.length_of_mem every,
    Nat.zero_mul, Nat.add_zero]

/-- A sum that the `size_t` cannot hold passes the check of the whole extent only
for an offset that `to_ptr` refuses. -/
theorem run_memcpy_outside {array : ElementArray}
    (outside : array.OutsidePage base.pageSize)
    (exceeds : base.pageSize.toNat < offset.toNat + array.byteSize) :
    ((⟨diskId, cursor, base.pageSize⟩ : BufferPage).memcpy offset
        array).run (serveHeap base) state =
      (.crashed (.page (.thrown .outOfPageBounds)), state) := by
  simp only [memcpy]
  by_cases checked : copyEnd offset array > base.pageSize.toUInt64
  · rw [if_pos checked]
    rfl
  · rw [if_neg checked]
    rw [gt_iff_lt, UInt64.lt_iff_toNat_lt, toNat_copyEnd,
      UInt32.toNat_toUInt64, Nat.not_lt] at checked
    have wraps : 2 ^ 64 ≤ offset.toNat + array.byteSize := by
      by_contra holds
      rw [Nat.mod_eq_of_lt (Nat.not_le.mp holds)] at checked
      omega
    have behind : base.pageSize ≤ offset := by
      obtain ⟨arrayAddress, pageAddress, _, _, _⟩ := outside
      rw [UInt32.le_iff_toNat_le]
      omega
    have first : finalOffset offset array.sizeofT 0 = offset := by
      apply UInt32.toNat_inj.mp
      have start := offset.toNat_lt
      rw [toNat_finalOffset array.positive (by omega), Nat.zero_mul,
        Nat.add_zero]
    cases elements : array.elements with
    | nil =>
        have start := offset.toNat_lt
        have length := array.length_flatten
        rw [elements, List.flatten_nil, List.length_nil] at length
        omega
    | cons element rest =>
        rw [memcpyLoop, first]
        exact Program.run_bind_of_crashed _
          (run_onPage_of_crashed (run_toPtr_outside behind)) _

end Runs

/-- `memcpy` of an array outside the page either throws, with every page as it
was, or stores the bytes of the elements in order and changes no other byte. -/
theorem memcpy_exact {base : DiskManager}
    (small : base.pageSize.toNat < 2 ^ 31) {array : ElementArray}
    (outside : array.OutsidePage base.pageSize) (diskId : DiskId)
    (cursor : DiskPageCursor) (offset : UInt32) (state : HeapWorld) :
    (base.pageSize.toNat < offset.toNat + array.byteSize →
      ((⟨diskId, cursor, base.pageSize⟩ : BufferPage).memcpy offset
          array).run (serveHeap base) state =
        (.crashed (.page (.thrown .outOfPageBounds)), state)) ∧
      (offset.toNat + array.byteSize ≤ base.pageSize.toNat →
        ∃ after,
          ((⟨diskId, cursor, base.pageSize⟩ : BufferPage).memcpy offset
              array).run (serveHeap base) state =
            (.done (), after) ∧
          array.elements.flatten.length = array.byteSize ∧
          Copied diskId cursor offset.toNat array.elements.flatten state
            after) := by
  refine ⟨run_memcpy_outside outside, ?_⟩
  intro inside
  refine ⟨_, run_memcpy_inside small inside, array.length_flatten, ?_, ?_⟩
  · rw [HeapWorld.page_write, if_pos rfl, Memory.read_write_self]
  · intro file other place elsewhere
    exact HeapWorld.pages_write_outside elsewhere

def twoElements : ElementArray :=
  ⟨2, 2, [[1, 2], [3, 4]], by decide, rfl, by decide⟩

/-- Two elements into a page of eight bytes, too far to its end and not. -/
theorem memcpy_exact_two :
    ((⟨0, 0, 8⟩ : BufferPage).memcpy 6 twoElements).run
        (serveHeap ⟨"d", 8, 64⟩) ⟨World.fresh id, fun _ _ _ => 0, []⟩ =
      (.crashed (.page (.thrown .outOfPageBounds)),
        ⟨World.fresh id, fun _ _ _ => 0, []⟩) ∧
      ∃ after,
        ((⟨0, 0, 8⟩ : BufferPage).memcpy 4 twoElements).run
            (serveHeap ⟨"d", 8, 64⟩)
            ⟨World.fresh id, fun _ _ _ => 0, []⟩ =
          (.done (), after) ∧
        Copied 0 0 4 [1, 2, 3, 4] ⟨World.fresh id, fun _ _ _ => 0, []⟩
          after := by
  have outside : twoElements.OutsidePage 8 :=
    ⟨0, 4, by decide, by decide, Or.inl (by decide)⟩
  have every (offset : UInt32) :=
    @memcpy_exact ⟨"d", 8, 64⟩ (by decide) twoElements outside 0 0 offset
      ⟨World.fresh id, fun _ _ _ => 0, []⟩
  obtain ⟨after, ran, _, copied⟩ := (every 4).2 (by decide)
  exact ⟨(every 6).1 (by decide), after, ran, copied⟩

end BufferPage

end Lewsql
