import Lewsql.Memory.Chain
import Lewsql.Organizers.FreeList

/-!
# The full list

A page that was just filled is hung at the end of the full list with the pointer
that its zero bytes make, and stays the head of the free list.  As long as no
insert takes the last free slot of its page, the full list stays empty.
-/

namespace Lewsql

open Interaction Bytes Posix FileSystem

namespace Heap

/-- The full list is a chain of distinct full data pages of this heap, apart
from the free list. -/
def FullListSound (storage : UInt32 → Nat) (heap : Heap)
    (world : HeapWorld) : Prop :=
  ∃ pages,
    Chain (world.fullNext heap.diskId) (-1) (world.fullHead heap.diskId)
        pages ∧
      pages.Nodup ∧
      ∀ cursor ∈ pages,
        cursor ≠ rootPage ∧ (heap.diskId, cursor) ∈ world.extended ∧
          (heap.bitmapOf storage
            (world.page heap.diskId cursor)).numFree = 0 ∧
          cursor ≠ world.freeHead heap.diskId

/-- The insert leaves a free slot in the page it uses. -/
def leavesFree (base : DiskManager) (storage : UInt32 → Nat)
    (state : HeapState) : HeapEvent → Prop
  | .insert _ =>
      2 ≤ (state.heap.bitmapOf storage
        (state.world.page state.heap.diskId
          (state.world.pageUsed base state.heap.diskId))).numFree
  | .transfer _ => True

section FullList

variable {base : DiskManager} {storage : UInt32 → Nat} {fuel : Nat}
variable {before middle after : HeapWorld} {heap : Heap}
variable {tuple : Tuple} {cursor : DiskPageCursor} {slot : Nat}
variable {events : List HeapEvent} {state : HeapState}

theorem lastFull_eq_walk (diskId : DiskId) (fuel : Nat)
    (cursor : DiskPageCursor) :
    before.lastFull diskId fuel cursor =
      walk (before.fullNext diskId) (-1) fuel cursor := by
  induction fuel generalizing cursor with
  | zero => rfl
  | succ fuel inductionHypothesis =>
      rw [HeapWorld.lastFull, walk, inductionHypothesis]

/-- Along a sound full list the search loop ends. -/
theorem endOfFullList_returns (room : 12 ≤ base.pageSize.toNat)
    (sound : FullListSound storage heap before) :
    ∃ fuel last,
      (heap.endOfFullList fuel).run (serveHeap base) before =
        (.done last, before) := by
  obtain ⟨pages, chain, _, _⟩ := sound
  refine ⟨pages.length, ?_⟩
  rw [run_endOfFullList room]
  simp only [HeapWorld.fullEnd]
  by_cases empty : before.fullHead heap.diskId = -1
  · rw [if_pos empty]
    exact ⟨_, rfl⟩
  · have found := chain.walk_isSome empty
    rw [← lastFull_eq_walk] at found
    obtain ⟨last, ends⟩ := Option.isSome_iff_exists.mp found
    rw [if_neg empty, ends]
    exact ⟨_, rfl⟩

/-- An insert that leaves a free slot leaves the full list. -/
theorem Insertion.fullHead_of_free
    (insertion : Insertion base storage fuel heap tuple before after cursor
      slot middle)
    (free :
      ((heap.bitmapOf storage (before.page heap.diskId cursor)).withBit
        slot true).numFree ≠ 0) :
    after.fullHead heap.diskId = before.fullHead heap.diskId := by
  simp only [HeapWorld.fullHead]
  rw [insertion.page_of_free free,
    if_neg (Ne.symm insertion.notRoot), insertion.uses.root_eq]
  split
  · exact pointerAt_write_apart (Or.inr (by rfl))
  · rfl

/-- As long as every insert leaves a free slot, the full list is empty. -/
theorem fullHead_of_run
    (run : ((machine base storage).whenever
      (leavesFree base storage)).Run events state) :
    state.world.fullHead state.heap.diskId = -1 := by
  refine Machine.Run.invariant
    (fun _ state => state.world.fullHead state.heap.diskId = -1) ?_ ?_ run
  · intro start started
    exact ((@standing_start base storage start started).unused
      fun ⟨_, member⟩ => nomatch member).fullHead
  · intro earlier before event after earlierRun empty stepped
    obtain ⟨leaves, sameHeap, step⟩ := stepped
    have standing := standing_of_run earlierRun.of_whenever
    rw [sameHeap]
    cases event with
    | insert tuple =>
        obtain ⟨fuel, finished⟩ := step
        obtain ⟨cursor, slot, middle, insertion⟩ :=
          insertion_of_run standing.room finished
        have two :
            2 ≤ (before.heap.bitmapOf storage
              (before.world.page before.heap.diskId
                (before.world.pageUsed base
                  before.heap.diskId))).numFree := leaves
        rw [← insertion.uses.cursor_eq] at two
        have left := insertion.withBit_free two
        exact (insertion.fullHead_of_free (by omega)).trans empty
    | transfer operation =>
        have same :=
          page_of_transfer step before.heap.diskId rootPage
        simp only [HeapWorld.fullHead] at empty ⊢
        rw [same]
        exact empty

end FullList

/-- In every run whose inserts leave a free slot in the page they use, the full
list is sound and the search for its end returns. -/
theorem full_list_sound_of_leaves {base : DiskManager}
    {storage : UInt32 → Nat} {events : List HeapEvent}
    {state : HeapState}
    (run : ((machine base storage).whenever
      (leavesFree base storage)).Run events state) :
    FullListSound storage state.heap state.world ∧
      ∃ fuel last,
        (state.heap.endOfFullList fuel).run (serveHeap base) state.world =
          (.done last, state.world) := by
  have standing := standing_of_run run.of_whenever
  have sound : FullListSound storage state.heap state.world := by
    have chain :
        Chain (state.world.fullNext state.heap.diskId) (-1)
          (state.world.fullHead state.heap.diskId) [] := by
      rw [fullHead_of_run run]
      exact .ends
    exact ⟨[], chain, chain.nodup, fun _ member => nomatch member⟩
  exact ⟨sound, endOfFullList_returns standing.room sound⟩

/-- One insert on the second disk. -/
theorem full_list_sound_of_leaves_second :
    ∃ state,
      (machine pageBase UInt32.toNat).Run [.insert oneCell] state ∧
        FullListSound UInt32.toNat state.heap state.world := by
  have fits : 12 ≤ pageBase.pageSize.toNat := by decide
  obtain ⟨after, middle, insertion⟩ :=
    @exists_insertion_second pageBase UInt32.toNat 20 oneCell 0 fits
      (places_pageBase 1 (by decide))
  have kept :
      ((machine pageBase UInt32.toNat).whenever
          (leavesFree pageBase UInt32.toNat)).Run
        [.insert oneCell] ⟨secondHeap 20, after⟩ := by
    have started :
        ((machine pageBase UInt32.toNat).whenever
            (leavesFree pageBase UInt32.toNat)).Run []
          ⟨secondHeap 20, secondWorld pageBase⟩ :=
      .start (@start_second pageBase UInt32.toNat 20 fits)
    exact started.step
      ⟨keepsFreeList_second.twoFree, step_of_insertion fits insertion⟩
  exact ⟨_, kept.of_whenever, (full_list_sound_of_leaves kept).1⟩

/-! ## Filling a page -/

def noCells : Tuple :=
  ⟨[]⟩

/-- The slots below a count are taken, of the 69 slots of a page of 20 bytes. -/
def TakenBelow (count : Nat) (page : Memory) : Prop :=
  ∀ index < 69,
    ((secondHeap 20).bitmapOf UInt32.toNat page).bit index =
      decide (index < count)

section Filling

variable {count : Nat} {page : Memory} {fuel : Nat} {tuple : Tuple}
variable {before middle after : HeapWorld}

private theorem stored_second : (secondHeap 20).Stored UInt32.toNat :=
  stored_pageBase 1

private theorem behind_noCells (slot : Nat) :
    8 + (secondHeap 20).bitmapBytes ≤
      (secondHeap 20).slotOffset slot noCells := by
  have offset : (secondHeap 20).slotOffset slot noCells = 17 := by
    refine (slotOffset_pageBase 1 slot noCells).trans ?_
    change (17 + UInt32.ofNat slot * 0).toNat = 17
    rw [UInt32.mul_zero]
    rfl
  have bytes : (secondHeap 20).bitmapBytes = 9 := bitmapBytes_pageBase 1
  omega

theorem takenBelow_zeros : TakenBelow 0 fun _ => 0 := by
  intro index _
  rw [bit_zeros]
  rfl

/-- The next slot of a page that is not full. -/
theorem TakenBelow.places (taken : TakenBelow count page)
    (room : count < 69)
    (inside : tuple.cells ≠ [] →
      (secondHeap 20).slotOffset count tuple +
          Tuple.extent tuple.cells ≤
        20) :
    Places UInt32.toNat pageBase.pageSize.toNat (secondHeap 20) tuple
      page count := by
  have bytes : (secondHeap 20).bitmapBytes = 9 := bitmapBytes_pageBase 1
  have size : (secondHeap 20).bitmapSize.toNat = 69 :=
    congrArg UInt32.toNat (bitmapSize_pageBase 1)
  constructor
  · exact stored_second
  · rw [bytes]
    decide
  · constructor
    · rw [length_bitmapOf stored_second]
      change (secondHeap 20).bitmapSize.toNat ≤ _
      omega
    · change (secondHeap 20).bitmapSize.toNat < _
      omega
  · apply Bitmap.lowestFree_eq_some_iff.mpr
    refine ⟨?_, ?_, ?_⟩
    · change count < (secondHeap 20).bitmapSize.toNat
      omega
    · rw [taken count room]
      exact decide_eq_false (Nat.lt_irrefl count)
    · intro lower below
      rw [taken lower (by omega)]
      exact decide_eq_true below
  · exact inside

private theorem TakenBelow.places_noCells (taken : TakenBelow count page)
    (room : count < 69) :
    Places UInt32.toNat pageBase.pageSize.toNat (secondHeap 20) noCells
      page count :=
  taken.places room fun cells => absurd rfl cells

private theorem TakenBelow.bit_withBit (taken : TakenBelow count page)
    (room : count < 69) {index : Nat} (inside : index < 69) :
    (((secondHeap 20).bitmapOf UInt32.toNat page).withBit count true).bit
        index =
      decide (index < count + 1) := by
  have length :
      ((secondHeap 20).bitmapOf UInt32.toNat page).bytes.length = 69 :=
    (length_bitmapOf stored_second).trans
      (congrArg UInt32.toNat (bitmapSize_pageBase 1))
  rw [Bitmap.bit_withBit (by omega), taken index inside]
  by_cases same : index = count
  · simp [same]
  · rw [if_neg same]
    apply decide_eq_decide.mpr
    omega

theorem TakenBelow.withTuple (taken : TakenBelow count page)
    (room : count < 69)
    (behind :
      8 + (secondHeap 20).bitmapBytes ≤
        (secondHeap 20).slotOffset count tuple) :
    TakenBelow (count + 1)
      ((secondHeap 20).withTuple UInt32.toNat tuple page count) := by
  intro index inside
  have bytes : (secondHeap 20).bitmapBytes = 9 := bitmapBytes_pageBase 1
  rw [bit_withTuple stored_second behind,
    if_pos (by omega), taken.bit_withBit room inside]

theorem TakenBelow.numFree_withBit_iff (taken : TakenBelow count page)
    (room : count < 69) :
    (((secondHeap 20).bitmapOf UInt32.toNat page).withBit count
        true).numFree = 0 ↔ count = 68 := by
  have size :
      (((secondHeap 20).bitmapOf UInt32.toNat page).withBit count
        true).numBits.toNat = 69 :=
    congrArg UInt32.toNat (bitmapSize_pageBase 1)
  rw [← Nat.le_zero, ← Nat.not_lt, Bitmap.numFree_pos_iff, size]
  constructor
  · intro full
    by_contra more
    refine full ⟨68, by omega, ?_⟩
    rw [taken.bit_withBit room (by omega)]
    exact decide_eq_false (by omega)
  · intro last ⟨index, below, free⟩
    rw [taken.bit_withBit room below] at free
    exact absurd (of_decide_eq_false free) (by omega)

/-- An insert that does not fill the page. -/
theorem TakenBelow.step
    (taken : TakenBelow count (before.page 1 1)) (fewer : count < 68)
    (behind :
      8 + (secondHeap 20).bitmapBytes ≤
        (secondHeap 20).slotOffset count tuple)
    (empty : before.fullHead 1 = -1)
    (insertion : Insertion pageBase UInt32.toNat fuel (secondHeap 20)
      tuple before after 1 count middle) :
    after.fullHead 1 = -1 ∧ TakenBelow (count + 1) (after.page 1 1) := by
  have free :
      (((secondHeap 20).bitmapOf UInt32.toNat (before.page 1 1)).withBit
        count true).numFree ≠ 0 := by
    intro full
    have last := (taken.numFree_withBit_iff (by omega)).mp full
    omega
  have page :
      after.page 1 1 =
        (secondHeap 20).withTuple UInt32.toNat tuple (before.page 1 1)
          count :=
    (insertion.page_of_free free 1).trans (if_pos rfl)
  constructor
  · exact (insertion.fullHead_of_free free).trans empty
  · rw [page]
    exact taken.withTuple (by omega) behind

/-- Once something was inserted, the next insert uses page `1`. -/
theorem exists_next {events : List HeapEvent} {tuple : Tuple}
    {slot : Nat}
    (run : (machine pageBase UInt32.toNat).Run events
      ⟨secondHeap 20, before⟩)
    (inserted : Inserts events)
    (places : Places UInt32.toNat pageBase.pageSize.toNat (secondHeap 20)
      tuple (before.page 1 1) slot)
    (empty : before.fullHead 1 = -1) :
    ∃ after,
      Insertion pageBase UInt32.toNat 0 (secondHeap 20) tuple before after
          1 slot before ∧
        (machine pageBase UInt32.toNat).Run
          (events ++ [.insert tuple]) ⟨secondHeap 20, after⟩ := by
  have standing := standing_of_run run
  have head : before.freeHead 1 = 1 := standing.listed inserted
  have uses :
      UsesPage pageBase (secondHeap 20) before (before.freeHead 1)
        before :=
    .listed (by
      change before.freeHead 1 ≠ -1
      rw [head]
      decide)
  rw [head] at uses
  obtain ⟨after, insertion⟩ :=
    @exists_insertion pageBase UInt32.toNat 0 _ _ _ tuple 1 slot uses
      (by decide) places empty
  exact ⟨after, insertion,
    run.step (step_of_insertion standing.room insertion)⟩

/-- So many inserts without a full page. -/
theorem exists_filled (count : Nat) (fewer : count < 68) :
    ∃ after,
      (machine pageBase UInt32.toNat).Run
          (List.replicate (count + 1) (.insert noCells))
          ⟨secondHeap 20, after⟩ ∧
        after.fullHead 1 = -1 ∧ TakenBelow (count + 1) (after.page 1 1) := by
  have fits : 12 ≤ pageBase.pageSize.toNat := by decide
  induction count with
  | zero =>
      have unused := @unused_second pageBase 20 fits
      have zeros : (secondWorld pageBase).page 1 1 = fun _ => 0 :=
        unused.zeros 1 (by decide)
      have taken : TakenBelow 0 ((secondWorld pageBase).page 1 1) := by
        rw [zeros]
        exact takenBelow_zeros
      obtain ⟨after, middle, insertion⟩ :=
        @exists_insertion_second pageBase UInt32.toNat 20 noCells 0 fits
          (places_pageBase 1 (by decide))
      exact ⟨after,
        .step (.start (start_second fits))
          (step_of_insertion fits insertion),
        taken.step fewer (behind_noCells 0) unused.fullHead insertion⟩
  | succ count inductionHypothesis =>
      obtain ⟨before, run, empty, taken⟩ :=
        inductionHypothesis (by omega)
      have inserted :
          Inserts (List.replicate (count + 1) (.insert noCells)) :=
        ⟨noCells, List.mem_replicate.mpr ⟨by omega, rfl⟩⟩
      obtain ⟨after, insertion, longer⟩ :=
        exists_next run inserted (taken.places_noCells (by omega)) empty
      rw [← List.replicate_succ'] at longer
      exact ⟨after, longer,
        taken.step fewer (behind_noCells _) empty insertion⟩

/-- The insert that takes the last slot hangs the page into the full list. -/
private theorem fullHead_of_last
    (taken : TakenBelow 68 (before.page 1 1))
    (empty : before.fullHead 1 = -1)
    (insertion : Insertion pageBase UInt32.toNat fuel (secondHeap 20)
      noCells before after 1 68 before) : after.fullHead 1 = 1 := by
  have full :
      (((secondHeap 20).bitmapOf UInt32.toNat (before.page 1 1)).withBit 68
        true).numFree = 0 :=
    (taken.numFree_withBit_iff (by omega)).mpr rfl
  have moves := insertion.moves
  cases moves with
  | stays free => exact absurd full free
  | @moves last offset _ ends =>
      have head :
          (before.setPage 1 1
            ((secondHeap 20).withTuple UInt32.toNat noCells
              (before.page 1 1) 68)).fullHead 1 = -1 := by
        simp only [HeapWorld.fullHead] at empty ⊢
        rw [HeapWorld.page_setPage, if_neg (by decide)]
        exact empty
      have ended :
          some (rootPage, firstPageFullListOffset) = some (last, offset) :=
        (if_pos head).symm.trans ends
      cases ended
      simp only [HeapWorld.fullHead]
      refine (congrArg (fun bytes => pointerAt bytes 8)
        HeapWorld.page_write).trans ?_
      rw [if_pos rfl]
      exact pointerAt_write_self

end Filling

/-- A page that is filled is in the full list and still the head of the free
list. -/
theorem filled_page_in_both_lists :
    ∃ events state,
      (machine pageBase UInt32.toNat).Run events state ∧
        ¬ FullListSound UInt32.toNat state.heap state.world := by
  obtain ⟨before, run, empty, taken⟩ := exists_filled 67 (by omega)
  have inserted : Inserts (List.replicate 68 (.insert noCells)) :=
    ⟨noCells, List.mem_replicate.mpr ⟨by omega, rfl⟩⟩
  obtain ⟨after, insertion, longer⟩ :=
    exists_next run inserted (taken.places_noCells (by omega)) empty
  have full := fullHead_of_last taken empty insertion
  have free : after.freeHead 1 = 1 :=
    (standing_of_run longer).listed (inserts_append_insert _ noCells)
  refine ⟨_, _, longer, ?_⟩
  intro ⟨pages, chain, _, apart⟩
  have filled :
      Chain (after.fullNext 1) (-1) (after.fullHead 1) pages := chain
  rw [full] at filled
  cases filled with
  | node _ rest =>
      have different : (1 : DiskPageCursor) ≠ after.freeHead 1 :=
        (apart 1 List.mem_cons_self).2.2.2
      exact different free.symm

end Heap

end Lewsql
