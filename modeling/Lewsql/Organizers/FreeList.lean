import Lewsql.Organizers.NewHeap

/-!
# The free list

`insert_tuple` makes the id of the disk the head of the free list where it means
the cursor it got, and never changes the head again.  The list is sound as long
as the two are the same and the page has another free slot.
-/

namespace Lewsql

open Interaction Bytes Posix FileSystem

namespace Heap

/-- The free list is empty, or its head is a page of this heap that has room. -/
def FreeListSound (storage : UInt32 → Nat) (heap : Heap)
    (world : HeapWorld) : Prop :=
  world.freeHead heap.diskId = -1 ∨
    world.freeHead heap.diskId ≠ rootPage ∧
      (heap.diskId, world.freeHead heap.diskId) ∈ world.extended ∧
      0 < (heap.bitmapOf storage
        (world.page heap.diskId (world.freeHead heap.diskId))).numFree

/-- An insert after which the free list is still sound: the disk is not `0`, a
page that is appended has the cursor that is the id of the disk, the page keeps
a free slot, and the tuple is written behind the bitmap. -/
structure KeepsFreeList (base : DiskManager) (storage : UInt32 → Nat)
    (heap : Heap) (world : HeapWorld) (tuple : Tuple) : Prop where
  notRoot : heap.diskId ≠ rootPage
  appends : world.freeHead heap.diskId = -1 →
    world.nextCursor base heap.diskId = heap.diskId
  twoFree :
    2 ≤ (heap.bitmapOf storage
      (world.page heap.diskId
        (world.pageUsed base heap.diskId))).numFree
  behind : ∀ slot,
    (heap.bitmapOf storage
        (world.page heap.diskId
          (world.pageUsed base heap.diskId))).lowestFree = some slot →
      8 + heap.bitmapBytes ≤ heap.slotOffset slot tuple

def keepsFreeList (base : DiskManager) (storage : UInt32 → Nat)
    (state : HeapState) : HeapEvent → Prop
  | .insert tuple =>
      KeepsFreeList base storage state.heap state.world tuple
  | .transfer _ => True

/-- After an insert, the one page that was appended is the head of the free
list. -/
structure OnePageListed (storage : UInt32 → Nat)
    (events : List HeapEvent) (state : HeapState) : Prop where
  notRoot : Inserts events → state.heap.diskId ≠ rootPage
  extended : Inserts events →
    state.world.extended = [(state.heap.diskId, state.heap.diskId)]
  free : Inserts events →
    0 < (state.heap.bitmapOf storage
      (state.world.page state.heap.diskId state.heap.diskId)).numFree

section FreeList

variable {base : DiskManager} {storage : UInt32 → Nat} {fuel : Nat}
variable {before middle after : HeapWorld} {heap : Heap}
variable {tuple : Tuple} {cursor : DiskPageCursor} {slot : Nat}
variable {events : List HeapEvent} {state next : HeapState}

namespace Insertion

/-- With two free slots before, one is left in the bitmap. -/
theorem withBit_free
    (insertion : Insertion base storage fuel heap tuple before after cursor
      slot middle)
    (two :
      2 ≤ (heap.bitmapOf storage
        (before.page heap.diskId cursor)).numFree) :
    0 < ((heap.bitmapOf storage (before.page heap.diskId cursor)).withBit
      slot true).numFree := by
  have covered := insertion.covered
  obtain ⟨below, free, _⟩ :=
    Bitmap.lowestFree_eq_some_iff.mp insertion.lowestFree
  have one :=
    Bitmap.numFree_withBit (covered.index_lt below) below free
  omega

/-- With two free slots before, one is left in the page. -/
theorem free_of_two
    (insertion : Insertion base storage fuel heap tuple before after cursor
      slot middle)
    (two :
      2 ≤ (heap.bitmapOf storage
        (before.page heap.diskId cursor)).numFree)
    (behind : 8 + heap.bitmapBytes ≤ heap.slotOffset slot tuple) :
    0 < (heap.bitmapOf storage
      (after.page heap.diskId cursor)).numFree := by
  have left := insertion.withBit_free two
  obtain ⟨index, below, free⟩ := Bitmap.numFree_pos_iff.mp left
  rw [insertion.page_of_free (by omega), if_pos rfl]
  exact Bitmap.numFree_pos_iff.mpr
    ⟨index, below, free_withTuple insertion.places.stored behind free⟩

end Insertion

/-- An insert that keeps the free list uses the page with the id of the
disk. -/
theorem pageUsed_of_keepsFreeList
    (standing : Standing base events state)
    (keeps : KeepsFreeList base storage state.heap state.world tuple) :
    state.world.pageUsed base state.heap.diskId = state.heap.diskId := by
  simp only [HeapWorld.pageUsed]
  by_cases inserted : Inserts events
  · rw [standing.listed inserted, if_neg standing.ne_end]
  · have empty := (standing.unused inserted).freeHead
    rw [if_pos empty]
    exact keeps.appends empty

theorem OnePageListed.step_insert
    (standing : Standing base events state)
    (listed : OnePageListed storage events state)
    (keeps : KeepsFreeList base storage state.heap state.world tuple)
    (sameHeap : next.heap = state.heap)
    (finished :
      (state.heap.insertTuple storage fuel tuple).run (serveHeap base)
          state.world =
        (.done (), next.world)) :
    OnePageListed storage (events ++ [.insert tuple]) next := by
  obtain ⟨cursor, slot, middle, insertion⟩ :=
    insertion_of_run standing.room finished
  have used := pageUsed_of_keepsFreeList standing keeps
  have same : cursor = state.heap.diskId :=
    insertion.uses.cursor_eq.trans used
  have two := keeps.twoFree
  have behind := keeps.behind slot
  rw [← insertion.uses.cursor_eq] at two behind
  have free := insertion.free_of_two two (behind insertion.lowestFree)
  constructor
  · intro _
    rw [sameHeap]
    exact keeps.notRoot
  · intro _
    rw [sameHeap, insertion.extended_eq]
    by_cases inserted : Inserts events
    · rw [standing.listed inserted, if_neg standing.ne_end]
      exact listed.extended inserted
    · have unused := standing.unused inserted
      rw [if_pos unused.freeHead, unused.unextended, same]
      rfl
  · intro _
    rw [same] at free
    rw [sameHeap]
    exact free

theorem OnePageListed.step_transfer {operation : Operation}
    (listed : OnePageListed storage events state)
    (sameHeap : next.heap = state.heap)
    (stepped :
      Step base storage state.heap state.world (.transfer operation)
        next.world) :
    OnePageListed storage (events ++ [.transfer operation]) next := by
  constructor
  · intro inserted
    rw [sameHeap]
    exact listed.notRoot ((inserts_append_transfer operation).mp inserted)
  · intro inserted
    rw [sameHeap, stepped.2.2.2]
    exact listed.extended ((inserts_append_transfer operation).mp inserted)
  · intro inserted
    rw [sameHeap, page_of_transfer stepped]
    exact listed.free ((inserts_append_transfer operation).mp inserted)

theorem onePageListed_of_run
    (run : ((machine base storage).whenever
      (keepsFreeList base storage)).Run events state) :
    OnePageListed storage events state := by
  refine Machine.Run.invariant (OnePageListed storage) ?_ ?_ run
  · intro start _
    constructor <;> exact fun ⟨_, member⟩ => nomatch member
  · intro earlier before event after earlierRun listed stepped
    obtain ⟨keeps, sameHeap, step⟩ := stepped
    have standing := standing_of_run earlierRun.of_whenever
    cases event with
    | insert tuple =>
        obtain ⟨fuel, finished⟩ := step
        exact listed.step_insert standing keeps sameHeap finished
    | transfer operation => exact listed.step_transfer sameHeap step

/-- An insert that keeps the free list does not fail at an assert. -/
theorem not_assert_of_keepsFreeList
    (standing : Standing base events state)
    (keeps : KeepsFreeList base storage state.heap state.world tuple)
    {failure : HeapFailure}
    (failed :
      (state.heap.insertTuple storage fuel tuple).run (serveHeap base)
          state.world =
        (.crashed failure, after)) :
    failure.isAssert = false := by
  rw [← Bool.not_eq_true]
  intro assert
  rcases run_insertTuple_cases standing.room state.heap storage fuel tuple
      state.world with
    ⟨cursor, slot, middle, last, insertion⟩ |
    ⟨reason, last, crashed, asserted⟩
  · rw [run_insertTuple standing.room insertion] at failed
    cases failed
  · rw [crashed] at failed
    cases failed
    obtain ⟨cursor, middle, uses, wrong⟩ := asserted assert
    have used := pageUsed_of_keepsFreeList standing keeps
    have same : cursor = state.heap.diskId := uses.cursor_eq.trans used
    have data : cursor ≠ rootPage := by
      rw [same]
      exact keeps.notRoot
    rcases wrong with root | full
    · exact data root
    · have two := keeps.twoFree
      rw [← uses.cursor_eq, ← uses.page_of_ne data, full] at two
      omega

end FreeList

/-- In every run whose inserts keep the free list it is sound in every state, no
further insert of this kind fails at an assert, and a page is appended only when
no page of the heap has a free slot. -/
theorem free_list_sound_of_keeps {base : DiskManager}
    {storage : UInt32 → Nat} {events : List HeapEvent}
    {state : HeapState}
    (run : ((machine base storage).whenever
      (keepsFreeList base storage)).Run events state) :
    FreeListSound storage state.heap state.world ∧
      (∀ tuple fuel failure after,
        KeepsFreeList base storage state.heap state.world tuple →
          (state.heap.insertTuple storage fuel tuple).run (serveHeap base)
              state.world =
            (.crashed failure, after) →
          failure.isAssert = false) ∧
      ∀ tuple fuel after,
        (state.heap.insertTuple storage fuel tuple).run (serveHeap base)
            state.world =
          (.done (), after) →
        after.extended ≠ state.world.extended →
          ∀ cursor, (state.heap.diskId, cursor) ∈ state.world.extended →
            (state.heap.bitmapOf storage
              (state.world.page state.heap.diskId cursor)).numFree = 0 := by
  have standing := standing_of_run run.of_whenever
  have listed := onePageListed_of_run run
  refine ⟨?_, fun _ _ _ _ keeps failed =>
    not_assert_of_keepsFreeList standing keeps failed, ?_⟩
  · by_cases inserted : Inserts events
    · have head := standing.listed inserted
      simp only [FreeListSound]
      rw [head, listed.extended inserted]
      exact Or.inr ⟨listed.notRoot inserted, List.mem_singleton_self _,
        listed.free inserted⟩
    · exact Or.inl (standing.unused inserted).freeHead
  · intro tuple fuel after finished grown cursor member
    obtain ⟨used, slot, middle, insertion⟩ :=
      insertion_of_run standing.room finished
    by_cases inserted : Inserts events
    · rw [insertion.extended_eq, standing.listed inserted,
        if_neg standing.ne_end] at grown
      exact absurd rfl grown
    · rw [(standing.unused inserted).unextended] at member
      cases member

/-- On the first disk of a manager the head of the free list becomes the root
page. -/
theorem free_list_starts_at_root :
    ∃ state,
      (machine pageBase UInt32.toNat).Run [.insert oneCell] state ∧
        ¬ FreeListSound UInt32.toNat state.heap state.world := by
  obtain ⟨last, middle, insertion, run⟩ :=
    @exists_first_insert pageBase UInt32.toNat (World.fresh id)
      (by decide) "a" 20 oneCell (by decide) ⟨_, .start rfl⟩ rfl
      (places_pageBase _ (by decide))
  have head :
      last.freeHead 0 = 0 :=
    (standing_of_run run).listed (inserts_append_insert [] oneCell)
  refine ⟨_, run, ?_⟩
  intro sound
  have cases :
      last.freeHead 0 = -1 ∨ last.freeHead 0 ≠ rootPage ∧ _ := sound
  rw [head] at cases
  rcases cases with empty | ⟨notRoot, _⟩
  · exact absurd empty (by decide)
  · exact notRoot rfl

/-- The first insert on the second disk keeps the free list. -/
theorem keepsFreeList_second :
    KeepsFreeList pageBase UInt32.toNat (secondHeap 20)
      (secondWorld pageBase) oneCell := by
  have fits : 12 ≤ pageBase.pageSize.toNat := by decide
  have unused := @unused_second pageBase 20 fits
  have used := (@uses_second pageBase 20 fits).cursor_eq
  have stored : (secondHeap 20).Stored UInt32.toNat := stored_pageBase 1
  have zeros := unused.zeros 1 (by decide)
  constructor
  · decide
  · intro _
    exact (HeapWorld.nextCursor_of_extend (extend_second fits)).symm
  · rw [← used, zeros, numFree_zeros]
    decide
  · intro slot lowest
    rw [← used, zeros, lowestFree_zeros (by decide)] at lowest
    cases lowest
    decide

/-- One insert on the second disk. -/
theorem free_list_sound_of_keeps_second :
    ∃ state,
      (machine pageBase UInt32.toNat).Run [.insert oneCell] state ∧
        FreeListSound UInt32.toNat state.heap state.world := by
  have fits : 12 ≤ pageBase.pageSize.toNat := by decide
  obtain ⟨after, middle, insertion⟩ :=
    @exists_insertion_second pageBase UInt32.toNat 20 oneCell 0 fits
      (places_pageBase 1 (by decide))
  have kept :
      ((machine pageBase UInt32.toNat).whenever
          (keepsFreeList pageBase UInt32.toNat)).Run
        [.insert oneCell] ⟨secondHeap 20, after⟩ := by
    have started :
        ((machine pageBase UInt32.toNat).whenever
            (keepsFreeList pageBase UInt32.toNat)).Run []
          ⟨secondHeap 20, secondWorld pageBase⟩ :=
      .start (@start_second pageBase UInt32.toNat 20 fits)
    exact started.step
      ⟨keepsFreeList_second, step_of_insertion fits insertion⟩
  exact ⟨_, kept.of_whenever, (free_list_sound_of_keeps kept).1⟩

end Heap

end Lewsql
