import Lewsql.Organizers.FullList

/-!
# Appending to the full list

`append_to_full_pages` appends to the list of pages that the pointers of the full
list spell out: the pointer that ends the list is in the root page when there are
no full pages yet, and in the last of them otherwise.
-/

namespace Lewsql

open Interaction Bytes

namespace Heap

def listEnd (pages : List DiskPageCursor) : DiskPageCursor × UInt32 :=
  match pages.getLast? with
  | none => (rootPage, firstPageFullListOffset)
  | some last => (last, fullListOffset)

/-- The full list of a heap, whose pointers lie in their pages, leads through
distinct data pages. -/
structure FullPages (base : DiskManager) (heap : Heap)
    (world : HeapWorld) (pages : List DiskPageCursor) : Prop where
  room : 12 ≤ base.pageSize.toNat
  chain :
    Chain (world.fullNext heap.diskId) (-1) (world.fullHead heap.diskId)
      pages
  distinct : pages.Nodup
  notRoot : rootPage ∉ pages

/-- A data page apart from some pages that points at no further page. -/
structure Unlisted (heap : Heap) (world : HeapWorld)
    (pages : List DiskPageCursor) (cursor : DiskPageCursor) : Prop where
  isPage : cursor ≠ -1
  notRoot : cursor ≠ rootPage
  notMember : cursor ∉ pages
  ends : world.fullNext heap.diskId cursor = -1

def hungUp (heap : Heap) (pages : List DiskPageCursor)
    (cursor : DiskPageCursor) (world : HeapWorld) : HeapWorld :=
  world.write heap.diskId (listEnd pages).1 (listEnd pages).2.toNat
    (pointerBytes cursor)

section Append

variable {base : DiskManager} {heap : Heap} {world : HeapWorld}
variable {pages initial : List DiskPageCursor}
variable {cursor other last : DiskPageCursor} {fuel : Nat}

theorem listEnd_concat :
    listEnd (initial ++ [last]) = (last, fullListOffset) := by
  simp only [listEnd]
  rw [List.getLast?_concat]

/-- The search of `append_to_full_pages` ends where the list does. -/
theorem FullPages.fullEnd_eq (listed : FullPages base heap world pages)
    (enough : pages.length ≤ fuel) :
    world.fullEnd heap.diskId fuel = some (listEnd pages) := by
  have chain := listed.chain
  simp only [HeapWorld.fullEnd]
  rcases List.eq_nil_or_concat' pages with
    nothing | ⟨initial, last, split⟩
  · rw [if_pos (chain.eq_stop_iff.mpr nothing), nothing]
    rfl
  · subst split
    have more : world.fullHead heap.diskId ≠ -1 := by
      intro empty
      have nothing := chain.eq_stop_iff.mp empty
      exact absurd nothing (by simp)
    have longer : initial.length < fuel := by
      rw [List.length_append, List.length_singleton] at enough
      omega
    rw [if_neg more, lastFull_eq_walk, chain.walk_eq_last longer,
      listEnd_concat]
    rfl

/-- The call returns and leaves the page hung up. -/
theorem FullPages.run_append (listed : FullPages base heap world pages)
    (enough : pages.length ≤ fuel) :
    (heap.appendToFullPages fuel cursor).run (serveHeap base) world =
      (.done (), heap.hungUp pages cursor world) := by
  rw [run_appendToFullPages listed.room, listed.fullEnd_eq enough]
  rfl

/-- In an empty list the pointer of the root page changes. -/
theorem page_hungUp_nil :
    (heap.hungUp [] cursor world).page heap.diskId other =
      if other = rootPage then
        (world.page heap.diskId rootPage).write 8 (pointerBytes cursor)
      else world.page heap.diskId other :=
  HeapWorld.page_write

/-- In a longer list the pointer of its last page changes. -/
theorem page_hungUp_concat :
    (heap.hungUp (initial ++ [last]) cursor world).page heap.diskId
        other =
      if other = last then
        (world.page heap.diskId last).write 4 (pointerBytes cursor)
      else world.page heap.diskId other := by
  simp only [hungUp]
  rw [listEnd_concat]
  exact HeapWorld.page_write

theorem fullNext_of_page {left right : HeapWorld}
    (same : left.page heap.diskId cursor = right.page heap.diskId cursor) :
    left.fullNext heap.diskId cursor = right.fullNext heap.diskId cursor :=
  congrArg (fun bytes => pointerAt bytes 4) same

/-- Hanging a page up keeps the full-list pointers of the other data pages. -/
theorem fullNext_hungUp (notRoot : other ≠ rootPage)
    (notLast : pages.getLast? ≠ some other) :
    (heap.hungUp pages cursor world).fullNext heap.diskId other =
      world.fullNext heap.diskId other := by
  apply fullNext_of_page
  rcases List.eq_nil_or_concat' pages with
    nothing | ⟨initial, last, split⟩
  · subst nothing
    rw [page_hungUp_nil, if_neg notRoot]
  · subst split
    rw [List.getLast?_concat] at notLast
    have different : other ≠ last := fun same =>
      notLast (congrArg some same.symm)
    rw [page_hungUp_concat, if_neg different]

theorem fullNext_hungUp_last :
    (heap.hungUp (initial ++ [last]) cursor world).fullNext heap.diskId
        last =
      cursor := by
  simp only [HeapWorld.fullNext]
  rw [page_hungUp_concat, if_pos rfl]
  exact pointerAt_write_self

theorem fullHead_hungUp_nil :
    (heap.hungUp [] cursor world).fullHead heap.diskId = cursor := by
  simp only [HeapWorld.fullHead]
  rw [page_hungUp_nil, if_pos rfl]
  exact pointerAt_write_self

theorem fullHead_hungUp_concat (notRoot : rootPage ≠ last) :
    (heap.hungUp (initial ++ [last]) cursor world).fullHead heap.diskId =
      world.fullHead heap.diskId := by
  simp only [HeapWorld.fullHead]
  rw [page_hungUp_concat, if_neg notRoot]

/-- The page hung up still ends the list. -/
theorem Unlisted.fullNext_hungUp
    (unlisted : Unlisted heap world pages cursor) :
    (heap.hungUp pages cursor world).fullNext heap.diskId cursor =
      -1 := by
  refine (Heap.fullNext_hungUp unlisted.notRoot ?_).trans unlisted.ends
  intro isLast
  exact unlisted.notMember (List.mem_of_getLast? isLast)

/-- The chain of the full list afterwards. -/
theorem FullPages.chain_hungUp
    (listed : FullPages base heap world pages)
    (unlisted : Unlisted heap world pages cursor) :
    Chain ((heap.hungUp pages cursor world).fullNext heap.diskId) (-1)
      ((heap.hungUp pages cursor world).fullHead heap.diskId)
      (pages ++ [cursor]) := by
  have ends := unlisted.fullNext_hungUp
  rcases List.eq_nil_or_concat' pages with
    nothing | ⟨initial, last, split⟩
  · subst nothing
    rw [fullHead_hungUp_nil]
    refine .node unlisted.isPage ?_
    rw [ends]
    exact .ends
  · subst split
    have lastNotRoot : rootPage ≠ last := by
      intro same
      exact listed.notRoot (by simp [same])
    rw [fullHead_hungUp_concat lastNotRoot]
    refine
      listed.chain.concat ?_ fullNext_hungUp_last unlisted.isPage ends
    intro member inInitial
    apply Heap.fullNext_hungUp
    · intro same
      exact listed.notRoot (by simp [← same, inInitial])
    · rw [List.getLast?_concat]
      intro same
      have apart := (List.nodup_append.mp listed.distinct).2.2
      exact apart member inInitial last List.mem_cons_self
        (Option.some.inj same).symm

/-- The list afterwards has the page at its end. -/
theorem FullPages.hungUp (listed : FullPages base heap world pages)
    (unlisted : Unlisted heap world pages cursor) :
    FullPages base heap (heap.hungUp pages cursor world)
      (pages ++ [cursor]) := by
  have chain := listed.chain_hungUp unlisted
  constructor
  · exact listed.room
  · exact chain
  · exact chain.nodup
  · intro member
    rcases List.mem_append.mp member with inPages | isCursor
    · exact listed.notRoot inPages
    · exact unlisted.notRoot (List.mem_singleton.mp isCursor).symm

end Append

/-- `append_to_full_pages` returns and appends the page to the full list; besides
the pointer that ended the list no byte of any page changes. -/
theorem appends_to_full_list {base : DiskManager} {heap : Heap}
    {before : HeapWorld} {pages : List DiskPageCursor}
    {cursor : DiskPageCursor}
    (listed : FullPages base heap before pages)
    (unlisted : Unlisted heap before pages cursor) :
    ∃ after,
      (∀ fuel ≥ pages.length,
          (heap.appendToFullPages fuel cursor).run (serveHeap base)
              before =
            (.done (), after)) ∧
        FullPages base heap after (pages ++ [cursor]) ∧
        (∀ file other place,
          ¬ (file = before.fileOf heap.diskId ∧
              other = (listEnd pages).1 ∧
              (listEnd pages).2.toNat ≤ place ∧
              place < (listEnd pages).2.toNat + 4) →
            after.pages file other place =
              before.pages file other place) ∧
        after.world = before.world ∧
        after.extended = before.extended := by
  refine ⟨heap.hungUp pages cursor before, ?_, listed.hungUp unlisted,
    ?_, rfl, rfl⟩
  · intro fuel enough
    exact listed.run_append enough
  · intro file other place outside
    exact HeapWorld.pages_write_outside outside

def twoFullPages (cursor : DiskPageCursor) : Memory :=
  if cursor = rootPage then
    Memory.write (fun _ => 0) 8 (pointerBytes 1)
  else if cursor = 1 then
    Memory.write (fun _ => 0) 4 (pointerBytes 2)
  else
    Memory.write (fun _ => 0) 4 (pointerBytes (-1))

def twoFullWorld : HeapWorld :=
  { secondWorld pageBase with pages := fun _ => twoFullPages }

/-- A third full page. -/
theorem appends_to_full_list_third :
    ∃ after,
      (∀ fuel ≥ 2,
          ((secondHeap 20).appendToFullPages fuel 3).run
              (serveHeap pageBase) twoFullWorld =
            (.done (), after)) ∧
        FullPages pageBase (secondHeap 20) after [1, 2, 3] := by
  have head : twoFullWorld.fullHead 1 = 1 := pointerAt_write_self
  have second : twoFullWorld.fullNext 1 1 = 2 := pointerAt_write_self
  have last : twoFullWorld.fullNext 1 2 = -1 := pointerAt_write_self
  have third : twoFullWorld.fullNext 1 3 = -1 := pointerAt_write_self
  have chain :
      Chain (twoFullWorld.fullNext 1) (-1) (twoFullWorld.fullHead 1)
        [1, 2] := by
    rw [head]
    refine .node (by decide) ?_
    rw [second]
    refine .node (by decide) ?_
    rw [last]
    exact .ends
  have listed :
      FullPages pageBase (secondHeap 20) twoFullWorld [1, 2] :=
    ⟨by decide, chain, chain.nodup, by decide⟩
  have unlisted : Unlisted (secondHeap 20) twoFullWorld [1, 2] 3 :=
    ⟨by decide, by decide, by decide, third⟩
  obtain ⟨after, returns, appended, _⟩ :=
    appends_to_full_list listed unlisted
  exact ⟨after, returns, appended⟩

end Heap

end Lewsql
