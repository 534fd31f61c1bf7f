import Lewsql.Interaction.Monitor
import Lewsql.Organizers.Heap

/-!
# The buffer-pool protocol of the heap

A monitor counts, along one call of the heap, the pins of every page and keeps
the pages that were written to and not marked dirty since.  All four member
functions pass it from a state without pins back to one, whatever the pages hold
and whatever the managers reply.
-/

namespace Lewsql

open Interaction

abbrev PageName := DiskId × DiskPageCursor

namespace HeapRequest

def accessed : HeapRequest → Option PageName
  | .readPage diskId cursor _ _ => some (diskId, cursor)
  | .writePage diskId cursor _ _ => some (diskId, cursor)
  | _ => none

def written : HeapRequest → Option PageName
  | .writePage diskId cursor _ _ => some (diskId, cursor)
  | _ => none

end HeapRequest

/-! ## The protocol -/

def pins (page : PageName) (trace : List HeapRequest) : Nat :=
  trace.count (.pin page.1 page.2)

def unpins (page : PageName) (trace : List HeapRequest) : Nat :=
  trace.count (.unpin page.1 page.2)

/-- The page has been pinned more often than unpinned. -/
def Pinned (page : PageName) (trace : List HeapRequest) : Prop :=
  unpins page trace < pins page trace

/-- Between a write to a page and the end, the page is marked dirty, and it was
pinned all the time from the write up to that. -/
def MarkedAfter (page : PageName) (written after : List HeapRequest) :
    Prop :=
  ∃ between rest,
    after = between ++ .setDirty page.1 page.2 :: rest ∧
      ∀ part, part <+: between → Pinned page (written ++ part)

/-- What the buffer manager expects of the requests of one call. -/
structure FollowsProtocol (trace : List HeapRequest) : Prop where
  accessed : ∀ before request after page,
    trace = before ++ request :: after →
      request.accessed = some page → Pinned page before
  neverMore : ∀ before after page,
    trace = before ++ after → unpins page before ≤ pins page before
  balanced : ∀ page, unpins page trace = pins page trace
  marked : ∀ before request after page,
    trace = before ++ request :: after →
      request.written = some page →
        MarkedAfter page (before ++ [request]) after

/-! ## The monitor -/

/-- The pins that are held, and the pages that are not marked yet. -/
structure PinWatch where
  pinned : List PageName
  pending : List PageName

namespace PinWatch

def Allows (watch : PinWatch) : HeapRequest → Prop
  | .unpin diskId cursor =>
      (diskId, cursor) ∈ watch.pinned ∧
        ((diskId, cursor) ∈ watch.pending →
          (diskId, cursor) ∈ watch.pinned.erase (diskId, cursor))
  | .setDirty diskId cursor => (diskId, cursor) ∈ watch.pinned
  | .readPage diskId cursor _ _ => (diskId, cursor) ∈ watch.pinned
  | .writePage diskId cursor _ _ => (diskId, cursor) ∈ watch.pinned
  | _ => True

def after (watch : PinWatch) : HeapRequest → PinWatch
  | .pin diskId cursor =>
      { watch with pinned := (diskId, cursor) :: watch.pinned }
  | .unpin diskId cursor =>
      { watch with pinned := watch.pinned.erase (diskId, cursor) }
  | .setDirty diskId cursor =>
      { watch with
        pending := watch.pending.filter (· ≠ (diskId, cursor)) }
  | .writePage diskId cursor _ _ =>
      { watch with pending := (diskId, cursor) :: watch.pending }
  | _ => watch

end PinWatch

def pinMonitor : Monitor heapCalls PinWatch where
  allowed := PinWatch.Allows
  next := PinWatch.after

/-- What the monitor knows of the requests so far. -/
structure Watched (trace : List HeapRequest) (watch : PinWatch) : Prop where
  accessed : ∀ before request after page,
    trace = before ++ request :: after →
      request.accessed = some page → Pinned page before
  neverMore : ∀ before after page,
    trace = before ++ after → unpins page before ≤ pins page before
  counted : ∀ page,
    pins page trace = unpins page trace + watch.pinned.count page
  marked : ∀ before request after page,
    trace = before ++ request :: after →
      request.written = some page →
        MarkedAfter page (before ++ [request]) after ∨
          page ∈ watch.pending ∧
            ∀ part, part <+: after →
              Pinned page (before ++ [request] ++ part)

namespace Watched

variable {trace : List HeapRequest} {watch : PinWatch}
variable {request : HeapRequest} {page : PageName}

theorem start : Watched [] ⟨[], []⟩ := by
  refine ⟨?_, ?_, fun page => rfl, ?_⟩
  · intro before request after page nothing
    exact absurd nothing (by simp)
  · intro before after page nothing
    rw [(List.append_eq_nil_iff.mp nothing.symm).1]
    exact Nat.le_refl 0
  · intro before request after page nothing
    exact absurd nothing (by simp)

theorem pinned_iff (watched : Watched trace watch) :
    Pinned page trace ↔ page ∈ watch.pinned := by
  have counted := watched.counted page
  rw [Pinned, ← List.count_pos_iff]
  omega

private theorem count_snoc (counted : HeapRequest) :
    (trace ++ [request]).count counted =
      trace.count counted + if request = counted then 1 else 0 := by
  rw [List.count_append, List.count_singleton]
  simp only [beq_iff_eq]

private theorem snoc_eq {before after : List HeapRequest}
    {first : HeapRequest}
    (same : trace ++ [request] = before ++ first :: after) :
    (before = trace ∧ first = request ∧ after = []) ∨
      ∃ shorter,
        after = shorter ++ [request] ∧
          trace = before ++ first :: shorter := by
  rcases List.eq_nil_or_concat' after with empty | ⟨shorter, last, rfl⟩
  · subst empty
    obtain ⟨traceEq, requestEq⟩ := List.append_inj' same rfl
    exact Or.inl ⟨traceEq.symm, (List.cons.inj requestEq).1.symm, rfl⟩
  · rw [← List.cons_append, ← List.append_assoc] at same
    obtain ⟨traceEq, requestEq⟩ := List.append_inj' same rfl
    exact Or.inr ⟨shorter, by rw [(List.cons.inj requestEq).1], traceEq⟩

/-- The counts after one more request. -/
theorem counted_snoc (watched : Watched trace watch)
    (allowed : watch.Allows request) (page : PageName) :
    pins page (trace ++ [request]) =
      unpins page (trace ++ [request]) +
        (watch.after request).pinned.count page := by
  have counted := watched.counted page
  simp only [pins, unpins] at counted ⊢
  rw [count_snoc, count_snoc]
  cases request with
  | pin diskId cursor =>
      have same : HeapRequest.pin diskId cursor = .pin page.1 page.2 ↔
          (diskId, cursor) = page := by
        rw [HeapRequest.pin.injEq, Prod.ext_iff]
      simp only [PinWatch.after, List.count_cons, beq_iff_eq, same,
        reduceCtorEq, if_false]
      omega
  | unpin diskId cursor =>
      have same : HeapRequest.unpin diskId cursor = .unpin page.1 page.2 ↔
          (diskId, cursor) = page := by
        rw [HeapRequest.unpin.injEq, Prod.ext_iff]
      have held : 0 < watch.pinned.count (diskId, cursor) :=
        List.count_pos_iff.mpr allowed.1
      simp only [PinWatch.after, List.count_erase, beq_iff_eq, same,
        reduceCtorEq, if_false]
      by_cases this : (diskId, cursor) = page
      · rw [this] at held
        simp only [this, if_true]
        omega
      · simp only [this, if_false]
        omega
  | create _ => simpa [PinWatch.after] using counted
  | load _ => simpa [PinWatch.after] using counted
  | unload _ => simpa [PinWatch.after] using counted
  | extend _ => simpa [PinWatch.after] using counted
  | setDirty _ _ => simpa [PinWatch.after] using counted
  | readPage _ _ _ _ => simpa [PinWatch.after] using counted
  | writePage _ _ _ _ => simpa [PinWatch.after] using counted

/-- A page that waits for its mark stays pinned over an allowed request. -/
theorem still_pinned (allowed : watch.Allows request)
    (held : page ∈ watch.pinned) (waits : page ∈ watch.pending) :
    page ∈ (watch.after request).pinned := by
  cases request with
  | pin diskId cursor => exact List.mem_cons_of_mem _ held
  | unpin diskId cursor =>
      by_cases this : page = (diskId, cursor)
      · rw [this] at waits ⊢
        exact allowed.2 waits
      · exact (List.mem_erase_of_ne this).mpr held
  | create _ => exact held
  | load _ => exact held
  | unload _ => exact held
  | extend _ => exact held
  | setDirty _ _ => exact held
  | readPage _ _ _ _ => exact held
  | writePage _ _ _ _ => exact held

/-- A page waits for its mark until `set_dirty`. -/
theorem still_pending
    (notMarked : request ≠ .setDirty page.1 page.2)
    (waits : page ∈ watch.pending) :
    page ∈ (watch.after request).pending := by
  cases request with
  | setDirty diskId cursor =>
      refine List.mem_filter.mpr ⟨waits, decide_eq_true ?_⟩
      intro same
      exact notMarked (by rw [same])
  | writePage _ _ _ _ => exact List.mem_cons_of_mem _ waits
  | create _ => exact waits
  | load _ => exact waits
  | unload _ => exact waits
  | extend _ => exact waits
  | pin _ _ => exact waits
  | unpin _ _ => exact waits
  | readPage _ _ _ _ => exact waits

/-- A page that is accessed is pinned, before and after. -/
theorem pinned_of_accessed (allowed : watch.Allows request)
    (accesses : request.accessed = some page) :
    page ∈ watch.pinned ∧ (watch.after request).pinned = watch.pinned := by
  cases request <;> cases accesses <;> exact ⟨allowed, rfl⟩

theorem accessed_of_written (watch : PinWatch)
    (writes : request.written = some page) :
    request.accessed = some page ∧
      page ∈ (watch.after request).pending := by
  cases request with
  | writePage diskId cursor offset bytes =>
      cases writes
      exact ⟨rfl, List.mem_cons_self⟩
  | _ => cases writes

/-- One more request. -/
theorem snoc (watched : Watched trace watch)
    (allowed : watch.Allows request) :
    Watched (trace ++ [request]) (watch.after request) := by
  have counted := watched.counted_snoc allowed
  have nowPinned (page : PageName)
      (held : page ∈ (watch.after request).pinned) :
      Pinned page (trace ++ [request]) := by
    have positive := List.count_pos_iff.mpr held
    have sum := counted page
    simp only [Pinned]
    omega
  refine ⟨?_, ?_, counted, ?_⟩
  · intro before first after page split accesses
    rcases snoc_eq split with ⟨rfl, rfl, _⟩ | ⟨shorter, _, traceEq⟩
    · exact watched.pinned_iff.mpr (pinned_of_accessed allowed accesses).1
    · exact watched.accessed _ _ _ _ traceEq accesses
  · intro before after page split
    rcases List.eq_nil_or_concat' after with empty | ⟨shorter, last, rfl⟩
    · rw [empty, List.append_nil] at split
      rw [← split, counted page]
      exact Nat.le_add_right _ _
    · rw [← List.append_assoc] at split
      exact watched.neverMore before shorter page
        (List.append_inj' split rfl).1
  · intro before first after page split writes
    rcases snoc_eq split with ⟨rfl, rfl, rfl⟩ | ⟨shorter, rfl, traceEq⟩
    · obtain ⟨accesses, waits⟩ := accessed_of_written watch writes
      obtain ⟨held, same⟩ := pinned_of_accessed allowed accesses
      refine Or.inr ⟨waits, ?_⟩
      intro part initial
      rw [List.prefix_nil.mp initial, List.append_nil]
      exact nowPinned page (by rw [same]; exact held)
    · rcases watched.marked _ _ _ _ traceEq writes with
        ⟨between, rest, rfl, along⟩ | ⟨waits, along⟩
      · exact Or.inl ⟨between, rest ++ [request], by simp, along⟩
      · by_cases marks : request = .setDirty page.1 page.2
        · subst marks
          exact Or.inl ⟨shorter, [], rfl, along⟩
        · have held : page ∈ watch.pinned := by
            rw [← watched.pinned_iff, traceEq]
            simpa using along shorter (List.prefix_refl _)
          refine Or.inr ⟨still_pending marks waits, ?_⟩
          intro part initial
          rcases List.prefix_concat_iff.mp initial with whole | proper
          · have ended := nowPinned page (still_pinned allowed held waits)
            rw [traceEq] at ended
            rw [whole]
            simpa using ended
          · exact along part proper

end Watched

/-- An accepted trace that ends without pins and without pages to be marked
follows the protocol. -/
theorem followsProtocol_of_accepts {trace : List HeapRequest}
    (accepted : pinMonitor.Accepts ⟨[], []⟩ trace ⟨[], []⟩) :
    FollowsProtocol trace := by
  have watched : Watched ([] ++ trace) ⟨[], []⟩ :=
    Monitor.Accepts.invariant
      (fun _ _ _ watched allowed => watched.snoc allowed)
      accepted Watched.start
  refine ⟨watched.accessed, watched.neverMore, ?_, ?_⟩
  · intro page
    exact (watched.counted page).symm
  · intro before request after page split writes
    rcases watched.marked _ _ _ _ split writes with marked | waits
    · exact marked
    · exact absurd waits.1 List.not_mem_nil

/-! ## The member functions -/

/-- The pins that are held, and pages among which the unmarked ones are. -/
structure Held (pinned pending : List PageName) (watch : PinWatch) :
    Prop where
  pins : watch.pinned = pinned
  waits : watch.pending ⊆ pending

namespace Held

variable {pinned pending : List PageName} {watch : PinWatch}
variable {diskId : DiskId} {cursor : DiskPageCursor} {page : BufferPage}

def nameOf (page : BufferPage) : PageName :=
  (page.diskId, page.diskPageCursor)

theorem pin (held : Held pinned pending watch) (diskId : DiskId)
    (cursor : DiskPageCursor) :
    pinMonitor.Passes (Lewsql.pin diskId cursor)
      (fun page after =>
        nameOf page = (diskId, cursor) ∧
          Held ((diskId, cursor) :: pinned) pending after)
      watch := by
  apply Monitor.passes_bind (Monitor.passes_perform True.intro fun _ => rfl)
  intro pageSize between reached
  subst reached
  refine Monitor.passes_done ⟨rfl, ?_, held.waits⟩
  exact congrArg ((diskId, cursor) :: ·) held.pins

theorem unpin (held : Held ((diskId, cursor) :: pinned) pending watch)
    (still : pending ⊆ pinned) :
    pinMonitor.Passes (Lewsql.unpin diskId cursor)
      (fun _ after => Held pinned pending after) watch := by
  have top : watch.pinned.erase (diskId, cursor) = pinned := by
    rw [held.pins, List.erase_cons_head]
  apply Monitor.passes_perform
  · constructor
    · rw [held.pins]
      exact List.mem_cons_self
    · intro waits
      rw [top]
      exact still (held.waits waits)
  · exact fun _ => ⟨top, held.waits⟩

theorem setDirty
    (held : Held pinned ((diskId, cursor) :: pending) watch)
    (inside : (diskId, cursor) ∈ pinned) :
    pinMonitor.Passes (Lewsql.setDirty diskId cursor)
      (fun _ after => Held pinned pending after) watch := by
  apply Monitor.passes_perform
  · change (diskId, cursor) ∈ watch.pinned
    rw [held.pins]
    exact inside
  · intro done
    refine ⟨held.pins, ?_⟩
    intro other member
    obtain ⟨waits, different⟩ := List.mem_filter.mp member
    rcases List.mem_cons.mp (held.waits waits) with same | earlier
    · exact absurd same (of_decide_eq_true different)
    · exact earlier

theorem inPage {Value : Type} {post : Value → PinWatch → Prop}
    (ended : ∀ content, post content watch) (content : Option Value) :
    pinMonitor.Passes (Lewsql.inPage content) post watch := by
  cases content with
  | some content => exact Monitor.passes_done (ended content)
  | none => exact Monitor.passes_crash

theorem attempt {Failure Value : Type} {post : Value → PinWatch → Prop}
    (failed : Failure → HeapFailure)
    (ended : ∀ content, post content watch)
    (content : Except Failure Value) :
    pinMonitor.Passes (Lewsql.attempt failed content) post watch := by
  cases content with
  | ok content => exact Monitor.passes_done (ended content)
  | error failure => exact Monitor.passes_crash

theorem unwrapped {Value : Type} {post : Value → PinWatch → Prop}
    (ended : ∀ content, post content watch)
    (content : DiskResult Value) :
    pinMonitor.Passes (Lewsql.unwrapped content) post watch := by
  cases content with
  | value content => exact Monitor.passes_done (ended content)
  | error failure => exact Monitor.passes_crash

theorem readBytes (held : Held pinned pending watch)
    (inside : nameOf page ∈ pinned) (offset count : Nat) :
    pinMonitor.Passes (page.readBytes offset count)
      (fun _ after => Held pinned pending after) watch := by
  have allowed : nameOf page ∈ watch.pinned := by
    rw [held.pins]
    exact inside
  apply Monitor.passes_bind
    (Monitor.passes_perform allowed fun _ => held)
  intro bytes between stillHeld
  exact inPage (fun _ => stillHeld) bytes

theorem writeBytes (held : Held pinned pending watch)
    (inside : nameOf page ∈ pinned) (offset : Nat) (bytes : List UInt8) :
    pinMonitor.Passes (page.writeBytes offset bytes)
      (fun _ after => Held pinned (nameOf page :: pending) after)
      watch := by
  have allowed : nameOf page ∈ watch.pinned := by
    rw [held.pins]
    exact inside
  have written :
      pinMonitor.Passes
        (heapCall
          (.writePage page.diskId page.diskPageCursor offset bytes))
        (fun _ after => Held pinned (nameOf page :: pending) after)
        watch :=
    Monitor.passes_perform allowed fun _ =>
      ⟨held.pins, List.cons_subset_cons _ held.waits⟩
  apply Monitor.passes_bind written
  intro done between nowHeld
  exact inPage (fun _ => nowHeld) done

theorem toPtr (held : Held pinned pending watch) (offset : UInt32) :
    pinMonitor.Passes (page.toPtr offset)
      (fun _ after => Held pinned pending after) watch := by
  simp only [BufferPage.toPtr]
  split
  · exact Monitor.passes_crash
  · exact Monitor.passes_done held

theorem loadInt32 (held : Held pinned pending watch)
    (inside : nameOf page ∈ pinned) (offset : UInt32) :
    pinMonitor.Passes (page.loadInt32 offset)
      (fun _ after => Held pinned pending after) watch := by
  apply Monitor.passes_bind (toPtr held offset)
  intro pointer between stillHeld
  apply Monitor.passes_bind (readBytes stillHeld inside pointer 4)
  intro bytes after nowHeld
  exact Monitor.passes_done nowHeld

theorem storeUInt32 (held : Held pinned pending watch)
    (inside : nameOf page ∈ pinned) (offset value : UInt32) :
    pinMonitor.Passes (page.storeUInt32 offset value)
      (fun _ after => Held pinned (nameOf page :: pending) after)
      watch := by
  apply Monitor.passes_bind (toPtr held offset)
  intro pointer between stillHeld
  exact writeBytes stillHeld inside pointer _

theorem serializeCells (cells : List Cell)
    (held : Held pinned (nameOf page :: pending) watch)
    (inside : nameOf page ∈ pinned) (cursor : Nat) :
    pinMonitor.Passes
      (Tuple.serializeCells page.writeBytes cells cursor)
      (fun _ after => Held pinned (nameOf page :: pending) after)
      watch := by
  induction cells generalizing cursor watch with
  | nil => exact Monitor.passes_done held
  | cons cell rest inductionHypothesis =>
      apply Monitor.passes_bind
        (writeBytes held inside cursor cell.bytes)
      intro done between nowHeld
      refine inductionHypothesis ⟨nowHeld.pins, ?_⟩ _
      intro name waits
      rcases List.mem_cons.mp (nowHeld.waits waits) with same | waits
      · exact same ▸ List.mem_cons_self
      · exact waits

theorem findFreePage (held : Held pinned pending watch)
    (still : pending ⊆ pinned) (heap : Heap) :
    pinMonitor.Passes heap.findFreePage
      (fun _ after => Held pinned pending after) watch := by
  apply Monitor.passes_bind (held.pin heap.diskId Heap.rootPage)
  intro page between ⟨name, nowHeld⟩
  have inside : nameOf page ∈ (heap.diskId, Heap.rootPage) :: pinned :=
    name ▸ List.mem_cons_self
  apply Monitor.passes_bind (nowHeld.loadInt32 inside _)
  intro freeList between nowHeld
  apply Monitor.passes_bind (nowHeld.unpin still)
  intro done after ended
  split
  · exact Monitor.passes_done ended
  · exact Monitor.passes_done ended

/-- The walk ends with the last page pinned and no other. -/
theorem lastFullPage (heap : Heap) (fuel : Nat) (cursor : DiskPageCursor)
    (held : Held pinned pending watch) (still : pending ⊆ pinned) :
    pinMonitor.Passes (heap.lastFullPage fuel cursor)
      (fun page after =>
        page.diskId = heap.diskId ∧
          Held (nameOf page :: pinned) pending after)
      watch := by
  induction fuel generalizing cursor watch with
  | zero => exact Monitor.passes_crash
  | succ fuel inductionHypothesis =>
      apply Monitor.passes_bind (held.pin heap.diskId cursor)
      intro page between ⟨name, nowHeld⟩
      rw [← name] at nowHeld
      apply Monitor.passes_bind
        (nowHeld.loadInt32 List.mem_cons_self _)
      intro next between nowHeld
      split
      · exact Monitor.passes_done ⟨congrArg Prod.fst name, nowHeld⟩
      · apply Monitor.passes_bind
          (nowHeld.loadInt32 List.mem_cons_self _)
        intro next between nowHeld
        rw [name] at nowHeld
        apply Monitor.passes_bind (nowHeld.unpin still)
        intro done after ended
        exact inductionHypothesis next ended

theorem endOfFullList (heap : Heap) (fuel : Nat)
    (held : Held pinned pending watch) (still : pending ⊆ pinned) :
    pinMonitor.Passes (heap.endOfFullList fuel)
      (fun last after =>
        last.1.diskId = heap.diskId ∧
          Held (nameOf last.1 :: pinned) pending after)
      watch := by
  apply Monitor.passes_bind (held.pin heap.diskId Heap.rootPage)
  intro page between ⟨name, nowHeld⟩
  rw [← name] at nowHeld
  apply Monitor.passes_bind (nowHeld.loadInt32 List.mem_cons_self _)
  intro fullList between nowHeld
  split
  · exact Monitor.passes_done ⟨congrArg Prod.fst name, nowHeld⟩
  · apply Monitor.passes_bind (nowHeld.loadInt32 List.mem_cons_self _)
    intro next between nowHeld
    rw [name] at nowHeld
    apply Monitor.passes_bind (nowHeld.unpin still)
    intro done between nowHeld
    apply Monitor.passes_bind
      (lastFullPage heap fuel next nowHeld still)
    intro last after ended
    exact Monitor.passes_done ended

theorem appendToFullPages (heap : Heap) (fuel : Nat)
    (cursor : DiskPageCursor) (held : Held pinned pending watch)
    (still : pending ⊆ pinned) :
    pinMonitor.Passes (heap.appendToFullPages fuel cursor)
      (fun _ after => Held pinned pending after) watch := by
  apply Monitor.passes_bind (endOfFullList heap fuel held still)
  intro last between ⟨onDisk, nowHeld⟩
  have name :
      nameOf last.1 = (heap.diskId, last.1.diskPageCursor) := by
    rw [nameOf, onDisk]
  apply Monitor.passes_bind
    (nowHeld.storeUInt32 List.mem_cons_self last.2 _)
  intro done between nowHeld
  rw [name] at nowHeld
  apply Monitor.passes_bind (nowHeld.setDirty List.mem_cons_self)
  intro done between nowHeld
  exact nowHeld.unpin still

theorem extendFreeList (heap : Heap) (held : Held pinned pending watch)
    (still : pending ⊆ pinned) :
    pinMonitor.Passes heap.extendFreeList
      (fun _ after => Held pinned pending after) watch := by
  have asked :
      pinMonitor.Passes (heapCall (.extend heap.diskId))
        (fun _ after => Held pinned pending after) watch :=
    Monitor.passes_perform True.intro fun _ => held
  apply Monitor.passes_bind asked
  intro reply between nowHeld
  apply Monitor.passes_bind (attempt _ (fun _ => nowHeld) reply)
  intro extended between nowHeld
  apply Monitor.passes_bind (unwrapped (fun _ => nowHeld) extended)
  intro freeDiskPage between nowHeld
  apply Monitor.passes_bind (nowHeld.pin heap.diskId Heap.rootPage)
  intro page between ⟨name, nowHeld⟩
  rw [← name] at nowHeld
  apply Monitor.passes_bind
    (nowHeld.storeUInt32 List.mem_cons_self _ _)
  intro done between nowHeld
  rw [name] at nowHeld
  apply Monitor.passes_bind (nowHeld.setDirty List.mem_cons_self)
  intro done between nowHeld
  apply Monitor.passes_bind (nowHeld.unpin still)
  intro done after ended
  exact Monitor.passes_done ended

theorem pageToUse (heap : Heap) (held : Held pinned pending watch)
    (still : pending ⊆ pinned) :
    pinMonitor.Passes heap.pageToUse
      (fun _ after => Held pinned pending after) watch := by
  apply Monitor.passes_bind (findFreePage held still heap)
  intro freePage between nowHeld
  cases freePage with
  | none => exact extendFreeList heap nowHeld still
  | some freePage => exact Monitor.passes_done nowHeld

theorem placeTuple (heap : Heap) (storage : UInt32 → Nat) (tuple : Tuple)
    (held : Held pinned pending watch) (inside : nameOf page ∈ pinned) :
    pinMonitor.Passes (heap.placeTuple storage tuple page)
      (fun _ after => Held pinned (nameOf page :: pending) after)
      watch := by
  apply Monitor.passes_bind (attempt _ (fun _ => held) _)
  intro bitmap between nowHeld
  apply Monitor.passes_bind (nowHeld.readBytes inside _ _)
  intro bytes between nowHeld
  apply Monitor.passes_bind (attempt _ (fun _ => nowHeld) _)
  intro bitmap between nowHeld
  apply Monitor.passes_bind (attempt _ (fun _ => nowHeld) _)
  intro taken between nowHeld
  apply Monitor.passes_bind (attempt _ (fun _ => nowHeld) _)
  intro bytes between nowHeld
  apply Monitor.passes_bind (nowHeld.writeBytes inside _ _)
  intro done between nowHeld
  apply Monitor.passes_bind
    (serializeCells tuple.cells nowHeld inside _)
  intro done after ended
  exact Monitor.passes_done ended

theorem moveIfFull (heap : Heap) (fuel : Nat) (cursor : DiskPageCursor)
    (bitmap : Bitmap) (held : Held pinned pending watch)
    (still : pending ⊆ pinned) :
    pinMonitor.Passes (heap.moveIfFull fuel cursor bitmap)
      (fun _ after => Held pinned pending after) watch := by
  apply Monitor.passes_bind (attempt _ (fun _ => held) _)
  intro numFreeBits between nowHeld
  split
  · exact appendToFullPages heap fuel cursor nowHeld still
  · exact Monitor.passes_done nowHeld

theorem insertTuple (heap : Heap) (storage : UInt32 → Nat) (fuel : Nat)
    (tuple : Tuple) (held : Held [] [] watch) :
    pinMonitor.Passes (heap.insertTuple storage fuel tuple)
      (fun _ after => Held [] [] after) watch := by
  apply Monitor.passes_bind
    (pageToUse heap held (List.Subset.refl []))
  intro freeDiskPage between nowHeld
  split
  · exact Monitor.passes_crash
  · apply Monitor.passes_bind (nowHeld.pin heap.diskId freeDiskPage)
    intro page between ⟨name, nowHeld⟩
    rw [← name] at nowHeld
    apply Monitor.passes_bind
      (placeTuple heap storage tuple nowHeld List.mem_cons_self)
    intro bitmap between nowHeld
    apply Monitor.passes_bind
      (moveIfFull heap fuel freeDiskPage bitmap nowHeld
        (List.Subset.refl _))
    intro done between nowHeld
    rw [name] at nowHeld
    apply Monitor.passes_bind (nowHeld.setDirty List.mem_cons_self)
    intro done between nowHeld
    exact nowHeld.unpin (List.Subset.refl [])

theorem writeRoot (diskId : DiskId) (held : Held [] [] watch) :
    pinMonitor.Passes (Heap.writeRoot diskId)
      (fun _ after => Held [] [] after) watch := by
  apply Monitor.passes_bind (held.pin diskId Heap.rootPage)
  intro page between ⟨name, nowHeld⟩
  rw [← name] at nowHeld
  apply Monitor.passes_bind
    (nowHeld.storeUInt32 List.mem_cons_self _ _)
  intro done between nowHeld
  apply Monitor.passes_bind
    (nowHeld.storeUInt32 List.mem_cons_self _ _)
  intro done between nowHeld
  apply Monitor.passes_bind
    (nowHeld.storeUInt32 List.mem_cons_self _ _)
  intro done between nowHeld
  have marked :
      Held [(diskId, Heap.rootPage)] [(diskId, Heap.rootPage)]
        between := by
    rw [name] at nowHeld
    refine ⟨nowHeld.pins, ?_⟩
    intro other waits
    have listed := nowHeld.waits waits
    simp only [List.mem_cons, List.not_mem_nil, or_false, or_self]
      at listed
    exact List.mem_singleton.mpr listed
  apply Monitor.passes_bind (marked.setDirty List.mem_cons_self)
  intro done between nowHeld
  exact nowHeld.unpin (List.Subset.refl [])

theorem construct (tableName : String) (pageSize : UInt32)
    (held : Held [] [] watch) :
    pinMonitor.Passes (Heap.construct tableName pageSize)
      (fun _ after => Held [] [] after) watch := by
  have asked (request : HeapRequest)
      (same : ∀ between : PinWatch, between.after request = between)
      (free : ∀ between : PinWatch, between.Allows request)
      {between : PinWatch} (nowHeld : Held [] [] between) :
      pinMonitor.Passes (heapCall request)
        (fun _ after => Held [] [] after) between :=
    Monitor.passes_perform (free between) fun _ => by
      change Held [] [] (between.after request)
      rw [same]
      exact nowHeld
  apply Monitor.passes_bind
    (asked (.create (tableName ++ Heap.heapDiskSuffix))
      (fun _ => rfl) (fun _ => True.intro) held)
  intro reply between nowHeld
  apply Monitor.passes_bind (attempt _ (fun _ => nowHeld) reply)
  intro created between nowHeld
  have named :
      pinMonitor.Passes
        (created.valueOr fun _ => do
          let loaded : DiskResult DiskId ←
            Lewsql.attempt .diskManager
              (← heapCall (.load (tableName ++ Heap.heapDiskSuffix)))
          Lewsql.unwrapped loaded)
        (fun _ after => Held [] [] after) between := by
    cases created with
    | value diskId => exact Monitor.passes_done nowHeld
    | error failure =>
        apply Monitor.passes_bind
          (asked (.load (tableName ++ Heap.heapDiskSuffix))
            (fun _ => rfl) (fun _ => True.intro) nowHeld)
        intro reply between nowHeld
        apply Monitor.passes_bind (attempt _ (fun _ => nowHeld) reply)
        intro loaded between nowHeld
        exact unwrapped (fun _ => nowHeld) loaded
  apply Monitor.passes_bind named
  intro diskId between nowHeld
  apply Monitor.passes_bind (writeRoot diskId nowHeld)
  intro done after ended
  exact Monitor.passes_done ended

end Held

inductive HeapCall where
  | construct (tableName : String) (pageSize : UInt32)
  | findFreePage (heap : Heap)
  | appendToFullPages (heap : Heap) (fuel : Nat)
      (diskPageCursor : DiskPageCursor)
  | insertTuple (heap : Heap) (storage : UInt32 → Nat) (fuel : Nat)
      (tuple : Tuple)

def HeapCall.Value : HeapCall → Type
  | .construct _ _ => Heap
  | .findFreePage _ => Option UInt32
  | .appendToFullPages _ _ _ => Unit
  | .insertTuple _ _ _ _ => Unit

def HeapCall.program : (call : HeapCall) → HeapEffect call.Value
  | .construct tableName pageSize => Heap.construct tableName pageSize
  | .findFreePage heap => heap.findFreePage
  | .appendToFullPages heap fuel diskPageCursor =>
      heap.appendToFullPages fuel diskPageCursor
  | .insertTuple heap storage fuel tuple =>
      heap.insertTuple storage fuel tuple

theorem HeapCall.passes (call : HeapCall) :
    pinMonitor.Passes call.program
      (fun _ after => Held [] [] after) ⟨[], []⟩ := by
  have start : Held [] [] ⟨[], []⟩ := ⟨rfl, List.Subset.refl []⟩
  cases call with
  | construct tableName pageSize =>
      exact Held.construct tableName pageSize start
  | findFreePage heap =>
      exact Held.findFreePage start (List.Subset.refl []) heap
  | appendToFullPages heap fuel cursor =>
      exact Held.appendToFullPages heap fuel cursor start
        (List.Subset.refl [])
  | insertTuple heap storage fuel tuple =>
      exact Held.insertTuple heap storage fuel tuple start

/-- In any surroundings, the requests of a member function that returned follow
the protocol of the buffer manager. -/
theorem heap_follows_pin_protocol {State : Type}
    {env : Transition heapCalls State} {call : HeapCall}
    {state last : State} {moves : List (Move heapCalls State)}
    {value : call.Value}
    (course :
      Execution env call.program state moves (.done value) last) :
    FollowsProtocol (moves.map Move.request) := by
  obtain ⟨final, accepted, ended⟩ :=
    Monitor.accepts_of_passes course call.passes
  have nothing : final = ⟨[], []⟩ := by
    obtain ⟨pinned, pending⟩ := final
    have empty := List.subset_nil.mp ended.waits
    exact congrArg₂ PinWatch.mk ended.pins empty
  rw [nothing] at accepted
  exact followsProtocol_of_accepts accepted

def onesHandler : Handler heapCalls Unit
  | .create _, _ => (.ok (.value 0), ())
  | .load _, _ => (.ok (.value 0), ())
  | .unload _, _ => (.ok .ok, ())
  | .extend _, _ => (.ok (.value 1), ())
  | .pin _ _, _ => ((4096 : UInt32), ())
  | .unpin _ _, _ => ((), ())
  | .setDirty _ _, _ => ((), ())
  | .readPage _ _ _ count, _ => (some (List.replicate count 255), ())
  | .writePage _ _ _ _, _ => (some (), ())

/-- A heap that is opened, and a page that is appended to its empty full list. -/
theorem heap_follows_pin_protocol_ones :
    (∃ moves,
      Execution onesHandler.transition
          (HeapCall.construct "t" 4096).program () moves
          (.done ⟨"t.heap", 0, 4096⟩) () ∧
        FollowsProtocol (moves.map Move.request)) ∧
      ∃ moves,
        Execution onesHandler.transition
            (HeapCall.appendToFullPages ⟨"t.heap", 0, 4096⟩ 1 7).program ()
            moves (.done ()) () ∧
          FollowsProtocol (moves.map Move.request) := by
  obtain ⟨opening, opened⟩ :=
    Program.run_execution onesHandler
      (HeapCall.construct "t" 4096).program ()
  obtain ⟨appending, appended⟩ :=
    Program.run_execution onesHandler
      (HeapCall.appendToFullPages ⟨"t.heap", 0, 4096⟩ 1 7).program ()
  have constructed :
      (HeapCall.construct "t" 4096).program.run onesHandler () =
        (.done ⟨"t.heap", 0, 4096⟩, ()) := rfl
  have walked :
      (HeapCall.appendToFullPages ⟨"t.heap", 0, 4096⟩ 1 7).program.run
          onesHandler () =
        (.done (), ()) := rfl
  rw [constructed] at opened
  rw [walked] at appended
  exact ⟨⟨opening, opened, heap_follows_pin_protocol opened⟩,
    appending, appended, heap_follows_pin_protocol appended⟩

end Lewsql
