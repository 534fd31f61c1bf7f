import Lewsql.Organizers.PinProtocol

/-!
# Accesses through `to_ptr`

`to_ptr` looks at the first byte of an access only.  The pointers of the heap have
four bytes, at the offsets 0, 4 and 8, so an access to one can begin in a page and
end behind it when the page is smaller than its header.
-/

namespace Lewsql

open Interaction Bytes

/-- An access that begins inside a page and ends outside. -/
def Straddles (width : Nat) (pageSize offset : UInt32) : Prop :=
  offset < pageSize ∧ pageSize.toNat < offset.toNat + width

/-- A pointer that `to_ptr` returns leaves room for a value of `width` bytes, and
where it returns none it throws. -/
structure TypedAccessStays (width : Nat) (page : BufferPage)
    (offset : UInt32) : Prop where
  stays : ∀ pointer, page.toPtr offset = pure pointer →
    ∀ place, pointer ≤ place → place < pointer + width →
      place < page.pageSize.toNat
  throws : (∀ pointer, page.toPtr offset ≠ pure pointer) →
    page.toPtr offset = crash (.thrown .outOfPageBounds)

theorem not_straddles_iff {width : Nat} {pageSize offset : UInt32} :
    ¬ Straddles width pageSize offset ↔
      (offset < pageSize → offset.toNat + width ≤ pageSize.toNat) := by
  simp only [Straddles]
  rw [not_and, Nat.not_lt]

theorem typedAccessStays_iff (width : Nat) (page : BufferPage)
    (offset : UInt32) :
    TypedAccessStays width page offset ↔
      ¬ Straddles width page.pageSize offset := by
  by_cases behind : offset ≥ page.pageSize
  · have thrown :
        page.toPtr offset = crash (.thrown .outOfPageBounds) :=
      if_pos behind
    refine iff_of_true ⟨?_, fun _ => thrown⟩ ?_
    · intro pointer returned
      rw [thrown] at returned
      cases returned
    · intro straddles
      exact absurd straddles.1 (UInt32.not_lt.mpr behind)
  · have returned : page.toPtr offset = pure offset.toNat :=
      if_neg behind
    have inside := UInt32.not_le.mp behind
    constructor
    · intro access straddles
      have below := UInt32.lt_iff_toNat_lt.mp inside
      have last :=
        access.stays _ returned page.pageSize.toNat (Nat.le_of_lt below)
          straddles.2
      exact absurd last (Nat.lt_irrefl _)
    · intro fits
      constructor
      · intro pointer same place _ below
        rw [returned] at same
        cases same
        have enough := not_straddles_iff.mp fits inside
        omega
      · intro none
        exact absurd returned (none _)

/-! ## Courses over pages of one size -/

/-- The bytes that a request reads or writes lie in a page of this size. -/
def HeapRequest.WithinPage (pageSize : UInt32) : HeapRequest → Prop
  | .readPage _ _ offset count => offset + count ≤ pageSize.toNat
  | .writePage _ _ offset bytes =>
      offset + bytes.length ≤ pageSize.toNat
  | _ => True

def PagesOf {State : Type} (pageSize : UInt32)
    (env : Transition heapCalls State) : Prop :=
  ∀ before diskId cursor (reply : UInt32) after,
    env before (.pin diskId cursor) reply after → reply = pageSize

/-- The moves of a call that do not go through `to_ptr`: those with which
`insert_tuple` works on the bitmap and the tuple of a page. -/
def HeapCall.Places {State : Type} (env : Transition heapCalls State) :
    HeapCall → List (Move heapCalls State) → Prop
  | .insertTuple heap storage _ tuple, moves =>
      moves = [] ∨ ∃ page before outcome after,
        Execution env (heap.placeTuple storage tuple page) before moves
          outcome after
  | _, moves => moves = []

/-- Moves that stay in their pages, around some others. -/
def StayAround {State : Type} (pageSize : UInt32)
    (others : List (Move heapCalls State) → Prop)
    (moves : List (Move heapCalls State)) : Prop :=
  ∃ first placed rest,
    moves = first ++ placed ++ rest ∧ others placed ∧
      ∀ move ∈ first ++ rest, move.request.WithinPage pageSize

/-- On pages of this size, in any surroundings, every access of a call through
`to_ptr` lies in the page. -/
def ListAccessesStay (pageSize : UInt32) (call : HeapCall) : Prop :=
  ∀ (State : Type) (env : Transition heapCalls State),
    PagesOf pageSize env → ∀ state moves outcome last,
      Execution env call.program state moves outcome last →
        StayAround pageSize (call.Places env) moves

def anyReplies (pageSize : UInt32) : Transition heapCalls Unit
  | _, .pin _ _, reply, _ => reply = pageSize
  | _, _, _, _ => True

/-- Every request stays in the page, and a returned value satisfies `post`. -/
def Stays {Value : Type} (pageSize : UInt32)
    (program : HeapEffect Value) (post : Value → Prop) : Prop :=
  program.wp (anyReplies pageSize)
    (fun _ request _ _ => request.WithinPage pageSize)
    (fun outcome _ =>
      match outcome with
      | .done value => post value
      | .crashed _ => True)
    ()

namespace Stays

variable {Value Next : Type} {pageSize : UInt32}
variable {program : HeapEffect Value} {post other : Value → Prop}

theorem bind_iff {next : Value → HeapEffect Next} {post : Next → Prop} :
    Stays pageSize (program >>= next) post ↔
      Stays pageSize program fun value =>
        Stays pageSize (next value) post := by
  apply (Program.wp_bind program next _ ()).trans
  constructor
  · intro safe
    apply Program.wp_consequence safe
    intro outcome _ ended
    cases outcome with
    | done value => exact ended
    | crashed reason => exact True.intro
  · intro safe
    apply Program.wp_consequence safe
    intro outcome _ ended
    cases outcome with
    | done value => exact ended
    | crashed reason => exact True.intro

theorem mono (safe : Stays pageSize program post)
    (weaker : ∀ value, post value → other value) :
    Stays pageSize program other := by
  apply Program.wp_consequence safe
  intro outcome _ ended
  cases outcome with
  | done value => exact weaker value ended
  | crashed reason => exact True.intro

theorem done {value : Value} (ended : post value) :
    Stays pageSize (.done value) post :=
  ended

theorem crash {reason : HeapFailure} :
    Stays pageSize (.crash reason) post :=
  True.intro

theorem bind {next : Value → HeapEffect Next} {last : Next → Prop}
    (first : Stays pageSize program post)
    (rest : ∀ value, post value → Stays pageSize (next value) last) :
    Stays pageSize (program >>= next) last :=
  bind_iff.mpr (first.mono rest)

/-- A call of a manager that does not access a page. -/
theorem call {request : HeapRequest} (within : request.WithinPage pageSize) :
    Stays pageSize (heapCall request) fun _ => True :=
  fun _ _ _ => ⟨within, True.intro⟩

theorem attempt {Failure : Type} (failed : Failure → HeapFailure)
    (content : Except Failure Value) :
    Stays pageSize (Lewsql.attempt failed content) fun _ => True := by
  cases content with
  | ok content => exact True.intro
  | error failure => exact True.intro

theorem unwrapped (result : DiskResult Value) :
    Stays pageSize (Lewsql.unwrapped result) fun _ => True := by
  cases result with
  | value content => exact True.intro
  | error failure => exact True.intro

section Accesses

variable {diskId : DiskId} {cursor : DiskPageCursor}
variable {offset value : UInt32}

theorem pin_iff {post : BufferPage → Prop} :
    Stays pageSize (pin diskId cursor) post ↔
      post ⟨diskId, cursor, pageSize⟩ := by
  constructor
  · intro safe
    exact (safe pageSize () rfl).2
  · intro ended reply after same
    cases same
    exact ⟨True.intro, ended⟩

theorem unpin :
    Stays pageSize (Lewsql.unpin diskId cursor) fun _ => True :=
  call True.intro

theorem setDirty :
    Stays pageSize (Lewsql.setDirty diskId cursor) fun _ => True :=
  call True.intro

theorem readBytes_iff {start count : Nat} {post : List UInt8 → Prop} :
    Stays pageSize
        ((⟨diskId, cursor, pageSize⟩ : BufferPage).readBytes start count)
        post ↔
      start + count ≤ pageSize.toNat ∧ ∀ bytes, post bytes := by
  constructor
  · intro safe
    refine ⟨(safe (none : Option (List UInt8)) () True.intro).1, ?_⟩
    intro bytes
    exact (safe (some bytes : Option (List UInt8)) () True.intro).2
  · intro both reply after _
    refine ⟨both.1, ?_⟩
    cases (reply : Option (List UInt8)) with
    | none => exact True.intro
    | some bytes => exact both.2 bytes

theorem writeBytes_iff {start : Nat} {bytes : List UInt8}
    {post : Unit → Prop} :
    Stays pageSize
        ((⟨diskId, cursor, pageSize⟩ : BufferPage).writeBytes start bytes)
        post ↔
      start + bytes.length ≤ pageSize.toNat ∧ post () := by
  constructor
  · intro safe
    exact safe (some () : Option Unit) () True.intro
  · intro both reply after _
    refine ⟨both.1, ?_⟩
    cases (reply : Option Unit) with
    | none => exact True.intro
    | some _ => exact both.2

theorem toPtr_iff {post : Nat → Prop} :
    Stays pageSize
        ((⟨diskId, cursor, pageSize⟩ : BufferPage).toPtr offset) post ↔
      (offset < pageSize → post offset.toNat) := by
  by_cases behind : offset ≥ pageSize
  · have thrown :
        (⟨diskId, cursor, pageSize⟩ : BufferPage).toPtr offset =
          .crash (.thrown .outOfPageBounds) :=
      if_pos behind
    rw [thrown]
    refine iff_of_true True.intro ?_
    intro inside
    exact absurd inside (UInt32.not_lt.mpr behind)
  · have returned :
        (⟨diskId, cursor, pageSize⟩ : BufferPage).toPtr offset =
          .done offset.toNat :=
      if_neg behind
    rw [returned]
    exact (imp_iff_right (UInt32.not_le.mp behind)).symm

theorem loadInt32_iff {post : Int32 → Prop} :
    Stays pageSize
        ((⟨diskId, cursor, pageSize⟩ : BufferPage).loadInt32 offset)
        post ↔
      (offset < pageSize →
        offset.toNat + 4 ≤ pageSize.toNat ∧
          ∀ bytes,
            post (UInt32.ofNat (ofLittleEndian bytes)).toInt32) := by
  simp only [BufferPage.loadInt32]
  rw [bind_iff, toPtr_iff]
  apply imp_congr_right
  intro _
  rw [bind_iff, readBytes_iff]
  rfl

theorem storeUInt32_iff {post : Unit → Prop} :
    Stays pageSize
        ((⟨diskId, cursor, pageSize⟩ : BufferPage).storeUInt32 offset
          value)
        post ↔
      (offset < pageSize →
        offset.toNat + 4 ≤ pageSize.toNat ∧ post ()) := by
  simp only [BufferPage.storeUInt32]
  rw [bind_iff, toPtr_iff]
  apply imp_congr_right
  intro _
  rw [writeBytes_iff, length_littleEndian]

theorem storeUInt32 (fits : ¬ Straddles 4 pageSize offset) :
    Stays pageSize
      ((⟨diskId, cursor, pageSize⟩ : BufferPage).storeUInt32 offset value)
      fun _ => True :=
  storeUInt32_iff.mpr fun inside =>
    ⟨not_straddles_iff.mp fits inside, True.intro⟩

end Accesses

/-! ## The member functions -/

section Members

variable (heap : Heap)

theorem findFreePage_iff :
    Stays pageSize heap.findFreePage (fun _ => True) ↔
      ¬ Straddles 4 pageSize Heap.firstPageFreeListOffset := by
  simp only [Heap.findFreePage]
  rw [bind_iff, pin_iff, bind_iff, loadInt32_iff, not_straddles_iff]
  constructor
  · intro safe inside
    exact (safe inside).1
  · intro fits inside
    refine ⟨fits inside, ?_⟩
    intro bytes
    apply bind unpin
    intro _ _
    split
    · exact done True.intro
    · exact done True.intro

/-- The walk pins pages of the one size, and reads pointers that fit. -/
theorem lastFullPage (fits : ¬ Straddles 4 pageSize Heap.fullListOffset)
    (fuel : Nat) (cursor : DiskPageCursor) :
    Stays pageSize (heap.lastFullPage fuel cursor)
      (fun page => page.pageSize = pageSize) := by
  induction fuel generalizing cursor with
  | zero => exact crash
  | succ fuel inductionHypothesis =>
      rw [Heap.lastFullPage, bind_iff, pin_iff, bind_iff, loadInt32_iff]
      intro inside
      refine ⟨not_straddles_iff.mp fits inside, ?_⟩
      intro bytes
      split
      · exact done rfl
      · rw [bind_iff, loadInt32_iff]
        intro inside
        refine ⟨not_straddles_iff.mp fits inside, ?_⟩
        intro next
        apply bind unpin
        intro _ _
        exact inductionHypothesis _

/-- A root page that holds the full-list pointer holds the one of any other
page. -/
theorem endOfFullList (room : 12 ≤ pageSize.toNat) (fuel : Nat) :
    Stays pageSize (heap.endOfFullList fuel)
      (fun last =>
        last.1.pageSize = pageSize ∧
          ¬ Straddles 4 pageSize last.2) := by
  have fitsRoot : ¬ Straddles 4 pageSize Heap.firstPageFullListOffset :=
    not_straddles_iff.mpr fun _ => room
  have fitsOther : ¬ Straddles 4 pageSize Heap.fullListOffset :=
    not_straddles_iff.mpr fun _ => Nat.le_of_add_left_le (k := 4) room
  simp only [Heap.endOfFullList]
  rw [bind_iff, pin_iff, bind_iff, loadInt32_iff]
  intro inside
  refine ⟨room, ?_⟩
  intro bytes
  split
  · exact done ⟨rfl, fitsRoot⟩
  · rw [bind_iff, loadInt32_iff]
    intro inside
    refine ⟨room, ?_⟩
    intro first
    apply bind unpin
    intro _ _
    apply bind (lastFullPage heap fitsOther fuel _)
    intro page size
    exact done ⟨size, fitsOther⟩

theorem appendToFullPages_iff (fuel : Nat) (cursor : DiskPageCursor) :
    Stays pageSize (heap.appendToFullPages fuel cursor) (fun _ => True) ↔
      ¬ Straddles 4 pageSize Heap.firstPageFullListOffset := by
  rw [not_straddles_iff]
  constructor
  · intro safe inside
    simp only [Heap.appendToFullPages, Heap.endOfFullList] at safe
    rw [bind_iff, bind_iff, pin_iff, bind_iff, loadInt32_iff] at safe
    exact (safe inside).1
  · intro fits
    by_cases inside : Heap.firstPageFullListOffset < pageSize
    · apply bind (endOfFullList heap (fits inside) fuel)
      intro ⟨⟨diskId, last, size⟩, offset⟩ ⟨same, fitsLast⟩
      cases same
      apply bind (storeUInt32 fitsLast)
      intro _ _
      apply bind setDirty
      intro _ _
      exact unpin
    · simp only [Heap.appendToFullPages, Heap.endOfFullList]
      rw [bind_iff, bind_iff, pin_iff, bind_iff, loadInt32_iff]
      intro below
      exact absurd below inside

theorem extendFreeList
    (fits : ¬ Straddles 4 pageSize Heap.firstPageFreeListOffset) :
    Stays pageSize heap.extendFreeList fun _ => True := by
  have asked :
      Stays pageSize (heapCall (.extend heap.diskId)) fun _ => True :=
    call True.intro
  apply bind asked
  intro reply _
  apply bind (attempt _ reply)
  intro extended _
  apply bind (unwrapped extended)
  intro freeDiskPage _
  rw [bind_iff, pin_iff]
  apply bind (storeUInt32 fits)
  intro _ _
  apply bind setDirty
  intro _ _
  apply bind unpin
  intro _ _
  exact done True.intro

theorem pageToUse
    (fits : ¬ Straddles 4 pageSize Heap.firstPageFreeListOffset) :
    Stays pageSize heap.pageToUse fun _ => True := by
  apply bind ((findFreePage_iff heap).mpr fits)
  intro freePage _
  cases freePage with
  | none => exact extendFreeList heap fits
  | some freePage => exact done True.intro

theorem moveIfFull
    (fits : ¬ Straddles 4 pageSize Heap.firstPageFullListOffset)
    (fuel : Nat) (freeDiskPage : DiskPageCursor) (bitmap : Bitmap) :
    Stays pageSize (heap.moveIfFull fuel freeDiskPage bitmap)
      fun _ => True := by
  apply bind (attempt _ _)
  intro numFreeBits _
  split
  · exact (appendToFullPages_iff heap fuel freeDiskPage).mpr fits
  · exact done True.intro

/-- The header of a root page, one pointer behind the other. -/
private theorem writeRoot_iff (diskId : DiskId) :
    Stays pageSize (Heap.writeRoot diskId) (fun _ => True) ↔
      pageSize.toNat % 4 = 0 ∨ 12 ≤ pageSize.toNat := by
  simp only [Heap.writeRoot, BufferPage.storeInt32]
  rw [bind_iff, pin_iff, bind_iff, storeUInt32_iff, bind_iff,
    storeUInt32_iff, bind_iff, storeUInt32_iff]
  have marked :
      Stays pageSize
        (do
          Lewsql.setDirty diskId Heap.rootPage
          Lewsql.unpin diskId Heap.rootPage)
        (fun _ => True) := by
    apply bind setDirty
    intro _ _
    exact unpin
  rw [and_iff_left marked]
  simp only [UInt32.lt_iff_toNat_lt]
  change (0 < _ → 0 + 4 ≤ _ ∧ (4 < _ → 4 + 4 ≤ _ ∧ (8 < _ → 8 + 4 ≤ _))) ↔ _
  omega

theorem construct_iff (tableName : String) (heapPageSize : UInt32) :
    Stays pageSize (Heap.construct tableName heapPageSize)
        (fun _ => True) ↔
      pageSize.toNat % 4 = 0 ∨ 12 ≤ pageSize.toNat := by
  have asked (request : HeapRequest)
      (within : request.WithinPage pageSize) :
      Stays pageSize (heapCall request) fun _ => True :=
    call within
  constructor
  · intro safe
    rw [Heap.construct, bind_iff] at safe
    have opened :
        Stays pageSize
          (Heap.writeRoot 0 >>= fun _ =>
            Program.done (Heap.mk (tableName ++ Heap.heapDiskSuffix) 0
              heapPageSize))
          (fun _ => True) :=
      (safe (.ok (.value 0) : Except Crash (DiskResult DiskId)) ()
        True.intro).2
    exact (writeRoot_iff 0).mp
      ((bind_iff.mp opened).mono fun _ _ => True.intro)
  · intro fits
    apply bind (asked (.create (tableName ++ Heap.heapDiskSuffix)) True.intro)
    intro reply _
    apply bind (attempt _ reply)
    intro created _
    have named :
        Stays pageSize
          (created.valueOr fun _ => do
            let loaded : DiskResult DiskId ←
              Lewsql.attempt .diskManager
                (← heapCall (.load (tableName ++ Heap.heapDiskSuffix)))
            Lewsql.unwrapped loaded)
          fun _ => True := by
      cases created with
      | value diskId => exact done True.intro
      | error failure =>
          apply bind
            (asked (.load (tableName ++ Heap.heapDiskSuffix)) True.intro)
          intro reply _
          apply bind (attempt _ reply)
          intro loaded _
          exact unwrapped loaded
    apply bind named
    intro diskId _
    apply bind ((writeRoot_iff diskId).mpr fits)
    intro _ _
    exact done True.intro

end Members

/-! ## From programs to courses -/

/-- Every request of a course stays in its page. -/
theorem within {State : Type} {env : Transition heapCalls State}
    (safe : Stays pageSize program post) (pages : PagesOf pageSize env)
    {state last : State} {moves : List (Move heapCalls State)}
    {outcome : Outcome HeapFailure Value}
    (course : Execution env program state moves outcome last) :
    ∀ move ∈ moves, move.request.WithinPage pageSize := by
  have seen : ∀ before request reply after,
      env before request reply after →
        anyReplies pageSize () request reply () := by
    intro before request reply after moved
    cases request with
    | pin diskId cursor => exact pages _ _ _ reply _ moved
    | _ => exact True.intro
  obtain ⟨obeyed, _⟩ :=
    Program.wp_sound (course.map (fun _ => ()) seen) safe
  intro move member
  exact obeyed _ (List.mem_map_of_mem member)

theorem answered (pageSize : UInt32) (before : Unit)
    (request : HeapRequest) :
    ∃ reply after, anyReplies pageSize before request reply after := by
  cases request with
  | create diskName => exact ⟨.ok (.value 0), (), True.intro⟩
  | load diskName => exact ⟨.ok (.value 0), (), True.intro⟩
  | unload diskId => exact ⟨.ok .ok, (), True.intro⟩
  | extend diskId => exact ⟨.ok (.value 0), (), True.intro⟩
  | pin diskId cursor => exact ⟨pageSize, (), rfl⟩
  | unpin diskId cursor => exact ⟨(), (), True.intro⟩
  | setDirty diskId cursor => exact ⟨(), (), True.intro⟩
  | readPage diskId cursor offset count =>
      exact ⟨none, (), True.intro⟩
  | writePage diskId cursor offset bytes =>
      exact ⟨none, (), True.intro⟩

/-- When the requests of every course stay in their pages, the program does. -/
theorem of_courses
    (every : ∀ moves outcome last,
      Execution (anyReplies pageSize) program () moves outcome last →
        ∀ move ∈ moves, move.request.WithinPage pageSize) :
    Stays pageSize program fun _ => True := by
  apply Program.wp_complete (answered pageSize)
  intro moves outcome last course
  refine ⟨every moves outcome last course, ?_⟩
  cases outcome with
  | done value => exact True.intro
  | crashed reason => exact True.intro

end Stays

section Courses

variable {pageSize : UInt32}

/-- Moves that all stay in their pages. -/
theorem StayAround.of_within {State : Type}
    {others : List (Move heapCalls State) → Prop}
    {moves : List (Move heapCalls State)} (nothing : others [])
    (within : ∀ move ∈ moves, move.request.WithinPage pageSize) :
    StayAround pageSize others moves := by
  refine ⟨moves, [], [], by simp, nothing, ?_⟩
  rw [List.append_nil]
  exact within

theorem StayAround.behind {State : Type}
    {others : List (Move heapCalls State) → Prop}
    {earlier moves : List (Move heapCalls State)}
    (around : StayAround pageSize others moves)
    (within : ∀ move ∈ earlier, move.request.WithinPage pageSize) :
    StayAround pageSize others (earlier ++ moves) := by
  obtain ⟨first, placed, rest, split, own, stay⟩ := around
  refine ⟨earlier ++ first, placed, rest, ?_, own, ?_⟩
  · rw [split]
    simp only [List.append_assoc]
  · rw [List.append_assoc, List.forall_mem_append]
    exact ⟨within, stay⟩

/-- A call that makes all its accesses through `to_ptr`. -/
theorem listAccessesStay_of_stays {call : HeapCall}
    (safe : Stays pageSize call.program fun _ => True) :
    ListAccessesStay pageSize call := by
  intro State env pages state moves outcome last course
  apply StayAround.of_within
  · cases call with
    | insertTuple heap storage fuel tuple => exact Or.inl rfl
    | _ => rfl
  · exact safe.within pages course

/-- Around the work on the bitmap and the tuple, an insert accesses the lists. -/
theorem listAccessesStay_insertTuple (heap : Heap)
    (storage : UInt32 → Nat) (fuel : Nat) (tuple : Tuple)
    (fitsFree : ¬ Straddles 4 pageSize Heap.firstPageFreeListOffset)
    (fitsFull : ¬ Straddles 4 pageSize Heap.firstPageFullListOffset) :
    ListAccessesStay pageSize (.insertTuple heap storage fuel tuple) := by
  intro State env pages state moves outcome last course
  have searches := Stays.pageToUse heap fitsFree
  rcases course.of_bind with
    ⟨reason, _, searching⟩ |
    ⟨freeDiskPage, middle, searched, later, split, searching, course⟩
  · exact .of_within (Or.inl rfl) (searches.within pages searching)
  rw [split]
  apply StayAround.behind _ (searches.within pages searching)
  split at course
  · cases course
    exact .of_within (Or.inl rfl) (by simp)
  have pins :
      Stays pageSize (pin heap.diskId freeDiskPage) fun _ => True :=
    Stays.pin_iff.mpr True.intro
  rcases course.of_bind with
    ⟨reason, _, pinning⟩ |
    ⟨page, middle, pinned, later, split, pinning, course⟩
  · exact .of_within (Or.inl rfl) (pins.within pages pinning)
  rw [split]
  apply StayAround.behind _ (pins.within pages pinning)
  rcases course.of_bind with
    ⟨reason, _, placing⟩ |
    ⟨bitmap, middle, placed, rest, split, placing, course⟩
  · exact ⟨[], later, [], by simp, Or.inr ⟨page, _, _, _, placing⟩, by simp⟩
  have moves :
      Stays pageSize
        (do
          heap.moveIfFull fuel freeDiskPage bitmap
          setDirty heap.diskId freeDiskPage
          unpin heap.diskId freeDiskPage)
        fun _ => True := by
    apply Stays.bind
      (Stays.moveIfFull heap fitsFull fuel freeDiskPage bitmap)
    intro _ _
    apply Stays.bind Stays.setDirty
    intro _ _
    exact Stays.unpin
  exact ⟨[], placed, rest, split, Or.inr ⟨page, _, _, _, placing⟩,
    moves.within pages course⟩

/-- The other direction for a call without other accesses. -/
theorem stays_of_listAccessesStay {call : HeapCall}
    (noOther : ∀ moves,
      call.Places (anyReplies pageSize) moves → moves = [])
    (stay : ListAccessesStay pageSize call) :
    Stays pageSize call.program fun _ => True := by
  apply Stays.of_courses
  intro moves outcome last course
  have pages : PagesOf pageSize (anyReplies pageSize) :=
    fun _ _ _ _ _ same => same
  obtain ⟨first, placed, rest, split, others, within⟩ :=
    stay Unit _ pages () moves outcome last course
  rw [split, noOther placed others, List.append_nil]
  exact within

theorem listAccessesStay_iff (pageSize : UInt32) :
    (∀ call, ListAccessesStay pageSize call) ↔
      pageSize.toNat % 4 = 0 ∨ 12 ≤ pageSize.toNat := by
  constructor
  · intro every
    have noOther : ∀ moves,
        (HeapCall.construct "t" 0).Places (anyReplies pageSize) moves →
          moves = [] :=
      fun _ nothing => nothing
    exact (Stays.construct_iff "t" 0).mp
      (stays_of_listAccessesStay noOther (every (.construct "t" 0)))
  · intro fits call
    have fitsFree :
        ¬ Straddles 4 pageSize Heap.firstPageFreeListOffset := by
      rw [not_straddles_iff, UInt32.lt_iff_toNat_lt]
      change 4 < _ → 4 + 4 ≤ _
      omega
    have fitsFull :
        ¬ Straddles 4 pageSize Heap.firstPageFullListOffset := by
      rw [not_straddles_iff, UInt32.lt_iff_toNat_lt]
      change 8 < _ → 8 + 4 ≤ _
      omega
    cases call with
    | construct tableName heapPageSize =>
        exact listAccessesStay_of_stays
          ((Stays.construct_iff tableName heapPageSize).mpr fits)
    | findFreePage heap =>
        exact listAccessesStay_of_stays
          ((Stays.findFreePage_iff heap).mpr fitsFree)
    | appendToFullPages heap fuel cursor =>
        exact listAccessesStay_of_stays
          ((Stays.appendToFullPages_iff heap fuel cursor).mpr fitsFull)
    | insertTuple heap storage fuel tuple =>
        exact listAccessesStay_insertTuple heap storage fuel tuple fitsFree
          fitsFull

end Courses

/-- A typed access through `to_ptr` stays in the page or throws unless it begins
inside and ends outside.  The list pointers of the heap do in all its member
functions exactly on pages of whole pointers and on those with room for the
header. -/
theorem typed_access_iff (width : Nat) (page : BufferPage)
    (offset : UInt32) :
    (TypedAccessStays width page offset ↔
        ¬ Straddles width page.pageSize offset) ∧
      ((∀ call, ListAccessesStay page.pageSize call) ↔
        page.pageSize.toNat % 4 = 0 ∨ 12 ≤ page.pageSize.toNat) :=
  ⟨typedAccessStays_iff width page offset,
    listAccessesStay_iff page.pageSize⟩

/-- The head of the free list, in a page of six bytes. -/
theorem pointer_across_end :
    (⟨0, 0, 6⟩ : BufferPage).toPtr Heap.firstPageFreeListOffset = pure 4 ∧
      ¬ TypedAccessStays 4 ⟨0, 0, 6⟩ Heap.firstPageFreeListOffset ∧
      ¬ ListAccessesStay 6 (.findFreePage ⟨"t.heap", 0, 6⟩) := by
  have straddles : Straddles 4 6 Heap.firstPageFreeListOffset :=
    ⟨by decide, by decide⟩
  refine ⟨rfl, ?_, ?_⟩
  · intro access
    exact (typedAccessStays_iff 4 ⟨0, 0, 6⟩ _).mp access straddles
  · intro stay
    have noOther : ∀ moves,
        (HeapCall.findFreePage ⟨"t.heap", 0, 6⟩).Places (anyReplies 6)
          moves → moves = [] :=
      fun _ nothing => nothing
    exact (Stays.findFreePage_iff ⟨"t.heap", 0, 6⟩).mp
      (stays_of_listAccessesStay noOther stay) straddles

end Lewsql
