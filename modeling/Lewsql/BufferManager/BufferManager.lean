import Lewsql.BufferManager.BitmapTracker
import Lewsql.DiskManager.PosixDisk
import Mathlib.Data.List.AList

/-!
# The page map of `BufferManager`

The map from disk pages to frames is a map of maps.  Its outer keys are disk ids
converted to `unsigned int`, and the frames in it are converted to `int32_t`.
-/

namespace Lewsql

open Interaction

inductive BufferManagerErrorCode where
  | unkownError
  | outOfMemory
  | pageNotFound
  | diskNotFound
  | diskPageCursorNotFound
  | outOfPages
  | outOfPageBounds
  deriving DecidableEq, Repr

inductive BufferManagerFailure where
  | thrown (errorCode : BufferManagerErrorCode)
  | tracker (failure : BitmapFailure)
  deriving DecidableEq, Repr

abbrev MemPoolMap :=
  AList fun _ : BufferPageCursor => AList fun _ : DiskId => DiskPageCursor

/-- The members of `BufferManager` that the page map is about. -/
structure BufferManager where
  memPoolMap : MemPoolMap
  bufferPageTracker : BitmapTracker

namespace BufferManager

/-- `operator[]` of a map whose values are maps. -/
def inner (map : MemPoolMap) (key : BufferPageCursor) :
    AList fun _ : DiskId => DiskPageCursor :=
  (map.lookup key).getD ∅

def addPageMemPoolMap (self : BufferManager) (diskId : DiskId)
    (diskPageCursor : DiskPageCursor)
    (bufferPageCursor : BufferPageCursor) :
    Except BufferManagerFailure BufferManager :=
  let key := diskId.toUInt32
  let map :=
    match self.memPoolMap.lookup key with
    | none => self.memPoolMap.insert key ∅
    | some _ => self.memPoolMap
  match self.bufferPageTracker.setPageStatus bufferPageCursor true with
  | .error failure => .error (.tracker failure)
  | .ok tracker =>
      .ok
        { memPoolMap :=
            map.insert key
              ((inner map key).insert diskPageCursor
                bufferPageCursor.toInt32)
          bufferPageTracker := tracker }

def getPageMemPoolMap (self : BufferManager) (diskId : DiskId)
    (diskPageCursor : DiskPageCursor) :
    Except BufferManagerFailure BufferPageCursor :=
  match self.memPoolMap.lookup diskId.toUInt32 with
  | none => .error (.thrown .diskNotFound)
  | some pages =>
      match pages.lookup diskPageCursor with
      | none => .error (.thrown .diskPageCursorNotFound)
      | some frame => .ok frame.toUInt32

/-! ## Runs of adds -/

structure Add where
  diskId : DiskId
  diskPageCursor : DiskPageCursor
  frame : BufferPageCursor
  deriving DecidableEq, Repr

/-- Adds to a buffer manager with a new tracker, of frames that exist. -/
def adds (numPages : UInt32) : Machine BufferManager Add where
  start before :=
    before.memPoolMap = ∅ ∧
      BitmapTracker.new numPages = .ok before.bufferPageTracker
  step before add after :=
    add.frame < numPages ∧
      before.addPageMemPoolMap add.diskId add.diskPageCursor add.frame =
        .ok after

def lastFrame (events : List Add) (diskId : DiskId)
    (diskPageCursor : DiskPageCursor) : Option BufferPageCursor :=
  (events.reverse.find? fun add =>
    add.diskId = diskId ∧ add.diskPageCursor = diskPageCursor).map Add.frame

def framesOf (events : List Add) : Finset Nat :=
  (events.map fun add => add.frame.toNat).toFinset

/-- The map holds the last frame of every page, and the tracker the frames. -/
structure Agrees (numPages : UInt32) (events : List Add)
    (manager : BufferManager) : Prop where
  known : ∀ diskId, manager.memPoolMap.lookup diskId.toUInt32 = none ↔
    ∀ add ∈ events, add.diskId ≠ diskId
  pages : ∀ diskId pages,
    manager.memPoolMap.lookup diskId.toUInt32 = some pages →
      ∀ diskPageCursor, pages.lookup diskPageCursor =
        (lastFrame events diskId diskPageCursor).map UInt32.toInt32
  tracks : BitmapTracker.Tracks numPages manager.bufferPageTracker
    (framesOf events)

section Runs

variable {numPages : UInt32} {events : List Add} {add : Add}
variable {manager after : BufferManager}

theorem lastFrame_append (diskId : DiskId)
    (diskPageCursor : DiskPageCursor) :
    lastFrame (events ++ [add]) diskId diskPageCursor =
      if add.diskId = diskId ∧ add.diskPageCursor = diskPageCursor then
        some add.frame
      else lastFrame events diskId diskPageCursor := by
  simp only [lastFrame]
  rw [List.reverse_append, List.reverse_singleton, List.singleton_append]
  by_cases same :
      add.diskId = diskId ∧ add.diskPageCursor = diskPageCursor
  · rw [if_pos same, List.find?_cons_of_pos (by simpa using same)]
    rfl
  · rw [if_neg same, List.find?_cons_of_neg (by simpa using same)]

theorem framesOf_append :
    framesOf (events ++ [add]) =
      insert add.frame.toNat (framesOf events) := by
  simp only [framesOf]
  ext frame
  simp only [List.map_append, List.map_cons, List.map_nil,
    List.mem_toFinset, List.mem_append, List.mem_singleton,
    Finset.mem_insert]
  exact or_comm

theorem toUInt32_injective : Function.Injective Int32.toUInt32 := by
  intro left right same
  simpa using congrArg UInt32.toInt32 same

/-- An add replaces the inner map of its disk and keeps the others. -/
theorem addPageMemPoolMap_eq {tracker : BitmapTracker}
    (diskId : DiskId) (diskPageCursor : DiskPageCursor)
    {frame : BufferPageCursor}
    (marked :
      manager.bufferPageTracker.setPageStatus frame true = .ok tracker) :
    ∃ after,
      manager.addPageMemPoolMap diskId diskPageCursor frame = .ok after ∧
        after.bufferPageTracker = tracker ∧
        after.memPoolMap.lookup diskId.toUInt32 =
          some ((inner manager.memPoolMap diskId.toUInt32).insert
            diskPageCursor frame.toInt32) ∧
        ∀ key, key ≠ diskId.toUInt32 →
          after.memPoolMap.lookup key = manager.memPoolMap.lookup key := by
  cases found : manager.memPoolMap.lookup diskId.toUInt32 with
  | none =>
      refine ⟨⟨(manager.memPoolMap.insert diskId.toUInt32 ∅).insert
        diskId.toUInt32
          ((∅ : AList fun _ : DiskId => DiskPageCursor).insert
            diskPageCursor frame.toInt32),
        tracker⟩, ?_, rfl, ?_, ?_⟩
      · simp only [addPageMemPoolMap]
        simp only [found, marked, inner, AList.lookup_insert,
          Option.getD_some]
      · exact (AList.lookup_insert _).trans (by rw [inner, found]; rfl)
      · intro key different
        exact (AList.lookup_insert_ne different).trans
          (AList.lookup_insert_ne different)
  | some pages =>
      refine ⟨⟨manager.memPoolMap.insert diskId.toUInt32
          (pages.insert diskPageCursor frame.toInt32),
        tracker⟩, ?_, rfl, ?_, ?_⟩
      · simp only [addPageMemPoolMap]
        simp only [found, marked, inner, Option.getD_some]
      · exact (AList.lookup_insert _).trans (by rw [inner, found]; rfl)
      · exact fun key different => AList.lookup_insert_ne different

/-- What an add of an existing frame makes of the map. -/
theorem Agrees.adding (agrees : Agrees numPages events manager)
    (add : Add) (whole : numPages.toNat % 8 = 0) (below : add.frame < numPages) :
    ∃ after,
      manager.addPageMemPoolMap add.diskId add.diskPageCursor add.frame =
        .ok after ∧
      Agrees numPages (events ++ [add]) after := by
  obtain ⟨tracker, marked, tracks⟩ :=
    agrees.tracks.setPageStatus whole below true
  rw [if_pos rfl, ← framesOf_append] at tracks
  obtain ⟨after, added, trackerEq, own, others⟩ :=
    addPageMemPoolMap_eq add.diskId add.diskPageCursor marked
  refine ⟨after, added, ?_, ?_, ?_⟩
  · intro diskId
    rw [List.forall_mem_append, List.forall_mem_singleton]
    by_cases same : diskId = add.diskId
    · rw [same, own]
      exact iff_of_false (Option.some_ne_none _)
        fun different => different.2 rfl
    · rw [others _ (fun key => same (toUInt32_injective key)),
        agrees.known]
      exact (and_iff_left (Ne.symm same)).symm
  · intro diskId pages found diskPageCursor
    rw [lastFrame_append]
    by_cases same : diskId = add.diskId
    · rw [same, own] at found
      cases found
      have before :
          (inner manager.memPoolMap add.diskId.toUInt32).lookup
              diskPageCursor =
            (lastFrame events add.diskId diskPageCursor).map
              UInt32.toInt32 := by
        simp only [inner]
        cases known : manager.memPoolMap.lookup add.diskId.toUInt32 with
        | some pages => exact agrees.pages _ _ known diskPageCursor
        | none =>
            have absent := (agrees.known add.diskId).mp known
            have noFrame :
                lastFrame events add.diskId diskPageCursor = none := by
              simp only [lastFrame]
              rw [Option.map_eq_none_iff, List.find?_eq_none]
              intro earlier member
              have different :=
                absent earlier (List.mem_reverse.mp member)
              simp [different]
            rw [noFrame]
            rfl
      by_cases samePage : diskPageCursor = add.diskPageCursor
      · rw [if_pos ⟨same.symm, samePage.symm⟩, samePage,
          AList.lookup_insert]
        rfl
      · rw [if_neg (fun both => samePage both.2.symm),
          AList.lookup_insert_ne samePage, before, same]
    · rw [others _ (fun key => same (toUInt32_injective key))] at found
      rw [if_neg (fun both => same both.1.symm)]
      exact agrees.pages _ _ found diskPageCursor
  · rw [trackerEq]
    exact tracks

theorem agrees_of_run (whole : numPages.toNat % 8 = 0)
    (run : (adds numPages).Run events manager) :
    Agrees numPages events manager := by
  refine Machine.Run.invariant
    (fun events manager => Agrees numPages events manager) ?_ ?_ run
  · intro manager started
    rcases started with ⟨empty, constructed⟩
    refine ⟨?_, ?_, BitmapTracker.tracks_new whole constructed⟩
    · intro diskId
      rw [empty]
      exact iff_of_true rfl (by simp)
    · intro diskId pages found
      rw [empty] at found
      cases found
  · intro events before add after _ agrees stepped
    obtain ⟨next, added, still⟩ := agrees.adding add whole stepped.1
    cases added.symm.trans stepped.2
    exact still

def lookedUp (events : List Add) (diskId : DiskId)
    (diskPageCursor : DiskPageCursor) :
    Except BufferManagerFailure BufferPageCursor :=
  match lastFrame events diskId diskPageCursor with
  | some frame => .ok frame
  | none =>
      if ∃ add ∈ events, add.diskId = diskId then
        .error (.thrown .diskPageCursorNotFound)
      else
        .error (.thrown .diskNotFound)

theorem Agrees.getPageMemPoolMap (agrees : Agrees numPages events manager)
    (diskId : DiskId) (diskPageCursor : DiskPageCursor) :
    manager.getPageMemPoolMap diskId diskPageCursor =
      lookedUp events diskId diskPageCursor := by
  simp only [BufferManager.getPageMemPoolMap, lookedUp]
  cases found : manager.memPoolMap.lookup diskId.toUInt32 with
  | none =>
      have absent := (agrees.known diskId).mp found
      have noFrame : lastFrame events diskId diskPageCursor = none := by
        simp only [lastFrame]
        rw [Option.map_eq_none_iff, List.find?_eq_none]
        intro add member
        simp [absent add (List.mem_reverse.mp member)]
      have unknown : ¬ ∃ add ∈ events, add.diskId = diskId := by
        intro added
        rcases added with ⟨add, member, same⟩
        exact absent add member same
      simp only [noFrame, if_neg unknown]
  | some pages =>
      have known : ∃ add ∈ events, add.diskId = diskId := by
        by_contra unknown
        have missing :=
          (agrees.known diskId).mpr fun add member same =>
            unknown ⟨add, member, same⟩
        rw [found] at missing
        cases missing
      have page := agrees.pages diskId pages found diskPageCursor
      cases frame : lastFrame events diskId diskPageCursor with
      | none =>
          rw [frame] at page
          simp only [page, Option.map_none, if_pos known]
      | some number =>
          rw [frame] at page
          simp only [page, Option.map_some, UInt32.toUInt32_toInt32]

end Runs

structure PageMapCorrect (numPages : UInt32) (events : List Add)
    (manager : BufferManager) : Prop where
  lookup : ∀ diskId diskPageCursor,
    manager.getPageMemPoolMap diskId diskPageCursor =
      lookedUp events diskId diskPageCursor
  marked : ∀ frame < numPages,
    manager.bufferPageTracker.getPageStatus frame =
      .ok (decide (∃ add ∈ events, add.frame = frame))
  lookedUpMarked : ∀ diskId diskPageCursor frame,
    manager.getPageMemPoolMap diskId diskPageCursor = .ok frame →
      manager.bufferPageTracker.getPageStatus frame = .ok true
  counted : manager.bufferPageTracker.getNumTakenPages =
    .ok (UInt32.ofNat ((events.map Add.frame).dedup).length)
  addable : ∀ diskId diskPageCursor, ∀ frame < numPages,
    ∃ after,
      manager.addPageMemPoolMap diskId diskPageCursor frame = .ok after

/-- After every run of adds the lookups give the frames of the last adds, and the
tracker has marked the frames that were added and no other. -/
theorem page_map_correct {numPages : UInt32}
    (whole : numPages.toNat % 8 = 0) (small : numPages.toNat < 2 ^ 31)
    {events : List Add} {manager : BufferManager}
    (run : (adds numPages).Run events manager) :
    PageMapCorrect numPages events manager := by
  have agrees := agrees_of_run whole run
  have below : ∀ add ∈ events, add.frame < numPages := by
    intro add member
    have inFrames : add.frame.toNat ∈ framesOf events := by
      simp only [framesOf]
      rw [List.mem_toFinset]
      exact List.mem_map_of_mem member
    rw [UInt32.lt_iff_toNat_lt]
    exact Finset.mem_range.mp (agrees.tracks.below inFrames)
  have named (frame : BufferPageCursor) :
      frame.toNat ∈ framesOf events ↔ ∃ add ∈ events, add.frame = frame := by
    simp only [framesOf]
    rw [List.mem_toFinset, List.mem_map]
    simp only [UInt32.toNat_inj]
  have marked : ∀ frame < numPages,
      manager.bufferPageTracker.getPageStatus frame =
        .ok (decide (∃ add ∈ events, add.frame = frame)) := by
    intro frame existing
    rw [agrees.tracks.getPageStatus whole existing]
    simp only [named]
  refine ⟨agrees.getPageMemPoolMap, marked, ?_, ?_, ?_⟩
  · intro diskId diskPageCursor frame found
    rw [agrees.getPageMemPoolMap] at found
    simp only [lookedUp] at found
    cases last : lastFrame events diskId diskPageCursor with
    | none =>
        rw [last] at found
        dsimp only at found
        split_ifs at found
    | some number =>
        rw [last] at found
        cases found
        simp only [lastFrame] at last
        obtain ⟨add, found, frameEq⟩ := Option.map_eq_some_iff.mp last
        have member := List.mem_reverse.mp (List.mem_of_find?_eq_some found)
        have existing := below add member
        rw [frameEq] at existing
        rw [marked frame existing]
        exact congrArg Except.ok
          (decide_eq_true ⟨add, member, frameEq⟩)
  · rw [agrees.tracks.getNumTakenPages whole small]
    have sameCard :
        (framesOf events).card =
          ((events.map Add.frame).dedup).length := by
      have image :
          framesOf events =
            ((events.map Add.frame).toFinset).image UInt32.toNat := by
        simp only [framesOf]
        ext number
        simp
      rw [image, Finset.card_image_of_injective _
        (fun left right => UInt32.toNat_inj.mp), List.card_toFinset]
    rw [sameCard]
  · intro diskId diskPageCursor frame existing
    obtain ⟨after, added, _⟩ :=
      agrees.adding ⟨diskId, diskPageCursor, frame⟩ whole existing
    exact ⟨after, added⟩

/-- One add, of a page with negative numbers. -/
theorem page_map_correct_small :
    ∃ manager,
      (adds 8).Run [⟨-1, -2, 3⟩] manager ∧
        PageMapCorrect 8 [⟨-1, -2, 3⟩] manager := by
  have begun : (adds 8).Run [] ⟨∅, ⟨8, ⟨8, 1, [0]⟩⟩⟩ :=
    .start ⟨rfl, rfl⟩
  obtain ⟨manager, added, _⟩ :=
    (agrees_of_run (by decide) begun).adding ⟨-1, -2, 3⟩ (by decide)
      (by decide)
  have run : (adds 8).Run ([] ++ [⟨-1, -2, 3⟩]) manager :=
    begun.step ⟨by decide, added⟩
  exact ⟨manager, run, page_map_correct (by decide) (by decide) run⟩

end BufferManager

end Lewsql
