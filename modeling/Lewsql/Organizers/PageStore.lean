import Lewsql.DiskManager.Changes
import Lewsql.Organizers.PageBitmap

/-!
# Heaps over a page store

The calls of a heap are served by the manager of the disks and by a store of
pages: pinning a page hands out its stored bytes, which are zero when nothing was
written, and unpinning it or marking it changes nothing.  The pages belong to the
file that an id is loaded for.
-/

namespace Lewsql

open Interaction Bytes Posix FileSystem

namespace World

def call {Value : Type}
    (member : PosixDiskManager.Member Value) (world : World) :
    Except Crash Value × World :=
  match (member.run world.manager).run serve world.fileSystem with
  | (.done (value, manager), fileSystem) =>
      (.ok value, ⟨manager, fileSystem⟩)
  | (.crashed reason, fileSystem) =>
      (.error reason, ⟨world.manager, fileSystem⟩)

end World

/-- The disks, the bytes of the pages of each file, and the cursors that `extend`
handed out for each id. -/
structure HeapWorld where
  world : World
  pages : Option DiskName → DiskPageCursor → Memory
  extended : List (DiskId × DiskPageCursor)

namespace HeapWorld

def fileOf (self : HeapWorld) (diskId : DiskId) : Option DiskName :=
  self.world.manager.disks.lookup diskId

def page (self : HeapWorld) (diskId : DiskId)
    (cursor : DiskPageCursor) : Memory :=
  self.pages (self.fileOf diskId) cursor

def setPage (self : HeapWorld) (diskId : DiskId)
    (cursor : DiskPageCursor) (bytes : Memory) : HeapWorld :=
  { self with
    pages := fun file other =>
      if file = self.fileOf diskId ∧ other = cursor then bytes
      else self.pages file other }

def write (self : HeapWorld) (diskId : DiskId)
    (cursor : DiskPageCursor) (offset : Nat) (bytes : List UInt8) :
    HeapWorld :=
  self.setPage diskId cursor ((self.page diskId cursor).write offset bytes)

def byteSize (base : DiskManager) (diskId : DiskId)
    (self : HeapWorld) : Nat :=
  match self.fileOf diskId with
  | none => 0
  | some fileName =>
      match self.world.fileSystem.lookup (base.getDiskPath fileName) with
      | none => 0
      | some inode => (self.world.fileSystem.file inode).size

/-- The cursor that a file of this size gives to `extend`. -/
def nextCursor (base : DiskManager) (diskId : DiskId)
    (self : HeapWorld) : DiskPageCursor :=
  (UInt32.ofNat (self.byteSize base diskId) / base.pageSize + 1).toInt32

/-- `extend`, with the cursor written down. -/
def extend (base : DiskManager) (diskId : DiskId) (self : HeapWorld) :
    Except Crash (DiskResult DiskPageCursor) × HeapWorld :=
  let called := self.world.call (PosixDiskManager.extend base diskId)
  (called.1,
    { self with
      world := called.2
      extended :=
        match called.1 with
        | .ok (.value cursor) => self.extended ++ [(diskId, cursor)]
        | _ => self.extended })

end HeapWorld

/-- How the calls of a heap are answered.  The source does not check an access
through a pointer: behind the page it is undefined behaviour, which has no result
here. -/
def serveHeap (base : DiskManager) : Handler heapCalls HeapWorld
  | .create diskName, before =>
      let called :=
        before.world.call (PosixDiskManager.create base diskName)
      (called.1, { before with world := called.2 })
  | .load diskName, before =>
      let called :=
        before.world.call (PosixDiskManager.load base diskName)
      (called.1, { before with world := called.2 })
  | .unload diskId, before =>
      let called :=
        before.world.call (PosixDiskManager.unload diskId)
      (called.1, { before with world := called.2 })
  | .extend diskId, before => before.extend base diskId
  | .pin _ _, before => (base.pageSize, before)
  | .unpin _ _, before => ((), before)
  | .setDirty _ _, before => ((), before)
  | .readPage diskId cursor offset count, before =>
      if offset + count ≤ base.pageSize.toNat then
        (some ((before.page diskId cursor).read offset count), before)
      else (none, before)
  | .writePage diskId cursor offset bytes, before =>
      if offset + bytes.length ≤ base.pageSize.toNat then
        (some (), before.write diskId cursor offset bytes)
      else (none, before)

namespace HeapWorld

section Pages

variable {self : HeapWorld} {diskId : DiskId}
variable {cursor other : DiskPageCursor} {offset : Nat}
variable {bytes : Memory} {block : List UInt8}

@[simp]
theorem fileOf_setPage (other : DiskId) :
    (self.setPage diskId cursor bytes).fileOf other = self.fileOf other :=
  rfl

@[simp]
theorem world_setPage :
    (self.setPage diskId cursor bytes).world = self.world :=
  rfl

@[simp]
theorem extended_setPage :
    (self.setPage diskId cursor bytes).extended = self.extended :=
  rfl

theorem page_setPage :
    (self.setPage diskId cursor bytes).page diskId other =
      if other = cursor then bytes else self.page diskId other := by
  simp only [page, setPage]
  simp only [fileOf, true_and]

@[simp]
theorem fileOf_write (other : DiskId) :
    (self.write diskId cursor offset block).fileOf other =
      self.fileOf other :=
  rfl

@[simp]
theorem world_write :
    (self.write diskId cursor offset block).world = self.world :=
  rfl

@[simp]
theorem extended_write :
    (self.write diskId cursor offset block).extended = self.extended :=
  rfl

theorem page_write :
    (self.write diskId cursor offset block).page diskId other =
      if other = cursor then
        (self.page diskId cursor).write offset block
      else self.page diskId other :=
  page_setPage

/-- A write reaches no other byte of any page. -/
theorem pages_write_outside {file : Option DiskName} {place : Nat}
    (outside :
      ¬ (file = self.fileOf diskId ∧ other = cursor ∧
        offset ≤ place ∧ place < offset + block.length)) :
    (self.write diskId cursor offset block).pages file other place =
      self.pages file other place := by
  simp only [write, setPage]
  by_cases same : file = self.fileOf diskId ∧ other = cursor
  · rw [if_pos same, same.1, same.2, Memory.write_outside]
    · rfl
    · by_contra inside
      exact outside ⟨same.1, same.2, by omega, by omega⟩
  · rw [if_neg same]

/-- A later write to a page over an earlier one. -/
theorem write_write_within {later : List UInt8} {index : Nat}
    (within : index ≤ block.length) :
    (self.write diskId cursor offset block).write diskId cursor
        (offset + index) later =
      self.write diskId cursor offset
        (block.take index ++ later ++
          block.drop (index + later.length)) := by
  have pages :
      ((self.write diskId cursor offset block).page diskId cursor).write
          (offset + index) later =
        (self.page diskId cursor).write offset
          (block.take index ++ later ++
            block.drop (index + later.length)) := by
    rw [page_write, if_pos rfl, Memory.write_write_within _ within]
  change
    (self.write diskId cursor offset block).setPage diskId cursor
        (((self.write diskId cursor offset block).page diskId
          cursor).write (offset + index) later) =
      self.setPage diskId cursor _
  rw [pages]
  unfold write setPage fileOf
  congr 1
  funext file other
  by_cases same :
      file = self.world.manager.disks.lookup diskId ∧ other = cursor
  · rw [if_pos same, if_pos same]
  · rw [if_neg same, if_neg same]
    exact if_neg same

/-- Writing what is there already changes nothing. -/
theorem setPage_page :
    self.setPage diskId cursor (self.page diskId cursor) = self := by
  simp only [setPage, page]
  congr 1
  funext file other
  by_cases same : file = self.fileOf diskId ∧ other = cursor
  · rw [if_pos same, same.1, same.2]
  · rw [if_neg same]

theorem write_nil : self.write diskId cursor offset [] = self := by
  simp only [write]
  rw [Memory.write_nil, setPage_page]

end Pages

/-! ## Extending -/

section Extend

variable {self : HeapWorld} {base : DiskManager} {diskId : DiskId}

theorem untouched_extend :
    (self.extend base diskId).2.world.manager = self.world.manager ∧
      ∀ result, (self.extend base diskId).1 = .ok result →
        World.Untouched self.world (self.extend base diskId).2.world := by
  change
    (self.world.call (PosixDiskManager.extend base diskId)).2.manager =
        self.world.manager ∧
      ∀ result,
        (self.world.call (PosixDiskManager.extend base diskId)).1 =
          .ok result →
        World.Untouched self.world
          (self.world.call (PosixDiskManager.extend base diskId)).2
  simp only [World.call]
  cases finished :
      ((PosixDiskManager.extend base diskId).run self.world.manager).run
        serve self.world.fileSystem with
  | mk outcome fileSystem =>
      cases outcome with
      | crashed reason =>
          exact ⟨rfl, fun result impossible => nomatch impossible⟩
      | done pair =>
          have stepped :
              self.world.step base (.extend diskId) =
                (.done (.cursor pair.1), ⟨pair.2, fileSystem⟩) :=
            World.step_of_done rfl finished
          have untouched := World.untouched_extend stepped
          exact ⟨untouched.1, fun _ _ => untouched⟩

@[simp]
theorem pages_extend : (self.extend base diskId).2.pages = self.pages :=
  rfl

theorem fileOf_extend (other : DiskId) :
    (self.extend base diskId).2.fileOf other = self.fileOf other := by
  simp only [fileOf]
  rw [untouched_extend.1]

theorem page_extend (other : DiskId) (cursor : DiskPageCursor) :
    (self.extend base diskId).2.page other cursor =
      self.page other cursor := by
  simp only [page]
  rw [fileOf_extend, pages_extend]

theorem extended_extend {cursor : DiskPageCursor}
    (extended : (self.extend base diskId).1 = .ok (.value cursor)) :
    (self.extend base diskId).2.extended =
      self.extended ++ [(diskId, cursor)] := by
  have reply :
      (self.world.call (PosixDiskManager.extend base diskId)).1 =
        .ok (.value cursor) := extended
  simp only [extend]
  simp only [reply]

/-- A cursor that `extend` returned is the one behind the last page. -/
theorem nextCursor_of_extend {cursor : DiskPageCursor}
    (extended : (self.extend base diskId).1 = .ok (.value cursor)) :
    cursor = self.nextCursor base diskId := by
  have called :
      (self.world.call (PosixDiskManager.extend base diskId)).1 =
        .ok (.value cursor) := extended
  simp only [World.call] at called
  cases finished :
      ((PosixDiskManager.extend base diskId).run self.world.manager).run
        serve self.world.fileSystem with
  | mk outcome fileSystem =>
      rw [finished] at called
      cases outcome with
      | crashed reason => cases called
      | done pair =>
          obtain ⟨value, manager⟩ := pair
          cases called
          obtain ⟨fileName, inode, loaded, found, same⟩ :=
            PosixDiskManager.extend_eq_value finished
          simp only [nextCursor, byteSize, fileOf]
          rw [loaded]
          dsimp only
          rw [found]
          exact same

theorem extend_of_whole {fileName : DiskName} {inode : Nat}
    (loaded : self.fileOf diskId = some fileName)
    (found :
      self.world.fileSystem.lookup (base.getDiskPath fileName) =
        some inode)
    (positive : base.pageSize ≠ 0)
    (aligned :
      (self.world.fileSystem.file inode).size % base.pageSize.toNat = 0)
    (whole :
      UInt32.ofNat (self.world.fileSystem.file inode).size %
        base.pageSize = 0)
    (inside :
      ¬ UInt32.ofNat (self.world.fileSystem.file inode).size >
        base.maxDiskByteSize) :
    (self.extend base diskId).1 =
      .ok (.value (self.nextCursor base diskId)) := by
  have finished :=
    PosixDiskManager.run_extend loaded found positive aligned whole
  rw [if_neg inside] at finished
  change
    (self.world.call (PosixDiskManager.extend base diskId)).1 = _
  simp only [World.call, nextCursor, byteSize]
  rw [finished, loaded]
  dsimp only
  rw [found]

end Extend

end HeapWorld

/-! ## Pointers -/

def pointerAt (bytes : Memory) (offset : Nat) : DiskPageCursor :=
  (UInt32.ofNat (ofLittleEndian (bytes.read offset 4))).toInt32

def pointerBytes (cursor : DiskPageCursor) : List UInt8 :=
  littleEndian 4 cursor.toUInt32.toNat

section Pointers

variable {bytes : Memory} {offset other : Nat} {cursor : DiskPageCursor}
variable {block : List UInt8}

@[simp]
theorem length_pointerBytes (cursor : DiskPageCursor) :
    (pointerBytes cursor).length = 4 :=
  rfl

theorem pointerAt_write_self :
    pointerAt (bytes.write offset (pointerBytes cursor)) offset =
      cursor := by
  simp only [pointerAt]
  rw [Memory.read_write_of_length (length_pointerBytes cursor),
    pointerBytes, ofLittleEndian_littleEndian]
  have small : cursor.toUInt32.toNat < 256 ^ 4 := cursor.toUInt32.toNat_lt
  rw [Nat.mod_eq_of_lt small, UInt32.ofNat_toNat, Int32.toInt32_toUInt32]

theorem pointerAt_write_apart
    (apart : other + 4 ≤ offset ∨ offset + block.length ≤ other) :
    pointerAt (bytes.write offset block) other = pointerAt bytes other := by
  simp only [pointerAt]
  rw [Memory.read_write_apart apart]

theorem pointerAt_zero :
    pointerAt (fun _ => 0) offset = 0 := by
  simp only [pointerAt]
  rw [show (Memory.read (fun _ => (0 : UInt8)) offset 4) = [0, 0, 0, 0]
    from rfl]
  rfl

end Pointers

end Lewsql
