import Lewsql.DiskManager.DiskRuns
import Lewsql.DiskManager.Operation

/-!
# What the member functions of a manager do when no call fails

Each equation takes the file system to the one after the operation.  The
descriptor that an operation opens is the free one and is closed again, so it
does not show in the result, except after a destroy.
-/

namespace Lewsql

open Interaction Posix FileSystem

namespace PosixDiskManager

variable {base : DiskManager} {self : PosixDiskManager}
variable {fs : FileSystem} {inode : Nat}
variable {diskId : DiskId} {diskName diskNamePrefix : DiskName}
variable {cursor : DiskPageCursor}

/-- The object a member function works on. -/
def openedDisk (base : DiskManager) (fs : FileSystem) (path : String) :
    PosixDisk :=
  PosixDisk.new path fs.freeDescriptor base.pageSize base.maxDiskByteSize

@[simp]
theorem openedDisk_filePath (path : String) :
    (openedDisk base fs path).filePath = path :=
  rfl

@[simp]
theorem openedDisk_fd (path : String) :
    (openedDisk base fs path).fd = fs.freeDescriptor :=
  rfl

@[simp]
theorem openedDisk_pageSize (path : String) :
    (openedDisk base fs path).pageSize = base.pageSize :=
  rfl

/-- The end of the scope of the object gives its descriptor back. -/
theorem run_destructor_opened {path : String} {after : FileSystem}
    {opened : OpenFile} (free : fs.freeDescriptor ∉ after.descriptors) :
    (openedDisk base fs path).destructor.run serve
        (after.setDescriptor fs.freeDescriptor opened) =
      (.done (), after) := by
  have destroyed :=
    PosixDisk.run_destructor
      (after.setDescriptor fs.freeDescriptor opened)
      (show (openedDisk base fs path).shouldClose = true from rfl)
      (descriptors_setDescriptor after fs.freeDescriptor opened)
  rw [destroyed]
  exact congrArg _ (release_setDescriptor _ _ _ free)

section WithDisk

variable {path : String} {Value : Type}
variable {failed : DiskManagerErrorCode → Value}
variable {body : PosixDisk → Effect Value}

theorem run_withDisk_missing (absent : fs.lookup path = none) :
    (withDisk base path failed body).run serve fs =
      (.done (failed .diskNotFound), fs) := by
  rw [withDisk, Program.run_bind_of_done serve
    (PosixDisk.run_init_missing fs path _ _ absent)]
  rfl

/-- A body that keeps the descriptor of its disk open leaves what it did to the
rest of the file system. -/
theorem run_withDisk {value : Value} {after : FileSystem}
    {opened : OpenFile} (found : fs.lookup path = some inode)
    (finished :
      (body (openedDisk base fs path)).run serve
          (fs.setDescriptor fs.freeDescriptor ⟨inode, 0⟩) =
        (.done value, after.setDescriptor fs.freeDescriptor opened))
    (free : fs.freeDescriptor ∉ after.descriptors) :
    (withDisk base path failed body).run serve fs =
      (.done value, after) := by
  rw [withDisk, Program.run_bind_of_done serve
    (PosixDisk.run_init_existing fs path _ _ found)]
  change
    (body (openedDisk base fs path) >>= fun result =>
      (openedDisk base fs path).destructor >>= fun _ =>
        .done result).run serve _ = _
  rw [Program.run_bind_of_done serve finished,
    Program.run_bind_of_done serve (run_destructor_opened free)]
  rfl

end WithDisk

theorem run_write_missing (loaded : self.disks.lookup diskId = some diskName)
    (absent : fs.lookup (base.getDiskPath diskName) = none)
    (bytes : List UInt8) :
    ((write base diskId cursor bytes).run self).run serve fs =
      (.done (.error .diskNotFound, self), fs) := by
  simp only [write_run, loaded]
  rw [Program.run_bind_of_done serve (run_withDisk_missing absent)]
  rfl

/-- A write that passes the check succeeds, wherever it lands. -/
theorem run_write_passing
    (loaded : self.disks.lookup diskId = some diskName)
    (found : fs.lookup (base.getDiskPath diskName) = some inode)
    (positive : base.pageSize ≠ 0)
    (aligned : (fs.file inode).size % base.pageSize.toNat = 0)
    (bounded : (fs.file inode).size < 2 ^ 32)
    (passes : newByteSize base.pageSize cursor < base.maxDiskByteSize)
    (seekable : Seekable base.pageSize cursor)
    {bytes : List UInt8} (full : bytes.length = base.pageSize.toNat) :
    ((write base diskId cursor bytes).run self).run serve fs =
      (.done (.ok, self),
        fs.setFile inode
          (((fs.file inode).grow
            (newByteSize base.pageSize cursor).toNat).writeAt
              (foffset base.pageSize cursor).toNat bytes)) := by
  have written :=
    PosixDisk.run_write_passing
      (fs.setDescriptor fs.freeDescriptor ⟨inode, 0⟩)
      (openedDisk base fs (base.getDiskPath diskName)) found
      (descriptors_setDescriptor _ _ _) positive aligned bounded passes
      seekable full
  have finished :
      (withDisk base (base.getDiskPath diskName) Result.error
          fun posixDisk =>
            propIfError (posixDisk.write cursor bytes)
              (return .ok)).run serve fs =
        (.done .ok,
          fs.setFile inode
            (((fs.file inode).grow
              (newByteSize base.pageSize cursor).toNat).writeAt
                (foffset base.pageSize cursor).toNat bytes)) := by
    apply run_withDisk found
    · rw [propIfError_eq, run_propagate_value serve written]
      simp
      rfl
    · exact freeDescriptor_notMem fs
  simp only [write_run, loaded]
  rw [Program.run_bind_of_done serve finished]
  rfl

theorem run_write (loaded : self.disks.lookup diskId = some diskName)
    (found : fs.lookup (base.getDiskPath diskName) = some inode)
    (positive : base.pageSize ≠ 0)
    (aligned : (fs.file inode).size % base.pageSize.toNat = 0)
    (bounded : (fs.file inode).size < 2 ^ 32)
    (inRange : InRange base.pageSize base.maxDiskByteSize cursor)
    {bytes : List UInt8} (full : bytes.length = base.pageSize.toNat) :
    ((write base diskId cursor bytes).run self).run serve fs =
      (.done (.ok, self),
        fs.setFile inode
          ((fs.file inode).writePage base.pageSize.toNat
            cursor.toNatClampNeg bytes)) := by
  rw [run_write_passing loaded found positive aligned bounded
    inRange.newByteSize_lt (inRange.seekable positive) full,
    inRange.foffset, inRange.newByteSize]
  rfl

theorem run_read_missing (loaded : self.disks.lookup diskId = some diskName)
    (absent : fs.lookup (base.getDiskPath diskName) = none)
    (buffer : List UInt8) :
    (((read base diskId cursor).run buffer).run self).run serve fs =
      (.done ((.error .diskNotFound, buffer), self), fs) := by
  simp only [read_run, loaded]
  rw [Program.run_bind_of_done serve (run_withDisk_missing absent)]
  rfl

/-- A read that passes the check without a wrapped end succeeds, wherever it
lands. -/
theorem run_read_passing
    (loaded : self.disks.lookup diskId = some diskName)
    (found : fs.lookup (base.getDiskPath diskName) = some inode)
    (positive : base.pageSize ≠ 0)
    (aligned : (fs.file inode).size % base.pageSize.toNat = 0)
    (bounded : (fs.file inode).size < 2 ^ 32)
    (passes : newByteSize base.pageSize cursor < base.maxDiskByteSize)
    (noCarry :
      (foffset base.pageSize cursor).toNat + base.pageSize.toNat < 2 ^ 32)
    {buffer : List UInt8} (full : buffer.length = base.pageSize.toNat) :
    (((read base diskId cursor).run buffer).run self).run serve fs =
      (.done ((.ok,
          ((fs.file inode).grow
            (newByteSize base.pageSize cursor).toNat).readAt
              (foffset base.pageSize cursor).toNat
              base.pageSize.toNat),
          self),
        fs.setFile inode
          ((fs.file inode).grow
            (newByteSize base.pageSize cursor).toNat)) := by
  have transferred :=
    PosixDisk.run_read_passing
      (fs.setDescriptor fs.freeDescriptor ⟨inode, 0⟩)
      (openedDisk base fs (base.getDiskPath diskName)) found
      (descriptors_setDescriptor _ _ _) positive aligned bounded passes
      noCarry full
  have finished :
      (withDisk base (base.getDiskPath diskName)
          (fun error => (Result.error error, buffer))
          fun posixDisk =>
            (propIfError (posixDisk.read cursor)
              (return .ok)).run buffer).run serve fs =
        (.done (.ok,
            ((fs.file inode).grow
              (newByteSize base.pageSize cursor).toNat).readAt
                (foffset base.pageSize cursor).toNat
                base.pageSize.toNat),
          fs.setFile inode
            ((fs.file inode).grow
              (newByteSize base.pageSize cursor).toNat)) := by
    apply run_withDisk found
    · simp only [propIfError, StateT.run_bind]
      rw [Program.run_bind_of_done serve transferred]
      simp only [Result.isError_value, Bool.false_eq_true, if_false,
        setDescriptor_setFile, setDescriptor_setDescriptor,
        openedDisk_fd]
      rfl
    · exact freeDescriptor_notMem fs
  simp only [read_run, loaded]
  rw [Program.run_bind_of_done serve finished]
  rfl

theorem run_read (loaded : self.disks.lookup diskId = some diskName)
    (found : fs.lookup (base.getDiskPath diskName) = some inode)
    (positive : base.pageSize ≠ 0)
    (aligned : (fs.file inode).size % base.pageSize.toNat = 0)
    (bounded : (fs.file inode).size < 2 ^ 32)
    (inRange : InRange base.pageSize base.maxDiskByteSize cursor)
    {buffer : List UInt8} (full : buffer.length = base.pageSize.toNat) :
    (((read base diskId cursor).run buffer).run self).run serve fs =
      (.done ((.ok,
          (fs.file inode).page base.pageSize.toNat cursor.toNatClampNeg),
          self),
        fs.setFile inode
          ((fs.file inode).grow
            (cursor.toNatClampNeg * base.pageSize.toNat +
              base.pageSize.toNat))) := by
  have inside :
      cursor.toNatClampNeg * base.pageSize.toNat + base.pageSize.toNat ≤
        ((fs.file inode).grow
          (cursor.toNatClampNeg * base.pageSize.toNat +
            base.pageSize.toNat)).size := by
    rw [File.grow_size]
    omega
  calc
    _ = (.done ((.ok,
            ((fs.file inode).grow
              (newByteSize base.pageSize cursor).toNat).readAt
                (foffset base.pageSize cursor).toNat
                base.pageSize.toNat),
            self),
          fs.setFile inode
            ((fs.file inode).grow
              (newByteSize base.pageSize cursor).toNat)) :=
      run_read_passing loaded found positive aligned bounded
        inRange.newByteSize_lt inRange.noCarry full
    _ = _ := by
      rw [inRange.foffset, inRange.newByteSize, File.readAt_eq_page inside,
        File.page_grow]

private theorem run_withDisk_size
    (found : fs.lookup (base.getDiskPath diskName) = some inode)
    (positive : base.pageSize ≠ 0)
    (aligned : (fs.file inode).size % base.pageSize.toNat = 0) :
    (withDisk base (base.getDiskPath diskName) Result.error
        fun posixDisk => posixDisk.getDiskByteSize).run serve fs =
      (.done (.value (UInt32.ofNat (fs.file inode).size)), fs) := by
  apply run_withDisk found
  · exact PosixDisk.run_getDiskByteSize found positive aligned
  · exact freeDescriptor_notMem fs

theorem run_extend
    (loaded : self.disks.lookup diskId = some diskName)
    (found : fs.lookup (base.getDiskPath diskName) = some inode)
    (positive : base.pageSize ≠ 0)
    (aligned : (fs.file inode).size % base.pageSize.toNat = 0)
    (whole : UInt32.ofNat (fs.file inode).size % base.pageSize = 0) :
    ((extend base diskId).run self).run serve fs =
      (.done
        (if UInt32.ofNat (fs.file inode).size > base.maxDiskByteSize then
            .error .diskExceedsMaxSize
          else
            .value
              (UInt32.ofNat (fs.file inode).size / base.pageSize +
                1).toInt32,
          self),
        fs) := by
  have sized := run_withDisk_size found positive aligned
  simp only [extend_run, loaded]
  rw [run_unwrap_value serve sized sized, if_neg positive,
    if_neg (not_not_intro whole)]
  by_cases past :
      UInt32.ofNat (fs.file inode).size > base.maxDiskByteSize
  · rw [if_pos past, if_pos past]
    rfl
  · rw [if_neg past, if_neg past]
    rfl

/-- An extend of a disk with a file only returns when the pages of the file are
whole. -/
theorem whole_of_extend {result : DiskResult DiskPageCursor}
    {manager : PosixDiskManager} {after : FileSystem}
    (loaded : self.disks.lookup diskId = some diskName)
    (found : fs.lookup (base.getDiskPath diskName) = some inode)
    (finished :
      ((extend base diskId).run self).run serve fs =
        (.done (result, manager), after)) :
    base.pageSize ≠ 0 ∧
      (fs.file inode).size % base.pageSize.toNat = 0 ∧
      UInt32.ofNat (fs.file inode).size % base.pageSize = 0 := by
  rw [extend_run, loaded] at finished
  have sizing := finished
  obtain ⟨first, again, middle, ending, sized, sizedAgain, rest⟩ :=
    run_unwrap_eq_done serve sizing
  rw [withDisk, Program.run_bind_of_done serve
    (PosixDisk.run_init_existing fs _ _ _ found)] at sized
  obtain ⟨size, _, measured, _⟩ := Program.run_bind_eq_done serve sized
  have positive : base.pageSize ≠ 0 := by
    intro zero
    simp [PosixDisk.getDiskByteSize, posix, Program.perform, serve,
      PosixDisk.new, found, zero] at measured
  have aligned : (fs.file inode).size % base.pageSize.toNat = 0 := by
    by_contra misaligned
    simp [PosixDisk.getDiskByteSize, posix, Program.perform, serve,
      PosixDisk.new, found, positive, misaligned] at measured
  refine ⟨positive, aligned, ?_⟩
  have counted := run_withDisk_size found positive aligned
  dsimp only at finished
  rw [run_unwrap_value serve counted counted, if_neg positive] at finished
  by_contra partly
  rw [if_pos partly] at finished
  cases finished

/-- An extend that returned a cursor found the size of its file. -/
theorem extend_eq_value {manager : PosixDiskManager} {after : FileSystem}
    (finished :
      ((extend base diskId).run self).run serve fs =
        (.done (.value cursor, manager), after)) :
    ∃ fileName inode,
      self.disks.lookup diskId = some fileName ∧
        fs.lookup (base.getDiskPath fileName) = some inode ∧
        cursor =
          (UInt32.ofNat (fs.file inode).size / base.pageSize +
            1).toInt32 := by
  have sizing := finished
  rw [extend_run] at sizing
  cases loaded : self.disks.lookup diskId with
  | none =>
      rw [loaded] at sizing
      cases sizing
  | some fileName =>
      rw [loaded] at sizing
      obtain ⟨first, again, middle, ending, sized, sizedAgain, rest⟩ :=
        run_unwrap_eq_done serve sizing
      cases found : fs.lookup (base.getDiskPath fileName) with
      | none =>
          rw [run_withDisk_missing found] at sized
          cases sized
          rw [run_withDisk_missing found] at sizedAgain
          cases sizedAgain
          cases rest
      | some inode =>
          refine ⟨fileName, inode, rfl, found, ?_⟩
          obtain ⟨positive, aligned, whole⟩ :=
            whole_of_extend loaded found finished
          rw [run_extend loaded found positive aligned whole] at finished
          split_ifs at finished <;> cases finished
          rfl

/-! ## Loading, creating and destroying -/

theorem run_load_missing
    (absent : fs.lookup (base.diskPath diskNamePrefix) = none) :
    ((load base diskNamePrefix).run self).run serve fs =
      (.done (.error .diskNotFound, self), fs) := by
  rw [load_run, Program.run_bind_of_done serve
    (PosixDisk.run_init_missing fs _ _ _ absent)]
  rfl

theorem run_load (found : fs.lookup (base.diskPath diskNamePrefix) = some inode)
    (room : self.curDiskId ≠ Int32.maxValue) :
    ((load base diskNamePrefix).run self).run serve fs =
      (.done (.value self.curDiskId,
          self.insert (getDiskFullName diskNamePrefix) room),
        fs) := by
  rw [load_run, Program.run_bind_of_done serve
    (PosixDisk.run_init_existing fs _ _ _ found)]
  simp only [dif_neg room]
  change
    ((openedDisk base fs (base.diskPath diskNamePrefix)).destructor >>=
      fun _ => Program.done _).run serve _ = _
  rw [Program.run_bind_of_done serve
    (run_destructor_opened (freeDescriptor_notMem fs))]
  rfl

theorem run_load_overflow
    (found : fs.lookup (base.diskPath diskNamePrefix) = some inode)
    (full : self.curDiskId = Int32.maxValue) :
    ((load base diskNamePrefix).run self).run serve fs =
      (.crashed .signedOverflow,
        fs.setDescriptor fs.freeDescriptor ⟨inode, 0⟩) := by
  rw [load_run, Program.run_bind_of_done serve
    (PosixDisk.run_init_existing fs _ _ _ found)]
  simp only [dif_pos full]
  rfl

theorem run_create_taken
    (found : fs.lookup (base.diskPath diskNamePrefix) = some inode) :
    ((create base diskNamePrefix).run self).run serve fs =
      (.done (.error .diskAlreadyExists, self), fs) := by
  have taken :=
    PosixDisk.run_init_taken fs (base.diskPath diskNamePrefix)
      base.pageSize base.maxDiskByteSize found
  rw [create_run]
  exact run_propagate_error serve taken taken _ _

/-- A create that finds no file is a load after the file was made. -/
theorem run_create_fresh
    (absent : fs.lookup (base.diskPath diskNamePrefix) = none) :
    ((create base diskNamePrefix).run self).run serve fs =
      ((load base diskNamePrefix).run self).run serve
        (fs.link (base.diskPath diskNamePrefix)) := by
  have made :=
    PosixDisk.run_init_fresh fs (base.diskPath diskNamePrefix)
      base.pageSize base.maxDiskByteSize absent
  have closed :
      (openedDisk base fs (base.diskPath diskNamePrefix)).destructor.run
          serve
          ((fs.link (base.diskPath diskNamePrefix)).setDescriptor
            fs.freeDescriptor ⟨fs.nextInode, 0⟩) =
        (.done (), fs.link (base.diskPath diskNamePrefix)) :=
    run_destructor_opened (freeDescriptor_notMem fs)
  rw [create_run]
  refine (run_propagate_value serve made _ _).trans ?_
  exact Program.run_bind_of_done serve closed _

theorem run_destroy_missing
    (loaded : self.disks.lookup diskId = some diskName)
    (absent : fs.lookup (base.getDiskPath diskName) = none) :
    ((destroy base diskId).run self).run serve fs =
      (.done (.error .diskNotFound, self), fs) := by
  simp only [destroy_run, loaded]
  rw [Program.run_bind_of_done serve
    (PosixDisk.run_init_missing fs _ _ _ absent)]
  rfl

/-- A destroy leaves its descriptor open. -/
theorem run_destroy
    (loaded : self.disks.lookup diskId = some diskName)
    (found : fs.lookup (base.getDiskPath diskName) = some inode) :
    ((destroy base diskId).run self).run serve fs =
      (.done (.ok, self.erase diskId),
        (fs.unlink (base.getDiskPath diskName)).setDescriptor
          fs.freeDescriptor ⟨inode, 0⟩) := by
  simp only [destroy_run, loaded]
  rw [Program.run_bind_of_done serve
    (PosixDisk.run_init_existing fs _ _ _ found)]
  simp [PosixDisk.destroyInScope, serve, PosixDisk.new, found,
    afterDestroy]

theorem run_exists :
    ((«exists» base diskNamePrefix).run self).run serve fs =
      (.done (.value (fs.lookup (base.diskPath diskNamePrefix)).isSome,
          self),
        fs) := by
  have checked := PosixDisk.run_exists fs (base.diskPath diskNamePrefix)
  change
    (PosixDisk.exists (base.diskPath diskNamePrefix) >>= fun result =>
      Program.done (result, self)).run serve fs = _
  rw [Program.run_bind_of_done serve checked]
  rfl

end PosixDiskManager

end Lewsql
