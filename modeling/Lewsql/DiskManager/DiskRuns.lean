import Lewsql.DiskManager.Footprint
import Lewsql.DiskManager.Offsets

/-!
# What `PosixDisk` does when no call fails

One equation for each member function, from the directory entry, the open
descriptor and the file it finds.
-/

namespace Lewsql

open Interaction Posix FileSystem

namespace PosixDisk

variable (fs : FileSystem) (path : String) (pageSize maxDiskSize : UInt32)

theorem run_exists :
    (PosixDisk.exists path).run serve fs =
      (.done (.value (fs.lookup path).isSome), fs) := by
  cases found : fs.lookup path with
  | none => simp [PosixDisk.exists, posix, Program.perform, serve, found]
  | some inode =>
      simp [PosixDisk.exists, posix, Program.perform, serve, found]

theorem run_init_existing {inode : Nat}
    (found : fs.lookup path = some inode) :
    (init path true pageSize maxDiskSize).run serve fs =
      (.done (.value (new path fs.freeDescriptor pageSize maxDiskSize)),
        fs.setDescriptor fs.freeDescriptor ⟨inode, 0⟩) := by
  have exist := run_exists fs path
  rw [found] at exist
  rw [init, unwrapOrPropError_eq, run_unwrap_value serve exist exist]
  simp [posix, Program.perform, serve, found, destructor, moveConstruct,
    new]

theorem run_init_missing (absent : fs.lookup path = none) :
    (init path true pageSize maxDiskSize).run serve fs =
      (.done (.error .diskNotFound), fs) := by
  have exist := run_exists fs path
  rw [absent] at exist
  rw [init, unwrapOrPropError_eq, run_unwrap_value serve exist exist]
  simp

theorem run_init_taken {inode : Nat}
    (found : fs.lookup path = some inode) :
    (init path false pageSize maxDiskSize).run serve fs =
      (.done (.error .diskAlreadyExists), fs) := by
  have exist := run_exists fs path
  rw [found] at exist
  rw [init, unwrapOrPropError_eq, run_unwrap_value serve exist exist]
  simp

theorem run_init_fresh (absent : fs.lookup path = none) :
    (init path false pageSize maxDiskSize).run serve fs =
      (.done (.value (new path fs.freeDescriptor pageSize maxDiskSize)),
        (fs.link path).setDescriptor fs.freeDescriptor
          ⟨fs.nextInode, 0⟩) := by
  have exist := run_exists fs path
  rw [absent] at exist
  rw [init, unwrapOrPropError_eq, run_unwrap_value serve exist exist]
  simp [posix, Program.perform, serve, absent, destructor, moveConstruct,
    new]

/-- The destructor closes the descriptor of an object that owns one. -/
theorem run_destructor {self : PosixDisk} {opened : OpenFile}
    (owns : self.shouldClose = true)
    (isOpen : fs.descriptors.lookup self.fd = some opened) :
    self.destructor.run serve fs = (.done (), fs.release self.fd) := by
  simp [destructor, owns, close, posix, Program.perform, serve, isOpen]

variable {fs} {self : PosixDisk} {inode : Nat} {opened : OpenFile}

theorem run_getDiskByteSize
    (found : fs.lookup self.filePath = some inode)
    (positive : self.pageSize ≠ 0)
    (aligned : (fs.file inode).size % self.pageSize.toNat = 0) :
    self.getDiskByteSize.run serve fs =
      (.done (.value (UInt32.ofNat (fs.file inode).size)), fs) := by
  simp [getDiskByteSize, posix, Program.perform, serve, found, positive,
    aligned]

theorem run_sync
    (isOpen : fs.descriptors.lookup self.fd = some opened) :
    self.sync.run serve fs = (.done .ok, fs) := by
  simp [sync, posix, Program.perform, serve, isOpen]

theorem run_truncate (newByteSize : UInt32)
    (found : fs.lookup self.filePath = some inode)
    (isOpen : fs.descriptors.lookup self.fd = some opened) :
    (self.truncate newByteSize).run serve fs =
      (.done .ok,
        fs.setFile inode
          ((fs.file inode).resize newByteSize.toNat)) := by
  have synced :
      self.sync.run serve
          (fs.setFile inode ((fs.file inode).resize newByteSize.toNat)) =
        (.done .ok,
          fs.setFile inode ((fs.file inode).resize newByteSize.toNat)) :=
    run_sync isOpen
  simp [truncate, posix, Program.perform, serve, found,
    propIfError_eq,
    run_propagate_value serve synced]

/-- What `seek` makes of an `lseek` that succeeds. -/
theorem run_seek (pos : UInt32)
    (isOpen : fs.descriptors.lookup self.fd = some opened) :
    (self.seek pos).run serve fs =
      (.done (if pos.toNat = 2 ^ 32 - 1 then .error .unkownError else .ok),
        fs.setDescriptor self.fd { opened with offset := pos.toNat }) := by
  have taken : Int32.ofNat pos.toNat = -1 ↔ pos.toNat = 2 ^ 32 - 1 := by
    constructor
    · intro failed
      have asNat := congrArg (UInt32.toNat ∘ Int32.toUInt32) failed
      simp only [Function.comp_apply, Int32.toUInt32_ofNat',
        UInt32.toNat_ofNat_of_lt' (UInt32.toNat_lt _)] at asNat
      exact asNat
    · intro last
      rw [last]
      rfl
  by_cases last : pos.toNat = 2 ^ 32 - 1
  · have failed := taken.mpr last
    rw [if_pos last]
    simp [seek, posix, Program.perform, serve, isOpen, failed]
  · have valid : Int32.ofNat pos.toNat ≠ -1 := fun failed =>
      last (taken.mp failed)
    rw [if_neg last]
    simp [seek, posix, Program.perform, serve, isOpen, valid]

/-- A propagated `seek` has the outcome of one `seek`. -/
theorem run_propIfError_seek (pos : UInt32)
    (isOpen : fs.descriptors.lookup self.fd = some opened) :
    (propIfError (self.seek pos)
        (pure .ok : Effect (DiskResult Unit))).run serve fs =
      (.done (if pos.toNat = 2 ^ 32 - 1 then .error .unkownError else .ok),
        fs.setDescriptor self.fd { opened with offset := pos.toNat }) := by
  have sought := run_seek pos isOpen
  have again :=
    run_seek pos
      (descriptors_setDescriptor fs self.fd
        { opened with offset := pos.toNat })
  rw [setDescriptor_setDescriptor] at again
  rw [propIfError_eq]
  by_cases last : pos.toNat = 2 ^ 32 - 1
  · rw [if_pos last] at sought again ⊢
    exact run_propagate_error serve sought again _ _
  · rw [if_neg last] at sought ⊢
    exact run_propagate_value serve sought _ _

/-! ## Page accesses -/

variable {cursor : DiskPageCursor} {offset : Nat}

/-- An access whose end is not below the limit is refused before anything is
changed. -/
theorem run_prepareRw_refused
    (found : fs.lookup self.filePath = some inode)
    (positive : self.pageSize ≠ 0)
    (aligned : (fs.file inode).size % self.pageSize.toNat = 0)
    (past : self.maxDiskSize ≤ newByteSize self.pageSize cursor) :
    (self.prepareRw cursor).run serve fs =
      (.done (.error .diskExceedsMaxSize), fs) := by
  have size := run_getDiskByteSize found positive aligned
  rw [prepareRw, unwrapOrPropError_eq,
    run_unwrap_value serve size size]
  have refused :
      cursor.toUInt32 * self.pageSize + self.pageSize ≥
        self.maxDiskSize := past
  simp only [if_pos refused]
  rfl

/-- A file with a partial page stops every access. -/
theorem run_prepareRw_misaligned
    (found : fs.lookup self.filePath = some inode)
    (positive : self.pageSize ≠ 0)
    (misaligned : (fs.file inode).size % self.pageSize.toNat ≠ 0) :
    (self.prepareRw cursor).run serve fs =
      (.crashed .assertFileSize, fs) := by
  have stopped :
      self.getDiskByteSize.run serve fs = (.crashed .assertFileSize, fs) := by
    simp [getDiskByteSize, posix, Program.perform, serve, found, positive,
      misaligned]
  rw [prepareRw, unwrapOrPropError_eq, unwrap,
    Program.run_bind_of_crashed serve stopped]

/-- An access that passes the check makes the file reach the end it computed
and moves the offset to the start it computed. -/
theorem run_prepareRw
    (found : fs.lookup self.filePath = some inode)
    (isOpen : fs.descriptors.lookup self.fd = some ⟨inode, offset⟩)
    (positive : self.pageSize ≠ 0)
    (aligned : (fs.file inode).size % self.pageSize.toNat = 0)
    (bounded : (fs.file inode).size < 2 ^ 32)
    (passes : newByteSize self.pageSize cursor < self.maxDiskSize) :
    (self.prepareRw cursor).run serve fs =
      (.done
          (if (foffset self.pageSize cursor).toNat = 2 ^ 32 - 1 then
            .error .unkownError
          else .ok),
        (fs.setFile inode
          ((fs.file inode).grow
            (newByteSize self.pageSize cursor).toNat)).setDescriptor
              self.fd
          ⟨inode, (foffset self.pageSize cursor).toNat⟩) := by
  have size := run_getDiskByteSize found positive aligned
  have sizeBack :
      (UInt32.ofNat (fs.file inode).size).toNat = (fs.file inode).size :=
    UInt32.toNat_ofNat_of_lt' bounded
  have notRefused :
      ¬ cursor.toUInt32 * self.pageSize + self.pageSize ≥
        self.maxDiskSize :=
    UInt32.not_le.mpr passes
  rw [prepareRw, unwrapOrPropError_eq,
    run_unwrap_value serve size size]
  simp only [if_neg notRefused]
  by_cases short :
      (fs.file inode).size < (newByteSize self.pageSize cursor).toNat
  · have longer :
        cursor.toUInt32 * self.pageSize + self.pageSize >
          UInt32.ofNat (fs.file inode).size := by
      change UInt32.ofNat (fs.file inode).size <
        newByteSize self.pageSize cursor
      rw [UInt32.lt_iff_toNat_lt, sizeBack]
      exact short
    have truncated :=
      run_truncate (newByteSize self.pageSize cursor) found isOpen
    have openThen :
        (fs.setFile inode
          ((fs.file inode).resize
            (newByteSize self.pageSize cursor).toNat)).descriptors.lookup
              self.fd = some ⟨inode, offset⟩ := isOpen
    have sought :=
      run_propIfError_seek (foffset self.pageSize cursor) openThen
    rw [if_pos longer]
    refine (Program.run_bind_of_done serve truncated _).trans ?_
    refine sought.trans ?_
    simp only [File.grow, if_pos short]
  · have notLonger :
        ¬ cursor.toUInt32 * self.pageSize + self.pageSize >
          UInt32.ofNat (fs.file inode).size := by
      intro longer
      have below := UInt32.lt_iff_toNat_lt.mp longer
      change (UInt32.ofNat (fs.file inode).size).toNat <
        (newByteSize self.pageSize cursor).toNat at below
      omega
    have sought :=
      run_propIfError_seek (foffset self.pageSize cursor) isOpen
    rw [if_neg notLonger]
    refine sought.trans ?_
    simp only [File.grow, if_neg short, setFile_file]

/-- The same where the offset is not taken for a failure. -/
theorem run_prepareRw_seekable
    (found : fs.lookup self.filePath = some inode)
    (isOpen : fs.descriptors.lookup self.fd = some ⟨inode, offset⟩)
    (positive : self.pageSize ≠ 0)
    (aligned : (fs.file inode).size % self.pageSize.toNat = 0)
    (bounded : (fs.file inode).size < 2 ^ 32)
    (passes : newByteSize self.pageSize cursor < self.maxDiskSize)
    (seekable : Seekable self.pageSize cursor) :
    (self.prepareRw cursor).run serve fs =
      (.done .ok,
        (fs.setFile inode
          ((fs.file inode).grow
            (newByteSize self.pageSize cursor).toNat)).setDescriptor
              self.fd
          ⟨inode, (foffset self.pageSize cursor).toNat⟩) := by
  rw [run_prepareRw found isOpen positive aligned bounded passes,
    if_neg seekable]

/-- A whole page is transferred from the offset of the descriptor, and the
descriptor moves past it. -/
theorem run_transfer_write {start : Nat}
    (isOpen : fs.descriptors.lookup self.fd = some ⟨inode, start⟩)
    {data : List UInt8} (full : data.length = self.pageSize.toNat) :
    (Program.call (.write self.fd (data.take self.pageSize.toNat))
        self.afterWrite : Effect (DiskResult Unit)).run serve fs =
      (.done .ok,
        (fs.setFile inode
          ((fs.file inode).writeAt start data)).setDescriptor self.fd
            ⟨inode, start + self.pageSize.toNat⟩) := by
  have whole : data.take self.pageSize.toNat = data := by
    rw [← full, List.take_length]
  have synced (after : FileSystem) (opened : OpenFile) :
      self.sync.run serve (after.setDescriptor self.fd opened) =
        (.done .ok, after.setDescriptor self.fd opened) :=
    run_sync (descriptors_setDescriptor _ _ _)
  simp [serve, isOpen, whole, afterWrite, unsignedReturn, full,
    run_propagate_value serve (synced _ _)]

/-- A page that ends inside the file is read from the offset of the
descriptor. -/
theorem run_transfer_read {start : Nat}
    (isOpen : fs.descriptors.lookup self.fd = some ⟨inode, start⟩)
    (inside : start + self.pageSize.toNat ≤ (fs.file inode).size)
    {buffer : List UInt8} (full : buffer.length = self.pageSize.toNat) :
    (Program.call (.read self.fd self.pageSize.toNat) fun reply =>
        .done (self.afterRead reply buffer) :
          Effect (DiskResult Unit × List UInt8)).run serve fs =
      (.done (.ok, (fs.file inode).readAt start self.pageSize.toNat),
        fs.setDescriptor self.fd
          ⟨inode, start + self.pageSize.toNat⟩) := by
  have length :
      ((fs.file inode).readAt start self.pageSize.toNat).length =
        self.pageSize.toNat := by
    rw [File.readAt_length]
    omega
  have rest : buffer.drop self.pageSize.toNat = [] := by
    rw [← full, List.drop_length]
  simp [serve, isOpen, afterRead, unsignedReturn, length, rest,
    Except.map, -File.readAt_length]

variable (self fs) in
/-- A write that passes the check succeeds, wherever it lands. -/
theorem run_write_passing
    (found : fs.lookup self.filePath = some inode)
    (isOpen : fs.descriptors.lookup self.fd = some ⟨inode, offset⟩)
    (positive : self.pageSize ≠ 0)
    (aligned : (fs.file inode).size % self.pageSize.toNat = 0)
    (bounded : (fs.file inode).size < 2 ^ 32)
    (passes : newByteSize self.pageSize cursor < self.maxDiskSize)
    (seekable : Seekable self.pageSize cursor)
    {data : List UInt8} (full : data.length = self.pageSize.toNat) :
    (self.write cursor data).run serve fs =
      (.done .ok,
        (fs.setFile inode
          (((fs.file inode).grow
            (newByteSize self.pageSize cursor).toNat).writeAt
              (foffset self.pageSize cursor).toNat data)).setDescriptor
                self.fd
          ⟨inode,
            (foffset self.pageSize cursor).toNat +
              self.pageSize.toNat⟩) := by
  have prepared :=
    run_prepareRw_seekable found isOpen positive aligned bounded passes
      seekable
  rw [write_eq, run_propagate_value serve prepared,
    run_transfer_write (descriptors_setDescriptor _ _ _) full]
  simp

variable (self fs) in
/-- A read that passes the check without a wrapped end succeeds, wherever it
lands. -/
theorem run_read_passing
    (found : fs.lookup self.filePath = some inode)
    (isOpen : fs.descriptors.lookup self.fd = some ⟨inode, offset⟩)
    (positive : self.pageSize ≠ 0)
    (aligned : (fs.file inode).size % self.pageSize.toNat = 0)
    (bounded : (fs.file inode).size < 2 ^ 32)
    (passes : newByteSize self.pageSize cursor < self.maxDiskSize)
    (noCarry :
      (foffset self.pageSize cursor).toNat + self.pageSize.toNat < 2 ^ 32)
    {buffer : List UInt8} (full : buffer.length = self.pageSize.toNat) :
    ((self.read cursor).run buffer).run serve fs =
      (.done (.ok,
          ((fs.file inode).grow
            (newByteSize self.pageSize cursor).toNat).readAt
              (foffset self.pageSize cursor).toNat self.pageSize.toNat),
        (fs.setFile inode
          ((fs.file inode).grow
            (newByteSize self.pageSize cursor).toNat)).setDescriptor
              self.fd
          ⟨inode,
            (foffset self.pageSize cursor).toNat +
              self.pageSize.toNat⟩) := by
  have size := Nat.pos_of_ne_zero
    (fun zero => positive (UInt32.toNat_inj.mp zero))
  have seekable : Seekable self.pageSize cursor := by
    simp only [Seekable]
    omega
  have prepared :=
    run_prepareRw_seekable found isOpen positive aligned bounded passes
      seekable
  have ends :
      (newByteSize self.pageSize cursor).toNat =
        (foffset self.pageSize cursor).toNat + self.pageSize.toNat := by
    simp only [newByteSize]
    rw [UInt32.toNat_add, Nat.mod_eq_of_lt noCarry]
  have inside :
      (foffset self.pageSize cursor).toNat + self.pageSize.toNat ≤
        (((fs.file inode).grow
          (newByteSize self.pageSize cursor).toNat)).size := by
    rw [File.grow_size, ends]
    exact Nat.le_max_right _ _
  rw [read_run, run_propagate_value serve prepared,
    run_transfer_read (descriptors_setDescriptor _ _ _)
      (by rw [file_setDescriptor, file_setFile_self]; exact inside) full]
  simp

end PosixDisk

end Lewsql
