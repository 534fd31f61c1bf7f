import Lewsql.DiskManager.ManagerRuns

/-!
# Page accesses with any cursor

Nothing is assumed of the cursor here.  A write of a whole page succeeds exactly
where the wrapped end passes the check and the wrapped offset is not taken for a
failed `lseek`; a read succeeds exactly where the check passes and the page ends
below `2^32`.  Both work at the wrapped offset.
-/

namespace Lewsql

open Interaction Posix FileSystem

namespace PosixDisk

variable {self : PosixDisk} {inode : Nat} {fs : FileSystem}
variable {cursor : DiskPageCursor} {content : Nat → UInt8}

/-- The object has its file open, and the file holds `content` within the
limit. -/
structure Attached (disk : PosixDisk) (inode : Nat)
    (content : Nat → UInt8) (fs : FileSystem) : Prop where
  found : fs.lookup disk.filePath = some inode
  isOpen : ∃ offset,
    fs.descriptors.lookup disk.fd = some ⟨inode, offset⟩
  within : (fs.file inode).size ≤ disk.maxDiskSize.toNat
  bytes : (fs.file inode).byte = content

theorem Attached.bounded (attached : self.Attached inode content fs) :
    (fs.file inode).size < 2 ^ 32 := by
  have within := attached.within
  have limit := self.maxDiskSize.toNat_lt
  omega

/-- Growing the file to a length that passed the check and seeking keep what is
in it and keep it within the limit. -/
theorem Attached.grow (attached : self.Attached inode content fs)
    (passes : newByteSize self.pageSize cursor < self.maxDiskSize)
    (offset : Nat) :
    self.Attached inode content
      ((fs.setFile inode
        ((fs.file inode).grow
          (newByteSize self.pageSize cursor).toNat)).setDescriptor self.fd
        ⟨inode, offset⟩) where
  found := attached.found
  isOpen := ⟨offset, descriptors_setDescriptor _ _ _⟩
  within := by
    have within := attached.within
    have below := UInt32.lt_iff_toNat_lt.mp passes
    rw [file_setDescriptor, file_setFile_self, File.grow_size]
    omega
  bytes := by
    rw [file_setDescriptor, file_setFile_self, File.grow_byte]
    exact attached.bytes

structure Prepared (disk : PosixDisk) (inode : Nat)
    (cursor : DiskPageCursor) (content : Nat → UInt8)
    (fs : FileSystem) : Prop where
  passes : newByteSize disk.pageSize cursor < disk.maxDiskSize
  seekable : Seekable disk.pageSize cursor
  attached : disk.Attached inode content fs
  offset : fs.descriptors.lookup disk.fd =
    some ⟨inode, (foffset disk.pageSize cursor).toNat⟩
  reached : (newByteSize disk.pageSize cursor).toNat ≤ (fs.file inode).size

/-- `prepare_rw` succeeds exactly where the check and the seek do, unless it
finds a partial page. -/
theorem wp_prepareRw (positive : self.pageSize ≠ 0)
    (attached : self.Attached inode content fs) :
    (self.prepareRw cursor).wp serve.transition Transition.any
      (ending (fun _ => self.Prepared inode cursor content)
        (fun _ after =>
          self.Attached inode content after ∧
            (newByteSize self.pageSize cursor < self.maxDiskSize →
              ¬ Seekable self.pageSize cursor))
        (fun _ _ => True))
      fs := by
  rw [Program.wp_handler]
  obtain ⟨offset, isOpen⟩ := attached.isOpen
  by_cases aligned : (fs.file inode).size % self.pageSize.toNat = 0
  · by_cases passes :
        newByteSize self.pageSize cursor < self.maxDiskSize
    · rw [run_prepareRw attached.found isOpen positive aligned
        attached.bounded passes]
      by_cases last : (foffset self.pageSize cursor).toNat = 2 ^ 32 - 1
      · rw [if_pos last]
        exact ⟨attached.grow passes _, fun _ seekable => seekable last⟩
      · rw [if_neg last]
        refine ⟨passes, last, attached.grow passes _,
          descriptors_setDescriptor _ _ _, ?_⟩
        rw [file_setDescriptor, file_setFile_self, File.grow_size]
        exact Nat.le_max_right _ _
    · rw [run_prepareRw_refused attached.found positive aligned
        (UInt32.not_lt.mp passes)]
      exact ⟨attached, fun passed => absurd passed passes⟩
  · rw [run_prepareRw_misaligned attached.found positive aligned]
    exact True.intro

/-- The file at the end of an access, and the open descriptor. -/
structure Transferred (disk : PosixDisk) (inode : Nat)
    (cursor : DiskPageCursor) (content : Nat → UInt8)
    (fs : FileSystem) : Prop where
  passes : newByteSize disk.pageSize cursor < disk.maxDiskSize
  isOpen : ∃ offset,
    fs.descriptors.lookup disk.fd = some ⟨inode, offset⟩
  within :
    (foffset disk.pageSize cursor).toNat + disk.pageSize.toNat < 2 ^ 32 →
      (fs.file inode).size ≤ disk.maxDiskSize.toNat
  bytes : (fs.file inode).byte = content

theorem newByteSize_of_noCarry {pageSize : UInt32}
    (noCarry :
      (foffset pageSize cursor).toNat + pageSize.toNat < 2 ^ 32) :
    (newByteSize pageSize cursor).toNat =
      (foffset pageSize cursor).toNat + pageSize.toNat := by
  simp only [newByteSize]
  rw [UInt32.toNat_add, Nat.mod_eq_of_lt noCarry]

/-- A read that reaches past `2^32` finds less than a page. -/
theorem read_past_end (positive : self.pageSize ≠ 0) {file : File}
    (bounded : file.size < 2 ^ 32) {start : Nat}
    (past : 2 ^ 32 ≤ start + self.pageSize.toNat) :
    unsignedReturn
        (Except.map List.length
          (.ok (file.readAt start self.pageSize.toNat) :
            Except Errno (List UInt8))) ≠
      self.pageSize := by
  intro whole
  have full := Nat.pos_of_ne_zero
    (fun zero => positive (UInt32.toNat_inj.mp zero))
  have short :
      (file.readAt start self.pageSize.toNat).length <
        self.pageSize.toNat := by
    rw [File.readAt_length]
    omega
  have asNat := congrArg UInt32.toNat whole
  rw [Except.map, unsignedReturn,
    UInt32.toNat_ofNat_of_lt'
      (Nat.lt_trans short self.pageSize.toNat_lt)] at asNat
  omega

/-- A write of a whole page succeeds exactly where the check and the seek do,
and it writes at the offset of the seek. -/
def WriteEnds (disk : PosixDisk) (inode : Nat) (cursor : DiskPageCursor)
    (data : List UInt8) (file : File) :
    Outcome Crash (DiskResult Unit) → FileSystem → Prop :=
  ending
    (fun _ after =>
      Seekable disk.pageSize cursor ∧
        disk.Transferred inode cursor
          (file.writeAt (foffset disk.pageSize cursor).toNat data).byte
          after)
    (fun _ after =>
      disk.Attached inode file.byte after ∧
        (newByteSize disk.pageSize cursor < disk.maxDiskSize →
          ¬ Seekable disk.pageSize cursor))
    (fun _ _ => True)

theorem wp_write (positive : self.pageSize ≠ 0) {data : List UInt8}
    (full : data.length = self.pageSize.toNat) (file : File)
    (attached : self.Attached inode file.byte fs) :
    (self.write cursor data).wp serve.transition Transition.any
      (self.WriteEnds inode cursor data file) fs := by
  rw [write_eq]
  refine wp_propagate
    (fun _ ready => wp_prepareRw positive ready)
    ?_ ?_ (fun _ _ _ => True.intro) (fun _ _ _ => True.intro) attached
  · intro _ after prepared
    rw [Program.wp_handler, run_transfer_write prepared.offset full]
    refine ⟨prepared.seekable, prepared.passes,
      ⟨_, descriptors_setDescriptor _ _ _⟩, ?_, ?_⟩
    · intro noCarry
      have size := newByteSize_of_noCarry noCarry
      have reached := prepared.reached
      rw [file_setDescriptor, file_setFile_self,
        File.writeAt_size_of_inside (by rw [full]; omega)]
      exact prepared.attached.within
    · rw [file_setDescriptor, file_setFile_self]
      funext position
      rw [File.writeAt_byte, File.writeAt_byte, prepared.attached.bytes]
  · intro failure after ready rejected
    exact ⟨ready, rejected⟩

theorem wp_propIfError_write (positive : self.pageSize ≠ 0)
    {data : List UInt8} (full : data.length = self.pageSize.toNat)
    (file : File) (attached : self.Attached inode file.byte fs) :
    (propIfError (self.write cursor data)
        (pure .ok : Effect (DiskResult Unit))).wp serve.transition
      Transition.any (self.WriteEnds inode cursor data file) fs := by
  rw [propIfError_eq]
  refine wp_propagate
    (fun _ ready => wp_write positive full file ready)
    ?_ ?_ (fun _ _ _ => True.intro) (fun _ _ _ => True.intro) attached
  · intro _ after written
    exact written
  · intro failure after ready rejected
    exact ⟨ready, rejected⟩

/-- A read of a whole page succeeds exactly where the check does and the end of
the page does not carry, and it reads at the offset of the seek. -/
def ReadEnds (disk : PosixDisk) (inode : Nat) (cursor : DiskPageCursor)
    (content : Nat → UInt8) :
    Outcome Crash (DiskResult Unit × List UInt8) → FileSystem → Prop
  | .done (.value (), bytes), after =>
      (foffset disk.pageSize cursor).toNat + disk.pageSize.toNat <
          2 ^ 32 ∧
        disk.Transferred inode cursor content after ∧
        bytes = (List.range disk.pageSize.toNat).map fun position =>
          content ((foffset disk.pageSize cursor).toNat + position)
  | .done (.error _, bytes), after =>
      disk.Attached inode content after ∧
        bytes.length = disk.pageSize.toNat ∧
        (newByteSize disk.pageSize cursor < disk.maxDiskSize →
          2 ^ 32 ≤
            (foffset disk.pageSize cursor).toNat + disk.pageSize.toNat)
  | .crashed _, _ => True

theorem wp_read (positive : self.pageSize ≠ 0) {buffer : List UInt8}
    (full : buffer.length = self.pageSize.toNat)
    (attached : self.Attached inode content fs) :
    ((self.read cursor).run buffer).wp serve.transition Transition.any
      (self.ReadEnds inode cursor content) fs := by
  rw [read_run]
  refine wp_propagate
    (fun _ ready => wp_prepareRw positive ready)
    ?_ ?_ (fun _ _ _ => True.intro) (fun _ _ _ => True.intro) attached
  · intro _ after prepared
    rw [Program.wp_handler]
    by_cases noCarry :
        (foffset self.pageSize cursor).toNat + self.pageSize.toNat < 2 ^ 32
    · have inside := prepared.reached
      rw [newByteSize_of_noCarry noCarry] at inside
      rw [run_transfer_read prepared.offset inside full]
      refine ⟨noCarry, ⟨prepared.passes,
        ⟨_, descriptors_setDescriptor _ _ _⟩,
        fun _ => prepared.attached.within, prepared.attached.bytes⟩, ?_⟩
      have whole :
          min self.pageSize.toNat
              ((after.file inode).size -
                (foffset self.pageSize cursor).toNat) =
            self.pageSize.toNat := by
        omega
      rw [File.readAt, whole, prepared.attached.bytes]
    · have short :=
        read_past_end positive prepared.attached.bounded
          (Nat.not_lt.mp noCarry)
      simp only [Program.run_call, serve, prepared.offset]
      have failed :
          self.afterRead
              (.ok ((after.file inode).readAt
                (foffset self.pageSize cursor).toNat
                self.pageSize.toNat)) buffer =
            (.error .readDiskError, _) :=
        Prod.ext (if_pos short) rfl
      rw [failed]
      refine ⟨⟨prepared.attached.found,
        ⟨_, descriptors_setDescriptor _ _ _⟩, prepared.attached.within,
        prepared.attached.bytes⟩, ?_, fun _ => Nat.not_lt.mp noCarry⟩
      change (_ ++ _ : List UInt8).length = self.pageSize.toNat
      rw [List.length_append, List.length_drop, full,
        File.readAt_length]
      omega
  · intro failure after ready rejected
    refine ⟨ready, full, fun passes => ?_⟩
    have large := Nat.pos_of_ne_zero
      (fun zero => positive (UInt32.toNat_inj.mp zero))
    have last := not_not.mp (rejected passes)
    omega

theorem wp_propIfError_read (positive : self.pageSize ≠ 0)
    {buffer : List UInt8} (full : buffer.length = self.pageSize.toNat)
    (attached : self.Attached inode content fs) :
    ((propIfError (self.read cursor)
        (pure .ok : StateT (List UInt8) Effect (DiskResult Unit))).run
          buffer).wp serve.transition Transition.any
      (self.ReadEnds inode cursor content) fs := by
  refine wp_propagated_read self cursor
    (fun bytes state => bytes.length = self.pageSize.toNat ∧
      self.Attached inode content state)
    ?_ (fun _ _ _ => True.intro) ⟨full, attached⟩
  intro bytes state ready
  rcases ready with ⟨full, attached⟩
  refine Program.wp_consequence (wp_read positive full attached) ?_
  intro outcome after ended
  refine ⟨ended, ?_⟩
  intro failure left equal
  rcases equal with rfl
  exact ⟨ended.2.1, ended.1⟩

end PosixDisk

namespace PosixDiskManager

variable {base : DiskManager} {fs : FileSystem} {inode : Nat}

/-- The scope of a disk whose body ends with its descriptor still open. -/
theorem withDisk_ends {path : String} {Value : Type}
    {failed : DiskManagerErrorCode → Value}
    {body : PosixDisk → Effect Value} {value : Value}
    {after : FileSystem}
    {post : Outcome Crash Value → FileSystem → Prop}
    (found : fs.lookup path = some inode)
    (safe :
      (body (openedDisk base fs path)).wp serve.transition Transition.any
        post (fs.setDescriptor fs.freeDescriptor ⟨inode, 0⟩))
    (isOpen : ∀ result last, post (.done result) last →
      ∃ opened, last.descriptors.lookup fs.freeDescriptor = some opened)
    (used :
      (withDisk base path failed body).run serve fs =
        (.done value, after)) :
    ∃ last, post (.done value) last ∧ after.file = last.file := by
  rw [withDisk, Program.run_bind_of_done serve
    (PosixDisk.run_init_existing fs path _ _ found)] at used
  obtain ⟨result, last, finished, closing⟩ :=
    Program.run_bind_eq_done serve used
  have closing :
      ((openedDisk base fs path).destructor >>= fun _ =>
        Program.done result).run serve last = (.done value, after) :=
    closing
  have finished :
      (body (openedDisk base fs path)).run serve
          (fs.setDescriptor fs.freeDescriptor ⟨inode, 0⟩) =
        (.done result, last) := finished
  have ended := Program.wp_run safe
  rw [finished] at ended
  obtain ⟨opened, stillOpen⟩ := isOpen result last ended
  rw [Program.run_bind_of_done serve
    (PosixDisk.run_destructor last rfl stillOpen)] at closing
  cases closing
  exact ⟨last, ended, rfl⟩

end PosixDiskManager

end Lewsql
