import Lewsql.DiskManager.Courses
import Lewsql.DiskManager.Offsets
import Lewsql.DiskManager.Rules
import Lewsql.Posix.Faults

/-!
# Whole pages under faults

A file of whole pages stays one through every call of the manager except a write
that stops short past the end of the file, which can only follow a `truncate` that
failed.  The two assertions about file sizes fail only on a file with a partial
page.
-/

namespace Lewsql

open Interaction Posix FileSystem

/-- A transfer that stops inside a page and makes the file longer. -/
def ShortPastEnd (inode : Nat) (before : FileSystem) :
    (request : Request) → Except Errno (Answer request) → Prop
  | .write descriptor bytes, .ok count =>
      ∃ offset, before.descriptors.lookup descriptor = some ⟨inode, offset⟩ ∧
        0 < count ∧ count < bytes.length ∧
        (before.file inode).size < offset + count
  | _, _ => False

def WholePages (pageSize inode : Nat) (fs : FileSystem) : Prop :=
  (fs.file inode).size % pageSize = 0

/-- Sizes that an `unsigned int` can hold. -/
def Sized (inode : Nat) (fs : FileSystem) : Prop :=
  (fs.file inode).size < 2 ^ 32

/-- A call that keeps a file of whole pages one, unless it stops short past the
end. -/
def KeepsPages (pageSize inode : Nat) :
    Transition Posix.calls FileSystem :=
  fun before request reply after =>
    Sized inode before →
      Sized inode after ∧
        (WholePages pageSize inode before →
          (WholePages pageSize inode after ↔
            ¬ ShortPastEnd inode before request reply))

/-- Calls that cut, grow or write files in whole pages. -/
def Fits (pageSize : Nat) (before : FileSystem) : Request → Prop
  | .truncate _ length => length % pageSize = 0 ∧ length < 2 ^ 32
  | .write descriptor bytes =>
      bytes.length = pageSize ∧
        ∀ opened, before.descriptors.lookup descriptor = some opened →
          opened.offset % pageSize = 0 ∧
            opened.offset + pageSize < 2 ^ 32
  | _ => True

section Calls

variable {pageSize inode : Nat} {before after : FileSystem}

private theorem keepsPages_of_size {request : Request}
    {reply : Except Errno (Answer request)}
    (same : (after.file inode).size = (before.file inode).size)
    (full : ¬ ShortPastEnd inode before request reply) :
    KeepsPages pageSize inode before request reply after := by
  intro sized
  simp only [Sized, WholePages]
  rw [same]
  exact ⟨sized, fun whole => ⟨fun _ => full, fun _ => whole⟩⟩

/-- The size after a transfer from a page boundary. -/
private theorem whole_after_transfer {size offset taken : Nat}
    (start : offset % pageSize = 0) (part : taken ≤ pageSize)
    (whole : size % pageSize = 0) :
    (if taken = 0 then size else max size (offset + taken)) % pageSize =
        0 ↔
      ¬ (0 < taken ∧ taken < pageSize ∧ size < offset + taken) := by
  by_cases none : taken = 0
  · rw [if_pos none]
    exact ⟨fun _ short => absurd short.1 (by omega), fun _ => whole⟩
  rw [if_neg none]
  by_cases inside : offset + taken ≤ size
  · rw [Nat.max_eq_left inside]
    exact ⟨fun _ short => absurd short.2.2 (by omega), fun _ => whole⟩
  rw [Nat.max_eq_right (by omega)]
  by_cases all : taken = pageSize
  · rw [all, Nat.add_mod_right, start]
    exact ⟨fun _ short => absurd short.2.1 (by omega), fun _ => rfl⟩
  · have rest : (offset + taken) % pageSize = taken := by
      rw [Nat.add_mod, start, Nat.zero_add, Nat.mod_mod,
        Nat.mod_eq_of_lt (by omega)]
    rw [rest]
    exact ⟨fun zero => absurd zero none,
      fun notShort => absurd ⟨by omega, by omega, by omega⟩ notShort⟩

/-- A transfer of a page or a part of it from a page boundary. -/
private theorem keepsPages_transfer {descriptor : Nat}
    {bytes taken : List UInt8} {opened : OpenFile}
    (full : bytes.length = pageSize)
    (isOpen : before.descriptors.lookup descriptor = some opened)
    (start : opened.offset % pageSize = 0)
    (room : opened.offset + pageSize < 2 ^ 32)
    (part : taken.length ≤ pageSize)
    (written : after.file =
      (before.setFile opened.inode
        ((before.file opened.inode).writeAt opened.offset taken)).file) :
    KeepsPages pageSize inode before (.write descriptor bytes)
      (.ok taken.length) after := by
  by_cases same : opened.inode = inode
  · obtain ⟨number, offset⟩ := opened
    dsimp only at same start room written
    subst number
    have size :
        (after.file inode).size =
          if taken.length = 0 then (before.file inode).size
          else max (before.file inode).size (offset + taken.length) := by
      rw [written, file_setFile_self, File.writeAt_size]
    have short :
        ShortPastEnd inode before (.write descriptor bytes)
            (.ok taken.length) ↔
          0 < taken.length ∧ taken.length < pageSize ∧
            (before.file inode).size < offset + taken.length := by
      constructor
      · intro short
        rcases short with ⟨start, found, some, part, past⟩
        rw [isOpen] at found
        cases found
        exact ⟨some, full ▸ part, past⟩
      · intro short
        rcases short with ⟨some, part, past⟩
        exact ⟨offset, isOpen, some, full ▸ part, past⟩
    intro sized
    unfold Sized WholePages at *
    rw [short, size]
    refine ⟨?_, fun whole => whole_after_transfer start part whole⟩
    by_cases none : taken.length = 0
    · rw [if_pos none]
      exact sized
    · rw [if_neg none]
      omega
  · apply keepsPages_of_size
    · rw [written, file_setFile_of_ne _ _ _ (Ne.symm same)]
    · intro landed
      rcases landed with ⟨start, found, _⟩
      rw [isOpen] at found
      cases found
      exact same rfl

private theorem keepsPages_write {descriptor : Nat} {bytes : List UInt8} {reply : Except Errno Nat}
    (fits : Fits pageSize before (.write descriptor bytes))
    (moved : mayFail before (.write descriptor bytes) reply after) :
    KeepsPages pageSize inode before (.write descriptor bytes) reply
      after := by
  obtain ⟨full, boundary⟩ := fits
  obtain ⟨fault, served⟩ := moved
  cases isOpen : before.descriptors.lookup descriptor with
  | none =>
      have unchanged : reply = .error .other ∧ after = before := by
        cases fault <;> simp only [serveWith, serve, isOpen] at served <;>
          cases served <;> exact ⟨rfl, rfl⟩
      obtain ⟨rfl, rfl⟩ := unchanged
      exact keepsPages_of_size rfl id
  | some opened =>
      obtain ⟨start, room⟩ := boundary opened isOpen
      cases fault with
      | none =>
          simp only [serveWith, serve, isOpen] at served
          cases served
          exact keepsPages_transfer full isOpen start room
            (Nat.le_of_eq full) rfl
      | fail =>
          cases served
          exact keepsPages_of_size rfl id
      | short count =>
          simp only [serveWith, serve, isOpen] at served
          cases served
          refine keepsPages_transfer full isOpen start room ?_ rfl
          rw [List.length_take, full]
          exact Nat.min_le_right _ _

private theorem keepsPages_truncate {path : String} {length : Nat}
    {reply : Except Errno Unit}
    (fits : Fits pageSize before (.truncate path length))
    (moved : mayFail before (.truncate path length) reply after) :
    KeepsPages pageSize inode before (.truncate path length) reply
      after := by
  rcases mayFail_cases moved with
    ⟨_, _, rfl | ⟨_, impossible, _⟩⟩ | served |
    ⟨_, _, _, impossible, _⟩ | ⟨_, _, _, impossible, _⟩
  · exact keepsPages_of_size rfl id
  · cases impossible
  · cases found : before.lookup path with
    | none =>
        simp only [serve, found] at served
        cases served
        exact keepsPages_of_size rfl id
    | some number =>
        simp only [serve, found] at served
        cases served
        by_cases same : inode = number
        · subst same
          intro _
          simp only [Sized, WholePages]
          rw [file_setFile_self, File.resize_size]
          exact ⟨fits.2, fun _ => ⟨fun _ => id, fun _ => fits.1⟩⟩
        · apply keepsPages_of_size
          · rw [file_setFile_of_ne _ _ _ same]
          · exact id
  · cases impossible
  · cases impossible

private theorem keepsPages_openFile {path : String}
    {reply : Except Errno Nat}
    (moved : mayFail before (.openFile path) reply after) :
    KeepsPages pageSize inode before (.openFile path) reply after := by
  cases found : before.lookup path with
  | some number =>
      rcases mayFail_openFile found moved with
        ⟨_, _, rfl⟩ | ⟨_, rfl⟩
      · exact keepsPages_of_size rfl id
      · exact keepsPages_of_size rfl id
  | none =>
      rcases mayFail_cases moved with
        ⟨_, _, rfl | ⟨_, impossible, _⟩⟩ | served |
        ⟨_, _, _, impossible, _⟩ | ⟨_, _, _, impossible, _⟩
      · exact keepsPages_of_size rfl id
      · cases impossible
      · simp only [serve, found] at served
        cases served
        by_cases same : inode = before.nextInode
        · have empty :
              (((before.link path).setDescriptor before.freeDescriptor
                ⟨before.nextInode, 0⟩).file inode).size = 0 := by
            rw [same, file_setDescriptor, file_link_self]
            rfl
          intro _
          simp only [Sized, WholePages]
          rw [empty, Nat.zero_mod]
          exact ⟨by omega, fun _ => ⟨fun _ => id, fun _ => rfl⟩⟩
        · apply keepsPages_of_size
          · rw [file_setDescriptor, file_link_of_ne _ _ _ same]
          · exact id
      · cases impossible
      · cases impossible

theorem keepsPages_of_fits {request : Request}
    {reply : Except Errno (Answer request)}
    (fits : Fits pageSize before request)
    (moved : mayFail before request reply after) :
    KeepsPages pageSize inode before request reply after := by
  cases request with
  | write descriptor bytes => exact keepsPages_write fits moved
  | truncate path length => exact keepsPages_truncate fits moved
  | openFile path => exact keepsPages_openFile moved
  | _ =>
      have files := mayFail_keepsFiles (by exact True.intro) moved
      exact keepsPages_of_size
        (congrArg (fun file => (file inode).size) files) id

end Calls

/-! ## The member functions of a disk -/

def Crash.blamesSize : Crash → Prop
  | .assertFileSize => True
  | .assertByteSize => True
  | _ => False

theorem Crash.not_blamesSize_of_fromMacro {reason : Crash}
    (expansion : reason.fromMacro = true) : ¬ reason.blamesSize := by
  cases reason <;> simp_all [Crash.fromMacro, Crash.blamesSize]

/-- A size assertion fails only on a partial page. -/
def Blames (pageSize inode : Nat) (reason : Crash)
    (fs : FileSystem) : Prop :=
  reason.blamesSize → ¬ WholePages pageSize inode fs

/-- The path names the file, whose size an `unsigned int` can hold. -/
structure Reaches (path : String) (inode : Nat) (fs : FileSystem) :
    Prop where
  found : fs.lookup path = some inode
  sized : Sized inode fs

/-- A call that keeps names and fits keeps the file reached. -/
theorem Reaches.step {pageSize inode : Nat} {path : String}
    {before after : FileSystem} {request : Request}
    {reply : Except Errno (Answer request)}
    (reaches : Reaches path inode before)
    (moved : mayFail before request reply after)
    (keeps : KeepsNames request) (fits : Fits pageSize before request) :
    KeepsPages pageSize inode before request reply after ∧
      Reaches path inode after := by
  have kept : KeepsPages pageSize inode before request reply after :=
    keepsPages_of_fits fits moved
  refine ⟨kept, ?_, (kept reaches.sized).1⟩
  rw [(mayFail_keepsNames keeps moved).lookup]
  exact reaches.found

namespace PosixDisk

variable {self : PosixDisk} {inode : Nat} {fs : FileSystem}
variable {cursor : DiskPageCursor}

theorem wp_getDiskByteSize_mayFail (positive : self.pageSize ≠ 0)
    (reaches : Reaches self.filePath inode fs) :
    self.getDiskByteSize.wp mayFail (KeepsPages self.pageSize.toNat inode)
      (ending
        (fun size after => Reaches self.filePath inode after ∧
          size = UInt32.ofNat (after.file inode).size)
        (fun _ after => Reaches self.filePath inode after ∧ True)
        (Blames self.pageSize.toNat inode))
      fs := by
  rw [getDiskByteSize, posix, Program.perform_bind]
  intro reply after moved
  obtain ⟨kept, still⟩ := reaches.step moved True.intro True.intro
  refine ⟨kept, ?_⟩
  cases reply with
  | error number => exact ⟨still, True.intro⟩
  | ok size =>
      obtain ⟨rfl, number, found, rfl⟩ := mayFail_stat moved
      rw [reaches.found] at found
      cases found
      dsimp only
      rw [if_neg positive]
      by_cases whole : (after.file inode).size % self.pageSize.toNat = 0
      · rw [if_neg (not_not.mpr whole)]
        exact ⟨still, rfl⟩
      · rw [if_pos whole]
        exact fun _ => whole

/-- A propagated call whose failures leave the file reached. -/
theorem wp_propIfError_mayFail {pageSize : Nat}
    {result rest : Effect (DiskResult Unit)}
    {valuePost : Unit → FileSystem → Prop}
    {post : Outcome Crash (DiskResult Unit) → FileSystem → Prop}
    (safe : ∀ fs, Reaches self.filePath inode fs →
      result.wp mayFail (KeepsPages pageSize inode)
        (ending valuePost
          (fun _ after => Reaches self.filePath inode after ∧ True)
          (Blames pageSize inode))
        fs)
    (value : ∀ after, valuePost () after →
      rest.wp mayFail (KeepsPages pageSize inode) post after)
    (error : ∀ failure after, Reaches self.filePath inode after →
      post (.done (.error failure)) after)
    (crashed : ∀ reason after, Blames pageSize inode reason after →
      post (.crashed reason) after)
    (reaches : Reaches self.filePath inode fs) :
    (propIfError result rest).wp mayFail (KeepsPages pageSize inode) post
      fs := by
  rw [propIfError_eq]
  refine wp_propagate safe (fun _ => value) ?_ crashed ?_ reaches
  · exact fun failure after still _ => error failure after still
  · exact fun _ after _ =>
      crashed .assertIsError after fun blames => blames.elim

theorem wp_sync_mayFail {pageSize : Nat}
    (reaches : Reaches self.filePath inode fs) :
    self.sync.wp mayFail (KeepsPages pageSize inode)
      (ending (fun _ after => Reaches self.filePath inode after)
        (fun _ after => Reaches self.filePath inode after ∧ True)
        (Blames pageSize inode))
      fs := by
  rw [sync, posix, Program.perform_bind]
  intro reply after moved
  obtain ⟨kept, still⟩ := reaches.step moved True.intro True.intro
  refine ⟨kept, ?_⟩
  cases reply with
  | error number => exact ⟨still, True.intro⟩
  | ok answer => exact still

theorem wp_truncate_mayFail {newByteSize : UInt32}
    (whole : newByteSize.toNat % self.pageSize.toNat = 0)
    (reaches : Reaches self.filePath inode fs) :
    (self.truncate newByteSize).wp mayFail
      (KeepsPages self.pageSize.toNat inode)
      (ending (fun _ after => Reaches self.filePath inode after)
        (fun _ after => Reaches self.filePath inode after)
        (Blames self.pageSize.toNat inode))
      fs := by
  rw [truncate, posix, Program.perform_bind]
  intro reply after moved
  obtain ⟨kept, still⟩ :=
    reaches.step moved True.intro ⟨whole, newByteSize.toNat_lt⟩
  refine ⟨kept, ?_⟩
  cases reply with
  | error number => exact still
  | ok answer =>
      exact wp_propIfError_mayFail
        (fun _ reaches => wp_sync_mayFail reaches)
        (fun _ reaches => reaches) (fun _ _ reaches => reaches)
        (fun _ _ blames => blames) still

def StandsAt (disk : PosixDisk) (offset : Nat) (fs : FileSystem) : Prop :=
  ∃ opened, fs.descriptors.lookup disk.fd = some opened ∧
    opened.offset = offset

theorem wp_seek_mayFail {pageSize : Nat} {pos : UInt32}
    (reaches : Reaches self.filePath inode fs) :
    (self.seek pos).wp mayFail (KeepsPages pageSize inode)
      (ending
        (fun _ after => Reaches self.filePath inode after ∧
          self.StandsAt pos.toNat after)
        (fun _ after => Reaches self.filePath inode after ∧ True)
        (Blames pageSize inode))
      fs := by
  rw [seek, posix, Program.perform_bind]
  intro reply after moved
  obtain ⟨kept, still⟩ := reaches.step moved True.intro True.intro
  refine ⟨kept, ?_⟩
  cases reply with
  | error number => exact ⟨still, True.intro⟩
  | ok offset =>
      obtain ⟨opened, isOpen, rfl⟩ := mayFail_lseek moved
      dsimp only
      split_ifs
      · exact ⟨still, True.intro⟩
      · exact ⟨still, _, descriptors_setDescriptor _ _ _, rfl⟩

theorem wp_prepareRw_mayFail (positive : self.pageSize ≠ 0)
    (inRange : InRange self.pageSize self.maxDiskSize cursor)
    (reaches : Reaches self.filePath inode fs) :
    (self.prepareRw cursor).wp mayFail
      (KeepsPages self.pageSize.toNat inode)
      (ending
        (fun _ after => Reaches self.filePath inode after ∧
          self.StandsAt (foffset self.pageSize cursor).toNat after)
        (fun _ after => Reaches self.filePath inode after ∧ True)
        (Blames self.pageSize.toNat inode))
      fs := by
  have sought : ∀ fs, Reaches self.filePath inode fs →
      (propIfError (self.seek (foffset self.pageSize cursor))
          (pure .ok : Effect (DiskResult Unit))).wp mayFail
        (KeepsPages self.pageSize.toNat inode)
        (ending
          (fun _ after => Reaches self.filePath inode after ∧
            self.StandsAt (foffset self.pageSize cursor).toNat after)
          (fun _ after => Reaches self.filePath inode after ∧ True)
          (Blames self.pageSize.toNat inode))
        fs := by
    intro fs reaches
    exact wp_propIfError_mayFail
      (fun _ reaches => wp_seek_mayFail reaches)
      (fun _ stands => stands)
      (fun _ _ reaches => ⟨reaches, True.intro⟩)
      (fun _ _ blames => blames) reaches
  have whole :
      (newByteSize self.pageSize cursor).toNat % self.pageSize.toNat =
        0 := by
    rw [inRange.newByteSize, Nat.add_mod_right, Nat.mul_mod_left]
  rw [prepareRw, unwrapOrPropError_eq]
  refine wp_unwrap
    (fun _ reaches => wp_getDiskByteSize_mayFail positive reaches)
    ?_ ?_ (fun _ _ blames => blames) ?_ ?_ reaches
  · intro curByteSize after reaches _
    dsimp only
    split_ifs
    · exact ⟨reaches, True.intro⟩
    · rw [Program.wp_bind]
      refine Program.wp_consequence (wp_truncate_mayFail whole reaches) ?_
      intro outcome last ended
      rcases outcome with result | reason
      · have reaches : Reaches self.filePath inode last := by
          cases result with
          | value content => exact ended
          | error failure => exact ended
        exact sought last reaches
      · exact ended
    · exact sought after reaches
  · exact fun _ _ reaches _ => ⟨reaches, True.intro⟩
  · exact fun _ _ _ after _ _ _ blames => blames.elim
  · intro _ _ failure after _ _ _ blames
    have expansion := Result.unwrapCrash_fromMacro failure
    exact absurd blames (Crash.not_blamesSize_of_fromMacro expansion)

def AccessEnds (disk : PosixDisk) (inode : Nat) {Value : Type} :
    Outcome Crash Value → FileSystem → Prop
  | .done _, after => Reaches disk.filePath inode after
  | .crashed reason, after => Blames disk.pageSize.toNat inode reason after

theorem wp_write_mayFail (positive : self.pageSize ≠ 0)
    (inRange : InRange self.pageSize self.maxDiskSize cursor)
    {data : List UInt8} (full : data.length = self.pageSize.toNat)
    (reaches : Reaches self.filePath inode fs) :
    (self.write cursor data).wp mayFail
      (KeepsPages self.pageSize.toNat inode)
      (ending (fun _ after => Reaches self.filePath inode after)
        (fun _ after => Reaches self.filePath inode after ∧ True)
        (Blames self.pageSize.toNat inode))
      fs := by
  rw [write_eq]
  refine wp_propagate
    (fun _ reaches => wp_prepareRw_mayFail positive inRange reaches)
    ?_ ?_ (fun _ _ blames => blames) ?_ reaches
  · intro _ after ready reply last moved
    rcases ready with ⟨reaches, opened, isOpen, stands⟩
    have room := inRange.end_lt
    have limit := self.maxDiskSize.toNat_lt
    have fits :
        Fits self.pageSize.toNat after
          (.write self.fd (data.take self.pageSize.toNat)) := by
      refine ⟨by rw [List.length_take, full, Nat.min_self], ?_⟩
      intro found same
      rw [isOpen] at same
      cases same
      rw [stands, inRange.foffset, Nat.mul_mod_left]
      exact ⟨rfl, by omega⟩
    obtain ⟨kept, still⟩ := reaches.step moved True.intro fits
    refine ⟨kept, ?_⟩
    simp only [afterWrite]
    split_ifs
    · exact ⟨still, True.intro⟩
    · change (propagate self.sync (fun error => pure (Result.error error))
        fun _ => pure Result.ok).wp _ _ _ last
      rw [← propIfError_eq]
      exact wp_propIfError_mayFail
        (fun _ reaches => wp_sync_mayFail reaches)
        (fun _ reaches => reaches)
        (fun _ _ reaches => ⟨reaches, True.intro⟩)
        (fun _ _ blames => blames) still
  · exact fun _ _ reaches _ => ⟨reaches, True.intro⟩
  · exact fun _ _ _ blames => blames.elim

theorem wp_read_mayFail (positive : self.pageSize ≠ 0)
    (inRange : InRange self.pageSize self.maxDiskSize cursor)
    (buffer : List UInt8) (reaches : Reaches self.filePath inode fs) :
    ((self.read cursor).run buffer).wp mayFail
      (KeepsPages self.pageSize.toNat inode) (self.AccessEnds inode)
      fs := by
  rw [read_run]
  refine wp_propagate
    (fun _ reaches => wp_prepareRw_mayFail positive inRange reaches)
    ?_ ?_ (fun _ _ blames => blames) ?_ reaches
  · intro _ after ready reply last moved
    rcases ready with ⟨reaches, _⟩
    exact reaches.step moved True.intro True.intro
  · exact fun _ _ reaches _ => reaches
  · exact fun _ _ _ blames => blames.elim

theorem wp_propIfError_read_mayFail (positive : self.pageSize ≠ 0)
    (inRange : InRange self.pageSize self.maxDiskSize cursor)
    (buffer : List UInt8) (reaches : Reaches self.filePath inode fs) :
    ((propIfError (self.read cursor)
        (pure .ok : StateT (List UInt8) Effect (DiskResult Unit))).run
          buffer).wp mayFail
      (KeepsPages self.pageSize.toNat inode) (self.AccessEnds inode)
      fs := by
  refine wp_propagated_read self cursor
    (fun _ state => Reaches self.filePath inode state) ?_ ?_ reaches
  · intro bytes state reaches
    refine Program.wp_consequence
      (wp_read_mayFail positive inRange bytes reaches) ?_
    intro outcome after ended
    refine ⟨ended, ?_⟩
    intro failure left equal
    rcases equal with rfl
    exact ended
  · exact fun _ _ _ blames => blames.elim

end PosixDisk

end Lewsql
