import Lewsql.DiskManager.Alignment
import Lewsql.DiskManager.ExclusiveCreation
import Lewsql.DiskManager.Managers
import Lewsql.DiskManager.Transfers
import Lewsql.Interaction.Atomic

/-!
# Pages shared by managers

Any number of managers write and read pages of the same disks at once, and their
POSIX calls interleave.  A file that is too short is grown by the length that was
computed from an earlier `stat`, so a `truncate` may cut what another manager has
written since.  As long as no `truncate` cuts, every access takes effect at the one
call that transfers its page: the managers behave like an object that serves pages
atomically.
-/

namespace Lewsql

open Interaction Posix FileSystem

abbrev Contents := Nat → Nat → UInt8

def contents (fs : FileSystem) : Contents :=
  fun inode => (fs.file inode).byte

def pageOf (content : Nat → UInt8) (pageSize page : Nat) : List UInt8 :=
  (List.range pageSize).map fun position =>
    content (page * pageSize + position)

def overwrite (content : Nat → UInt8) (offset : Nat)
    (bytes : List UInt8) : Nat → UInt8 :=
  fun position =>
    if offset ≤ position ∧ position < offset + bytes.length then
      bytes.getD (position - offset) 0
    else
      content position

section Statements

variable {Who : Type}

/-- Pages that are written and read atomically, on the disks of a directory. -/
def pageObject (pageSize : UInt32) (base : Who → DiskManager)
    (directory : FileSystem) :
    AtomicObject Who Operation PosixDiskManager Response Contents where
  serve who job before result after :=
    match job.task with
    | .write diskId cursor bytes =>
        ∃ inode,
          World.named (base who) ⟨job.own, directory⟩ diskId =
              some inode ∧
            result = (.void .ok, job.own) ∧
            after = Function.update before inode
              (overwrite (before inode)
                (cursor.toNatClampNeg * pageSize.toNat) bytes)
    | .read diskId cursor _ =>
        ∃ inode,
          World.named (base who) ⟨job.own, directory⟩ diskId =
              some inode ∧
            result =
              (.buffer .ok
                (pageOf (before inode) pageSize.toNat
                  cursor.toNatClampNeg), job.own) ∧
            after = before
    | _ => False

section Serves

variable {pageSize : UInt32} {base : Who → DiskManager}
variable {directory : FileSystem} {who : Who} {job : ManagerJob}
variable {diskId : DiskId} {cursor : DiskPageCursor}
variable {before after : Contents} {bytes : List UInt8}
variable {result : Response × PosixDiskManager}

theorem serves_write (task : job.task = .write diskId cursor bytes) :
    (pageObject pageSize base directory).serve who job before result
        after ↔
      ∃ inode,
        World.named (base who) ⟨job.own, directory⟩ diskId =
            some inode ∧
          result = (.void .ok, job.own) ∧
          after = Function.update before inode
            (overwrite (before inode)
              (cursor.toNatClampNeg * pageSize.toNat) bytes) := by
  simp only [pageObject]
  rw [task]

theorem serves_read (task : job.task = .read diskId cursor bytes) :
    (pageObject pageSize base directory).serve who job before result
        after ↔
      ∃ inode,
        World.named (base who) ⟨job.own, directory⟩ diskId =
            some inode ∧
          result =
            (.buffer .ok
              (pageOf (before inode) pageSize.toNat
                cursor.toNatClampNeg), job.own) ∧
          after = before := by
  simp only [pageObject]
  rw [task]

end Serves

/-- A `truncate` that makes its file shorter. -/
def Cuts (move : Move Posix.calls FileSystem) : Prop :=
  match move.request with
  | .truncate path length => ∃ inode ∈ move.before.lookup path,
      length < (move.before.file inode).size
  | _ => False

instance : DecidablePred Cuts
  | ⟨before, .truncate path length, _, _⟩ =>
      inferInstanceAs (Decidable (∃ inode ∈ before.lookup path,
        length < (before.file inode).size))
  | ⟨_, .access _, _, _⟩ => inferInstanceAs (Decidable False)
  | ⟨_, .openFile _, _, _⟩ => inferInstanceAs (Decidable False)
  | ⟨_, .close _, _, _⟩ => inferInstanceAs (Decidable False)
  | ⟨_, .stat _, _, _⟩ => inferInstanceAs (Decidable False)
  | ⟨_, .lseek _ _, _, _⟩ => inferInstanceAs (Decidable False)
  | ⟨_, .write _ _, _, _⟩ => inferInstanceAs (Decidable False)
  | ⟨_, .read _ _, _, _⟩ => inferInstanceAs (Decidable False)
  | ⟨_, .fsync _, _, _⟩ => inferInstanceAs (Decidable False)
  | ⟨_, .unlink _, _, _⟩ => inferInstanceAs (Decidable False)

/-- A whole page in range of a disk that exists. -/
def OnPage (pageSize : UInt32) (base : DiskManager)
    (directory : FileSystem) (job : ManagerJob) : Prop :=
  match job.task with
  | .write diskId cursor bytes =>
      bytes.length = pageSize.toNat ∧
        InRange pageSize base.maxDiskByteSize cursor ∧
        World.named base ⟨job.own, directory⟩ diskId ≠ none
  | .read diskId cursor buffer =>
      buffer.length = pageSize.toNat ∧
        InRange pageSize base.maxDiskByteSize cursor ∧
        World.named base ⟨job.own, directory⟩ diskId ≠ none
  | _ => False

instance (pageSize : UInt32) (base : DiskManager)
    (directory : FileSystem) :
    DecidablePred (OnPage pageSize base directory)
  | ⟨.write diskId cursor bytes, own⟩ =>
      inferInstanceAs (Decidable
        (bytes.length = pageSize.toNat ∧
          InRange pageSize base.maxDiskByteSize cursor ∧
          World.named base ⟨own, directory⟩ diskId ≠ none))
  | ⟨.read diskId cursor buffer, own⟩ =>
      inferInstanceAs (Decidable
        (buffer.length = pageSize.toNat ∧
          InRange pageSize base.maxDiskByteSize cursor ∧
          World.named base ⟨own, directory⟩ diskId ≠ none))
  | ⟨.create _, _⟩ => inferInstanceAs (Decidable False)
  | ⟨.load _, _⟩ => inferInstanceAs (Decidable False)
  | ⟨.exists _, _⟩ => inferInstanceAs (Decidable False)
  | ⟨.unload _, _⟩ => inferInstanceAs (Decidable False)
  | ⟨.destroy _, _⟩ => inferInstanceAs (Decidable False)
  | ⟨.isLoaded _, _⟩ => inferInstanceAs (Decidable False)
  | ⟨.loadedDiskName _, _⟩ => inferInstanceAs (Decidable False)
  | ⟨.numLoadedDisks, _⟩ => inferInstanceAs (Decidable False)
  | ⟨.extend _, _⟩ => inferInstanceAs (Decidable False)
  | ⟨.diskByteSize _, _⟩ => inferInstanceAs (Decidable False)

/-- Managers only write and read whole pages in range on disks that exist, and no
`truncate` cuts. -/
def SharesPages (pageSize : UInt32) (base : Who → DiskManager)
    (directory : FileSystem) : ManagerEvent Who → Prop
  | .begins who job => OnPage pageSize (base who) directory job
  | .calls _ _ _ move => ¬ Cuts move
  | .ends _ _ _ _ => True

instance (pageSize : UInt32) (base : Who → DiskManager)
    (directory : FileSystem) :
    DecidablePred (SharesPages pageSize base directory)
  | .begins who job =>
      inferInstanceAs (Decidable
        (OnPage pageSize (base who) directory job))
  | .calls _ _ _ move => inferInstanceAs (Decidable (¬ Cuts move))
  | .ends _ _ _ _ => inferInstanceAs (Decidable True)

/-- The directory is as it was, and its files have whole pages. -/
structure Steady (pageSize : UInt32) (directory fs : FileSystem) :
    Prop where
  same : SameDirectory directory fs
  pages : ∀ path inode, directory.lookup path = some inode →
    WholePages pageSize.toNat inode fs ∧ Sized inode fs

end Statements

/-! ## The call at which an access takes effect -/

/-- The result of an access that one of its calls fixes. -/
def transferOf (job : ManagerJob) (move : Move Posix.calls FileSystem) :
    Option (Response × PosixDiskManager) :=
  match move.request, move.reply with
  | .write _ _, .ok _ => some (.void .ok, job.own)
  | .read _ _, .ok bytes => some (.buffer .ok bytes, job.own)
  | _, _ => none

/-- The result that the calls of an access have fixed. -/
def committed (job : ManagerJob)
    (moves : List (Move Posix.calls FileSystem)) :
    Option (Response × PosixDiskManager) :=
  moves.findSome? (transferOf job)

section Commits

variable {Who : Type} {pageSize : UInt32} {base : Who → DiskManager}
variable {directory : FileSystem} {who : Who} {job : ManagerJob}
variable {earlier : List (Move Posix.calls FileSystem)}
variable {move : Move Posix.calls FileSystem}
variable {result : Response × PosixDiskManager}

theorem committed_append :
    committed job (earlier ++ [move]) =
      (committed job earlier).or (transferOf job move) := by
  simp only [committed]
  rw [List.findSome?_append, List.findSome?_singleton]

/-- A call that transfers nothing and changes no byte. -/
private theorem commits_of_silent (silent : transferOf job move = none)
    (same : contents move.after = contents move.before) :
    Commits (pageObject pageSize base directory) contents committed who
      job earlier move where
  kept := by
    intro result fixed
    rw [committed_append, fixed]
    exact ⟨rfl, same⟩
  silent _ := same
  effect := by
    intro result pending fixed
    rw [committed_append, pending, silent] at fixed
    cases fixed

/-- The transfer of an access that was pending. -/
private theorem commits_of_transfer (pending : committed job earlier = none)
    (transfers : transferOf job move = some result)
    (served : (pageObject pageSize base directory).serve who job
      (contents move.before) result (contents move.after)) :
    Commits (pageObject pageSize base directory) contents committed who
      job earlier move where
  kept := by
    intro other fixed
    rw [pending] at fixed
    cases fixed
  silent := by
    intro impossible
    rw [committed_append, pending, transfers] at impossible
    cases impossible
  effect := by
    intro other _ fixed
    rw [committed_append, pending, transfers] at fixed
    cases fixed
    exact served

end Commits

/-! ## One access among others -/

section Sharing

variable {Who : Type}

/-- What one call does to the shared files and to its access. -/
private structure Promised (pageSize : UInt32) (base : Who → DiskManager)
    (directory : FileSystem) (who : Who) (job : ManagerJob)
    (earlier : List (Move Posix.calls FileSystem))
    (move : Move Posix.calls FileSystem) : Prop where
  steady : Steady pageSize directory move.before →
    Steady pageSize directory move.after
  grown : ∀ inode,
    (move.before.file inode).size ≤ (move.after.file inode).size
  commits : Commits (pageObject pageSize base directory) contents
    committed who job earlier move

/-- The files stay and only grow, and nobody else uses the descriptor. -/
private def sharing (pageSize : UInt32) (base : Who → DiskManager)
    (directory : FileSystem) (who : Who) : ManagerContract where
  rely _ moves seen now :=
    Steady pageSize directory now ∧
      (∀ inode, (seen.file inode).size ≤ (now.file inode).size) ∧
      ∀ descriptor, ledger moves = some [descriptor] →
        now.descriptors.lookup descriptor =
          seen.descriptors.lookup descriptor
  guarantee job before _ _ after :=
    ∀ move, after.2 = before.2 ++ [move] →
      Promised pageSize base directory who job before.2 move
  post job outcome state :=
    ∃ result, outcome = .done result ∧ committed job state.2 = some result

private abbrev amid (pageSize : UInt32) (base : Who → DiskManager)
    (directory : FileSystem) (who : Who) (job : ManagerJob) :
    Transition Posix.calls Recorded :=
  (managers serve.transition base).around
    (SharesPages pageSize base directory)
    (sharing pageSize base directory who).rely who job

/-- No disk is open, and nothing was transferred. -/
private structure Waiting (job : ManagerJob) (state : Recorded) : Prop
    where
  settled : ledger state.2 = some []
  pending : committed job state.2 = none

/-- The file is open, and so much was transferred. -/
private structure Using (job : ManagerJob) (inode descriptor : Nat)
    (progress : Option (Response × PosixDiskManager)) (state : Recorded) :
    Prop where
  holds : ledger state.2 = some [descriptor]
  isOpen : ∃ offset, state.1.descriptors.lookup descriptor =
    some ⟨inode, offset⟩
  fixed : committed job state.2 = progress

variable {pageSize : UInt32} {base : Who → DiskManager}
variable {directory middle last : FileSystem} {who : Who}
variable {job : ManagerJob} {earlier : List (Move Posix.calls FileSystem)}
variable {before after : Recorded} {request : Request}
variable {reply : Except Errno (Answer request)}
variable {inode descriptor : Nat}
variable {progress : Option (Response × PosixDiskManager)}

private theorem guarantee_of_promised
    {moves : List (Move Posix.calls FileSystem)}
    (recorded : moves = before.2 ++ [⟨middle, request, reply, last⟩])
    (promised : Promised pageSize base directory who job before.2
      ⟨middle, request, reply, last⟩) :
    (sharing pageSize base directory who).guarantee job before request
      reply (last, moves) := by
  intro move same
  have moves_eq := same.symm.trans recorded
  obtain ⟨_, equal⟩ := List.append_inj' moves_eq rfl
  cases equal
  exact promised

/-- A call that keeps names and files promises to be silent. -/
private theorem promised_of_same {move : Move Posix.calls FileSystem}
    (names : SameDirectory move.before move.after)
    (files : move.after.file = move.before.file)
    (commits : Commits (pageObject pageSize base directory) contents
      committed who job earlier move) :
    Promised pageSize base directory who job earlier move where
  steady := by
    intro steady
    refine ⟨steady.same.trans names, fun path inode found => ?_⟩
    unfold WholePages Sized
    rw [files]
    exact steady.pages path inode found
  grown := by
    intro inode
    rw [files]
  commits := commits

private theorem contents_of_files (files : last.file = middle.file) :
    contents last = contents middle := by
  unfold contents
  rw [files]

/-- Calls that neither change a file nor transfer a page. -/
private def Looks : Request → Prop
  | .access _ => True
  | .stat _ => True
  | .lseek _ _ => True
  | .fsync _ => True
  | .close _ => True
  | _ => False

private theorem looks_keeps (looks : Looks request) :
    KeepsNames request ∧ KeepsFiles request := by
  cases request with
  | openFile path => exact looks.elim
  | truncate path length => exact looks.elim
  | write descriptor bytes => exact looks.elim
  | read descriptor count => exact looks.elim
  | unlink path => exact looks.elim
  | _ => exact ⟨True.intro, True.intro⟩

private theorem promised_of_looks (looks : Looks request)
    (served : serve request middle = (reply, last)) :
    Promised pageSize base directory who job earlier
      ⟨middle, request, reply, last⟩ := by
  obtain ⟨keepsNames, keepsFiles⟩ := looks_keeps looks
  have names := serve_keepsNames request middle keepsNames
  have files := serve_keepsFiles request middle keepsFiles
  rw [served] at names files
  have silent : transferOf job ⟨middle, request, reply, last⟩ = none := by
    cases request with
    | write descriptor bytes => exact looks.elim
    | read descriptor count => exact looks.elim
    | _ => rfl
  exact promised_of_same names files
    (commits_of_silent silent (contents_of_files files))

/-- A call of an open file that keeps it open. -/
private theorem Using.step
    (usingFile : Using job inode descriptor progress before)
    (relied : (sharing pageSize base directory who).rely job before.2
      before.1 middle)
    (served : serve request middle = (reply, after.1))
    (recorded :
      after.2 = before.2 ++ [⟨middle, request, reply, after.1⟩])
    (keeps : settle [descriptor] request reply = some [descriptor])
    (stays : request ≠ .close descriptor) :
    Using job inode descriptor
      (progress.or (transferOf job ⟨middle, request, reply, after.1⟩))
      after where
  holds := by
    rw [recorded, ledger_append usingFile.holds]
    exact keeps
  isOpen := by
    obtain ⟨offset, isOpen⟩ := usingFile.isOpen
    have still := relied.2.2 _ usingFile.holds
    rw [isOpen] at still
    exact mayFail_stays ⟨.none, served⟩ still stays
  fixed := by
    rw [recorded, committed_append, usingFile.fixed]

/-- A look through an open file. -/
private theorem Using.looks
    (usingFile : Using job inode descriptor progress before)
    (looks : Looks request) (stays : ∀ other, request ≠ .close other)
    (moved : amid pageSize base directory who job before request reply
      after) :
    (sharing pageSize base directory who).guarantee job before request
        reply after ∧
      Using job inode descriptor progress after ∧
      (before.1.file inode).size ≤ (after.1.file inode).size ∧
      ∃ middle, Steady pageSize directory middle ∧
        (∃ offset, middle.descriptors.lookup descriptor =
          some ⟨inode, offset⟩) ∧
        serve request middle = (reply, after.1) := by
  obtain ⟨middle, relied, served, _, recorded⟩ := moved
  have promised : Promised pageSize base directory who job before.2
      ⟨middle, request, reply, after.1⟩ :=
    promised_of_looks looks served
  have keeps : settle [descriptor] request reply = some [descriptor] := by
    cases request with
    | openFile path => exact looks.elim
    | close other => exact absurd rfl (stays other)
    | _ => rfl
  have silent :
      transferOf job ⟨middle, request, reply, after.1⟩ = none := by
    cases request with
    | write descriptor bytes => exact looks.elim
    | read descriptor count => exact looks.elim
    | _ => rfl
  have still := usingFile.step relied served recorded keeps (stays _)
  rw [silent, Option.or_none] at still
  obtain ⟨offset, isOpen⟩ := usingFile.isOpen
  rw [← relied.2.2 _ usingFile.holds] at isOpen
  exact ⟨guarantee_of_promised recorded promised, still,
    Nat.le_trans (relied.2.1 inode) (promised.grown inode),
    middle, relied.1, ⟨offset, isOpen⟩, served⟩

/-! ## The transfer of a page -/

variable {disk : PosixDisk} {cursor : DiskPageCursor}

private def Large (disk : PosixDisk) (cursor : DiskPageCursor)
    (inode : Nat) (state : Recorded) : Prop :=
  (newByteSize disk.pageSize cursor).toNat ≤ (state.1.file inode).size

/-- The file contains the page, and the descriptor stands at it. -/
private structure AtPage (disk : PosixDisk) (cursor : DiskPageCursor)
    (inode : Nat) (state : Recorded) : Prop where
  large : Large disk cursor inode state
  offset : state.1.descriptors.lookup disk.fd =
    some ⟨inode, (foffset disk.pageSize cursor).toNat⟩

/-- Growing a file to whole pages. -/
private theorem promised_truncate {path : String} {length : Nat}
    {reply : Except Errno Unit}
    (found : directory.lookup path = some inode)
    (whole : length % pageSize.toNat = 0) (small : length < 2 ^ 32)
    (grows : ¬ Cuts ⟨middle, .truncate path length, reply, last⟩)
    (steady : Steady pageSize directory middle)
    (served : serve (.truncate path length) middle = (reply, last)) :
    Promised pageSize base directory who job earlier
        ⟨middle, .truncate path length, reply, last⟩ ∧
      (last.file inode).size = length := by
  have there := (steady.same.lookup path).trans found
  have names : SameDirectory middle last := by
    have kept := serve_keepsNames (.truncate path length) middle
      True.intro
    rw [served] at kept
    exact kept
  simp only [serve, there] at served
  obtain ⟨rfl, rfl⟩ := Prod.mk.inj served
  have long : (middle.file inode).size ≤ length := by
    by_contra shorter
    exact grows ⟨inode, there, Nat.lt_of_not_le shorter⟩
  have size (number : Nat) :
      ((middle.setFile inode ((middle.file inode).resize length)).file
          number).size =
        if number = inode then length else (middle.file number).size := by
    by_cases same : number = inode
    · rw [if_pos same, same, file_setFile_self, File.resize_size]
    · rw [if_neg same, file_setFile_of_ne _ _ _ same]
  refine ⟨⟨?_, ?_, ?_⟩, ?_⟩
  · intro _
    refine ⟨steady.same.trans names, fun other number named => ?_⟩
    unfold WholePages Sized
    rw [size]
    by_cases same : number = inode
    · rw [if_pos same]
      exact ⟨whole, small⟩
    · rw [if_neg same]
      exact steady.pages other number named
  · intro number
    dsimp only
    rw [size]
    by_cases same : number = inode
    · rw [if_pos same, same]
      exact long
    · rw [if_neg same]
  · refine commits_of_silent rfl ?_
    funext number position
    simp only [contents]
    by_cases same : number = inode
    · rw [same, file_setFile_self]
      exact File.resize_byte_of_le long position
    · rw [file_setFile_of_ne _ _ _ same]
  · rw [size, if_pos rfl]

/-- A call that writes into the pages that a file has, or reads them. -/
private theorem promised_of_sizes (keeps : KeepsNames request)
    (sizes : ∀ number,
      (last.file number).size = (middle.file number).size)
    (served : serve request middle = (reply, last))
    (commits : Commits (pageObject pageSize base directory) contents
      committed who job earlier ⟨middle, request, reply, last⟩) :
    Promised pageSize base directory who job earlier
      ⟨middle, request, reply, last⟩ where
  steady := by
    intro steady
    have names := serve_keepsNames request middle keeps
    rw [served] at names
    refine ⟨steady.same.trans names, fun path number found => ?_⟩
    unfold WholePages Sized
    rw [sizes]
    exact steady.pages path number found
  grown := by
    intro number
    exact Nat.le_of_eq (sizes number).symm
  commits := commits

/-- The transfer of a write. -/
private theorem promised_write {diskId : DiskId} {data : List UInt8}
    {reply : Except Errno Nat}
    (task : job.task = .write diskId cursor data)
    (named : World.named (base who) ⟨job.own, directory⟩ diskId =
      some inode)
    (pending : committed job earlier = none)
    (isOpen : middle.descriptors.lookup descriptor =
      some ⟨inode, cursor.toNatClampNeg * pageSize.toNat⟩)
    (inside : cursor.toNatClampNeg * pageSize.toNat + data.length ≤
      (middle.file inode).size)
    (served : serve (.write descriptor data) middle = (reply, last)) :
    reply = .ok data.length ∧
      Promised pageSize base directory who job earlier
        ⟨middle, .write descriptor data, reply, last⟩ := by
  have whole := served
  simp only [serve, isOpen] at whole
  obtain ⟨rfl, rfl⟩ := Prod.mk.inj whole
  refine ⟨rfl, promised_of_sizes (by exact True.intro) ?_ served ?_⟩
  · intro number
    rw [file_setDescriptor]
    by_cases same : number = inode
    · rw [same, file_setFile_self]
      exact File.writeAt_size_of_inside inside
    · rw [file_setFile_of_ne _ _ _ same]
  · apply commits_of_transfer pending rfl
    refine (serves_write task).mpr ⟨inode, named, rfl, ?_⟩
    funext number
    simp only [contents]
    rw [file_setDescriptor]
    by_cases same : number = inode
    · rw [same, file_setFile_self, Function.update_self]
      rfl
    · rw [file_setFile_of_ne _ _ _ same, Function.update_of_ne same]
      rfl

/-- The transfer of a read. -/
private theorem promised_read {diskId : DiskId} {buffer : List UInt8}
    {reply : Except Errno (List UInt8)}
    (task : job.task = .read diskId cursor buffer)
    (named : World.named (base who) ⟨job.own, directory⟩ diskId =
      some inode)
    (pending : committed job earlier = none)
    (isOpen : middle.descriptors.lookup descriptor =
      some ⟨inode, cursor.toNatClampNeg * pageSize.toNat⟩)
    (inside : cursor.toNatClampNeg * pageSize.toNat + pageSize.toNat ≤
      (middle.file inode).size)
    (served :
      serve (.read descriptor pageSize.toNat) middle = (reply, last)) :
    reply =
        .ok (pageOf (contents middle inode) pageSize.toNat
          cursor.toNatClampNeg) ∧
      Promised pageSize base directory who job earlier
        ⟨middle, .read descriptor pageSize.toNat, reply, last⟩ := by
  have whole := served
  simp only [serve, isOpen] at whole
  obtain ⟨rfl, rfl⟩ := Prod.mk.inj whole
  rw [File.readAt_eq_page inside] at served ⊢
  refine ⟨rfl, promised_of_sizes (by exact True.intro) (fun _ => rfl)
    served ?_⟩
  apply commits_of_transfer pending rfl
  exact (serves_read task).mpr ⟨inode, named, rfl, rfl⟩

/-! ## The calls of an access -/

private theorem seek_taken {offset : UInt32}
    (small : offset.toNat ≠ 2 ^ 32 - 1) :
    Int32.ofNat offset.toNat ≠ -1 := by
  intro failed
  have asNat := congrArg (UInt32.toNat ∘ Int32.toUInt32) failed
  simp only [Function.comp_apply, Int32.toUInt32_ofNat',
    UInt32.toNat_ofNat_of_lt' (UInt32.toNat_lt _)] at asNat
  exact small asNat

private def sharingAccess (base : Who → DiskManager)
    (directory : FileSystem) (who : Who) (job : ManagerJob)
    (inode : Nat) (disk : PosixDisk) (cursor : DiskPageCursor)
    (positive : disk.pageSize ≠ 0)
    (inRange : InRange disk.pageSize disk.maxDiskSize cursor)
    (found : directory.lookup disk.filePath = some inode) :
    Access (amid disk.pageSize base directory who job)
      ((sharing disk.pageSize base directory who).guarantee job) disk
      cursor False (fun _ _ => False) where
  isOpen := Using job inode disk.fd none
  short _ := True
  large := Large disk cursor inode
  stands := AtPage disk cursor inode
  positive := positive
  refused limit := by
    have below := UInt32.lt_iff_toNat_lt.mp inRange.newByteSize_lt
    have above := UInt32.le_iff_toNat_le.mp limit
    omega
  expansion impossible := impossible.elim
  stat := by
    intro before reply after usingFile moved
    obtain ⟨kept, still, sizes, middle, steady, _, served⟩ :=
      usingFile.looks (by exact True.intro) (fun _ same => by cases same)
        moved
    have there := (steady.same.lookup _).trans found
    obtain ⟨whole, sized⟩ := steady.pages _ _ found
    simp only [serve, there] at served
    obtain ⟨rfl, same⟩ := Prod.mk.inj served
    subst same
    refine ⟨kept, still, ?_⟩
    dsimp only
    refine ⟨fun partly => absurd whole partly, ?_⟩
    split_ifs with short
    have long := UInt32.le_iff_toNat_le.mp (UInt32.not_lt.mp short)
    rw [UInt32.toNat_ofNat_of_lt' sized] at long
    exact long
  truncate := by
    intro before reply after usingFile _ moved
    obtain ⟨middle, relied, served, grows, recorded⟩ := moved
    have whole :
        (newByteSize disk.pageSize cursor).toNat %
          disk.pageSize.toNat = 0 := by
      rw [inRange.newByteSize, Nat.add_mod_right, Nat.mul_mod_left]
    obtain ⟨promised, size⟩ :=
      promised_truncate found whole (newByteSize _ _).toNat_lt grows
        relied.1 served
    have still :=
      usingFile.step relied served recorded rfl (fun same => by cases same)
    exact ⟨guarantee_of_promised recorded promised, still,
      Nat.le_of_eq size.symm⟩
  fsync := by
    intro before reply after usingFile moved
    obtain ⟨kept, still, sizes, middle, _, ⟨offset, isOpen⟩, served⟩ :=
      usingFile.looks (by exact True.intro) (fun _ same => by cases same)
        moved
    simp only [serve, isOpen] at served
    obtain ⟨rfl, _⟩ := Prod.mk.inj served
    exact ⟨kept, still, fun large => Nat.le_trans large sizes, True.intro⟩
  lseek := by
    intro before reply after usingFile large moved
    obtain ⟨kept, still, sizes, middle, _, ⟨offset, isOpen⟩, served⟩ :=
      usingFile.looks (by exact True.intro) (fun _ same => by cases same)
        moved
    simp only [serve, isOpen] at served
    obtain ⟨rfl, same⟩ := Prod.mk.inj served
    have stillLarge : Large disk cursor inode after :=
      Nat.le_trans large sizes
    refine ⟨kept, still, stillLarge, ?_⟩
    dsimp only
    rw [if_neg (seek_taken (inRange.seekable positive))]
    refine ⟨stillLarge, ?_⟩
    rw [← same]
    exact descriptors_setDescriptor _ _ _

private def sharingWrite (disk : PosixDisk) {diskId : DiskId}
    {data : List UInt8}
    (task : job.task = .write diskId cursor data)
    (named : World.named (base who) ⟨job.own, directory⟩ diskId =
      some inode)
    (positive : disk.pageSize ≠ 0)
    (full : data.length = disk.pageSize.toNat)
    (inRange : InRange disk.pageSize disk.maxDiskSize cursor)
    (found : directory.lookup disk.filePath = some inode) :
    WriteAccess (amid disk.pageSize base directory who job)
      ((sharing disk.pageSize base directory who).guarantee job) disk
      cursor False (fun _ _ => False) data where
  toAccess := sharingAccess base directory who job inode disk cursor
    positive inRange found
  written := Using job inode disk.fd (some (.void .ok, job.own))
  synced := Using job inode disk.fd (some (.void .ok, job.own))
  write := by
    intro before reply after usingFile stands moved
    have all : data.take disk.pageSize.toNat = data :=
      List.take_of_length_le (Nat.le_of_eq full)
    rw [all] at moved ⊢
    obtain ⟨middle, relied, served, _, recorded⟩ := moved
    have isOpen := relied.2.2 _ usingFile.holds
    have offset := stands.offset
    rw [inRange.foffset] at offset
    rw [offset] at isOpen
    have inside :
        cursor.toNatClampNeg * disk.pageSize.toNat + data.length ≤
          (middle.file inode).size := by
      have large := stands.large
      simp only [Large] at large
      rw [inRange.newByteSize] at large
      rw [full]
      exact Nat.le_trans large (relied.2.1 inode)
    obtain ⟨rfl, promised⟩ :=
      promised_write task named usingFile.fixed isOpen inside served
    have still :=
      usingFile.step relied served recorded rfl (fun same => by cases same)
    refine ⟨guarantee_of_promised recorded promised, ?_⟩
    have taken : unsignedReturn (.ok data.length) = disk.pageSize := by
      simp only [unsignedReturn]
      rw [full, UInt32.ofNat_toNat]
    rw [if_pos taken]
    exact still
  sync := by
    intro before reply after usingFile moved
    obtain ⟨kept, still, _, middle, _, ⟨offset, isOpen⟩, served⟩ :=
      usingFile.looks (by exact True.intro) (fun _ same => by cases same)
        moved
    simp only [serve, isOpen] at served
    obtain ⟨rfl, _⟩ := Prod.mk.inj served
    exact ⟨kept, still⟩

private def sharingRead (disk : PosixDisk) {diskId : DiskId}
    {buffer : List UInt8}
    (task : job.task = .read diskId cursor buffer)
    (named : World.named (base who) ⟨job.own, directory⟩ diskId =
      some inode)
    (positive : disk.pageSize ≠ 0)
    (inRange : InRange disk.pageSize disk.maxDiskSize cursor)
    (found : directory.lookup disk.filePath = some inode) :
    ReadAccess (amid disk.pageSize base directory who job)
      ((sharing disk.pageSize base directory who).guarantee job) disk
      cursor False (fun _ _ => False) where
  toAccess := sharingAccess base directory who job inode disk cursor
    positive inRange found
  got left := Using job inode disk.fd (some (.buffer .ok left, job.own))
  read := by
    intro filled before reply after full usingFile stands moved
    obtain ⟨middle, relied, served, _, recorded⟩ := moved
    have isOpen := relied.2.2 _ usingFile.holds
    have offset := stands.offset
    rw [inRange.foffset] at offset
    rw [offset] at isOpen
    have inside :
        cursor.toNatClampNeg * disk.pageSize.toNat +
            disk.pageSize.toNat ≤
          (middle.file inode).size := by
      have large := stands.large
      simp only [Large] at large
      rw [inRange.newByteSize] at large
      exact Nat.le_trans large (relied.2.1 inode)
    obtain ⟨rfl, promised⟩ :=
      promised_read task named usingFile.fixed isOpen inside served
    have still :=
      usingFile.step relied served recorded rfl (fun same => by cases same)
    refine ⟨guarantee_of_promised recorded promised, ?_⟩
    have length :
        (pageOf (contents middle inode) disk.pageSize.toNat
          cursor.toNatClampNeg).length = disk.pageSize.toNat := by
      rw [pageOf, List.length_map, List.length_range]
    have taken :
        unsignedReturn (Except.map List.length
          (.ok (pageOf (contents middle inode) disk.pageSize.toNat
            cursor.toNatClampNeg) : Except Errno (List UInt8))) =
          disk.pageSize := by
      simp only [Except.map, unsignedReturn]
      rw [length, UInt32.ofNat_toNat]
    simp only [PosixDisk.afterRead]
    rw [if_neg (not_not.mpr taken)]
    dsimp only
    rw [List.drop_of_length_le (Nat.le_of_eq (full.trans length.symm)),
      List.append_nil]
    exact still

/-! ## One job -/

/-- A look of a job that has no disk open. -/
private theorem Waiting.looks (waiting : Waiting job before)
    (looks : Looks request) (stays : ∀ other, request ≠ .close other)
    (moved : amid pageSize base directory who job before request reply
      after) :
    (sharing pageSize base directory who).guarantee job before request
        reply after ∧
      Waiting job after ∧
      ∃ middle, Steady pageSize directory middle ∧
        serve request middle = (reply, after.1) := by
  obtain ⟨middle, relied, served, _, recorded⟩ := moved
  have promised : Promised pageSize base directory who job before.2
      ⟨middle, request, reply, after.1⟩ :=
    promised_of_looks looks served
  refine ⟨guarantee_of_promised recorded promised, ⟨?_, ?_⟩, middle,
    relied.1, served⟩
  · rw [recorded, ledger_append waiting.settled]
    cases request with
    | openFile path => exact looks.elim
    | close other => exact absurd rfl (stays other)
    | _ => rfl
  · rw [recorded, committed_append, waiting.pending, Option.none_or]
    cases request with
    | write descriptor bytes => exact looks.elim
    | read descriptor count => exact looks.elim
    | _ => rfl

/-- The file is opened, and nothing but a descriptor changes. -/
private theorem Waiting.openFile {path : String}
    {reply : Except Errno Nat} (waiting : Waiting job before)
    (found : directory.lookup path = some inode)
    (moved : amid pageSize base directory who job before (.openFile path)
      reply after) :
    (sharing pageSize base directory who).guarantee job before
        (.openFile path) reply after ∧
      ∃ fd, reply = .ok fd ∧ Using job inode fd none after := by
  obtain ⟨middle, relied, served, _, recorded⟩ := moved
  have there := (relied.1.same.lookup path).trans found
  have answered : serve (.openFile path) middle = (reply, after.1) :=
    served
  simp only [serve, there] at answered
  obtain ⟨rfl, opened⟩ := Prod.mk.inj answered
  have promised : Promised pageSize base directory who job before.2
      ⟨middle, .openFile path, .ok middle.freeDescriptor, after.1⟩ := by
    rw [← opened]
    exact promised_of_same ⟨rfl, rfl, rfl⟩ rfl
      (commits_of_silent rfl rfl)
  refine ⟨guarantee_of_promised recorded promised, _, rfl, ?_, ⟨0, ?_⟩,
    ?_⟩
  · rw [recorded, ledger_append waiting.settled]
    rfl
  · rw [← opened]
    exact descriptors_setDescriptor _ _ _
  · rw [recorded, committed_append, waiting.pending]
    rfl

/-- The scope of a disk, when its body transfers a page. -/
private theorem wp_withDisk_amid {Value : Type} {path : String}
    {failed : DiskManagerErrorCode → Value}
    {body : PosixDisk → Effect Value} {state : Recorded}
    (respond : Value → Response)
    (found : directory.lookup path = some inode)
    (used : ∀ fd after, Using job inode fd none after →
      (body
        (PosixDisk.new path fd (base who).pageSize
          (base who).maxDiskByteSize)).wp
        (amid pageSize base directory who job)
        ((sharing pageSize base directory who).guarantee job)
        (fun outcome last => ∃ value, outcome = .done value ∧
          Using job inode fd (some (respond value, job.own)) last)
        after)
    (waiting : Waiting job state) :
    (PosixDiskManager.withDisk (base who) path failed body).wp
      (amid pageSize base directory who job)
      ((sharing pageSize base directory who).guarantee job)
      (fun outcome last => ∃ value, outcome = .done value ∧
        committed job last.2 = some (respond value, job.own))
      state := by
  have checks :
      Checks (amid pageSize base directory who job)
        ((sharing pageSize base directory who).guarantee job) path
        (Waiting job) (fun exist _ => exist = true) False := by
    intro before reply after waiting moved
    obtain ⟨kept, still, middle, steady, served⟩ :=
      waiting.looks (by exact True.intro) (fun _ same => by cases same)
        moved
    have there := (steady.same.lookup path).trans found
    simp only [serve, there] at served
    obtain ⟨rfl, _⟩ := Prod.mk.inj served
    exact ⟨kept, still, rfl⟩
  have opens :
      Opens (amid pageSize base directory who job)
        ((sharing pageSize base directory who).guarantee job) (base who)
        path true (fun fd => Using job inode fd none) (fun _ _ => False)
        (fun _ _ => False) state := by
    refine PosixDisk.wp_init checks ?_ ?_ (fun broken => broken.elim)
      (fun broken => broken.elim) waiting
    · intro before reply after waiting _ moved
      obtain ⟨kept, fd, rfl, usingFile⟩ := waiting.openFile found moved
      exact ⟨kept, usingFile⟩
    · intro after _ impossible
      cases impossible
  refine PosixDiskManager.wp_withDisk opens
    (fun _ _ impossible => impossible.elim)
    (fun _ _ impossible => impossible.elim) ?_
  intro fd after opened
  refine Program.wp_consequence (used fd after opened) ?_
  intro outcome last ended
  obtain ⟨value, rfl, usingFile⟩ := ended
  intro reply closed moved
  obtain ⟨middle, relied, served, _, recorded⟩ := moved
  refine ⟨guarantee_of_promised recorded
    (promised_of_looks (by exact True.intro) served), value, rfl, ?_⟩
  rw [recorded, committed_append, usingFile.fixed]
  rfl

/-- Every access keeps the contract. -/
private theorem keeps_sharing (same : (base who).pageSize = pageSize)
    (positive : pageSize ≠ 0)
    (begins : SharesPages pageSize base directory (.begins who job))
    (state : FileSystem) :
    (managers serve.transition base).Keeps
      (SharesPages pageSize base directory)
      (sharing pageSize base directory who) who job
      ((managers serve.transition base).body who job) (state, []) := by
  subst same
  have waiting : Waiting job (state, []) := ⟨rfl, rfl⟩
  obtain ⟨task, own⟩ := job
  cases task with
  | write diskId cursor bytes =>
      obtain ⟨full, inRange, exist⟩ := begins
      obtain ⟨inode, named⟩ := Option.ne_none_iff_exists'.mp exist
      change ((Response.void <$>
        PosixDiskManager.write (base who) diskId cursor bytes).run
          own).wp _ _ _ _
      rw [StateT.run_map, Program.wp_map, PosixDiskManager.write_run]
      have loads := named
      simp only [World.named] at loads
      cases loaded : own.disks.lookup diskId with
      | none =>
          rw [loaded] at loads
          cases loads
      | some fileName =>
          rw [loaded] at loads
          dsimp only
          rw [Program.wp_bind]
          refine Program.wp_consequence
            (wp_withDisk_amid Response.void loads ?_ waiting) ?_
          · intro fd after usingFile
            refine Program.wp_consequence
              ((sharingWrite
                (PosixDisk.new ((base who).getDiskPath fileName) fd
                  (base who).pageSize (base who).maxDiskByteSize)
                rfl named positive full inRange loads).wp_propagated
                  usingFile) ?_
            intro outcome last ended
            rcases outcome with (content | failure) | reason
            · exact ⟨_, rfl, ended⟩
            · exact ended.2.elim
            · exact ended.elim
          · intro outcome last ended
            obtain ⟨value, rfl, fixed⟩ := ended
            exact ⟨_, rfl, fixed⟩
  | read diskId cursor buffer =>
      obtain ⟨full, inRange, exist⟩ := begins
      obtain ⟨inode, named⟩ := Option.ne_none_iff_exists'.mp exist
      change (((fun transferred =>
        Response.buffer transferred.1 transferred.2) <$>
          (PosixDiskManager.read (base who) diskId cursor).run
            buffer).run own).wp _ _ _ _
      rw [StateT.run_map, Program.wp_map, PosixDiskManager.read_run]
      have loads := named
      simp only [World.named] at loads
      cases loaded : own.disks.lookup diskId with
      | none =>
          rw [loaded] at loads
          cases loads
      | some fileName =>
          rw [loaded] at loads
          dsimp only
          rw [Program.wp_bind]
          refine Program.wp_consequence
            (wp_withDisk_amid
              (fun transferred =>
                Response.buffer transferred.1 transferred.2)
              loads ?_ waiting) ?_
          · intro fd after usingFile
            refine Program.wp_consequence
              ((sharingRead
                (PosixDisk.new ((base who).getDiskPath fileName) fd
                  (base who).pageSize (base who).maxDiskByteSize)
                rfl named positive inRange loads).wp_propagated full
                  usingFile) ?_
            intro outcome last ended
            rcases outcome with ⟨content | failure, left⟩ | reason
            · exact ⟨_, rfl, ended⟩
            · exact ended.2.1.elim
            · exact ended.elim
          · intro outcome last ended
            obtain ⟨value, rfl, fixed⟩ := ended
            exact ⟨_, rfl, fixed⟩
  | _ => exact begins.elim

end Sharing

/-! ## Managers among each other -/

section Runs

variable {Who : Type} [DecidableEq Who] {pageSize : UInt32}
variable {base : Who → DiskManager} {first : FileSystem}
variable {events : List (ManagerEvent Who)} {who : Who}
variable {before after scene : ManagerScene Who}

/-- Every call keeps the promise of its job. -/
private theorem promised_of_step {job : ManagerJob}
    {earlier : List (Move Posix.calls FileSystem)}
    {move : Move Posix.calls FileSystem}
    (ongoing :
      (managers serve.transition base).Ongoing
        (SharesPages pageSize base first) (sharing pageSize base first who)
        who before)
    (allowed : SharesPages pageSize base first
      (.calls who job earlier move : ManagerEvent Who))
    (stepped :
      (managers serve.transition base).Step before
        (.calls who job earlier move) after) :
    Promised pageSize base first who job earlier move := by
  obtain ⟨seen, _, promise⟩ := ongoing.calls allowed stepped
  exact promise move rfl

/-- What one step does to the files. -/
private theorem steady_of_step
    (ongoing : ∀ who,
      (managers serve.transition base).Ongoing
        (SharesPages pageSize base first) (sharing pageSize base first who)
        who before)
    (steady : Steady pageSize first before.shared)
    {event : ManagerEvent Who}
    (allowed : SharesPages pageSize base first event)
    (stepped : (managers serve.transition base).Step before event after) :
    Steady pageSize first after.shared ∧
      ∀ inode, (before.shared.file inode).size ≤
        (after.shared.file inode).size := by
  have whole := stepped
  cases stepped with
  | begins resting => exact ⟨steady, fun _ => Nat.le_refl _⟩
  | returns finished => exact ⟨steady, fun _ => Nat.le_refl _⟩
  | crashes failed => exact ⟨steady, fun _ => Nat.le_refl _⟩
  | calls asked moved =>
      have promised := promised_of_step (ongoing _) allowed whole
      exact ⟨promised.steady steady, promised.grown⟩

/-- In every run the files stay, and every job keeps its contract. -/
private theorem sharing_of_run
    (same : ∀ who, (base who).pageSize = pageSize)
    (positive : pageSize ≠ 0) (steady : Steady pageSize first first)
    (run :
      ((managers serve.transition base).machineWhile (· = first)
        (SharesPages pageSize base first)).Run events scene) :
    Steady pageSize first scene.shared ∧
      ∀ who, (managers serve.transition base).Ongoing
        (SharesPages pageSize base first) (sharing pageSize base first who)
        who scene := by
  refine Machine.Run.invariant
    (fun _ scene => Steady pageSize first scene.shared ∧
      ∀ who, (managers serve.transition base).Ongoing
        (SharesPages pageSize base first)
        (sharing pageSize base first who) who scene) ?_ ?_ run
  · intro scene started
    refine ⟨?_, ?_⟩
    · rw [show scene.shared = first from started.1]
      exact steady
    · intro who job moves rest working
      obtain ⟨own, resting⟩ := started.2 who
      rw [resting] at working
      cases working
  · intro events before event after earlier held stepped
    obtain ⟨allowed, stepped⟩ := stepped
    obtain ⟨still, ongoing⟩ := held
    obtain ⟨steadyAfter, grown⟩ :=
      steady_of_step ongoing still allowed stepped
    refine ⟨steadyAfter, fun who => ?_⟩
    refine (ongoing who).step
      (fun _ _ => ⟨steadyAfter, fun _ => Nat.le_refl _, fun _ _ => rfl⟩)
      (fun job begins => keeps_sharing (same who) positive begins _)
      allowed stepped ?_
    intro different job moves rest working seen relied
    refine ⟨steadyAfter,
      fun inode => Nat.le_trans (relied.2.1 inode) (grown inode), ?_⟩
    intro descriptor held
    have undisturbed :=
      undisturbed_of_run (fun _ _ _ _ moved => ⟨.none, moved⟩) earlier
        allowed stepped different ⟨job, moves, rest, working, held⟩
    exact undisturbed.trans (relied.2.2 descriptor held)

/-- As long as no `truncate` cuts a file, managers that write and read pages of
the same disks, with their calls interleaved in any order, behave like an object
whose pages are written and read atomically. -/
theorem pages_linearizable
    (same : ∀ who, (base who).pageSize = pageSize)
    (positive : pageSize ≠ 0) (steady : Steady pageSize first first)
    (run :
      ((managers serve.transition base).machineWhile (· = first)
        (SharesPages pageSize base first)).Run events scene) :
    ((pageObject pageSize base first).machine (· = contents first)).Run
      events (scene.asAtomic contents committed) := by
  have started (fs : FileSystem) (begun : fs = first) :
      contents fs = contents first :=
    congrArg contents begun
  refine Parties.linearizable started (fun _ => rfl) ?_ ?_ run
  · intro events before who job earlier move after earlierRun allowed
      stepped
    have held := sharing_of_run same positive steady earlierRun
    exact (promised_of_step (held.2 who) allowed stepped).commits
  · intro events before who job moves outcome after earlierRun stepped
    have held := sharing_of_run same positive steady earlierRun
    obtain ⟨seen, _, ended⟩ := (held.2 who).ends stepped
    exact ended

end Runs

/-! ## A write and a read at once -/

/-- A write and a read of one page that both find the file too short. -/
private def writeDuringRead : List (Bool × Option Operation) :=
  (false, some (.write 0 0 [1, 2])) :: turns false 5 ++
    (true, some (.read 0 0 [0, 0])) :: turns true 5 ++ turns false 7 ++
    turns true 6

private def besideEachOther : ManagerScene Bool :=
  ⟨World.smallDisk.fileSystem, fun _ => .idle World.smallDisk.manager⟩

private theorem steady_smallDisk :
    Steady 2 World.smallDisk.fileSystem World.smallDisk.fileSystem := by
  have files :
      World.smallDisk.fileSystem.file =
        Function.update (fun _ => File.empty) 0 File.empty :=
    rfl
  have size (inode : Nat) :
      (World.smallDisk.fileSystem.file inode).size = 0 := by
    rw [files, Function.update_apply, ite_self]
    rfl
  refine ⟨.refl _, fun path inode found => ?_⟩
  unfold WholePages Sized
  rw [size]
  exact ⟨rfl, by omega⟩

private theorem run_besideEachOther
    (schedule : List (Bool × Option Operation))
    {fine : ManagerEvent Bool → Prop}
    (allowed : ∀ event ∈
      ((managers serve.transition fun _ : Bool => smallBase).play serve
        schedule besideEachOther).1, fine event) :
    ((managers serve.transition fun _ : Bool => smallBase).machineWhile
        (· = World.smallDisk.fileSystem) fine).Run
      ((managers serve.transition fun _ : Bool => smallBase).play serve
        schedule besideEachOther).1
      ((managers serve.transition fun _ : Bool => smallBase).play serve
        schedule besideEachOther).2 := by
  have begun :
      ((managers serve.transition fun _ : Bool => smallBase).machineWhile
        (· = World.smallDisk.fileSystem) fine).Run [] besideEachOther :=
    .start ⟨rfl, fun _ => ⟨_, rfl⟩⟩
  exact Parties.run_append_play (fun _ _ => rfl) schedule allowed begun

/-- A write and a read at once, both of which make room for the page. -/
theorem pages_linearizable_together :
    ∃ events scene,
      ((managers serve.transition fun _ : Bool => smallBase).machineWhile
          (· = World.smallDisk.fileSystem)
          (SharesPages 2 (fun _ => smallBase)
            World.smallDisk.fileSystem)).Run events scene ∧
        ((pageObject 2 (fun _ => smallBase)
            World.smallDisk.fileSystem).machine
          (· = contents World.smallDisk.fileSystem)).Run events
          (scene.asAtomic contents committed) := by
  have run :=
    @run_besideEachOther writeDuringRead
      (SharesPages 2 (fun _ => smallBase) World.smallDisk.fileSystem)
      (by decide)
  exact ⟨_, _, run,
    pages_linearizable (fun _ => rfl) (by decide) steady_smallDisk run⟩

/-- A write of the second page between the look at the size of the file and the
`truncate` for the first one. -/
private def writeDuringGrowth : List (Bool × Option Operation) :=
  (true, some (.write 0 0 [3, 4])) :: turns true 5 ++
    (false, some (.write 0 1 [1, 2])) :: turns false 12 ++ turns true 7

/-- A `truncate` that cuts takes away what another manager has written and
synced. -/
theorem growth_cuts_page :
    ∃ events scene,
      ((managers serve.transition fun _ : Bool => smallBase).machineWhile
          (· = World.smallDisk.fileSystem) (fun _ => True)).Run events
          scene ∧
        (∃ moves own,
          .ends false ⟨.write 0 1 [1, 2], own⟩ moves
            (.done (.void .ok, own)) ∈ events) ∧
        pageOf (contents scene.shared 0) 2 1 = [0, 0] := by
  have run :=
    @run_besideEachOther writeDuringGrowth (fun _ => True)
      (fun _ _ => True.intro)
  have ended :
      ((managers serve.transition fun _ : Bool => smallBase).play serve
        writeDuringGrowth besideEachOther).1[18]? =
          some (.ends false ⟨.write 0 1 [1, 2], World.smallDisk.manager⟩ _
            (.done (.void .ok, World.smallDisk.manager))) :=
    rfl
  exact ⟨_, _, run, ⟨_, _, List.mem_of_getElem? ended⟩, by decide⟩

end Lewsql
