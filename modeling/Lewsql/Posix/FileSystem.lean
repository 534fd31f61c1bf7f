import Mathlib.Data.List.AList
import Lewsql.Interaction.Logic
import Lewsql.Posix.File

/-!
# The POSIX calls of one process group

The state is a directory tree seen through pathname resolution, the files
behind its entries and the table of open descriptors.  `resolve` maps a path,
read as a C string, to the entry it names; two paths name the same file exactly
when they resolve alike.  Inode numbers are never used twice, so an inode number
identifies one file from its creation on.

`serve` answers the calls when nothing goes wrong.  `serveWith` also covers a
call that fails and a transfer that stops short.
-/

namespace Posix

open Interaction

/-- `ENOENT` is the one error number the modelled code looks at. -/
inductive Errno where
  | enoent
  | other
  deriving DecidableEq, Repr

/-- The system calls, with their arguments.  `openFile` is `open` with
`O_RDWR | O_CREAT`. -/
inductive Request where
  | access (path : String)
  | openFile (path : String)
  | close (descriptor : Nat)
  | stat (path : String)
  | truncate (path : String) (length : Nat)
  | lseek (descriptor offset : Nat)
  | write (descriptor : Nat) (bytes : List UInt8)
  | read (descriptor count : Nat)
  | fsync (descriptor : Nat)
  | unlink (path : String)
  deriving DecidableEq, Repr

@[reducible]
def Answer : Request → Type
  | .access _ => Unit
  | .openFile _ => Nat
  | .close _ => Unit
  | .stat _ => Nat
  | .truncate _ _ => Unit
  | .lseek _ _ => Nat
  | .write _ _ => Nat
  | .read _ _ => List UInt8
  | .fsync _ => Unit
  | .unlink _ => Unit

/-- Every call either fails with an error number or returns its answer. -/
@[reducible]
def calls : Signature where
  Request := Request
  Reply request := Except Errno (Answer request)

structure OpenFile where
  inode : Nat
  offset : Nat
  deriving DecidableEq, Repr

/-- The file system and the descriptor table.  Inode numbers below `nextInode`
are the ones used so far, and no file has two names. -/
structure FileSystem where
  resolve : String → String
  entry : String → Option Nat
  file : Nat → File
  nextInode : Nat
  descriptors : AList fun _ : Nat => OpenFile
  entry_lt : ∀ name inode, entry name = some inode → inode < nextInode
  entry_injective : ∀ name other inode,
    entry name = some inode → entry other = some inode → name = other

namespace FileSystem

def empty (resolve : String → String) : FileSystem where
  resolve := resolve
  entry := fun _ => none
  file := fun _ => File.empty
  nextInode := 0
  descriptors := ∅
  entry_lt := by simp
  entry_injective := by simp

def lookup (fs : FileSystem) (path : String) : Option Nat :=
  fs.entry (fs.resolve path)

def freeDescriptor (fs : FileSystem) : Nat :=
  ((List.range (fs.descriptors.keys.length + 1)).find?
    fun descriptor => descriptor ∉ fs.descriptors.keys).getD 0

/-- A new empty file under a path that names none. -/
def link (fs : FileSystem) (path : String) : FileSystem where
  resolve := fs.resolve
  entry := Function.update fs.entry (fs.resolve path) (some fs.nextInode)
  file := Function.update fs.file fs.nextInode File.empty
  nextInode := fs.nextInode + 1
  descriptors := fs.descriptors
  entry_lt := by
    intro name inode found
    by_cases same : name = fs.resolve path
    · subst name
      rw [Function.update_self] at found
      cases found
      omega
    · rw [Function.update_of_ne same] at found
      have := fs.entry_lt name inode found
      omega
  entry_injective := by
    intro name other inode found foundOther
    by_cases same : name = fs.resolve path
    · subst name
      rw [Function.update_self] at found
      cases found
      by_cases sameOther : other = fs.resolve path
      · exact sameOther.symm
      · rw [Function.update_of_ne sameOther] at foundOther
        have := fs.entry_lt other _ foundOther
        omega
    · rw [Function.update_of_ne same] at found
      by_cases sameOther : other = fs.resolve path
      · subst other
        rw [Function.update_self] at foundOther
        cases foundOther
        have := fs.entry_lt name _ found
        omega
      · rw [Function.update_of_ne sameOther] at foundOther
        exact fs.entry_injective name other inode found foundOther

/-- Remove a name; the file lives on for its open descriptors. -/
def unlink (fs : FileSystem) (path : String) : FileSystem where
  resolve := fs.resolve
  entry := Function.update fs.entry (fs.resolve path) none
  file := fs.file
  nextInode := fs.nextInode
  descriptors := fs.descriptors
  entry_lt := by
    intro name inode found
    by_cases same : name = fs.resolve path
    · subst name
      rw [Function.update_self] at found
      cases found
    · rw [Function.update_of_ne same] at found
      exact fs.entry_lt name inode found
  entry_injective := by
    intro name other inode found foundOther
    by_cases same : name = fs.resolve path
    · subst name
      rw [Function.update_self] at found
      cases found
    · by_cases sameOther : other = fs.resolve path
      · subst other
        rw [Function.update_self] at foundOther
        cases foundOther
      · rw [Function.update_of_ne same] at found
        rw [Function.update_of_ne sameOther] at foundOther
        exact fs.entry_injective name other inode found foundOther

def setFile (fs : FileSystem) (inode : Nat) (file : File) : FileSystem :=
  { fs with file := Function.update fs.file inode file }

def setDescriptor (fs : FileSystem) (descriptor : Nat)
    (opened : OpenFile) : FileSystem :=
  { fs with descriptors := fs.descriptors.insert descriptor opened }

def release (fs : FileSystem) (descriptor : Nat) : FileSystem :=
  { fs with descriptors := fs.descriptors.erase descriptor }

/-! ## The parts after an update -/

section Updates

variable (fs : FileSystem) (path other : String)
variable (inode descriptor : Nat) (file : File) (opened : OpenFile)

@[simp]
theorem lookup_setFile : (fs.setFile inode file).lookup path = fs.lookup path :=
  rfl

@[simp]
theorem lookup_setDescriptor :
    (fs.setDescriptor descriptor opened).lookup path = fs.lookup path :=
  rfl

@[simp]
theorem lookup_release :
    (fs.release descriptor).lookup path = fs.lookup path :=
  rfl

@[simp]
theorem lookup_link_self :
    (fs.link path).lookup path = some fs.nextInode :=
  Function.update_self _ _ _

theorem lookup_link_of_eq (same : fs.resolve other = fs.resolve path) :
    (fs.link path).lookup other = some fs.nextInode :=
  (congrArg (fs.link path).entry same).trans (Function.update_self _ _ _)

theorem lookup_link_of_ne
    (different : fs.resolve other ≠ fs.resolve path) :
    (fs.link path).lookup other = fs.lookup other :=
  Function.update_of_ne different _ _

@[simp]
theorem lookup_unlink_self : (fs.unlink path).lookup path = none :=
  Function.update_self _ _ _

theorem lookup_unlink_of_eq (same : fs.resolve other = fs.resolve path) :
    (fs.unlink path).lookup other = none :=
  (congrArg (fs.unlink path).entry same).trans (Function.update_self _ _ _)

theorem lookup_unlink_of_ne
    (different : fs.resolve other ≠ fs.resolve path) :
    (fs.unlink path).lookup other = fs.lookup other :=
  Function.update_of_ne different _ _

@[simp]
theorem file_setDescriptor :
    (fs.setDescriptor descriptor opened).file = fs.file :=
  rfl

@[simp]
theorem file_release : (fs.release descriptor).file = fs.file :=
  rfl

@[simp]
theorem file_unlink : (fs.unlink path).file = fs.file :=
  rfl

@[simp]
theorem file_setFile_self : (fs.setFile inode file).file inode = file :=
  Function.update_self _ _ _

theorem file_setFile_of_ne {number : Nat} (different : number ≠ inode) :
    (fs.setFile inode file).file number = fs.file number :=
  Function.update_of_ne different _ _

@[simp]
theorem file_link_self : (fs.link path).file fs.nextInode = File.empty :=
  Function.update_self _ _ _

theorem file_link_of_ne (different : inode ≠ fs.nextInode) :
    (fs.link path).file inode = fs.file inode :=
  Function.update_of_ne different _ _

@[simp]
theorem descriptors_setFile :
    (fs.setFile inode file).descriptors = fs.descriptors :=
  rfl

@[simp]
theorem descriptors_link : (fs.link path).descriptors = fs.descriptors :=
  rfl

@[simp]
theorem descriptors_unlink :
    (fs.unlink path).descriptors = fs.descriptors :=
  rfl

@[simp]
theorem descriptors_setDescriptor :
    (fs.setDescriptor descriptor opened).descriptors.lookup descriptor =
      some opened :=
  AList.lookup_insert _

@[simp]
theorem setDescriptor_setDescriptor (first : OpenFile) :
    (fs.setDescriptor descriptor first).setDescriptor descriptor opened =
      fs.setDescriptor descriptor opened := by
  simp only [setDescriptor]
  simp only [AList.insert_insert]

@[simp]
theorem setDescriptor_setFile :
    (fs.setDescriptor descriptor opened).setFile inode file =
      (fs.setFile inode file).setDescriptor descriptor opened :=
  rfl

@[simp]
theorem setFile_setFile (first : File) :
    (fs.setFile inode first).setFile inode file =
      fs.setFile inode file := by
  simp only [setFile]
  simp only [Function.update_idem]

@[simp]
theorem setFile_file : fs.setFile inode (fs.file inode) = fs := by
  simp only [setFile]
  rw [Function.update_eq_self]

@[simp]
theorem release_setFile :
    (fs.setFile inode file).release descriptor =
      (fs.release descriptor).setFile inode file :=
  rfl

@[simp]
theorem release_unlink :
    (fs.unlink path).release descriptor =
      (fs.release descriptor).unlink path :=
  rfl

@[simp]
theorem unlink_setDescriptor :
    (fs.setDescriptor descriptor opened).unlink path =
      (fs.unlink path).setDescriptor descriptor opened :=
  rfl

theorem erase_insert_of_notMem {table : AList fun _ : Nat => OpenFile}
    (free : descriptor ∉ table) :
    (table.insert descriptor opened).erase descriptor = table := by
  apply AList.ext
  change
    (table.insert descriptor opened).entries.kerase descriptor =
      table.entries
  rw [AList.entries_insert_of_notMem free]
  exact List.kerase_cons_eq rfl

/-- Closing a descriptor that was free before gives the old table back. -/
theorem release_setDescriptor (free : descriptor ∉ fs.descriptors) :
    (fs.setDescriptor descriptor opened).release descriptor = fs := by
  simp only [release, setDescriptor]
  simp only [erase_insert_of_notMem _ _ free]

/-- The descriptor for the next `open` is not in use. -/
theorem freeDescriptor_notMem :
    fs.freeDescriptor ∉ fs.descriptors := by
  have exists_free :
      ∃ number ∈ List.range (fs.descriptors.keys.length + 1),
        number ∉ fs.descriptors.keys := by
    by_contra allUsed
    have subset :
        List.range (fs.descriptors.keys.length + 1) ⊆
          fs.descriptors.keys := by
      intro number member
      by_contra unused
      exact allUsed ⟨number, member, unused⟩
    have bound :=
      (List.subperm_of_subset List.nodup_range subset).length_le
    rw [List.length_range] at bound
    omega
  obtain ⟨number, inRange, unused⟩ := exists_free
  simp only [freeDescriptor]
  cases found :
      (List.range (fs.descriptors.keys.length + 1)).find?
        fun descriptor => decide (descriptor ∉ fs.descriptors.keys) with
  | none =>
      rw [List.find?_eq_none] at found
      exact absurd (decide_eq_true unused) (found number inRange)
  | some first =>
      have := List.find?_some found
      simpa [AList.mem_keys] using this

end Updates

/-- The answer to each call when nothing goes wrong. -/
def serve : Handler calls FileSystem
  | .access path, fs =>
      match fs.lookup path with
      | some _ => (.ok (), fs)
      | none => (.error .enoent, fs)
  | .openFile path, fs =>
      match fs.lookup path with
      | some inode =>
          (.ok fs.freeDescriptor,
            fs.setDescriptor fs.freeDescriptor ⟨inode, 0⟩)
      | none =>
          (.ok fs.freeDescriptor,
            (fs.link path).setDescriptor fs.freeDescriptor
              ⟨fs.nextInode, 0⟩)
  | .close descriptor, fs =>
      match fs.descriptors.lookup descriptor with
      | some _ => (.ok (), fs.release descriptor)
      | none => (.error .other, fs)
  | .stat path, fs =>
      match fs.lookup path with
      | some inode => (.ok (fs.file inode).size, fs)
      | none => (.error .enoent, fs)
  | .truncate path length, fs =>
      match fs.lookup path with
      | some inode =>
          (.ok (), fs.setFile inode ((fs.file inode).resize length))
      | none => (.error .enoent, fs)
  | .lseek descriptor offset, fs =>
      match fs.descriptors.lookup descriptor with
      | some opened =>
          (.ok offset,
            fs.setDescriptor descriptor { opened with offset := offset })
      | none => (.error .other, fs)
  | .write descriptor bytes, fs =>
      match fs.descriptors.lookup descriptor with
      | some opened =>
          (.ok bytes.length,
            (fs.setFile opened.inode
              ((fs.file opened.inode).writeAt opened.offset bytes)).setDescriptor
                descriptor
                { opened with offset := opened.offset + bytes.length })
      | none => (.error .other, fs)
  | .read descriptor count, fs =>
      match fs.descriptors.lookup descriptor with
      | some opened =>
          let bytes := (fs.file opened.inode).readAt opened.offset count
          (.ok bytes,
            fs.setDescriptor descriptor
              { opened with offset := opened.offset + bytes.length })
      | none => (.error .other, fs)
  | .fsync descriptor, fs =>
      match fs.descriptors.lookup descriptor with
      | some _ => (.ok (), fs)
      | none => (.error .other, fs)
  | .unlink path, fs =>
      match fs.lookup path with
      | some _ => (.ok (), fs.unlink path)
      | none => (.error .enoent, fs)

/-! ## Calls that leave the directory alone -/

def KeepsNames : Request → Prop
  | .openFile _ => False
  | .unlink _ => False
  | _ => True

structure SameDirectory (before after : FileSystem) : Prop where
  resolve : after.resolve = before.resolve
  entry : after.entry = before.entry
  nextInode : after.nextInode = before.nextInode

theorem SameDirectory.refl (fs : FileSystem) : SameDirectory fs fs :=
  ⟨rfl, rfl, rfl⟩

theorem SameDirectory.trans {first second third : FileSystem}
    (left : SameDirectory first second)
    (right : SameDirectory second third) : SameDirectory first third :=
  ⟨right.resolve.trans left.resolve, right.entry.trans left.entry,
    right.nextInode.trans left.nextInode⟩

theorem SameDirectory.lookup {before after : FileSystem}
    (same : SameDirectory before after) (path : String) :
    after.lookup path = before.lookup path := by
  simp only [FileSystem.lookup]
  rw [same.resolve, same.entry]

theorem serve_keepsNames (request : Request) (fs : FileSystem)
    (keeps : KeepsNames request) :
    SameDirectory fs (serve request fs).2 := by
  cases request with
  | openFile path => exact keeps.elim
  | unlink path => exact keeps.elim
  | access path =>
      cases found : fs.lookup path <;>
        simp only [serve, found] <;> exact .refl fs
  | stat path =>
      cases found : fs.lookup path <;>
        simp only [serve, found] <;> exact .refl fs
  | truncate path length =>
      cases found : fs.lookup path <;>
        simp only [serve, found] <;> exact ⟨rfl, rfl, rfl⟩
  | close descriptor =>
      cases isOpen : fs.descriptors.lookup descriptor <;>
        simp only [serve, isOpen] <;> exact ⟨rfl, rfl, rfl⟩
  | lseek descriptor offset =>
      cases isOpen : fs.descriptors.lookup descriptor <;>
        simp only [serve, isOpen] <;> exact ⟨rfl, rfl, rfl⟩
  | write descriptor bytes =>
      cases isOpen : fs.descriptors.lookup descriptor <;>
        simp only [serve, isOpen] <;> exact ⟨rfl, rfl, rfl⟩
  | read descriptor count =>
      cases isOpen : fs.descriptors.lookup descriptor <;>
        simp only [serve, isOpen] <;> exact ⟨rfl, rfl, rfl⟩
  | fsync descriptor =>
      cases isOpen : fs.descriptors.lookup descriptor <;>
        simp only [serve, isOpen] <;> exact ⟨rfl, rfl, rfl⟩

/-! ## Calls that remove no name -/

/-- The names of the first state still stand for the same files. -/
structure NamesStay (before after : FileSystem) : Prop where
  resolve : after.resolve = before.resolve
  entry : ∀ name inode, before.entry name = some inode →
    after.entry name = some inode

theorem NamesStay.refl (fs : FileSystem) : NamesStay fs fs :=
  ⟨rfl, fun _ _ found => found⟩

theorem NamesStay.trans {first second third : FileSystem}
    (left : NamesStay first second) (right : NamesStay second third) :
    NamesStay first third :=
  ⟨right.resolve.trans left.resolve,
    fun name inode found => right.entry _ _ (left.entry name inode found)⟩

theorem NamesStay.lookup {before after : FileSystem}
    (stay : NamesStay before after) {path : String} {inode : Nat}
    (found : before.lookup path = some inode) :
    after.lookup path = some inode := by
  simp only [FileSystem.lookup] at found ⊢
  rw [stay.resolve]
  exact stay.entry _ _ found

theorem SameDirectory.namesStay {before after : FileSystem}
    (same : SameDirectory before after) : NamesStay before after :=
  ⟨same.resolve, fun name inode found => by rw [same.entry, found]⟩

theorem namesStay_link {fs : FileSystem} {path : String}
    (absent : fs.lookup path = none) : NamesStay fs (fs.link path) := by
  refine ⟨rfl, fun name inode found => ?_⟩
  have different : name ≠ fs.resolve path := by
    intro equal
    rcases equal with rfl
    rw [show fs.entry (fs.resolve path) = none from absent] at found
    cases found
  exact (Function.update_of_ne different _ _).trans found

theorem serve_namesStay (request : Request) (fs : FileSystem)
    (keeps : ∀ path, request ≠ .unlink path) :
    NamesStay fs (serve request fs).2 := by
  by_cases keepsNames : KeepsNames request
  · exact (serve_keepsNames request fs keepsNames).namesStay
  · cases request with
    | unlink path => exact absurd rfl (keeps path)
    | openFile path =>
        cases found : fs.lookup path with
        | some inode =>
            simp only [serve, found]
            exact ⟨rfl, fun _ _ present => present⟩
        | none =>
            simp only [serve, found]
            have linked := namesStay_link found
            exact ⟨linked.resolve, linked.entry⟩
    | _ => exact absurd True.intro keepsNames

/-! ## Failing calls -/

inductive Fault where
  | none
  | fail
  | short (count : Nat)
  deriving DecidableEq, Repr

/-- A failing call changes nothing, except that `close` gives up the descriptor
even then; a transfer may stop after any number of bytes. -/
def serveWith : Fault → Handler calls FileSystem
  | .none, request, fs => serve request fs
  | .fail, .close descriptor, fs =>
      (.error .other, fs.release descriptor)
  | .fail, _, fs => (.error .other, fs)
  | .short count, .write descriptor bytes, fs =>
      serve (.write descriptor (bytes.take count)) fs
  | .short count, .read descriptor wanted, fs =>
      serve (.read descriptor (min wanted count)) fs
  | .short _, request, fs => serve request fs

/-- Calls whose faults come from a plan, one entry for each call. -/
def servePlanned : Handler calls (FileSystem × (Nat → Fault)) :=
  fun request state =>
    let (reply, after) := serveWith (state.2 0) request state.1
    (reply, after, fun index => state.2 (index + 1))

/-- Calls that may each fail or stop short. -/
def mayFail : Transition calls FileSystem :=
  fun before request reply after =>
    ∃ fault, serveWith fault request before = (reply, after)

end FileSystem

end Posix
