import Lewsql.Posix.Faults
import Mathlib.Algebra.Ring.Nat

/-!
# What a power loss leaves of a file

Bytes that were written reach the disk in any order, each by itself, until a
successful `fsync` of the file returns.  A `Medium` holds the bytes that may be
found at each position of one file when the power is lost now.
-/

namespace Posix

open Interaction FileSystem

/-- The bytes that may be found at each position of a file. -/
def Medium : Type :=
  Nat → UInt8 → Prop

/-- The call reports that a file is on the disk. -/
def Syncs (inode : Nat) (move : Move calls FileSystem) : Prop :=
  match move.request, move.reply with
  | .fsync descriptor, .ok () => ∃ offset,
      move.before.descriptors.lookup descriptor = some ⟨inode, offset⟩
  | _, _ => False

namespace Medium

variable {inode : Nat} {medium : Medium} {file : File}
variable {move : Move calls FileSystem}

/-- The file is on the disk as it is. -/
def settled (file : File) : Medium :=
  fun position value => value = file.byte position

/-- After a call, an older byte may still be found unless the call synced the
file. -/
def after (inode : Nat) (medium : Medium) (move : Move calls FileSystem) :
    Medium :=
  fun position value =>
    value = (move.after.file inode).byte position ∨
      ¬ Syncs inode move ∧ medium position value

/-- A file that a power loss may leave. -/
def Leaves (medium : Medium) (file : File) : Prop :=
  ∀ position, medium position (file.byte position)

def Within (medium : Medium) (allowed : Nat → UInt8 → Prop) : Prop :=
  ∀ position value, medium position value → allowed position value

theorem leaves_settled (file : File) : (settled file).Leaves file :=
  fun _ => rfl

theorem leaves_after :
    (after inode medium move).Leaves (move.after.file inode) :=
  fun _ => Or.inl rfl

theorem after_of_syncs (synced : Syncs inode move) {position : Nat}
    {value : UInt8} (found : after inode medium move position value) :
    value = (move.after.file inode).byte position := by
  rcases found with current | older
  · exact current
  · exact absurd synced older.1

/-- A call that changes bytes only as a relation allows. -/
theorem within_after {allowed change : Nat → UInt8 → Prop}
    (within : medium.Within fun position value =>
      allowed position value ∨ change position value)
    (current : medium.Leaves (move.before.file inode))
    (changed : ∀ position,
      (move.after.file inode).byte position =
          (move.before.file inode).byte position ∨
        change position ((move.after.file inode).byte position)) :
    (after inode medium move).Within fun position value =>
      allowed position value ∨ change position value := by
  intro position value found
  rcases found with rfl | older
  · rcases changed position with same | new
    · rw [same]
      exact within _ _ (current position)
    · exact Or.inr new
  · exact within _ _ older.2

end Medium

/-! ## A file of a size that an `unsigned int` can hold -/

namespace FileSystem

variable {before last : FileSystem} {inode : Nat}

/-- A file that exists, or existed, and is not too long. -/
structure Standing (inode : Nat) (fs : FileSystem) : Prop where
  made : inode < fs.nextInode
  sized : (fs.file inode).size < 2 ^ 32

def LeavesBytes : Request → Prop
  | .truncate _ _ => False
  | .write _ _ => False
  | _ => True

theorem mayFail_nextInode {request : Request}
    {reply : Except Errno (Answer request)}
    (moved : mayFail before request reply last) :
    before.nextInode ≤ last.nextInode := by
  by_cases keeps : KeepsNames request
  · exact Nat.le_of_eq (mayFail_keepsNames keeps moved).nextInode.symm
  · rcases mayFail_cases moved with
      ⟨_, _, rfl | ⟨_, _, rfl⟩⟩ | served | ⟨_, _, _, rfl, _⟩ |
      ⟨_, _, _, rfl, _⟩
    · exact Nat.le_refl _
    · exact Nat.le_refl _
    · cases request with
      | openFile path =>
          cases found : before.lookup path with
          | some number =>
              simp only [serve, found] at served
              cases served
              exact Nat.le_refl _
          | none =>
              simp only [serve, found] at served
              cases served
              exact Nat.le_succ _
      | unlink path =>
          cases found : before.lookup path with
          | some number =>
              simp only [serve, found] at served
              cases served
              exact Nat.le_refl _
          | none =>
              simp only [serve, found] at served
              cases served
              exact Nat.le_refl _
      | _ => exact absurd True.intro keeps
    · exact absurd (by exact True.intro) keeps
    · exact absurd (by exact True.intro) keeps

/-- A file keeps its contents through a call that changes no bytes. -/
theorem mayFail_leavesBytes {request : Request}
    {reply : Except Errno (Answer request)}
    (leaves : LeavesBytes request) (made : inode < before.nextInode)
    (moved : mayFail before request reply last) :
    last.file inode = before.file inode := by
  by_cases keeps : KeepsFiles request
  · rw [mayFail_keepsFiles keeps moved]
  · cases request with
    | truncate path length => exact leaves.elim
    | write descriptor bytes => exact leaves.elim
    | openFile path =>
        cases found : before.lookup path with
        | some number =>
            rcases mayFail_openFile found moved with
              ⟨_, _, rfl⟩ | ⟨_, rfl⟩
            · rfl
            · rfl
        | none =>
            rcases mayFail_cases moved with
              ⟨_, _, rfl | ⟨_, impossible, _⟩⟩ | served |
              ⟨_, _, _, impossible, _⟩ | ⟨_, _, _, impossible, _⟩
            · rfl
            · cases impossible
            · simp only [serve, found] at served
              cases served
              rw [file_setDescriptor]
              exact file_link_of_ne _ _ _ (Nat.ne_of_lt made)
            · cases impossible
            · cases impossible
    | _ => exact absurd True.intro keeps

theorem Standing.of_same (standing : Standing inode before)
    (grown : before.nextInode ≤ last.nextInode)
    (same : last.file inode = before.file inode) : Standing inode last where
  made := Nat.lt_of_lt_of_le standing.made grown
  sized := by
    rw [same]
    exact standing.sized

end FileSystem

end Posix
