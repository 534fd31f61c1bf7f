import Lewsql.DiskManager.Accesses
import Lewsql.DiskManager.World

/-!
# The bound check of `prepare_rw`

The end of an access is compared with the limit after it was reduced modulo
`2^32`.  In a run of accesses to one disk every access that succeeds is in range
exactly when no access has a reduced end that passes the check, up to the accesses
that fail for another reason.
-/

namespace Lewsql

open Interaction Posix FileSystem

/-- The end of the page below the limit, reduced modulo `2^32`, but not the page
itself. -/
def SlipsThrough (pageSize maxDiskSize : UInt32)
    (cursor : DiskPageCursor) : Prop :=
  (cursor.toInt + 1) * pageSize.toNat % 2 ^ 32 < maxDiskSize.toNat ∧
    ¬ (0 ≤ cursor.toInt ∧
      (cursor.toInt + 1) * pageSize.toNat < 2 ^ 32)

/-- An access whose page the check does not take for another one, or that fails
all the same: a write at the reduced offset `2^32 - 1` looks like a failed
`lseek`, and a read that ends past `2^32` finds less than a page. -/
def Operation.ChecksOut (base : DiskManager) : Operation → Prop
  | .write _ cursor _ =>
      ¬ SlipsThrough base.pageSize base.maxDiskByteSize cursor ∨
        cursor.toInt * base.pageSize.toNat % 2 ^ 32 = 2 ^ 32 - 1
  | .read _ cursor _ =>
      ¬ SlipsThrough base.pageSize base.maxDiskByteSize cursor ∨
        2 ^ 32 ≤
          cursor.toInt * base.pageSize.toNat % 2 ^ 32 +
            base.pageSize.toNat
  | _ => True

def Operation.cursor : Operation → Option DiskPageCursor
  | .write _ cursor _ => some cursor
  | .read _ cursor _ => some cursor
  | _ => none

def World.Accesses (base : DiskManager) (inode : Nat) (world : World) :
    Operation → Prop
  | .write diskId _ bytes =>
      world.Names base diskId inode ∧ bytes.length = base.pageSize.toNat
  | .read diskId _ buffer =>
      world.Names base diskId inode ∧ buffer.length = base.pageSize.toNat
  | _ => False

/-- Writes and reads of one disk that starts empty, through any ids. -/
def World.accesses (base : DiskManager) (inode : Nat) :
    Machine World Passage where
  start world := (world.fileSystem.file inode).size = 0
  step before passage after :=
    passage.before = before ∧ passage.after = after ∧
      before.Accesses base inode passage.operation ∧
      before.step base passage.operation = (.done passage.response, after)

def Passage.fileBefore (passage : Passage) (inode : Nat) : File :=
  passage.before.fileSystem.file inode

def Passage.fileAfter (passage : Passage) (inode : Nat) : File :=
  passage.after.fileSystem.file inode

/-- The access moved its page at this offset and changed no other byte. -/
def Passage.LandsAt (base : DiskManager) (inode : Nat)
    (passage : Passage) (offset : Nat) : Prop :=
  match passage.operation with
  | .write _ _ bytes =>
      (passage.fileAfter inode).byte =
        ((passage.fileBefore inode).writeAt offset bytes).byte
  | .read _ _ _ =>
      (passage.fileAfter inode).byte = (passage.fileBefore inode).byte ∧
        passage.response =
          .buffer .ok
            ((List.range base.pageSize.toNat).map fun position =>
              (passage.fileBefore inode).byte (offset + position))
  | _ => True

/-- An access that succeeds is in range and lands at its page, and the file
stays within the limit. -/
structure Passage.Sound (base : DiskManager) (inode : Nat)
    (passage : Passage) : Prop where
  inRange : passage.response.failed = false →
    ∀ cursor, passage.operation.cursor = some cursor →
      0 ≤ cursor.toInt ∧
        (cursor.toInt + 1) * base.pageSize.toNat ≤
          base.maxDiskByteSize.toNat
  lands : passage.response.failed = false →
    ∀ cursor, passage.operation.cursor = some cursor →
      passage.LandsAt base inode
        (cursor.toNatClampNeg * base.pageSize.toNat)
  within :
    (passage.fileAfter inode).size ≤ base.maxDiskByteSize.toNat

/-- The bytes from the offset that `prepare_rw` seeks for a cursor. -/
def Touches (pageSize : UInt32) (cursor : DiskPageCursor)
    (position : Nat) : Prop :=
  (foffset pageSize cursor).toNat ≤ position ∧
    position < (foffset pageSize cursor).toNat + pageSize.toNat

/-- What a sound check gives a run: sound accesses, and different pages in
disjoint byte ranges. -/
structure SoundAccesses (base : DiskManager) (inode : Nat)
    (passages : List Passage) : Prop where
  sound : ∀ passage ∈ passages, passage.Sound base inode
  disjoint : ∀ first ∈ passages, ∀ second ∈ passages,
    first.response.failed = false → second.response.failed = false →
      ∀ left right, first.operation.cursor = some left →
        second.operation.cursor = some right → left ≠ right →
          ∀ position, ¬ (Touches base.pageSize left position ∧
            Touches base.pageSize right position)

section Arithmetic

variable {pageSize maxDiskSize : UInt32} {cursor : DiskPageCursor}

/-- An end that passes the check is in range, unless it slips through. -/
theorem inRange_of_passes
    (passes : newByteSize pageSize cursor < maxDiskSize)
    (kept : ¬ SlipsThrough pageSize maxDiskSize cursor) :
    InRange pageSize maxDiskSize cursor := by
  have length := newByteSize_toNat pageSize cursor
  have below := UInt32.lt_iff_toNat_lt.mp passes
  by_contra outside
  apply kept
  refine ⟨by omega, fun unwrapped => outside ?_⟩
  have nonneg : 0 ≤ (cursor.toInt + 1) * (pageSize.toNat : Int) :=
    Int.mul_nonneg (by have := unwrapped.1; omega)
      (Int.natCast_nonneg _)
  rw [Int.emod_eq_of_lt nonneg unwrapped.2] at length
  exact ⟨unwrapped.1, by omega⟩

theorem SlipsThrough.passes
    (slips : SlipsThrough pageSize maxDiskSize cursor) :
    newByteSize pageSize cursor < maxDiskSize := by
  have length := newByteSize_toNat pageSize cursor
  have below := slips.1
  rw [UInt32.lt_iff_toNat_lt]
  omega

/-- A page that slips through is not within the limit. -/
theorem SlipsThrough.outside
    (slips : SlipsThrough pageSize maxDiskSize cursor) :
    ¬ (0 ≤ cursor.toInt ∧
      (cursor.toInt + 1) * pageSize.toNat ≤ maxDiskSize.toNat) := by
  intro inside
  have limit := maxDiskSize.toNat_lt
  exact slips.2 ⟨inside.1, by omega⟩

/-- Pages within the limit do not overlap. -/
theorem not_touches_both {left right : DiskPageCursor}
    (leftInside : 0 ≤ left.toInt ∧
      (left.toInt + 1) * pageSize.toNat ≤ maxDiskSize.toNat)
    (rightInside : 0 ≤ right.toInt ∧
      (right.toInt + 1) * pageSize.toNat ≤ maxDiskSize.toNat)
    (different : left ≠ right) (position : Nat) :
    ¬ (Touches pageSize left position ∧
      Touches pageSize right position) := by
  have limit := maxDiskSize.toNat_lt
  have leftOffset :
      (foffset pageSize left).toNat =
        left.toNatClampNeg * pageSize.toNat :=
    foffset_of_not_wrapped leftInside.1 (by have := leftInside.2; omega)
  have rightOffset :
      (foffset pageSize right).toNat =
        right.toNatClampNeg * pageSize.toNat :=
    foffset_of_not_wrapped rightInside.1
      (by have := rightInside.2; omega)
  simp only [Touches]
  rw [leftOffset, rightOffset]
  intro inBoth
  rcases inBoth with ⟨inLeft, inRight⟩
  have pages : left.toNatClampNeg ≠ right.toNatClampNeg := by
    intro same
    have leftBack : (left.toNatClampNeg : Int) = left.toInt :=
      Int.toNat_of_nonneg leftInside.1
    have rightBack : (right.toNatClampNeg : Int) = right.toInt :=
      Int.toNat_of_nonneg rightInside.1
    exact different (Int32.toInt_inj.mp (by omega))
  obtain ⟨inPage, reaches⟩ := Nat.exists_eq_add_of_le inRight.1
  have apart :
      ¬ (left.toNatClampNeg * pageSize.toNat ≤
          right.toNatClampNeg * pageSize.toNat + inPage ∧
        right.toNatClampNeg * pageSize.toNat + inPage <
          left.toNatClampNeg * pageSize.toNat + pageSize.toNat) :=
    File.page_disjoint pages (by omega)
  exact apart (by omega)

end Arithmetic

section OneAccess

variable {base : DiskManager} {inode : Nat} {before after : World}
variable {diskId : DiskId} {cursor : DiskPageCursor}
variable {response : Response}

/-- A disk just opened is attached to its file. -/
theorem attached_opened {fs : FileSystem} {path : String}
    (found : fs.lookup path = some inode)
    (within : (fs.file inode).size ≤ base.maxDiskByteSize.toNat) :
    (PosixDiskManager.openedDisk base fs path).Attached inode
      (fs.file inode).byte
      (fs.setDescriptor fs.freeDescriptor ⟨inode, 0⟩) :=
  ⟨found, ⟨0, descriptors_setDescriptor _ _ _⟩, within, rfl⟩

/-- A write that returned: where it succeeded, and why it failed. -/
theorem write_returned (positive : base.pageSize ≠ 0)
    (within :
      (before.fileSystem.file inode).size ≤ base.maxDiskByteSize.toNat)
    {bytes : List UInt8}
    (accessed : before.Accesses base inode (.write diskId cursor bytes))
    (returned :
      before.step base (.write diskId cursor bytes) =
        (.done response, after)) :
    (response.failed = false ∧
      newByteSize base.pageSize cursor < base.maxDiskByteSize ∧
      Seekable base.pageSize cursor ∧
      (after.fileSystem.file inode).byte =
        ((before.fileSystem.file inode).writeAt
          (foffset base.pageSize cursor).toNat bytes).byte ∧
      ((foffset base.pageSize cursor).toNat + base.pageSize.toNat <
          2 ^ 32 →
        (after.fileSystem.file inode).size ≤
          base.maxDiskByteSize.toNat)) ∨
    (response.failed = true ∧
      (newByteSize base.pageSize cursor < base.maxDiskByteSize →
        ¬ Seekable base.pageSize cursor) ∧
      (after.fileSystem.file inode).size ≤ base.maxDiskByteSize.toNat) := by
  obtain ⟨⟨fileName, loaded, found⟩, full⟩ := accessed
  obtain ⟨value, finished, rfl⟩ := World.run_of_step rfl returned
  obtain ⟨manager, fileSystem⟩ := after
  simp only [PosixDiskManager.write_run, loaded] at finished
  obtain ⟨result, middle, used, kept⟩ :=
    Program.run_bind_eq_done serve finished
  cases kept
  have attached := attached_opened found within
  obtain ⟨last, ended, same⟩ :=
    PosixDiskManager.withDisk_ends found
      (PosixDisk.wp_propIfError_write positive full _ attached)
      (fun result last ended => by
        cases result with
        | value content =>
            obtain ⟨offset, isOpen⟩ := ended.2.isOpen
            exact ⟨_, isOpen⟩
        | error failure =>
            obtain ⟨offset, isOpen⟩ := ended.1.isOpen
            exact ⟨_, isOpen⟩)
      used
  rw [same]
  cases value with
  | value content =>
      left
      exact ⟨rfl, ended.2.passes, ended.1, ended.2.bytes,
        ended.2.within⟩
  | error failure =>
      right
      exact ⟨rfl, ended.2, ended.1.within⟩

/-- A read that returned: where it succeeded, and why it failed. -/
theorem read_returned (positive : base.pageSize ≠ 0)
    (within :
      (before.fileSystem.file inode).size ≤ base.maxDiskByteSize.toNat)
    {buffer : List UInt8}
    (accessed : before.Accesses base inode (.read diskId cursor buffer))
    (returned :
      before.step base (.read diskId cursor buffer) =
        (.done response, after)) :
    (response =
        .buffer .ok
          ((List.range base.pageSize.toNat).map fun position =>
            (before.fileSystem.file inode).byte
              ((foffset base.pageSize cursor).toNat + position)) ∧
      newByteSize base.pageSize cursor < base.maxDiskByteSize ∧
      (foffset base.pageSize cursor).toNat + base.pageSize.toNat <
        2 ^ 32 ∧
      (after.fileSystem.file inode).byte =
        (before.fileSystem.file inode).byte ∧
      (after.fileSystem.file inode).size ≤ base.maxDiskByteSize.toNat) ∨
    (response.failed = true ∧
      (newByteSize base.pageSize cursor < base.maxDiskByteSize →
        2 ^ 32 ≤
          (foffset base.pageSize cursor).toNat + base.pageSize.toNat) ∧
      (after.fileSystem.file inode).size ≤ base.maxDiskByteSize.toNat) := by
  obtain ⟨⟨fileName, loaded, found⟩, full⟩ := accessed
  obtain ⟨value, finished, rfl⟩ := World.run_of_step rfl returned
  obtain ⟨manager, fileSystem⟩ := after
  simp only [PosixDiskManager.read_run, loaded] at finished
  obtain ⟨result, middle, used, kept⟩ :=
    Program.run_bind_eq_done serve finished
  cases kept
  have attached := attached_opened found within
  obtain ⟨last, ended, same⟩ :=
    PosixDiskManager.withDisk_ends found
      (PosixDisk.wp_propIfError_read positive full attached)
      (fun result last ended => by
        obtain ⟨evaluated, bytes⟩ := result
        cases evaluated with
        | value content =>
            obtain ⟨offset, isOpen⟩ := ended.2.1.isOpen
            exact ⟨_, isOpen⟩
        | error failure =>
            obtain ⟨offset, isOpen⟩ := ended.1.isOpen
            exact ⟨_, isOpen⟩)
      used
  rw [same]
  obtain ⟨evaluated, bytes⟩ := value
  cases evaluated with
  | value content =>
      left
      obtain ⟨noCarry, transferred, rfl⟩ := ended
      exact ⟨rfl, transferred.passes, noCarry, transferred.bytes,
        transferred.within noCarry⟩
  | error failure =>
      right
      exact ⟨rfl, ended.2.2, ended.1.within⟩

/-- An access that failed is sound if the file stays within the limit. -/
theorem sound_of_failed {passage : Passage}
    (failed : passage.response.failed = true)
    (bounded :
      (passage.fileAfter inode).size ≤ base.maxDiskByteSize.toNat) :
    passage.Sound base inode :=
  ⟨fun succeeded => absurd failed (by simp [succeeded]),
    fun succeeded => absurd failed (by simp [succeeded]), bounded⟩

/-- An access to a page in range is sound if it lands where it was sought. -/
theorem sound_of_inRange {passage : Passage}
    (accesses : passage.operation.cursor = some cursor)
    (inRange : InRange base.pageSize base.maxDiskByteSize cursor)
    (lands :
      passage.LandsAt base inode (foffset base.pageSize cursor).toNat)
    (bounded :
      (passage.fileAfter inode).size ≤ base.maxDiskByteSize.toNat) :
    passage.Sound base inode := by
  refine ⟨?_, ?_, bounded⟩
  · intro _ other same
    cases accesses.symm.trans same
    exact ⟨inRange.1, Int.le_of_lt inRange.2⟩
  · intro _ other same
    cases accesses.symm.trans same
    rw [← inRange.foffset]
    exact lands

/-- One access is sound exactly where the check does not take its page for
another one; then the file stays within the limit. -/
theorem sound_iff_checksOut (positive : base.pageSize ≠ 0)
    {passage : Passage}
    (within :
      (passage.fileBefore inode).size ≤ base.maxDiskByteSize.toNat)
    (accessed : passage.before.Accesses base inode passage.operation)
    (returned :
      passage.before.step base passage.operation =
        (.done passage.response, passage.after)) :
    passage.Sound base inode ↔ passage.operation.ChecksOut base := by
  obtain ⟨before, operation, response, after⟩ := passage
  cases operation with
  | write diskId cursor bytes =>
      have offset := foffset_toNat base.pageSize cursor
      rcases write_returned positive within accessed returned with
        ⟨succeeded, passes, seekable, landed, bounded⟩ |
        ⟨failed, rejected, bounded⟩
      · constructor
        · intro sound
          left
          intro slips
          exact slips.outside (sound.inRange succeeded cursor rfl)
        · intro either
          rcases either with kept | last
          · have inRange := inRange_of_passes passes kept
            exact sound_of_inRange rfl inRange landed
              (bounded inRange.noCarry)
          · exact absurd (by omega) seekable
      · constructor
        · intro _
          by_cases slips :
              SlipsThrough base.pageSize base.maxDiskByteSize cursor
          · have last := not_not.mp (rejected slips.passes)
            right
            omega
          · exact Or.inl slips
        · intro _
          exact sound_of_failed failed bounded
  | read diskId cursor buffer =>
      have offset := foffset_toNat base.pageSize cursor
      rcases read_returned positive within accessed returned with
        ⟨answered, passes, noCarry, unchanged, bounded⟩ |
        ⟨failed, rejected, bounded⟩
      · have succeeded : response.failed = false := by
          have answered : response = _ := answered
          rw [answered]
          rfl
        constructor
        · intro sound
          left
          intro slips
          exact slips.outside (sound.inRange succeeded cursor rfl)
        · intro either
          rcases either with kept | carry
          · have inRange := inRange_of_passes passes kept
            exact sound_of_inRange rfl inRange ⟨unchanged, answered⟩
              bounded
          · omega
      · constructor
        · intro _
          by_cases slips :
              SlipsThrough base.pageSize base.maxDiskByteSize cursor
          · have carry := rejected slips.passes
            right
            omega
          · exact Or.inl slips
        · intro _
          exact sound_of_failed failed bounded
  | _ => exact accessed.elim

end OneAccess

/-- Sound accesses touch disjoint ranges for different cursors. -/
private theorem disjoint_of_sound {base : DiskManager} {inode : Nat}
    {passages : List Passage}
    (sound : ∀ passage ∈ passages, passage.Sound base inode) :
    SoundAccesses base inode passages where
  sound := sound
  disjoint first firstMember second secondMember firstDone secondDone
      left right leftCursor rightCursor different position :=
    not_touches_both
      ((sound first firstMember).inRange firstDone left leftCursor)
      ((sound second secondMember).inRange secondDone right rightCursor)
      different position

/-- A run of accesses to a disk that starts empty is sound exactly when no
page of it slips through the check. -/
theorem accesses_sound_iff (base : DiskManager) (inode : Nat)
    (positive : base.pageSize ≠ 0) {passages : List Passage}
    {last : World}
    (run : (World.accesses base inode).Run passages last) :
    SoundAccesses base inode passages ↔
      ∀ passage ∈ passages, passage.operation.ChecksOut base := by
  have carried :
      ((∀ passage ∈ passages, passage.Sound base inode) ↔
        ∀ passage ∈ passages, passage.operation.ChecksOut base) ∧
      ((∀ passage ∈ passages, passage.Sound base inode) →
        (last.fileSystem.file inode).size ≤
          base.maxDiskByteSize.toNat) := by
    refine Machine.Run.invariant
      (fun passages world =>
        ((∀ passage ∈ passages, passage.Sound base inode) ↔
          ∀ passage ∈ passages, passage.operation.ChecksOut base) ∧
        ((∀ passage ∈ passages, passage.Sound base inode) →
          (world.fileSystem.file inode).size ≤
            base.maxDiskByteSize.toNat))
      ?_ ?_ run
    · intro world started
      have empty : (world.fileSystem.file inode).size = 0 := started
      refine ⟨by simp, fun _ => ?_⟩
      rw [empty]
      exact Nat.zero_le _
    · intro earlier before passage after _ invariant step
      rcases invariant with ⟨same, within⟩
      rcases step with ⟨rfl, rfl, accessed, returned⟩
      have splits (holds : Passage → Prop) :
          (∀ member ∈ earlier ++ [passage], holds member) ↔
            (∀ member ∈ earlier, holds member) ∧ holds passage := by
        simp only [List.forall_mem_append, List.forall_mem_singleton]
      rw [splits, splits]
      constructor
      · constructor
        · intro allSound
          rcases allSound with ⟨sound, soundLast⟩
          exact ⟨same.mp sound,
            (sound_iff_checksOut positive (within sound) accessed
              returned).mp soundLast⟩
        · intro allChecked
          rcases allChecked with ⟨checked, checkedLast⟩
          have sound := same.mpr checked
          exact ⟨sound,
            (sound_iff_checksOut positive (within sound) accessed
              returned).mpr checkedLast⟩
      · intro allSound
        rcases allSound with ⟨_, soundLast⟩
        exact soundLast.within
  constructor
  · intro sound
    exact carried.1.mp sound.sound
  · intro checked
    exact disjoint_of_sound (carried.1.mpr checked)

/-- One access to it. -/
theorem World.accesses_smallDisk {operation : Operation}
    {response : Response}
    (accessed : smallDisk.Accesses smallBase 0 operation)
    (returned : (smallDisk.step smallBase operation).1 = .done response) :
    (accesses smallBase 0).Run
      [⟨smallDisk, operation, response,
        (smallDisk.step smallBase operation).2⟩]
      (smallDisk.step smallBase operation).2 := by
  have begun : (accesses smallBase 0).Run [] smallDisk := .start rfl
  exact begun.step ⟨rfl, rfl, accessed, Prod.ext returned rfl⟩

/-- A write to the last page below the limit. -/
theorem accesses_sound_iff_small :
    ∃ passages last,
      (World.accesses smallBase 0).Run passages last ∧
        passages.map Passage.event = [(.write 0 2 [1, 2], .void .ok)] ∧
        (SoundAccesses smallBase 0 passages ↔
          ∀ passage ∈ passages,
            passage.operation.ChecksOut smallBase) := by
  have run :=
    World.accesses_smallDisk
      (show World.smallDisk.Accesses smallBase 0 (.write 0 2 [1, 2]) from
        ⟨⟨"a.disk", by decide, by decide⟩, rfl⟩)
      (show
        (World.smallDisk.step smallBase (.write 0 2 [1, 2])).1 =
          .done (.void .ok) by decide)
  exact ⟨_, _, run, rfl,
    accesses_sound_iff smallBase 0 (by decide) run⟩

/-- A write to the page before the first one reports success. -/
theorem negative_cursor_succeeds :
    ∃ passages last,
      (World.accesses smallBase 0).Run passages last ∧
        passages.map Passage.event =
          [(.write 0 (-1) [1, 2], .void .ok)] ∧
        ¬ SoundAccesses smallBase 0 passages := by
  have run :=
    World.accesses_smallDisk
      (show World.smallDisk.Accesses smallBase 0
          (.write 0 (-1) [1, 2]) from
        ⟨⟨"a.disk", by decide, by decide⟩, rfl⟩)
      (show
        (World.smallDisk.step smallBase (.write 0 (-1) [1, 2])).1 =
          .done (.void .ok) by decide)
  refine ⟨_, _, run, rfl, fun claimed => ?_⟩
  have first := claimed.sound _ List.mem_cons_self
  have inside := first.inRange rfl (-1) rfl
  exact absurd inside.1 (by decide)

end Lewsql
