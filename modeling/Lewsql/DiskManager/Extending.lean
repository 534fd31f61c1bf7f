import Lewsql.DiskManager.Bounds
import Lewsql.DiskManager.PagedStore

/-!
# What an extend does to its disk

`extend` computes a cursor from the size of the file and changes nothing.  The
cursor is the one behind the first page that the disk does not have.
-/

namespace Lewsql

open Interaction Posix FileSystem

/-- One more page, at the cursor behind the last one. -/
structure AddsPage (pageSize : Nat) (before : File)
    (cursor : DiskPageCursor) (after : File) : Prop where
  next : cursor.toInt = (before.size / pageSize : Nat)
  grows : after.size = before.size + pageSize
  kept : ∀ page < before.size / pageSize,
    after.page pageSize page = before.page pageSize page

/-- A successful extend adds a page to the disk of its id and returns its
cursor. -/
def Passage.Allocates (base : DiskManager) (passage : Passage) : Prop :=
  match passage.operation, passage.response with
  | .extend diskId, .cursor (.value cursor) =>
      ∃ inode, passage.before.Names base diskId inode ∧
        passage.after.Names base diskId inode ∧
        AddsPage base.pageSize.toNat
          (passage.before.fileSystem.file inode) cursor
          (passage.after.fileSystem.file inode)
  | _, _ => True

/-- An extend of a loaded disk that exists and whose size, as an
`unsigned int`, is within the limit. -/
def Passage.ExtendsDisk (base : DiskManager) (passage : Passage) : Prop :=
  ∃ diskId inode, passage.operation = .extend diskId ∧
    passage.before.Names base diskId inode ∧
    UInt32.ofNat (passage.before.fileSystem.file inode).size ≤
      base.maxDiskByteSize

section Extend

variable {base : DiskManager} {world after : World} {diskId : DiskId}
variable {inode : Nat} {response : Response} {cursor : DiskPageCursor}

def extendCursor (base : DiskManager) (file : File) : DiskPageCursor :=
  (UInt32.ofNat file.size / base.pageSize + 1).toInt32

def extendAnswer (base : DiskManager) (file : File) :
    DiskResult DiskPageCursor :=
  if UInt32.ofNat file.size > base.maxDiskByteSize then
    .error .diskExceedsMaxSize
  else
    .value (extendCursor base file)

theorem World.step_extend (names : world.Names base diskId inode)
    (positive : base.pageSize ≠ 0)
    (aligned :
      (world.fileSystem.file inode).size % base.pageSize.toNat = 0)
    (whole :
      UInt32.ofNat (world.fileSystem.file inode).size % base.pageSize =
        0) :
    world.step base (.extend diskId) =
      (.done (.cursor (extendAnswer base (world.fileSystem.file inode))),
        world) := by
  rcases names with ⟨fileName, loaded, found⟩
  exact World.step_of_done rfl
    (PosixDiskManager.run_extend loaded found positive aligned whole)

/-- An extend that returned was of a disk with whole pages. -/
theorem World.step_extend_eq (names : world.Names base diskId inode)
    (returned :
      world.step base (.extend diskId) = (.done response, after)) :
    base.pageSize ≠ 0 ∧
      response =
        .cursor (extendAnswer base (world.fileSystem.file inode)) ∧
      after = world := by
  have names' := names
  rcases names' with ⟨fileName, loaded, found⟩
  obtain ⟨result, finished, answered⟩ := World.run_of_step rfl returned
  obtain ⟨positive, aligned, whole⟩ :=
    PosixDiskManager.whole_of_extend loaded found finished
  rw [World.step_extend names positive aligned whole] at returned
  cases returned
  exact ⟨positive, rfl, rfl⟩

/-- A cursor was returned for a disk that exists and is within the limit. -/
theorem World.names_of_extend
    (returned :
      world.step base (.extend diskId) =
        (.done (.cursor (.value cursor)), after)) :
    ∃ inode, world.Names base diskId inode ∧
      UInt32.ofNat (world.fileSystem.file inode).size ≤
        base.maxDiskByteSize := by
  obtain ⟨result, finished, answered⟩ := World.run_of_step rfl returned
  cases answered
  obtain ⟨fileName, inode, loaded, found, _⟩ :=
    PosixDiskManager.extend_eq_value finished
  refine ⟨inode, ⟨fileName, loaded, found⟩, ?_⟩
  obtain ⟨_, answer, _⟩ :=
    World.step_extend_eq ⟨fileName, loaded, found⟩ returned
  by_contra past
  rw [extendAnswer, if_pos (UInt32.not_le.mp past)] at answer
  cases answer

end Extend

section Runs

variable {base : DiskManager} {passage : Passage}

/-- Every passage of a run is a step. -/
theorem World.step_of_mem {passages : List Passage} {last : World}
    (run : (World.passages base).Run passages last) :
    ∀ passage ∈ passages,
      passage.before.step base passage.operation =
        (.done passage.response, passage.after) := by
  refine Machine.Run.invariant
    (fun passages _ => ∀ passage ∈ passages,
      passage.before.step base passage.operation =
        (.done passage.response, passage.after)) ?_ ?_ run
  · intro _ _ passage member
    cases member
  · intro earlier before passage after _ stepped step
    rcases step with ⟨rfl, rfl, returned⟩
    rw [List.forall_mem_append, List.forall_mem_singleton]
    exact ⟨stepped, returned⟩

/-- An extend allocates a page only where it does not succeed. -/
theorem Passage.allocates_iff
    (returned :
      passage.before.step base passage.operation =
        (.done passage.response, passage.after)) :
    passage.Allocates base ↔ ¬ passage.ExtendsDisk base := by
  obtain ⟨before, operation, response, after⟩ := passage
  dsimp only at returned
  constructor
  · intro allocates succeeds
    rcases succeeds with ⟨diskId, inode, asked, names, within⟩
    dsimp only at asked names within
    subst asked
    obtain ⟨positive, rfl, rfl⟩ := World.step_extend_eq names returned
    have cursor :
        extendAnswer base (after.fileSystem.file inode) =
          .value (extendCursor base (after.fileSystem.file inode)) :=
      if_neg (UInt32.not_lt.mpr within)
    simp only [Passage.Allocates, cursor] at allocates
    obtain ⟨other, _, _, adds⟩ := allocates
    have grown := adds.grows
    apply positive
    apply UInt32.toNat_inj.mp
    change base.pageSize.toNat = 0
    omega
  · intro fails
    simp only [Passage.Allocates]
    split
    · rename_i diskId cursor
      obtain ⟨inode, names, within⟩ := World.names_of_extend returned
      exact absurd ⟨diskId, inode, rfl, names, within⟩ fails
    · exact True.intro

/-- The extends of a run allocate pages exactly when none of them succeeds. -/
theorem extends_allocate_iff {passages : List Passage} {last : World}
    (run : (World.passages base).Run passages last) :
    (∀ passage ∈ passages, passage.Allocates base) ↔
      ∀ passage ∈ passages, ¬ passage.ExtendsDisk base := by
  have stepped := World.step_of_mem run
  constructor
  · intro allocates passage member
    exact (Passage.allocates_iff (stepped passage member)).mp
      (allocates passage member)
  · intro fails passage member
    exact (Passage.allocates_iff (stepped passage member)).mpr
      (fails passage member)

/-- An extend of a disk of one page. -/
theorem extends_allocate_iff_small :
    ∃ passages last,
      (World.passages smallBase).Run passages last ∧
        passages.map Passage.event =
          [(.create "a", .diskId (.value 0)),
            (.write 0 0 [1, 2], .void .ok),
            (.extend 0, .cursor (.value 2))] ∧
        ((∀ passage ∈ passages, passage.Allocates smallBase) ↔
          ∀ passage ∈ passages, ¬ passage.ExtendsDisk smallBase) := by
  have run :=
    World.passages_of_replay smallBase id
      [.create "a", .write 0 0 [1, 2], .extend 0]
  exact ⟨_, _, run, rfl, extends_allocate_iff run⟩

/-- The first page of an empty disk is skipped, and extending again gives the
same page. -/
theorem extend_skips_page :
    ∃ passages last,
      (World.passages smallBase).Run passages last ∧
        passages.map Passage.event =
          [(.create "a", .diskId (.value 0)),
            (.extend 0, .cursor (.value 1)),
            (.extend 0, .cursor (.value 1))] ∧
        ¬ ∀ passage ∈ passages, passage.Allocates smallBase := by
  have run :=
    World.passages_of_replay smallBase id
      [.create "a", .extend 0, .extend 0]
  refine ⟨_, _, run, rfl, fun claimed => ?_⟩
  have second :=
    claimed ⟨World.smallDisk, .extend 0, .cursor (.value 1),
      (World.smallDisk.step smallBase (.extend 0)).2⟩
      (List.mem_cons_of_mem _ List.mem_cons_self)
  have asked :
      (Passage.mk World.smallDisk (.extend 0) (.cursor (.value 1))
        (World.smallDisk.step smallBase (.extend 0)).2).ExtendsDisk
          smallBase :=
    ⟨0, 0, rfl, ⟨"a.disk", by decide, by decide⟩, by decide⟩
  exact (Passage.allocates_iff rfl).mp second asked

end Runs

/-! ## The limit -/

/-- Extending and writing agree on whether the disk, which has this many pages,
may have one more. -/
structure CapacityAgrees (base : DiskManager) (world : World)
    (diskId : DiskId) (count : Nat) : Prop where
  fits :
    (∃ cursor after,
      world.step base (.extend diskId) =
        (.done (.cursor (.value cursor)), after)) ↔
      (count + 1) * base.pageSize.toNat ≤ base.maxDiskByteSize.toNat
  writable : ∀ cursor after,
    world.step base (.extend diskId) =
        (.done (.cursor (.value cursor)), after) →
      ∀ bytes : List UInt8, bytes.length = base.pageSize.toNat →
        ∃ last,
          after.step base (.write diskId cursor bytes) =
            (.done (.void .ok), last)
  full :
    base.maxDiskByteSize.toNat < (count + 1) * base.pageSize.toNat →
      world.step base (.extend diskId) =
          (.done (.cursor (.error .diskExceedsMaxSize)), world) ∧
        ∀ bytes : List UInt8, bytes.length = base.pageSize.toNat →
          world.step base
              (.write diskId (UInt32.ofNat count).toInt32 bytes) =
            (.done (.void (.error .diskExceedsMaxSize)), world)

section Capacity

variable {base : DiskManager} {world : World} {diskId : DiskId}
variable {inode count : Nat}

variable {file : File}

theorem foffset_extendCursor (positive : base.pageSize ≠ 0)
    (pages : file.size = count * base.pageSize.toNat)
    (sums : (count + 2) * base.pageSize.toNat < 2 ^ 32) :
    (foffset base.pageSize (extendCursor base file)).toNat =
      (count + 1) * base.pageSize.toNat := by
  have large := Nat.pos_of_ne_zero
    (fun zero => positive (UInt32.toNat_inj.mp zero))
  have product : (count + 2) * base.pageSize.toNat =
      count * base.pageSize.toNat + 2 * base.pageSize.toNat := by
    ring
  have below : (count + 1) * base.pageSize.toNat < 2 ^ 32 :=
    Nat.lt_of_le_of_lt
      (Nat.mul_le_mul_right _ (by omega)) sums
  have few : count + 2 < 2 ^ 32 :=
    Nat.lt_of_le_of_lt (Nat.le_mul_of_pos_right _ large) sums
  have size : (UInt32.ofNat file.size).toNat = count * base.pageSize.toNat := by
    rw [pages]
    exact UInt32.toNat_ofNat_of_lt' (by change _ < 2 ^ 32; omega)
  have number :
      (UInt32.ofNat file.size / base.pageSize + 1).toNat = count + 1 := by
    rw [UInt32.toNat_add, UInt32.toNat_div, size,
      Nat.mul_div_cancel _ large]
    exact Nat.mod_eq_of_lt (by change count + 1 < 2 ^ 32; omega)
  simp only [foffset, extendCursor]
  rw [UInt32.toUInt32_toInt32, UInt32.toNat_mul, number,
    Nat.mod_eq_of_lt below]

/-- The page that was handed out ends two pages behind the disk. -/
theorem newByteSize_extendCursor (positive : base.pageSize ≠ 0)
    (pages : file.size = count * base.pageSize.toNat)
    (sums : (count + 2) * base.pageSize.toNat < 2 ^ 32) :
    (newByteSize base.pageSize (extendCursor base file)).toNat =
      (count + 2) * base.pageSize.toNat := by
  have offset := foffset_extendCursor positive pages sums
  have split :
      (count + 1) * base.pageSize.toNat + base.pageSize.toNat =
        (count + 2) * base.pageSize.toNat := by
    ring
  rw [PosixDisk.newByteSize_of_noCarry (by omega), offset, split]

/-- A disk of whole pages within the limit is extended. -/
theorem World.step_extend_of_pages (positive : base.pageSize ≠ 0)
    (names : world.Names base diskId inode)
    (pages : (world.fileSystem.file inode).size =
      count * base.pageSize.toNat)
    (within : count * base.pageSize.toNat ≤ base.maxDiskByteSize.toNat) :
    world.step base (.extend diskId) =
      (.done (.cursor (.value
        (extendCursor base (world.fileSystem.file inode)))), world) := by
  have limit := base.maxDiskByteSize.toNat_lt
  have aligned :
      (world.fileSystem.file inode).size % base.pageSize.toNat = 0 := by
    rw [pages]
    exact Nat.mul_mod_left _ _
  have size :
      (UInt32.ofNat (world.fileSystem.file inode).size).toNat =
        (world.fileSystem.file inode).size :=
    UInt32.toNat_ofNat_of_lt' (by change _ < 2 ^ 32; omega)
  have whole :
      UInt32.ofNat (world.fileSystem.file inode).size % base.pageSize =
        0 := by
    apply UInt32.toNat_inj.mp
    rw [UInt32.toNat_mod, size]
    exact aligned
  have notPast :
      ¬ UInt32.ofNat (world.fileSystem.file inode).size >
        base.maxDiskByteSize := by
    intro past
    have above := UInt32.lt_iff_toNat_lt.mp past
    omega
  rw [World.step_extend names positive aligned whole, extendAnswer,
    if_neg notPast]

/-- Extending and writing agree exactly where two more pages end below the
limit. -/
theorem capacity_agrees_iff (positive : base.pageSize ≠ 0)
    (names : world.Names base diskId inode)
    (pages : (world.fileSystem.file inode).size =
      count * base.pageSize.toNat)
    (within : count * base.pageSize.toNat ≤ base.maxDiskByteSize.toNat)
    (sums : (count + 2) * base.pageSize.toNat < 2 ^ 32) :
    CapacityAgrees base world diskId count ↔
      (count + 2) * base.pageSize.toNat < base.maxDiskByteSize.toNat := by
  have answered := World.step_extend_of_pages positive names pages within
  have offset := foffset_extendCursor positive pages sums
  have ends := newByteSize_extendCursor positive pages sums
  have limit := base.maxDiskByteSize.toNat_lt
  have fewer :
      (count + 1) * base.pageSize.toNat ≤
        (count + 2) * base.pageSize.toNat :=
    Nat.mul_le_mul_right _ (by omega)
  constructor
  · intro agrees
    have bytes : (PagedStore.blankPage base.pageSize).length =
        base.pageSize.toNat :=
      List.length_replicate
    obtain ⟨last, written⟩ := agrees.writable _ _ answered _ bytes
    rcases write_returned positive (pages ▸ within) ⟨names, bytes⟩
        written with
      ⟨_, passes, _⟩ | ⟨failed, _⟩
    · have below := UInt32.lt_iff_toNat_lt.mp passes
      omega
    · cases failed
  · intro room
    refine ⟨iff_of_true ⟨_, _, answered⟩ (by omega), ?_, ?_⟩
    · intro cursor after extended bytes full
      cases answered.symm.trans extended
      have passes :
          newByteSize base.pageSize
              (extendCursor base (world.fileSystem.file inode)) <
            base.maxDiskByteSize := by
        rw [UInt32.lt_iff_toNat_lt]
        omega
      have seekable :
          Seekable base.pageSize
            (extendCursor base (world.fileSystem.file inode)) := by
        simp only [Seekable]
        omega
      have aligned :
          (world.fileSystem.file inode).size % base.pageSize.toNat = 0 := by
        rw [pages]
        exact Nat.mul_mod_left _ _
      obtain ⟨fileName, loaded, found⟩ := names
      have written :=
        PosixDiskManager.run_write_passing loaded found positive aligned
          (by omega) passes seekable full
      exact ⟨_, World.step_of_done rfl written⟩
    · intro past
      omega

/-- A disk of one page, which may have three. -/
theorem capacity_agrees_iff_small :
    CapacityAgrees smallBase
        (World.smallDisk.step smallBase (.write 0 0 [1, 2])).2 0 1 ↔
      (1 + 2) * smallBase.pageSize.toNat <
        smallBase.maxDiskByteSize.toNat :=
  @capacity_agrees_iff smallBase _ 0 0 1 (by decide)
    ⟨"a.disk", by decide, by decide⟩ (by decide) (by decide) (by decide)

/-- A disk of two pages is extended by a page that is then refused, although a
third page ends below the limit. -/
theorem extended_page_refused :
    ∃ world : World, world.Names smallBase 0 0 ∧
      (world.fileSystem.file 0).size = 2 * smallBase.pageSize.toNat ∧
      ¬ CapacityAgrees smallBase world 0 2 := by
  refine ⟨(World.smallDisk.step smallBase (.write 0 1 [1, 2])).2,
    ⟨"a.disk", by decide, by decide⟩, by decide, ?_⟩
  intro claimed
  have extended :
      (World.smallDisk.step smallBase (.write 0 1 [1, 2])).2.step
          smallBase (.extend 0) =
        (.done (.cursor (.value 3)),
          ((World.smallDisk.step smallBase (.write 0 1 [1, 2])).2.step
            smallBase (.extend 0)).2) := by
    refine Prod.ext ?_ rfl
    decide
  obtain ⟨last, written⟩ := claimed.writable _ _ extended [1, 2] rfl
  have refused :
      ((((World.smallDisk.step smallBase (.write 0 1 [1, 2])).2.step
          smallBase (.extend 0)).2).step smallBase
            (.write 0 3 [1, 2])).1 =
        .done (.void (.error .diskExceedsMaxSize)) := by
    decide
  rw [written] at refused
  cases refused

end Capacity

end Lewsql
