import Lewsql.DiskManager.Changes

/-!
# The file behind a loaded id

An id keeps standing for the file it was handed out for until that file is
destroyed through another id.  Histories carry the worlds around every
operation here, so that the file an id was handed out for can be named by its
inode.
-/

namespace Lewsql

open Interaction Posix FileSystem World

namespace Passage

variable {base : DiskManager}

/-- A successful destroy, through any id, of the file a path names. -/
def Destroys (base : DiskManager) (path : String) (passage : Passage) :
    Prop :=
  ∃ diskId fileName,
    passage.operation = .destroy diskId ∧
      passage.response = .void .ok ∧
      passage.before.manager.disks.lookup diskId = some fileName ∧
      passage.before.fileSystem.resolve (base.getDiskPath fileName) =
        passage.before.fileSystem.resolve path

def Lawful (base : DiskManager) (passage : Passage) : Prop :=
  Change base passage.before passage.operation passage.response
    passage.after

variable {passage : Passage} {path : String} {inode : Nat}

theorem nextInode_le (lawful : passage.Lawful base) :
    passage.before.fileSystem.nextInode ≤
      passage.after.fileSystem.nextInode := by
  obtain ⟨before, operation, response, after⟩ := passage
  cases lawful with
  | untouched same => exact le_of_eq same.2.nextInode.symm
  | load => exact le_refl _
  | create => exact Nat.le_succ _
  | unload => exact le_refl _
  | destroy => exact le_refl _

/-- A file that is not destroyed keeps its name. -/
theorem lookup_kept (lawful : passage.Lawful base)
    (spared : ¬ passage.Destroys base path)
    (found : passage.before.fileSystem.lookup path = some inode) :
    passage.after.fileSystem.lookup path = some inode := by
  obtain ⟨before, operation, response, after⟩ := passage
  cases lawful with
  | untouched same =>
      rw [same.2.lookup]
      exact found
  | load => exact found
  | @create self fs diskName room absent =>
      have different :
          fs.resolve path ≠ fs.resolve (base.diskPath diskName) := by
        intro same
        have sameEntry :
            fs.lookup path = fs.lookup (base.diskPath diskName) :=
          congrArg fs.entry same
        rw [sameEntry, absent] at found
        cases found
      exact (lookup_link_of_ne fs _ _ different).trans found
  | unload => exact found
  | @destroy self fs diskId fileName removed loaded present =>
      have different :
          fs.resolve path ≠ fs.resolve (base.getDiskPath fileName) :=
        fun same =>
          spared ⟨diskId, fileName, rfl, rfl, loaded, same.symm⟩
      exact (lookup_unlink_of_ne fs _ _ different).trans found

/-- A file without a name never gets one again. -/
theorem nameless_kept (lawful : passage.Lawful base)
    (old : inode < passage.before.fileSystem.nextInode)
    (nameless : ∀ other,
      passage.before.fileSystem.lookup other ≠ some inode)
    (other : String) :
    passage.after.fileSystem.lookup other ≠ some inode := by
  obtain ⟨before, operation, response, after⟩ := passage
  cases lawful with
  | untouched same =>
      rw [same.2.lookup]
      exact nameless other
  | load => exact nameless other
  | @create self fs diskName room absent =>
      change (fs.link _).lookup other ≠ some inode
      by_cases same :
          fs.resolve other = fs.resolve (base.diskPath diskName)
      · rw [lookup_link_of_eq fs _ _ same]
        intro equal
        cases equal
        exact Nat.lt_irrefl _ old
      · rw [lookup_link_of_ne fs _ _ same]
        exact nameless other
  | unload => exact nameless other
  | @destroy self fs diskId fileName removed loaded present =>
      change (fs.unlink _).lookup other ≠ some inode
      by_cases same :
          fs.resolve other = fs.resolve (base.getDiskPath fileName)
      · rw [lookup_unlink_of_eq fs _ _ same]
        exact Option.some_ne_none inode ∘ Eq.symm
      · rw [lookup_unlink_of_ne fs _ _ same]
        exact nameless other

/-- A destroyed file loses its only name. -/
theorem nameless_of_destroys (lawful : passage.Lawful base)
    (destroys : passage.Destroys base path)
    (found : passage.before.fileSystem.lookup path = some inode)
    (other : String) :
    passage.after.fileSystem.lookup other ≠ some inode := by
  obtain ⟨before, operation, response, after⟩ := passage
  obtain ⟨diskId, fileName, called, succeeded, loaded, same⟩ := destroys
  dsimp only at called succeeded loaded same found
  subst called succeeded
  cases lawful with
  | untouched _ _ failed => cases failed rfl
  | @destroy self fs _ otherName removed loaded' present =>
      rw [loaded'] at loaded
      cases loaded
      change (fs.unlink _).lookup other ≠ some inode
      by_cases sameOther :
          fs.resolve other = fs.resolve (base.getDiskPath fileName)
      · rw [lookup_unlink_of_eq fs _ _ sameOther]
        exact Option.some_ne_none inode ∘ Eq.symm
      · rw [lookup_unlink_of_ne fs _ _ sameOther]
        intro foundOther
        exact sameOther
          ((fs.entry_injective _ _ _ foundOther found).trans same.symm)

end Passage

/-! ## From the hand-out to now -/

/-- What became of the file with this inode at this path, after the passages
since it was known there. -/
structure Stands (base : DiskManager) (path : String) (inode : Nat)
    (since : List Passage) (fs : FileSystem) : Prop where
  old : inode < fs.nextInode
  alive : (∀ passage ∈ since, ¬ passage.Destroys base path) →
    fs.lookup path = some inode
  nameless : (∃ passage ∈ since, passage.Destroys base path) →
    ∀ other, fs.lookup other ≠ some inode

namespace Stands

variable {base : DiskManager} {path : String} {inode : Nat}
variable {since : List Passage} {fs : FileSystem}

theorem start (found : fs.lookup path = some inode) :
    Stands base path inode [] fs where
  old := fs.entry_lt _ _ found
  alive := fun _ => found
  nameless := by simp

theorem step {passage : Passage}
    (stands : Stands base path inode since passage.before.fileSystem)
    (lawful : passage.Lawful base) :
    Stands base path inode (since ++ [passage])
      passage.after.fileSystem where
  old := Nat.lt_of_lt_of_le stands.old (Passage.nextInode_le lawful)
  alive := by
    intro spared
    have found := stands.alive fun earlier member =>
      spared earlier (List.mem_append_left _ member)
    exact Passage.lookup_kept lawful (spared passage (by simp)) found
  nameless := by
    intro destroyed
    rcases destroyed with ⟨destroyer, member, destroys⟩
    by_cases already : ∃ earlier ∈ since, earlier.Destroys base path
    · exact Passage.nameless_kept lawful stands.old
        (stands.nameless already)
    · have spared : ∀ earlier ∈ since, ¬ earlier.Destroys base path :=
        fun earlier inSince itDestroys =>
          already ⟨earlier, inSince, itDestroys⟩
      rcases List.mem_append.mp member with inSince | last
      · exact absurd destroys (spared destroyer inSince)
      · rw [List.mem_singleton] at last
        subst last
        exact Passage.nameless_of_destroys lawful destroys
          (stands.alive spared)

/-- The file is still at its path exactly when no passage destroyed it. -/
theorem lookup_iff (stands : Stands base path inode since fs) :
    fs.lookup path = some inode ↔
      ∀ passage ∈ since, ¬ passage.Destroys base path := by
  constructor
  · intro found passage member destroys
    exact stands.nameless ⟨passage, member, destroys⟩ path found
  · exact stands.alive

end Stands

/-- A loaded id goes back to the one passage that handed it out, and its file
stands or fell since. -/
def HandedOutFor (base : DiskManager) (passages : List Passage)
    (fs : FileSystem) (diskId : DiskId) (fileName : String) : Prop :=
  ∃ earlier handing later inode,
    passages = earlier ++ handing :: later ∧
      handing.response = .diskId (.value diskId) ∧
      (∀ other ∈ earlier ++ later,
        other.response ≠ .diskId (.value diskId)) ∧
      handing.after.manager.disks.lookup diskId = some fileName ∧
      handing.after.fileSystem.lookup (base.getDiskPath fileName) =
        some inode ∧
      Stands base (base.getDiskPath fileName) inode later fs

structure IdsStand (base : DiskManager) (passages : List Passage)
    (world : World) : Prop where
  handed_lt : ∀ passage ∈ passages, ∀ diskId,
    passage.response = .diskId (.value diskId) →
      diskId < world.manager.curDiskId
  loaded : ∀ diskId fileName,
    world.manager.disks.lookup diskId = some fileName →
      HandedOutFor base passages world.fileSystem diskId fileName

section Step

variable {base : DiskManager} {passages : List Passage}
variable {passage : Passage} {diskId : DiskId} {fileName : String}

private theorem HandedOutFor.step
    (handed : HandedOutFor base passages passage.before.fileSystem diskId
      fileName)
    (lawful : passage.Lawful base)
    (different : passage.response ≠ .diskId (.value diskId)) :
    HandedOutFor base (passages ++ [passage]) passage.after.fileSystem
      diskId fileName := by
  obtain ⟨earlier, handing, later, inode, split, response, unique, named,
    found, stands⟩ := handed
  refine ⟨earlier, handing, later ++ [passage], inode, ?_, response, ?_,
    named, found, stands.step lawful⟩
  · rw [split, List.append_assoc, List.cons_append]
  · intro other member
    rw [← List.append_assoc] at member
    rcases List.mem_append.mp member with old | last
    · exact unique other old
    · rw [List.mem_singleton] at last
      subst last
      exact different

/-- The passage that hands an id out is the first of its history. -/
private theorem HandedOutFor.start {inode : Nat}
    (response : passage.response = .diskId (.value diskId))
    (unique : ∀ other ∈ passages,
      other.response ≠ .diskId (.value diskId))
    (named : passage.after.manager.disks.lookup diskId = some fileName)
    (found : passage.after.fileSystem.lookup (base.getDiskPath fileName) =
      some inode) :
    HandedOutFor base (passages ++ [passage]) passage.after.fileSystem
      diskId fileName :=
  ⟨passages, passage, [], inode, rfl, response, by simpa using unique,
    named, found, .start found⟩

/-- Passages that hand nothing out can only forget ids. -/
private theorem IdsStand.step_quiet
    (ids : IdsStand base passages passage.before)
    (lawful : passage.Lawful base)
    (quiet : passage.response.handsOut = false)
    (sameCounter :
      passage.after.manager.curDiskId = passage.before.manager.curDiskId)
    (fewer : ∀ diskId fileName,
      passage.after.manager.disks.lookup diskId = some fileName →
        passage.before.manager.disks.lookup diskId = some fileName) :
    IdsStand base (passages ++ [passage]) passage.after := by
  have different : ∀ diskId,
      passage.response ≠ .diskId (.value diskId) := by
    intro diskId same
    rw [same] at quiet
    cases quiet
  constructor
  · intro other member diskId response
    rw [sameCounter]
    rcases List.mem_append.mp member with old | last
    · exact ids.handed_lt other old diskId response
    · rw [List.mem_singleton] at last
      subst last
      exact absurd response (different diskId)
  · intro diskId fileName loaded
    exact (ids.loaded diskId fileName (fewer _ _ loaded)).step lawful
      (different diskId)

/-- A passage that hands out the counter for a file that is there. -/
private theorem IdsStand.step_handing {inode : Nat}
    (ids : IdsStand base passages passage.before)
    (lawful : passage.Lawful base)
    (room : passage.before.manager.curDiskId ≠ Int32.maxValue)
    (response :
      passage.response =
        .diskId (.value passage.before.manager.curDiskId))
    (manager :
      passage.after.manager =
        passage.before.manager.insert fileName room)
    (found : passage.after.fileSystem.lookup (base.getDiskPath fileName) =
      some inode) :
    IdsStand base (passages ++ [passage]) passage.after := by
  have grown := PosixDiskManager.lt_succ_of_ne_maxValue room
  have counter :
      passage.after.manager.curDiskId =
        passage.before.manager.curDiskId + 1 := by
    rw [manager]
    rfl
  constructor
  · intro other member otherId handed
    rw [counter]
    rcases List.mem_append.mp member with old | last
    · exact Int32.lt_trans (ids.handed_lt other old otherId handed) grown
    · rw [List.mem_singleton] at last
      subst last
      rw [response] at handed
      cases handed
      exact grown
  · intro otherId otherName loaded
    by_cases same : otherId = passage.before.manager.curDiskId
    · subst same
      have named :
          passage.after.manager.disks.lookup
              passage.before.manager.curDiskId = some fileName := by
        rw [manager]
        exact AList.lookup_insert _
      rw [named] at loaded
      cases loaded
      refine .start response ?_ named found
      intro other member handed
      exact Int32.lt_irrefl
        (ids.handed_lt other member _ handed)
    · have older :
          passage.before.manager.disks.lookup otherId =
            some otherName := by
        rw [manager] at loaded
        exact (AList.lookup_insert_ne same).symm.trans loaded
      refine (ids.loaded otherId otherName older).step lawful ?_
      rw [response]
      intro equal
      cases equal
      exact same rfl

private theorem lookup_of_lookup_erase {disks : AList fun _ : DiskId => DiskName}
    {gone : DiskId}
    (found : (disks.erase gone).lookup diskId = some fileName) :
    disks.lookup diskId = some fileName := by
  by_cases same : diskId = gone
  · subst same
    rw [AList.lookup_erase] at found
    cases found
  · rw [AList.lookup_erase_ne same] at found
    exact found

/-- Every passage keeps track of the files behind the ids. -/
theorem IdsStand.step (ids : IdsStand base passages passage.before)
    (lawful : passage.Lawful base) :
    IdsStand base (passages ++ [passage]) passage.after := by
  have change := lawful
  obtain ⟨before, operation, response, after⟩ := passage
  cases change with
  | untouched same quiet _ =>
      apply ids.step_quiet lawful quiet
      · exact congrArg PosixDiskManager.curDiskId same.1
      · intro diskId fileName loaded
        rw [← same.1]
        exact loaded
  | load room found =>
      exact ids.step_handing lawful room rfl rfl found
  | create room absent =>
      exact ids.step_handing lawful room rfl rfl
        (lookup_link_self _ _)
  | unload member =>
      exact ids.step_quiet lawful rfl rfl
        fun _ _ => lookup_of_lookup_erase
  | destroy loaded found =>
      exact ids.step_quiet lawful rfl rfl
        fun _ _ => lookup_of_lookup_erase

end Step

/-- In every history, every loaded id was handed out once, for a file that
existed under its name, and its name still stands for that file exactly when no
operation since destroyed it. -/
theorem loaded_disk_exists_iff {base : DiskManager}
    {passages : List Passage} {world : World}
    (history : (World.passages base).Run passages world)
    {diskId : DiskId} {fileName : String}
    (loaded : world.manager.disks.lookup diskId = some fileName) :
    ∃ earlier handing later inode,
      passages = earlier ++ handing :: later ∧
        handing.response = .diskId (.value diskId) ∧
        (∀ other ∈ earlier ++ later,
          other.response ≠ .diskId (.value diskId)) ∧
        handing.after.manager.disks.lookup diskId = some fileName ∧
        handing.after.fileSystem.lookup (base.getDiskPath fileName) =
          some inode ∧
        (world.fileSystem.lookup (base.getDiskPath fileName) =
            some inode ↔
          ∀ passage ∈ later,
            ¬ passage.Destroys base (base.getDiskPath fileName)) := by
  have ids : IdsStand base passages world := by
    refine Machine.Run.invariant (IdsStand base) ?_ ?_ history
    · intro start fresh
      have new : start.manager = PosixDiskManager.new := fresh
      constructor
      · intro passage member
        cases member
      · intro otherId otherName found
        rw [new] at found
        cases found
    · intro earlier before passage after _ ids step
      rcases step with ⟨rfl, rfl, stepped⟩
      exact ids.step (change_of_step stepped)
  obtain ⟨earlier, handing, later, inode, split, response, unique, named,
    found, stands⟩ := ids.loaded diskId fileName loaded
  exact ⟨earlier, handing, later, inode, split, response, unique, named,
    found, stands.lookup_iff⟩

/-- The file of a disk created, destroyed and created again is another one. -/
theorem loaded_disk_exists_iff_small :
    ∃ passages world earlier handing later inode,
      (World.passages smallBase).Run passages world ∧
        passages = earlier ++ handing :: later ∧
        handing.response = .diskId (.value 1) ∧
        (world.fileSystem.lookup (smallBase.diskPath "a") = some inode ↔
          ∀ passage ∈ later,
            ¬ passage.Destroys smallBase (smallBase.diskPath "a")) := by
  have history :=
    World.passages_of_replay smallBase id
      [.create "a", .load "a", .destroy 0, .create "a"]
  have loaded :
      (World.replay smallBase
          [.create "a", .load "a", .destroy 0, .create "a"]
          (World.fresh id)).2.manager.disks.lookup 1 = some "a.disk" := by
    decide
  obtain ⟨earlier, handing, later, inode, split, response, _, _, _,
    stands⟩ := loaded_disk_exists_iff history loaded
  exact ⟨_, _, earlier, handing, later, inode, history, split, response,
    stands⟩

/-- Two ids of one disk: after a destroy through the first, the second is
loaded and its file is gone. -/
theorem loaded_disk_without_file :
    ∃ passages world,
      (World.passages smallBase).Run passages world ∧
        world.manager.disks.lookup 1 = some "a.disk" ∧
        world.fileSystem.lookup (smallBase.getDiskPath "a.disk") = none :=
  ⟨_, _,
    World.passages_of_replay smallBase id
      [.create "a", .load "a", .destroy 0],
    by decide, by decide⟩

end Lewsql
