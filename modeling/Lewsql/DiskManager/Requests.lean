import Lewsql.DiskManager.Rules
import Lewsql.Posix.PowerLoss

/-!
# Operations that transfer no page

Only a write or a read of the manager may change bytes of a file: all other
operations check, open, close and unlink files and look at their sizes.
-/

namespace Lewsql

open Interaction Posix FileSystem

namespace PosixDiskManager

section Requests

variable {base : DiskManager} {self : PosixDiskManager}
variable {path : String} {diskId : DiskId} {diskName : DiskName}

private theorem afterChecks_leavesBytes (shouldExist : Bool)
    (pageSize maxDiskSize : UInt32) (first second : DiskResult Bool) :
    (PosixDisk.afterChecks path shouldExist pageSize maxDiskSize first
      second).makesOnly LeavesBytes := by
  cases first with
  | error failure => cases second <;> exact True.intro
  | value found =>
      cases second with
      | error failure => exact True.intro
      | value exist =>
          simp only [PosixDisk.afterChecks]
          split_ifs
          · exact ⟨True.intro, fun _ => True.intro⟩
          · exact True.intro

private theorem init_leavesBytes (shouldExist : Bool) :
    (PosixDisk.init path shouldExist base.pageSize
      base.maxDiskByteSize).makesOnly LeavesBytes := by
  rw [PosixDisk.init_calls]
  exact ⟨True.intro, fun first => ⟨True.intro, fun second =>
    afterChecks_leavesBytes shouldExist _ _ _ _⟩⟩

private theorem destructor_leavesBytes (disk : PosixDisk) :
    disk.destructor.makesOnly LeavesBytes := by
  by_cases owns : disk.shouldClose = true
  · rw [PosixDisk.destructor_of_owns owns]
    exact ⟨True.intro, fun _ => True.intro⟩
  · simp only [PosixDisk.destructor]
    rw [if_neg owns]
    exact True.intro

private theorem load_leavesBytes :
    ((load base diskName).run self).makesOnly LeavesBytes := by
  rw [load_run]
  apply Program.makesOnly_bind (init_leavesBytes true)
  intro opened
  cases opened with
  | error failure => exact True.intro
  | value disk =>
      dsimp only
      split_ifs
      · exact True.intro
      · exact Program.makesOnly_bind (destructor_leavesBytes disk)
          fun _ => True.intro

private theorem create_leavesBytes :
    ((create base diskName).run self).makesOnly LeavesBytes := by
  rw [create_run]
  apply makesOnly_propagate (init_leavesBytes false)
  · exact fun _ => True.intro
  · intro disk
    exact Program.makesOnly_bind (destructor_leavesBytes disk)
      fun _ => load_leavesBytes

private theorem destroy_leavesBytes :
    ((destroy base diskId).run self).makesOnly LeavesBytes := by
  rw [destroy_run]
  cases self.disks.lookup diskId with
  | none => exact True.intro
  | some fileName =>
      apply Program.makesOnly_bind (init_leavesBytes true)
      intro opened
      cases opened with
      | error failure => exact True.intro
      | value disk =>
          refine Program.makesOnly_bind ?_ fun _ => True.intro
          refine ⟨True.intro, fun reply => ?_⟩
          cases reply with
          | ok answer => exact True.intro
          | error number =>
              refine ⟨True.intro, fun again => ?_⟩
              cases again with
              | ok answer => exact True.intro
              | error numberAgain =>
                  exact Program.makesOnly_bind
                    (destructor_leavesBytes disk) fun _ => True.intro

private theorem sizeRead_leavesBytes :
    (withDisk base path Result.error
      fun posixDisk => posixDisk.getDiskByteSize).makesOnly
        LeavesBytes := by
  apply Program.makesOnly_bind (init_leavesBytes true)
  intro opened
  cases opened with
  | error failure => exact True.intro
  | value disk =>
      apply Program.makesOnly_bind
      · dsimp only
        rw [PosixDisk.getDiskByteSize, posix, Program.perform_bind]
        refine ⟨True.intro, fun reply => ?_⟩
        cases reply with
        | error number => exact True.intro
        | ok size =>
            dsimp only
            split_ifs <;> exact True.intro
      · intro result
        exact Program.makesOnly_bind (destructor_leavesBytes disk)
          fun _ => True.intro

private theorem map_leavesBytes {Value : Type} {wrap : Value → Response}
    {member : Member Value}
    (only : (member.run self).makesOnly LeavesBytes) :
    ((wrap <$> member).run self).makesOnly LeavesBytes := by
  rw [StateT.run_map, map_eq_pure_bind]
  exact Program.makesOnly_bind only fun _ => True.intro

end Requests

end PosixDiskManager

def Operation.transfers : Operation → Bool
  | .write _ _ _ => true
  | .read _ _ _ => true
  | _ => false

/-- Only a write or a read changes bytes of a file. -/
theorem perform_leavesBytes {base : DiskManager} {self : PosixDiskManager}
    {operation : Operation} (other : operation.transfers = false) :
    ((PosixDiskManager.perform base operation).run self).makesOnly
      LeavesBytes := by
  cases operation with
  | write diskId cursor bytes => cases other
  | read diskId cursor buffer => cases other
  | create diskName =>
      exact PosixDiskManager.map_leavesBytes
        PosixDiskManager.create_leavesBytes
  | load diskName =>
      exact PosixDiskManager.map_leavesBytes
        PosixDiskManager.load_leavesBytes
  | destroy diskId =>
      exact PosixDiskManager.map_leavesBytes
        PosixDiskManager.destroy_leavesBytes
  | «exists» diskName =>
      apply PosixDiskManager.map_leavesBytes
      change
        (PosixDisk.exists (base.diskPath diskName) >>= fun result =>
          Program.done (result, self)).makesOnly LeavesBytes
      rw [PosixDisk.exists_eq]
      exact ⟨True.intro, fun _ => True.intro⟩
  | diskByteSize diskId =>
      apply PosixDiskManager.map_leavesBytes
      rw [PosixDiskManager.diskByteSize_run]
      cases self.disks.lookup diskId with
      | none => exact True.intro
      | some fileName =>
          exact Program.makesOnly_bind
            PosixDiskManager.sizeRead_leavesBytes fun _ => True.intro
  | extend diskId =>
      apply PosixDiskManager.map_leavesBytes
      rw [PosixDiskManager.extend_run]
      cases self.disks.lookup diskId with
      | none => exact True.intro
      | some fileName =>
          apply makesOnly_unwrap PosixDiskManager.sizeRead_leavesBytes
          · exact fun _ => True.intro
          · intro byteSize
            split_ifs <;> exact True.intro
  | unload diskId =>
      apply PosixDiskManager.map_leavesBytes
      rw [PosixDiskManager.unload_run]
      split_ifs <;> exact True.intro
  | loadedDiskName diskId =>
      apply PosixDiskManager.map_leavesBytes
      rw [PosixDiskManager.loadedDiskName_run]
      cases self.disks.lookup diskId <;> exact True.intro
  | isLoaded diskId => exact True.intro
  | numLoadedDisks => exact True.intro

end Lewsql
