import Lewsql.DiskManager.Footprint
import Lewsql.DiskManager.ManagerRuns
import Lewsql.DiskManager.World

/-!
# What one operation can change

An operation that returns either leaves the table of loaded disks and the
directory alone, or it is a successful load, create, unload or destroy with
exactly the change its name says.  Nothing is assumed of names, cursors, buffers
or file sizes.
-/

namespace Lewsql

open Interaction Posix FileSystem

namespace PosixDiskManager

variable {base : DiskManager} {fs : FileSystem} {path : String}
variable {Value : Type} {failed : DiskManagerErrorCode → Value}
variable {body : PosixDisk → Effect Value}

theorem withDisk_sameDirectory {outcome : Outcome Crash Value}
    {after : FileSystem}
    (transfers : ∀ posixDisk,
      (body posixDisk).makesOnly posixDisk.Transfers)
    (used :
      (withDisk base path failed body).run serve fs = (outcome, after)) :
    SameDirectory fs after := by
  have same : after =
      ((withDisk base path failed body).run serve fs).2 := by
    rw [used]
  rw [same]
  cases found : fs.lookup path with
  | none =>
      rw [run_withDisk_missing found]
      exact .refl fs
  | some inode =>
      rw [withDisk, Program.run_bind_of_done serve
        (PosixDisk.run_init_existing fs path _ _ found)]
      have opened :
          SameDirectory fs
            (fs.setDescriptor fs.freeDescriptor ⟨inode, 0⟩) :=
        ⟨rfl, rfl, rfl⟩
      refine opened.trans ?_
      apply Program.run_keeps SameDirectory.refl
        (fun _ _ _ left right => left.trans right) serve_keepsNames
      apply Program.makesOnly_bind
      · exact Program.makesOnly_mono
          (fun _ => PosixDisk.keepsNames_of_transfers) (transfers _)
      · intro value
        rw [PosixDisk.destructor_of_owns rfl]
        exact ⟨True.intro, fun _ => True.intro⟩

/-- A member function that looks up a loaded disk and only uses it keeps the
manager and the directory. -/
theorem run_onLoaded_keeps {self manager : PosixDiskManager}
    {diskId : DiskId} {missing value : Value} {after : FileSystem}
    (transfers : ∀ posixDisk,
      (body posixDisk).makesOnly posixDisk.Transfers)
    (finished :
      (match self.disks.lookup diskId with
        | none => Program.done (missing, self)
        | some fileName =>
            withDisk base (base.getDiskPath fileName) failed body >>=
              fun result => Program.done (result, self)).run serve fs =
        (.done (value, manager), after)) :
    manager = self ∧ SameDirectory fs after := by
  cases loaded : self.disks.lookup diskId with
  | none =>
      rw [loaded] at finished
      cases finished
      exact ⟨rfl, .refl fs⟩
  | some fileName =>
      rw [loaded] at finished
      obtain ⟨result, middle, used, returned⟩ :=
        Program.run_bind_eq_done serve finished
      cases returned
      exact ⟨rfl, withDisk_sameDirectory transfers used⟩

private theorem run_diskByteSize_keeps {self manager : PosixDiskManager}
    {diskId : DiskId} {value : DiskResult UInt32} {after : FileSystem}
    (finished :
      ((diskByteSize base diskId).run self).run serve fs =
        (.done (value, manager), after)) :
    manager = self ∧ SameDirectory fs after := by
  rw [diskByteSize_run] at finished
  exact run_onLoaded_keeps
    (fun posixDisk => posixDisk.getDiskByteSize_transfers) finished

end PosixDiskManager

namespace World

variable {base : DiskManager} {before after : World}
variable {diskId : DiskId} {diskName : DiskName}
variable {response : Response}

def Untouched (before after : World) : Prop :=
  after.manager = before.manager ∧
    SameDirectory before.fileSystem after.fileSystem

private theorem untouched_write {cursor : DiskPageCursor}
    {bytes : List UInt8}
    (returned :
      before.step base (.write diskId cursor bytes) =
        (.done response, after)) :
    Untouched before after := by
  obtain ⟨value, finished, _⟩ := run_of_step rfl returned
  rw [PosixDiskManager.write_run] at finished
  apply PosixDiskManager.run_onLoaded_keeps ?_ finished
  intro posixDisk
  rw [propIfError_eq]
  exact makesOnly_propagate (posixDisk.write_transfers cursor bytes)
    (fun _ => True.intro) (fun _ => True.intro)

private theorem untouched_read {cursor : DiskPageCursor}
    {buffer : List UInt8}
    (returned :
      before.step base (.read diskId cursor buffer) =
        (.done response, after)) :
    Untouched before after := by
  obtain ⟨value, finished, _⟩ := run_of_step rfl returned
  rw [PosixDiskManager.read_run] at finished
  apply PosixDiskManager.run_onLoaded_keeps ?_ finished
  intro posixDisk
  exact posixDisk.propagated_read_transfers cursor buffer

private theorem untouched_diskByteSize
    (returned :
      before.step base (.diskByteSize diskId) =
        (.done response, after)) :
    Untouched before after := by
  obtain ⟨value, finished, _⟩ := run_of_step rfl returned
  exact PosixDiskManager.run_diskByteSize_keeps finished

theorem untouched_extend
    (returned :
      before.step base (.extend diskId) = (.done response, after)) :
    Untouched before after := by
  obtain ⟨value, finished, _⟩ := run_of_step rfl returned
  obtain ⟨self, fs⟩ := before
  obtain ⟨manager, last⟩ := after
  rw [PosixDiskManager.extend_run] at finished
  cases loaded : self.disks.lookup diskId with
  | none =>
      simp only [loaded] at finished
      cases finished
      exact ⟨rfl, .refl fs⟩
  | some fileName =>
      simp only [loaded] at finished
      obtain ⟨first, again, middle, ending, sized, sizedAgain, rest⟩ :=
        run_unwrap_eq_done serve finished
      have kept : SameDirectory fs ending :=
        (PosixDiskManager.withDisk_sameDirectory
          (fun posixDisk => posixDisk.getDiskByteSize_transfers)
          sized).trans
          (PosixDiskManager.withDisk_sameDirectory
            (fun posixDisk => posixDisk.getDiskByteSize_transfers)
            sizedAgain)
      have ended : manager = self ∧ last = ending := by
        cases again with
        | error failure =>
            cases rest
            exact ⟨rfl, rfl⟩
        | value byteSize =>
            dsimp only at rest
            split_ifs at rest <;> cases rest <;> exact ⟨rfl, rfl⟩
      obtain ⟨rfl, rfl⟩ := ended
      exact ⟨rfl, kept⟩

theorem Untouched.refl (world : World) : Untouched world world :=
  ⟨rfl, .refl _⟩

/-- All that an operation which returned can have done. -/
inductive Change (base : DiskManager) :
    World → Operation → Response → World → Prop
  | untouched {before after : World} {operation : Operation}
      {response : Response} :
      Untouched before after →
      response.handsOut = false →
      (operation.givesUp = true → response.failed = true) →
      Change base before operation response after
  | load {self : PosixDiskManager} {fs : FileSystem}
      {diskName : DiskName} {inode : Nat}
      (room : self.curDiskId ≠ Int32.maxValue) :
      fs.lookup (base.diskPath diskName) = some inode →
      Change base ⟨self, fs⟩ (.load diskName)
        (.diskId (.value self.curDiskId))
        ⟨self.insert (getDiskFullName diskName) room, fs⟩
  | create {self : PosixDiskManager} {fs : FileSystem}
      {diskName : DiskName}
      (room : self.curDiskId ≠ Int32.maxValue) :
      fs.lookup (base.diskPath diskName) = none →
      Change base ⟨self, fs⟩ (.create diskName)
        (.diskId (.value self.curDiskId))
        ⟨self.insert (getDiskFullName diskName) room,
          fs.link (base.diskPath diskName)⟩
  | unload {self : PosixDiskManager} {fs : FileSystem}
      {diskId : DiskId} :
      diskId ∈ self.disks →
      Change base ⟨self, fs⟩ (.unload diskId) (.void .ok)
        ⟨self.erase diskId, fs⟩
  | destroy {self : PosixDiskManager} {fs : FileSystem}
      {diskId : DiskId} {fileName : String} {inode : Nat} :
      self.disks.lookup diskId = some fileName →
      fs.lookup (base.getDiskPath fileName) = some inode →
      Change base ⟨self, fs⟩ (.destroy diskId) (.void .ok)
        ⟨self.erase diskId,
          (fs.unlink (base.getDiskPath fileName)).setDescriptor
            fs.freeDescriptor ⟨inode, 0⟩⟩

private theorem change_load
    (returned :
      before.step base (.load diskName) = (.done response, after)) :
    Change base before (.load diskName) response after := by
  obtain ⟨self, fs⟩ := before
  cases found : fs.lookup (base.diskPath diskName) with
  | none =>
      rw [step_of_done rfl (PosixDiskManager.run_load_missing found)]
        at returned
      cases returned
      exact .untouched (.refl _) rfl (fun gives => nomatch gives)
  | some inode =>
      by_cases room : self.curDiskId = Int32.maxValue
      · rw [step_of_crashed rfl
          (PosixDiskManager.run_load_overflow found room)] at returned
        cases returned
      · rw [step_of_done rfl (PosixDiskManager.run_load found room)]
          at returned
        cases returned
        exact .load room found

private theorem change_create
    (returned :
      before.step base (.create diskName) = (.done response, after)) :
    Change base before (.create diskName) response after := by
  obtain ⟨self, fs⟩ := before
  cases found : fs.lookup (base.diskPath diskName) with
  | some inode =>
      rw [step_of_done rfl (PosixDiskManager.run_create_taken found)]
        at returned
      cases returned
      exact .untouched (.refl _) rfl (fun gives => nomatch gives)
  | none =>
      have made := lookup_link_self fs (base.diskPath diskName)
      have created :
          ((PosixDiskManager.create base diskName).run self).run serve fs =
            _ :=
        PosixDiskManager.run_create_fresh found
      by_cases room : self.curDiskId = Int32.maxValue
      · rw [step_of_crashed rfl
          (created.trans (PosixDiskManager.run_load_overflow made room))]
          at returned
        cases returned
      · rw [step_of_done rfl
          (created.trans (PosixDiskManager.run_load made room))]
          at returned
        cases returned
        exact .create room found

private theorem change_unload
    (returned :
      before.step base (.unload diskId) = (.done response, after)) :
    Change base before (.unload diskId) response after := by
  obtain ⟨self, fs⟩ := before
  obtain ⟨value, finished, rfl⟩ := run_of_step rfl returned
  rw [PosixDiskManager.unload_run] at finished
  by_cases member : diskId ∈ self.disks
  · rw [if_pos member] at finished
    obtain ⟨manager, fileSystem⟩ := after
    cases finished
    exact .unload member
  · rw [if_neg member] at finished
    obtain ⟨manager, fileSystem⟩ := after
    cases finished
    exact .untouched (.refl _) rfl (fun _ => rfl)

private theorem change_destroy
    (returned :
      before.step base (.destroy diskId) = (.done response, after)) :
    Change base before (.destroy diskId) response after := by
  obtain ⟨self, fs⟩ := before
  cases loaded : self.disks.lookup diskId with
  | none =>
      obtain ⟨value, finished, rfl⟩ := run_of_step rfl returned
      obtain ⟨manager, fileSystem⟩ := after
      simp only [PosixDiskManager.destroy_run, loaded] at finished
      cases finished
      exact .untouched (.refl _) rfl (fun _ => rfl)
  | some fileName =>
      cases found : fs.lookup (base.getDiskPath fileName) with
      | none =>
          rw [step_of_done rfl
            (PosixDiskManager.run_destroy_missing loaded found)]
            at returned
          cases returned
          exact .untouched (.refl _) rfl (fun _ => rfl)
      | some inode =>
          rw [step_of_done rfl
            (PosixDiskManager.run_destroy loaded found)] at returned
          cases returned
          exact .destroy loaded found

/-- The inversion of a step. -/
theorem change_of_step {operation : Operation}
    (returned :
      before.step base operation = (.done response, after)) :
    Change base before operation response after := by
  cases operation with
  | create diskName => exact change_create returned
  | load diskName => exact change_load returned
  | unload diskId => exact change_unload returned
  | destroy diskId => exact change_destroy returned
  | write diskId cursor bytes =>
      refine .untouched (untouched_write returned) ?_
        (fun gives => nomatch gives)
      obtain ⟨value, _, rfl⟩ := run_of_step rfl returned
      rfl
  | read diskId cursor buffer =>
      refine .untouched (untouched_read returned) ?_
        (fun gives => nomatch gives)
      obtain ⟨value, _, rfl⟩ := run_of_step rfl returned
      rfl
  | extend diskId =>
      refine .untouched (untouched_extend returned) ?_
        (fun gives => nomatch gives)
      obtain ⟨value, _, rfl⟩ := run_of_step rfl returned
      rfl
  | diskByteSize diskId =>
      refine .untouched (untouched_diskByteSize returned) ?_
        (fun gives => nomatch gives)
      obtain ⟨value, _, rfl⟩ := run_of_step rfl returned
      rfl
  | «exists» diskName =>
      obtain ⟨self, fs⟩ := before
      rw [step_of_done rfl PosixDiskManager.run_exists] at returned
      cases returned
      exact .untouched (.refl _) rfl (fun gives => nomatch gives)
  | isLoaded diskId =>
      cases returned
      exact .untouched (.refl _) rfl (fun gives => nomatch gives)
  | loadedDiskName diskId =>
      obtain ⟨self, fs⟩ := before
      obtain ⟨value, finished, rfl⟩ := run_of_step rfl returned
      obtain ⟨manager, fileSystem⟩ := after
      rw [PosixDiskManager.loadedDiskName_run] at finished
      cases loaded : self.disks.lookup diskId <;>
        simp only [loaded] at finished <;> cases finished <;>
        exact .untouched (.refl _) rfl (fun gives => nomatch gives)
  | numLoadedDisks =>
      cases returned
      exact .untouched (.refl _) rfl (fun gives => nomatch gives)

end World

end Lewsql
