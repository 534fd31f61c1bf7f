import Lewsql.DiskManager.Rules

/-!
# The phases of an operation

An operation checks for a file, opens it, works on the open disk and closes it,
perhaps several times; a `destroy` may end with the disk still open.  `Phases` says
what holds while no disk is open, after a check and while a disk is open, and how
each kind of call moves between them.  Every operation then runs through its
phases.  Only a `create` opens a file where its check found none.
-/

namespace Lewsql

open Interaction Posix

/-- What holds with no disk open, after a check that found a file or none, with a
disk open and after one was removed, and why each call keeps it. -/
structure Phases {State : Type}
    (env guarantee : Transition Posix.calls State) (operation : Operation)
    where
  idle : State → Prop
  checked : Bool → String → State → Prop
  holding : String → Nat → State → Prop
  removed : State → Prop
  access : ∀ path before (reply : Except Errno Unit) after,
    idle before → env before (.access path) reply after →
      guarantee before (.access path) reply after ∧ idle after ∧
        match existenceOf reply with
        | .value exist => checked exist path after
        | .error _ => True
  openFile : ∀ path shouldExist before (reply : Except Errno Nat) after,
    (shouldExist = false → ∃ diskName, operation = .create diskName) →
      idle before → checked shouldExist path before →
        env before (.openFile path) reply after →
          guarantee before (.openFile path) reply after ∧
            match reply with
            | .ok fd => holding path fd after
            | .error _ => idle after
  transfer : ∀ (disk : PosixDisk) before request reply after,
    holding disk.filePath disk.fd before → disk.Transfers request →
      env before request reply after →
        guarantee before request reply after ∧
          holding disk.filePath disk.fd after
  close : ∀ path fd before (reply : Except Errno Unit) after,
    holding path fd before → env before (.close fd) reply after →
      guarantee before (.close fd) reply after ∧ idle after
  unlink : ∀ diskId path fd before (reply : Except Errno Unit) after,
    operation = .destroy diskId → holding path fd before →
      env before (.unlink path) reply after →
        guarantee before (.unlink path) reply after ∧
          match reply with
          | .ok () => removed after
          | .error _ => holding path fd after

namespace Phases

variable {State : Type} {env guarantee : Transition Posix.calls State}
variable {operation : Operation} {state : State}

def ended (phases : Phases env guarantee operation) {Value : Type} :
    Outcome Crash Value → State → Prop
  | .done _, after => phases.idle after ∨ phases.removed after
  | .crashed _, _ => True

section Scopes

variable (phases : Phases env guarantee operation)
variable {base : DiskManager} {self : PosixDiskManager}
variable {path : String} {diskId : DiskId} {diskName : DiskName}

/-- An `init` that makes no file. -/
private theorem mustExist (makes : true = false) :
    ∃ diskName, operation = .create diskName := by
  cases makes

include phases

private theorem opens {shouldExist : Bool}
    (makes : shouldExist = false →
      ∃ diskName, operation = .create diskName)
    (idle : phases.idle state) :
    Opens env guarantee base path shouldExist (phases.holding path)
      (fun _ => phases.idle) (fun _ _ => True) state := by
  have checks :
      Checks env guarantee path phases.idle
        (fun exist => phases.checked exist path) True := by
    intro before reply after idle moved
    exact phases.access _ _ _ _ idle moved
  refine PosixDisk.wp_init checks ?_ (fun _ idle _ => idle)
    (fun _ _ idle => idle) (fun _ _ _ _ _ => True.intro) idle
  intro before reply after idle checked moved
  obtain ⟨kept, opened⟩ :=
    phases.openFile _ _ _ _ _ makes idle checked moved
  refine ⟨kept, ?_⟩
  cases reply with
  | ok fd => exact opened
  | error number => exact opened

private theorem closing {Value : Type} {value : Value} {fd : Nat}
    (holding : phases.holding path fd state) :
    Closing env guarantee fd phases.ended (.done value) state := by
  intro reply last moved
  obtain ⟨kept, idle⟩ := phases.close _ _ _ _ _ holding moved
  exact ⟨kept, Or.inl idle⟩

private theorem withDisk {Value : Type}
    {failed : DiskManagerErrorCode → Value}
    {body : PosixDisk → Effect Value}
    (transfers : ∀ posixDisk,
      (body posixDisk).makesOnly posixDisk.Transfers)
    (idle : phases.idle state) :
    (PosixDiskManager.withDisk base path failed body).wp env guarantee
      (fun outcome after =>
        match outcome with
        | .done _ => phases.idle after
        | .crashed _ => True)
      state := by
  refine PosixDiskManager.wp_withDisk (phases.opens mustExist idle)
    (fun _ _ idle => idle) (fun _ _ _ => True.intro) ?_
  intro fd after holding
  refine Program.wp_consequence
    (Program.wp_of_makesOnly ?_ (transfers _) holding) ?_
  · intro before request reply after holding allowed moved
    exact phases.transfer _ _ _ _ _ holding allowed moved
  · intro outcome last holding
    rcases outcome with value | reason
    · exact fun _ _ moved => phases.close _ _ _ _ _ holding moved
    · exact True.intro

private theorem usesDisk {Value Next : Type}
    {failed : DiskManagerErrorCode → Value}
    {body : PosixDisk → Effect Value} {wrap : Value → Next}
    (transfers : ∀ posixDisk,
      (body posixDisk).makesOnly posixDisk.Transfers)
    (idle : phases.idle state) :
    (PosixDiskManager.withDisk base path failed body >>= fun value =>
        Program.done (wrap value)).wp env guarantee phases.ended
      state := by
  rw [Program.wp_bind]
  refine Program.wp_consequence (phases.withDisk transfers idle) ?_
  intro outcome after ended
  rcases outcome with value | reason
  · exact Or.inl ended
  · exact True.intro

private theorem load (idle : phases.idle state) :
    ((PosixDiskManager.load base diskName).run self).wp env guarantee
      phases.ended state :=
  PosixDiskManager.wp_load (phases.opens mustExist idle)
    (fun _ _ idle => Or.inl idle) (fun _ _ _ => True.intro)
    (fun _ _ _ _ => True.intro)
    (fun _ _ _ holding => phases.closing holding)

private theorem create (creates : operation = .create diskName)
    (idle : phases.idle state) :
    ((PosixDiskManager.create base diskName).run self).wp env guarantee
      phases.ended state := by
  have makes (_ : false = false) :
      ∃ diskName, operation = .create diskName :=
    ⟨diskName, creates⟩
  refine PosixDiskManager.wp_create (phases.opens makes idle)
    (fun _ _ idle => phases.opens makes idle)
    (fun _ _ idle => Or.inl idle)
    (fun _ _ _ => True.intro) (fun _ _ _ => True.intro) ?_
  intro fd before reply after holding moved
  obtain ⟨kept, idle⟩ := phases.close _ _ _ _ _ holding moved
  exact ⟨kept, phases.load idle⟩

private theorem destroy (destroys : operation = .destroy diskId)
    (idle : phases.idle state) :
    ((PosixDiskManager.destroy base diskId).run self).wp env guarantee
      phases.ended state := by
  cases loaded : self.disks.lookup diskId with
  | none =>
      simp only [PosixDiskManager.destroy_run, loaded]
      exact Or.inl idle
  | some fileName =>
      refine PosixDiskManager.wp_destroy loaded
        (phases.opens mustExist idle)
        (fun _ _ idle => Or.inl idle) (fun _ _ _ => True.intro) ?_
        (fun _ _ holding => phases.closing holding)
      intro fd before reply after holding moved
      obtain ⟨kept, unlinked⟩ :=
        phases.unlink _ _ _ _ _ _ destroys holding moved
      refine ⟨kept, ?_⟩
      cases reply with
      | ok answer => exact ⟨Or.inr unlinked, True.intro⟩
      | error number => exact unlinked

private theorem «exists» (idle : phases.idle state) :
    ((PosixDiskManager.exists base diskName).run self).wp env guarantee
      phases.ended state := by
  change
    (PosixDisk.exists (base.diskPath diskName) >>= fun result =>
      Program.done (result, self)).wp _ _ _ state
  rw [PosixDisk.exists_eq]
  intro reply after moved
  obtain ⟨kept, idle, _⟩ := phases.access _ _ _ _ idle moved
  exact ⟨kept, Or.inl idle⟩

private theorem extend (idle : phases.idle state) :
    ((PosixDiskManager.extend base diskId).run self).wp env guarantee
      phases.ended state := by
  rw [PosixDiskManager.extend_run]
  cases loaded : self.disks.lookup diskId with
  | none => exact Or.inl idle
  | some fileName =>
      have sized (state : State) (idle : phases.idle state) :
          (PosixDiskManager.withDisk base (base.getDiskPath fileName)
            Result.error fun posixDisk => posixDisk.getDiskByteSize).wp
            env guarantee
            (ending (fun _ after => phases.idle after ∧ True)
              (fun _ after => phases.idle after ∧ True)
              (fun _ _ => True))
            state := by
        refine Program.wp_consequence
          (phases.withDisk
            (fun posixDisk => posixDisk.getDiskByteSize_transfers) idle) ?_
        intro outcome after ended
        rcases outcome with (size | failure) | reason
        · exact ⟨ended, True.intro⟩
        · exact ⟨ended, True.intro⟩
        · exact True.intro
      refine wp_unwrap sized ?_ ?_ (fun _ _ _ => True.intro)
        (fun _ _ _ _ _ _ _ => True.intro)
        (fun _ _ _ _ _ _ _ => True.intro) idle
      · intro size after idle _
        split_ifs
        · exact True.intro
        · exact True.intro
        · exact Or.inl idle
        · exact Or.inl idle
      · exact fun _ _ idle _ => Or.inl idle

private theorem map {Value : Type} {wrap : Value → Response}
    {member : PosixDiskManager.Member Value}
    (safe :
      (member.run self).wp env guarantee phases.ended state) :
    ((wrap <$> member).run self).wp env guarantee phases.ended state := by
  rw [StateT.run_map, Program.wp_map]
  refine Program.wp_consequence safe ?_
  intro outcome after ended
  rcases outcome with value | reason
  · exact ended
  · exact True.intro

end Scopes

/-- Every operation goes through its phases. -/
theorem wp_perform (phases : Phases env guarantee operation)
    {base : DiskManager} {self : PosixDiskManager}
    (idle : phases.idle state) :
    ((PosixDiskManager.perform base operation).run self).wp env guarantee
      phases.ended state := by
  cases operation with
  | create diskName => exact phases.map (phases.create rfl idle)
  | load diskName => exact phases.map (phases.load idle)
  | destroy diskId => exact phases.map (phases.destroy rfl idle)
  | «exists» diskName => exact phases.map (phases.exists idle)
  | extend diskId => exact phases.map (phases.extend idle)
  | write diskId cursor bytes =>
      apply phases.map
      rw [PosixDiskManager.write_run]
      cases self.disks.lookup diskId with
      | none => exact Or.inl idle
      | some fileName =>
          refine phases.usesDisk (fun posixDisk => ?_) idle
          rw [propIfError_eq]
          exact makesOnly_propagate (posixDisk.write_transfers cursor bytes)
            (fun _ => True.intro) (fun _ => True.intro)
  | read diskId cursor buffer =>
      have safe :
          (((PosixDiskManager.read base diskId cursor).run buffer).run
            self).wp env guarantee phases.ended state := by
        rw [PosixDiskManager.read_run]
        cases self.disks.lookup diskId with
        | none => exact Or.inl idle
        | some fileName =>
            exact phases.usesDisk
              (fun posixDisk =>
                posixDisk.propagated_read_transfers cursor buffer) idle
      exact phases.map safe
  | diskByteSize diskId =>
      apply phases.map
      rw [PosixDiskManager.diskByteSize_run]
      cases self.disks.lookup diskId with
      | none => exact Or.inl idle
      | some fileName =>
          exact phases.usesDisk
            (fun posixDisk => posixDisk.getDiskByteSize_transfers) idle
  | unload diskId =>
      apply phases.map
      rw [PosixDiskManager.unload_run]
      split_ifs <;> exact Or.inl idle
  | loadedDiskName diskId =>
      apply phases.map
      rw [PosixDiskManager.loadedDiskName_run]
      cases self.disks.lookup diskId <;> exact Or.inl idle
  | isLoaded diskId => exact Or.inl idle
  | numLoadedDisks => exact Or.inl idle

end Phases

end Lewsql
