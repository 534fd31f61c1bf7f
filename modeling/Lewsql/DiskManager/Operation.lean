import Lewsql.DiskManager.PosixDiskManager

/-!
# Calls of a manager

A public member function with its arguments is an `Operation`, and what it
hands back is a `Response`.  Started in a manager, an operation is a program over
the POSIX calls; the equations below give that program with the threading of the
manager and of local `PosixDisk` objects carried out.
-/

namespace Lewsql

open Interaction Posix

/-- A call of a public member function of `PosixDiskManager`.  The buffer of a
read is part of the call. -/
inductive Operation where
  | create (diskNamePrefix : DiskName)
  | load (diskNamePrefix : DiskName)
  | unload (diskId : DiskId)
  | destroy (diskId : DiskId)
  | write (diskId : DiskId) (diskPageCursor : DiskPageCursor)
      (bytes : List UInt8)
  | read (diskId : DiskId) (diskPageCursor : DiskPageCursor)
      (buffer : List UInt8)
  | extend (diskId : DiskId)
  | diskByteSize (diskId : DiskId)
  | «exists» (diskNamePrefix : DiskName)
  | isLoaded (diskId : DiskId)
  | loadedDiskName (diskId : DiskId)
  | numLoadedDisks
  deriving DecidableEq, Repr

/-- What a call returns; a read also returns its buffer. -/
inductive Response where
  | diskId (result : DiskResult DiskId)
  | void (result : DiskResult Unit)
  | buffer (result : DiskResult Unit) (bytes : List UInt8)
  | cursor (result : DiskResult DiskPageCursor)
  | size (result : DiskResult UInt32)
  | flag (result : DiskResult Bool)
  | name (result : DiskResult DiskName)
  deriving DecidableEq, Repr

/-- `destroy` of a local `PosixDisk`, propagated, up to the end of its
scope: after a successful `unlink` the destructor does nothing. -/
def PosixDisk.destroyInScope (self : PosixDisk) :
    Effect (DiskResult Unit) :=
  .call (.unlink self.filePath) fun
    | .ok () => .done .ok
    | .error _ =>
        .call (.unlink self.filePath) fun
          | .ok () => .crash .assertIsError
          | .error _ =>
              self.destructor >>= fun _ =>
                .done (.error .destroyDiskError)

def DiskManager.diskPath (base : DiskManager)
    (diskNamePrefix : DiskName) : String :=
  base.getDiskPath (getDiskFullName diskNamePrefix)

namespace PosixDiskManager

def perform (base : DiskManager) : Operation → Member Response
  | .create diskNamePrefix => .diskId <$> create base diskNamePrefix
  | .load diskNamePrefix => .diskId <$> load base diskNamePrefix
  | .unload diskId => .void <$> unload diskId
  | .destroy diskId => .void <$> destroy base diskId
  | .write diskId diskPageCursor bytes =>
      .void <$> write base diskId diskPageCursor bytes
  | .read diskId diskPageCursor buffer =>
      (fun transferred => .buffer transferred.1 transferred.2) <$>
        (read base diskId diskPageCursor).run buffer
  | .extend diskId => .cursor <$> extend base diskId
  | .diskByteSize diskId => .size <$> diskByteSize base diskId
  | .exists diskNamePrefix => .flag <$> «exists» base diskNamePrefix
  | .isLoaded diskId => .flag <$> isLoaded diskId
  | .loadedDiskName diskId => .name <$> loadedDiskName diskId
  | .numLoadedDisks => .size <$> numLoadedDisks

variable (base : DiskManager) (self : PosixDiskManager)
variable (diskId : DiskId) (diskNamePrefix : DiskName)
variable (cursor : DiskPageCursor)

/-- Open the disk at a path, use it and let it be destroyed. -/
def withDisk {Value : Type} (path : String)
    (failed : DiskManagerErrorCode → Value)
    (body : PosixDisk → Effect Value) : Effect Value := do
  match ← PosixDisk.init path true base.pageSize base.maxDiskByteSize with
  | .error error => return failed error
  | .value posixDisk =>
      let result ← body posixDisk
      posixDisk.destructor
      return result

theorem loadedDiskName_run :
    (loadedDiskName diskId).run self =
      match self.disks.lookup diskId with
      | none => .done (.error .diskNotFound, self)
      | some diskName => .done (.value diskName, self) := by
  cases found : self.disks.lookup diskId with
  | none => simp [loadedDiskName, found]
  | some diskName => simp [loadedDiskName, found]

theorem getDiskPath_run :
    (getDiskPath base diskId).run self =
      match self.disks.lookup diskId with
      | none => .done (.error .diskNotFound, self)
      | some diskName =>
          .done (.value (base.getDiskPath diskName), self) := by
  cases found : self.disks.lookup diskId with
  | none =>
      simp [getDiskPath, unwrapOrPropError, loadedDiskName_run, found]
  | some diskName =>
      simp [getDiskPath, unwrapOrPropError, loadedDiskName_run, found]

theorem unload_run :
    (unload diskId).run self =
      if diskId ∈ self.disks then .done (.ok, self.erase diskId)
      else .done (.error .diskNotFound, self) := by
  by_cases member : diskId ∈ self.disks
  · simp [unload, member]
  · simp [unload, member]

/-- An operation on a loaded disk that looks up its path first. -/
private theorem unwrap_getDiskPath_run {Value : Type}
    (rest : String → Member (DiskResult Value)) :
    (unwrapOrPropError (getDiskPath base diskId) rest).run self =
      match self.disks.lookup diskId with
      | none => .done (.error .diskNotFound, self)
      | some diskName => (rest (base.getDiskPath diskName)).run self := by
  cases found : self.disks.lookup diskId with
  | none => simp [unwrapOrPropError, getDiskPath_run, found]
  | some diskName => simp [unwrapOrPropError, getDiskPath_run, found]

theorem load_run :
    (load base diskNamePrefix).run self =
      PosixDisk.init (base.diskPath diskNamePrefix) true base.pageSize
          base.maxDiskByteSize >>= fun opened =>
        match opened with
        | .error error => .done (.error error, self)
        | .value posixDisk =>
            if room : self.curDiskId = Int32.maxValue then
              .crash .signedOverflow
            else
              posixDisk.destructor >>= fun _ =>
                .done (.value self.curDiskId,
                  self.insert (getDiskFullName diskNamePrefix) room) := by
  simp only [load, StateT.run_bind]
  rw [StateT.run_monadLift]
  simp only [bind_pure_comp, bind_map_left]
  apply bind_congr
  intro opened
  cases opened with
  | error error => simp
  | value posixDisk =>
      by_cases room : self.curDiskId = Int32.maxValue
      · simp [room]
      · simp [room]

theorem create_run :
    (create base diskNamePrefix).run self =
      propagate
        (PosixDisk.init (base.diskPath diskNamePrefix) false base.pageSize
          base.maxDiskByteSize)
        (fun error => .done (.error error, self))
        (fun posixDisk =>
          posixDisk.destructor >>= fun _ =>
            (load base diskNamePrefix).run self) := by
  simp only [create, propIfErrorTemporary, propagate, StateT.run_bind]
  rw [StateT.run_monadLift]
  simp only [bind_pure_comp, bind_map_left]
  apply bind_congr
  intro opened
  cases opened with
  | value posixDisk => simp
  | error error =>
      simp only [StateT.run_bind]
      rw [StateT.run_monadLift]
      simp only [bind_pure_comp, bind_map_left]
      apply bind_congr
      intro again
      cases again <;> rfl

/-- The scope of a local `PosixDisk` in a member function that leaves the
manager alone. -/
private theorem withDisk_run {Value : Type} (path : String)
    (failed : DiskManagerErrorCode → Value)
    (body : PosixDisk → Effect Value) (inner : PosixDisk → Member Value)
    (same : ∀ posixDisk,
      (inner posixDisk).run self =
        body posixDisk >>= fun result => .done (result, self)) :
    (do
        match ← (PosixDisk.init path true base.pageSize
            base.maxDiskByteSize : Member (DiskResult PosixDisk)) with
        | .error error => return failed error
        | .value posixDisk =>
            let result ← inner posixDisk
            posixDisk.destructor
            return result : Member Value).run self =
      withDisk base path failed body >>= fun result =>
        .done (result, self) := by
  simp only [withDisk]
  rw [StateT.run_bind, StateT.run_monadLift]
  simp only [bind_pure_comp, bind_map_left, bind_assoc]
  apply bind_congr
  intro opened
  cases opened with
  | error error => rfl
  | value posixDisk =>
      simp [same]

theorem write_run (bytes : List UInt8) :
    (write base diskId cursor bytes).run self =
      match self.disks.lookup diskId with
      | none => .done (.error .diskNotFound, self)
      | some diskName =>
          withDisk base (base.getDiskPath diskName) Result.error
              (fun posixDisk =>
                propIfError (posixDisk.write cursor bytes)
                  (return .ok)) >>= fun result =>
            .done (result, self) := by
  rw [write, unwrap_getDiskPath_run]
  cases found : self.disks.lookup diskId with
  | none => rfl
  | some diskName =>
      apply withDisk_run
      intro posixDisk
      rw [propIfError_lift_run, propIfError_eq, propagate_bind]
      rfl

theorem diskByteSize_run :
    (diskByteSize base diskId).run self =
      match self.disks.lookup diskId with
      | none => .done (.error .diskNotFound, self)
      | some diskName =>
          withDisk base (base.getDiskPath diskName) Result.error
              (fun posixDisk => posixDisk.getDiskByteSize) >>= fun result =>
            .done (result, self) := by
  rw [diskByteSize, unwrap_getDiskPath_run]
  cases found : self.disks.lookup diskId with
  | none => rfl
  | some diskName =>
      apply withDisk_run
      intro posixDisk
      rw [StateT.run_monadLift]
      rfl

theorem read_run (buffer : List UInt8) :
    ((read base diskId cursor).run buffer).run self =
      match self.disks.lookup diskId with
      | none => .done ((.error .diskNotFound, buffer), self)
      | some diskName =>
          withDisk base (base.getDiskPath diskName)
              (fun error => (Result.error error, buffer))
              (fun posixDisk =>
                (propIfError (posixDisk.read cursor)
                  (return .ok)).run buffer) >>= fun result =>
            .done (result, self) := by
  cases found : self.disks.lookup diskId with
  | none =>
      simp [read, unwrapOrPropError, getDiskPath_run, found]
  | some diskName =>
      simp only [read, unwrapOrPropError, withDisk]
      simp [getDiskPath_run, found]
      apply bind_congr
      intro opened
      cases opened with
      | error error => rfl
      | value posixDisk => simp

def afterDestroy (diskId : DiskId) :
    DiskResult Unit → PosixDiskManager
  | .value () => self.erase diskId
  | .error _ => self

theorem destroy_run :
    (destroy base diskId).run self =
      match self.disks.lookup diskId with
      | none => .done (.error .diskNotFound, self)
      | some diskName =>
          PosixDisk.init (base.getDiskPath diskName) true base.pageSize
              base.maxDiskByteSize >>= fun opened =>
            match opened with
            | .error error => .done (.error error, self)
            | .value posixDisk =>
                posixDisk.destroyInScope >>= fun result =>
                  .done (result, self.afterDestroy diskId result) := by
  rw [destroy, unwrap_getDiskPath_run]
  cases found : self.disks.lookup diskId with
  | none => rfl
  | some diskName =>
      have loaded : diskId ∈ self.disks := by
        rw [← AList.lookup_isSome, found]
        rfl
      simp only [StateT.run_bind]
      rw [StateT.run_monadLift]
      simp only [bind_pure_comp, bind_map_left]
      apply bind_congr
      intro opened
      cases opened with
      | error error => rfl
      | value posixDisk =>
          simp [PosixDisk.destroyInScope, propIfError, PosixDisk.destroy,
            posix, Program.perform]
          funext reply
          cases reply with
          | ok answer =>
              simp [unload_run, loaded, afterDestroy, PosixDisk.destructor]
          | error number =>
              simp only [StateT.run_pure, Program.pure_eq_done,
                Program.done_bind, Result.isError_error, if_true,
                Program.call_bind]
              simp
              funext again
              cases again with
              | ok answer => rfl
              | error number => simp [afterDestroy]

theorem extend_run :
    (extend base diskId).run self =
      match self.disks.lookup diskId with
      | none => .done (.error .diskNotFound, self)
      | some diskName =>
          unwrap
            (withDisk base (base.getDiskPath diskName) Result.error
              fun posixDisk => posixDisk.getDiskByteSize)
            (fun error => .done (.error error, self))
            (fun byteSize =>
              if base.pageSize = 0 then
                .crash .divisionByZero
              else if byteSize % base.pageSize ≠ 0 then
                .crash .assertByteSize
              else if byteSize > base.maxDiskByteSize then
                .done (.error .diskExceedsMaxSize, self)
              else
                .done
                  (.value (byteSize / base.pageSize + 1).toInt32, self)) := by
  cases found : self.disks.lookup diskId with
  | none =>
      simp [extend, unwrapOrPropError, diskByteSize_run, found]
  | some diskName =>
      simp only [extend, unwrapOrPropError, unwrap, StateT.run_bind,
        diskByteSize_run, found, bind_assoc]
      apply bind_congr
      intro first
      simp only [Program.done_bind]
      cases first with
      | error error =>
          simp only [Result.isError_error, if_true, StateT.run_bind,
            diskByteSize_run, found, bind_assoc]
          apply bind_congr
          intro second
          cases second <;> rfl
      | value size =>
          simp only [Result.isError_value, Bool.false_eq_true, if_false,
            StateT.run_bind, diskByteSize_run, found, bind_assoc]
          apply bind_congr
          intro second
          cases second with
          | error failure => cases failure <;> rfl
          | value byteSize =>
              simp only [Program.done_bind, Result.getValue_value,
                StateT.run_pure, Program.pure_eq_done]
              by_cases zero : base.pageSize = 0
              · simp only [if_pos zero]
                rfl
              · by_cases whole : byteSize % base.pageSize = 0
                · by_cases past : byteSize > base.maxDiskByteSize
                  · simp only [if_neg zero, whole, ne_eq, not_true,
                      if_false, if_pos past]
                    rfl
                  · simp only [if_neg zero, whole, ne_eq, not_true,
                      if_false, if_neg past]
                    rfl
                · simp only [if_neg zero, ne_eq, whole, not_false_eq_true,
                    if_true]
                  rfl

end PosixDiskManager

end Lewsql
