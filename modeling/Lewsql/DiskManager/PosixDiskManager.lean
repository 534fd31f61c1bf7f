import Lewsql.DiskManager.PosixDisk

/-!
# `PosixDiskManager`

The table of loaded disks and the operations on it.  A member function is a
state transformer on the manager over the effects of the disk manager; a
`PosixDisk` that is a local variable is destroyed where its scope ends.
-/

namespace Lewsql

open Interaction Posix

structure DiskManager where
  dirPath : String
  pageSize : UInt32
  maxDiskByteSize : UInt32
  deriving DecidableEq, Repr

def diskSuffix : String := ".disk"

def getDiskFullName (diskNamePrefix : DiskName) : String :=
  diskNamePrefix ++ diskSuffix

/-- `get_disk_path` of a file name. -/
def DiskManager.getDiskPath (base : DiskManager) (fileName : String) :
    String :=
  base.dirPath ++ "/" ++ fileName

/-- `PosixDiskManager`: the loaded disks by id.  Every id in the table was
handed out before, so it is below the next one. -/
structure PosixDiskManager where
  curDiskId : DiskId
  disks : AList fun _ : DiskId => DiskName
  id_lt : ∀ diskId ∈ disks, diskId < curDiskId

namespace PosixDiskManager

def new : PosixDiskManager where
  curDiskId := 0
  disks := ∅
  id_lt := by simp

theorem toInt_succ_of_ne_maxValue {current : DiskId}
    (room : current ≠ Int32.maxValue) :
    (current + 1).toInt = current.toInt + 1 := by
  have below : current.toInt < 2 ^ 31 - 1 := by
    have bound := current.toInt_lt
    have notMax : current.toInt ≠ 2 ^ 31 - 1 := by
      intro equal
      exact room (Int32.toInt_inj.mp (by rw [equal]; rfl))
    omega
  have above := current.le_toInt
  rw [Int32.toInt_add, Int32.toInt_one,
    Int.bmod_eq_of_le (by omega) (by omega)]

theorem lt_succ_of_ne_maxValue {current : DiskId}
    (room : current ≠ Int32.maxValue) : current < current + 1 := by
  rw [Int32.lt_iff_toInt_lt, toInt_succ_of_ne_maxValue room]
  omega

/-- `disks[cur_disk_id] = disk_name; cur_disk_id++` while the counter does not
overflow. -/
def insert (self : PosixDiskManager) (diskName : DiskName)
    (room : self.curDiskId ≠ Int32.maxValue) : PosixDiskManager where
  curDiskId := self.curDiskId + 1
  disks := self.disks.insert self.curDiskId diskName
  id_lt := by
    intro diskId member
    have grown := lt_succ_of_ne_maxValue room
    rcases (AList.mem_insert _).mp member with same | old
    · subst same
      exact grown
    · exact Int32.lt_trans (self.id_lt diskId old) grown

def erase (self : PosixDiskManager) (diskId : DiskId) :
    PosixDiskManager where
  curDiskId := self.curDiskId
  disks := self.disks.erase diskId
  id_lt := fun other member => self.id_lt other (AList.mem_erase.mp member).2

variable (base : DiskManager)

abbrev Member (Value : Type) := StateT PosixDiskManager Effect Value

def numLoadedDisks : Member (DiskResult UInt32) := do
  let self ← get
  return .value (UInt32.ofNat self.disks.entries.length)

def «exists» (diskNamePrefix : DiskName) : Member (DiskResult Bool) :=
  PosixDisk.exists (base.getDiskPath (getDiskFullName diskNamePrefix))

def isLoaded (diskId : DiskId) : Member (DiskResult Bool) := do
  let self ← get
  return .value (decide (diskId ∈ self.disks))

def loadedDiskName (diskId : DiskId) : Member (DiskResult DiskName) := do
  let self ← get
  match self.disks.lookup diskId with
  | none => return .error .diskNotFound
  | some diskName => return .value diskName

/-- `get_disk_path` of a loaded disk. -/
def getDiskPath (diskId : DiskId) : Member (DiskResult String) :=
  unwrapOrPropError (loadedDiskName diskId) fun res =>
    return .value (base.getDiskPath res)

/-- `load`.  Going past the largest `int32_t` is undefined. -/
def load (diskNamePrefix : DiskName) : Member (DiskResult DiskId) := do
  let path := base.getDiskPath (getDiskFullName diskNamePrefix)
  match ← PosixDisk.init path true base.pageSize base.maxDiskByteSize with
  | .error error => return .error error
  | .value posixDisk =>
      let self ← get
      let ret := self.curDiskId
      if room : self.curDiskId = Int32.maxValue then
        crash .signedOverflow
      else
        set (self.insert (getDiskFullName diskNamePrefix) room)
        posixDisk.destructor
        return .value ret

def create (diskNamePrefix : DiskName) : Member (DiskResult DiskId) := do
  let path := base.getDiskPath (getDiskFullName diskNamePrefix)
  propIfErrorTemporary (fun posixDisk => posixDisk.destructor)
    (PosixDisk.init path false base.pageSize base.maxDiskByteSize)
    (load base diskNamePrefix)

def unload (diskId : DiskId) : Member (DiskResult Unit) := do
  let self ← get
  if diskId ∈ self.disks then
    set (self.erase diskId)
    return .ok
  else
    return .error .diskNotFound

def destroy (diskId : DiskId) : Member (DiskResult Unit) :=
  unwrapOrPropError (getDiskPath base diskId) fun path => do
    match ← PosixDisk.init path true base.pageSize base.maxDiskByteSize with
    | .error error => return .error error
    | .value posixDisk =>
        let (destroyed, posixDisk) ←
          (propIfError PosixDisk.destroy (return .ok)).run posixDisk
        let result : DiskResult Unit ←
          match destroyed with
          | .error error => pure (.error error)
          | .value () => propIfError (unload diskId) (pure .ok)
        posixDisk.destructor
        return result

def write (diskId : DiskId) (diskPageCursor : DiskPageCursor)
    (bytes : List UInt8) : Member (DiskResult Unit) :=
  unwrapOrPropError (getDiskPath base diskId) fun path => do
    match ← PosixDisk.init path true base.pageSize base.maxDiskByteSize with
    | .error error => return .error error
    | .value posixDisk =>
        let result : DiskResult Unit ←
          propIfError (posixDisk.write diskPageCursor bytes) (return .ok)
        posixDisk.destructor
        return result

/-- `read`; the outer state is the caller's buffer. -/
def read (diskId : DiskId) (diskPageCursor : DiskPageCursor) :
    StateT (List UInt8) (StateT PosixDiskManager Effect)
      (DiskResult Unit) :=
  unwrapOrPropError (getDiskPath base diskId) fun path => do
    match ← PosixDisk.init path true base.pageSize base.maxDiskByteSize with
    | .error error => return .error error
    | .value posixDisk =>
        let bytes ← get
        let (result, bytes) ←
          (propIfError (posixDisk.read diskPageCursor) (return .ok)).run
            bytes
        set bytes
        posixDisk.destructor
        return result

def diskByteSize (diskId : DiskId) : Member (DiskResult UInt32) :=
  unwrapOrPropError (getDiskPath base diskId) fun path => do
    match ← PosixDisk.init path true base.pageSize base.maxDiskByteSize with
    | .error error => return .error error
    | .value posixDisk =>
        let result ← posixDisk.getDiskByteSize
        posixDisk.destructor
        return result

def extend (diskId : DiskId) : Member (DiskResult DiskPageCursor) :=
  unwrapOrPropError (diskByteSize base diskId) fun byteSize => do
    if base.pageSize = 0 then
      crash .divisionByZero
    else if byteSize % base.pageSize ≠ 0 then
      crash .assertByteSize
    else if byteSize > base.maxDiskByteSize then
      return .error .diskExceedsMaxSize
    else
      return .value (byteSize / base.pageSize + 1).toInt32

end PosixDiskManager

end Lewsql
