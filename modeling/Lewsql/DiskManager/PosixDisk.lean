import Lewsql.Library.Result
import Lewsql.Posix.FileSystem

/-!
# `PosixDisk`

One open file with its page size and size limit.  A member function that
changes the object is a state transformer on it; the others take the object as
`self`.  Sizes and offsets are `unsigned int`, cursors are `int32_t`, and the
arithmetic between them is the one of the source.
-/

namespace Lewsql

open Interaction Posix

abbrev DiskName := String
abbrev DiskId := Int32
abbrev DiskPageCursor := Int32

inductive DiskManagerErrorCode where
  | unkownError
  | diskAlreadyExists
  | diskNotFound
  | diskExceedsMaxSize
  | initDiskError
  | closeDiskError
  | createDiskError
  | destroyDiskError
  | writeDiskError
  | readDiskError
  | getDiskSizeError
  deriving DecidableEq, Repr

/-- `DiskManagerError::what`; the switch has no case for
`GET_DISK_SIZE_ERROR`. -/
def DiskManagerErrorCode.what :
    DiskManagerErrorCode → Except Crash String
  | .unkownError => .ok "disk manager unknown error"
  | .diskAlreadyExists => .ok "disk manager disk already exists"
  | .diskNotFound => .ok "disk manager disk not found"
  | .initDiskError => .ok "disk manager init disk error"
  | .closeDiskError => .ok "disk manager deinit disk error"
  | .createDiskError => .ok "disk manager create disk error"
  | .destroyDiskError => .ok "disk manager destroy disk error"
  | .writeDiskError => .ok "disk manager write disk error"
  | .readDiskError => .ok "disk manager read disk error"
  | .diskExceedsMaxSize => .ok "disk manager disk exceeds max size"
  | .getDiskSizeError => .error .assertWhat

instance : Exception DiskManagerErrorCode where
  what := DiskManagerErrorCode.what

abbrev Effect := Program Posix.calls Crash

def posix (request : Request) :
    Effect (Except Errno (Answer request)) :=
  Program.perform (S := Posix.calls) request

abbrev DiskResult (R : Type) := Result R DiskManagerErrorCode

/-- The return value of a POSIX function that returns `-1` on failure, stored in
an `unsigned int`. -/
def unsignedReturn : Except Errno Nat → UInt32
  | .ok count => UInt32.ofNat count
  | .error _ => UInt32.ofNat (UInt32.size - 1)

structure PosixDisk where
  filePath : String
  fd : Nat
  pageSize : UInt32
  maxDiskSize : UInt32
  shouldClose : Bool
  deriving DecidableEq, Repr

namespace PosixDisk

/-- The private constructor; `should_close` starts as `true`. -/
def new (filePath : String) (fd : Nat) (pageSize maxDiskSize : UInt32) :
    PosixDisk :=
  ⟨filePath, fd, pageSize, maxDiskSize, true⟩

/-- The move constructor: the new object and the source after the move. -/
def moveConstruct (source : PosixDisk) : PosixDisk × PosixDisk :=
  (new source.filePath source.fd source.pageSize source.maxDiskSize,
    { source with shouldClose := false })

/-- The move assignment from another object: the target and the source after
it.  The target keeps its `should_close`. -/
def moveAssign (target source : PosixDisk) : PosixDisk × PosixDisk :=
  ({ target with
      fd := source.fd
      filePath := source.filePath
      pageSize := source.pageSize
      maxDiskSize := source.maxDiskSize },
    { source with shouldClose := false })

/-- `close`.  Descriptors of successful opens are never negative, so
`assert(m_fd >= 0)` holds. -/
def close : StateT PosixDisk Effect (DiskResult Unit) := do
  modify fun self => { self with shouldClose := false }
  let self ← get
  match ← posix (.close self.fd) with
  | .ok () => return .ok
  | .error _ => return .error .closeDiskError

def destructor (self : PosixDisk) : Effect Unit :=
  if self.shouldClose then do
    let _ ← close.run self
    return ()
  else
    return ()

def «exists» (filePath : String) : Effect (DiskResult Bool) := do
  match ← posix (.access filePath) with
  | .ok () => return .value true
  | .error .enoent => return .value false
  | .error .other => return .error .unkownError

/-- `init`.  The temporary `PosixDisk` is moved into the result and then
destroyed. -/
def init (filePath : String) (shouldExist : Bool)
    (pageSize maxDiskSize : UInt32) : Effect (DiskResult PosixDisk) :=
  unwrapOrPropError (PosixDisk.exists filePath) fun exist => do
    if !shouldExist && exist then
      return .error .diskAlreadyExists
    else if shouldExist && !exist then
      return .error .diskNotFound
    else
      match ← posix (.openFile filePath) with
      | .error _ => return .error .createDiskError
      | .ok fd =>
          let (posixDisk, temporary) :=
            (new filePath fd pageSize maxDiskSize).moveConstruct
          temporary.destructor
          return .value posixDisk

/-- `seek`.  The result of `lseek` is stored in an `int`, so an offset of
`2^32 - 1` looks like a failure. -/
def seek (self : PosixDisk) (pos : UInt32) :
    Effect (DiskResult Unit) := do
  match ← posix (.lseek self.fd pos.toNat) with
  | .error _ => return .error .unkownError
  | .ok offset =>
      if Int32.ofNat offset = -1 then
        return .error .unkownError
      else
        return .ok

def sync (self : PosixDisk) : Effect (DiskResult Unit) := do
  match ← posix (.fsync self.fd) with
  | .error _ => return .error .unkownError
  | .ok () => return .ok

/-- `get_disk_byte_size`.  The size is an `off_t`; the result keeps its low 32
bits. -/
def getDiskByteSize (self : PosixDisk) : Effect (DiskResult UInt32) := do
  match ← posix (.stat self.filePath) with
  | .error _ => return .error .getDiskSizeError
  | .ok size =>
      if self.pageSize = 0 then
        crash .divisionByZero
      else if size % self.pageSize.toNat ≠ 0 then
        crash .assertFileSize
      else
        return .value (UInt32.ofNat size)

def truncate (self : PosixDisk) (newByteSize : UInt32) :
    Effect (DiskResult Unit) := do
  match ← posix (.truncate self.filePath newByteSize.toNat) with
  | .error _ => return .error .unkownError
  | .ok () => propIfError self.sync (return .ok)

/-- `prepare_rw`.  The result of `truncate` is not looked at. -/
def prepareRw (self : PosixDisk) (diskPageCursor : DiskPageCursor) :
    Effect (DiskResult Unit) :=
  unwrapOrPropError self.getDiskByteSize fun curByteSize => do
    let foffset := diskPageCursor.toUInt32 * self.pageSize
    let newByteSize := foffset + self.pageSize
    if newByteSize ≥ self.maxDiskSize then
      return .error .diskExceedsMaxSize
    else
      if newByteSize > curByteSize then
        let _ ← self.truncate newByteSize
      propIfError (self.seek foffset) (return .ok)

def write (self : PosixDisk) (diskPageCursor : DiskPageCursor)
    (data : List UInt8) : Effect (DiskResult Unit) :=
  propIfError (self.prepareRw diskPageCursor) do
    let numBytes := unsignedReturn
      (← posix (.write self.fd (data.take self.pageSize.toNat)))
    if numBytes ≠ self.pageSize then
      return .error .unkownError
    else
      propIfError self.sync (return .ok)

/-- `read`; the state is the caller's buffer. -/
def read (self : PosixDisk) (diskPageCursor : DiskPageCursor) :
    StateT (List UInt8) Effect (DiskResult Unit) :=
  propIfError (self.prepareRw diskPageCursor) do
    let reply ← posix (.read self.fd self.pageSize.toNat)
    if let .ok bytes := reply then
      modify fun data => bytes ++ data.drop bytes.length
    let numBytes := unsignedReturn (reply.map List.length)
    if numBytes ≠ self.pageSize then
      return .error .readDiskError
    else
      return .ok

def destroy : StateT PosixDisk Effect (DiskResult Unit) := do
  let self ← get
  match ← posix (.unlink self.filePath) with
  | .error _ => return .error .destroyDiskError
  | .ok () =>
      modify fun self => { self with shouldClose := false }
      return .ok

end PosixDisk

end Lewsql
