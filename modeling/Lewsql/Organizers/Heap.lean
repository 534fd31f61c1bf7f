import Lewsql.BufferManager.BufferManager
import Lewsql.Organizers.Tuple

/-!
# `Heap`

A heap keeps its pages in two lists that start in the root page.  Its member
functions are programs over the calls of the disk manager and the buffer manager
and over the accesses to the bytes of a page.  A `BufferPage` is a reference to a
page that was pinned; nothing but the pointer arithmetic of the source keeps an
access inside it.  An access behind the page is undefined behaviour, which the
source does not check for; here it ends the run.
-/

namespace Lewsql

open Interaction Bytes

/-- Calls of the two managers, and accesses through a pointer into a page. -/
inductive HeapRequest where
  | create (diskName : DiskName)
  | load (diskName : DiskName)
  | unload (diskId : DiskId)
  | extend (diskId : DiskId)
  | pin (diskId : DiskId) (diskPageCursor : DiskPageCursor)
  | unpin (diskId : DiskId) (diskPageCursor : DiskPageCursor)
  | setDirty (diskId : DiskId) (diskPageCursor : DiskPageCursor)
  | readPage (diskId : DiskId) (diskPageCursor : DiskPageCursor)
      (offset count : Nat)
  | writePage (diskId : DiskId) (diskPageCursor : DiskPageCursor)
      (offset : Nat) (bytes : List UInt8)
  deriving DecidableEq, Repr

/-- A call of the disk manager may crash.  The reply to `pin` is the `page_size`
of the page, and an access past the end of a page has no result. -/
def HeapRequest.Reply : HeapRequest → Type
  | .create _ => Except Crash (DiskResult DiskId)
  | .load _ => Except Crash (DiskResult DiskId)
  | .unload _ => Except Crash (DiskResult Unit)
  | .extend _ => Except Crash (DiskResult DiskPageCursor)
  | .pin _ _ => UInt32
  | .unpin _ _ => Unit
  | .setDirty _ _ => Unit
  | .readPage _ _ _ _ => Option (List UInt8)
  | .writePage _ _ _ _ => Option Unit

def heapCalls : Signature where
  Request := HeapRequest
  Reply := HeapRequest.Reply

/-- The ways in which a member function of the heap does not return. -/
inductive HeapFailure where
  /-- In a call of the disk manager, or in unwrapping its result. -/
  | diskManager (reason : Crash)
  | thrown (errorCode : BufferManagerErrorCode)
  /-- An access behind the page: undefined behaviour, at which the source has no
  check and does not stop. -/
  | outsidePage
  | bitmap (failure : BitmapFailure)
  /-- `assert(free_disk_page != ROOT_PAGE)`. -/
  | assertNotRoot
  /-- `assert(bitmap.get_num_free_bits() > 0)`. -/
  | assertFreeBits
  /-- `assert(tuple_offset_opt.has_value())`. -/
  | assertFreeOffset
  /-- More rounds of the search loop than asked for. -/
  | outOfFuel
  deriving DecidableEq, Repr

/-- The failures that are a failed `assert` of `insert_tuple`. -/
def HeapFailure.isAssert : HeapFailure → Bool
  | .assertNotRoot => true
  | .assertFreeBits => true
  | .assertFreeOffset => true
  | _ => false

abbrev HeapEffect := Program heapCalls HeapFailure

def heapCall (request : HeapRequest) : HeapEffect request.Reply :=
  Program.perform (S := heapCalls) request

def attempt {Failure Value : Type} (failed : Failure → HeapFailure) :
    Except Failure Value → HeapEffect Value
  | .ok content => pure content
  | .error failure => crash (failed failure)

/-- `get_value` of a result of the disk manager. -/
def unwrapped {Value : Type} : DiskResult Value → HeapEffect Value
  | .value content => pure content
  | .error failure => crash (.diskManager (Result.unwrapCrash failure))

def Result.valueOr {R E : Type} {M : Type → Type} [Monad M]
    (func : E → M R) : Result R E → M R
  | .value content => pure content
  | .error failure => func failure

/-- An access through a pointer into a page.  One that has no result, as it lies
behind the page, is undefined behaviour and the end of the run. -/
def inPage {Value : Type} : Option Value → HeapEffect Value
  | some content => pure content
  | none => crash .outsidePage

/-! ## `BufferPage` -/

structure BufferPage where
  diskId : DiskId
  diskPageCursor : DiskPageCursor
  pageSize : UInt32
  deriving DecidableEq, Repr

namespace BufferPage

/-- Read from `&bytes[offset]`. -/
def readBytes (self : BufferPage) (offset count : Nat) :
    HeapEffect (List UInt8) := do
  inPage
    (← heapCall (.readPage self.diskId self.diskPageCursor offset count))

/-- Write to `&bytes[offset]`. -/
def writeBytes (self : BufferPage) (offset : Nat) (bytes : List UInt8) :
    HeapEffect Unit := do
  inPage
    (← heapCall (.writePage self.diskId self.diskPageCursor offset bytes))

/-- The check of `to_ptr`, which is about the first byte. -/
def toPtr (self : BufferPage) (offset : UInt32) : HeapEffect Nat :=
  if offset ≥ self.pageSize then
    crash (.thrown .outOfPageBounds)
  else
    return offset.toNat

/-- `to_ptr<int32_t>(offset)[0]`. -/
def loadInt32 (self : BufferPage) (offset : UInt32) :
    HeapEffect Int32 := do
  let bytes ← self.readBytes (← self.toPtr offset) 4
  return (UInt32.ofNat (ofLittleEndian bytes)).toInt32

/-- `to_ptr<uint32_t>(offset)[0] = value`. -/
def storeUInt32 (self : BufferPage) (offset value : UInt32) :
    HeapEffect Unit := do
  self.writeBytes (← self.toPtr offset) (littleEndian 4 value.toNat)

/-- `to_ptr<int32_t>(offset)[0] = value`. -/
def storeInt32 (self : BufferPage) (offset : UInt32) (value : Int32) :
    HeapEffect Unit :=
  self.storeUInt32 offset value.toUInt32

end BufferPage

def pin (diskId : DiskId) (diskPageCursor : DiskPageCursor) :
    HeapEffect BufferPage := do
  let pageSize : UInt32 ← heapCall (.pin diskId diskPageCursor)
  return ⟨diskId, diskPageCursor, pageSize⟩

def unpin (diskId : DiskId) (diskPageCursor : DiskPageCursor) :
    HeapEffect Unit :=
  heapCall (.unpin diskId diskPageCursor)

def setDirty (diskId : DiskId) (diskPageCursor : DiskPageCursor) :
    HeapEffect Unit :=
  heapCall (.setDirty diskId diskPageCursor)

/-! ## `Heap` -/

/-- The members that the member functions use. -/
structure Heap where
  tableName : DiskName
  diskId : DiskId
  pageSize : UInt32
  deriving DecidableEq, Repr

namespace Heap

def pageStartStamp : UInt32 := 1

def heapDiskSuffix : String := ".heap"

def rootPage : DiskPageCursor := 0

def firstPageHeapPageStampOffset : UInt32 := 0

def firstPageFreeListOffset : UInt32 := 4

def firstPageFullListOffset : UInt32 := 4 + 4

def fullListOffset : UInt32 := 4

def bitmapOffset : UInt32 := 4 + 4

def firstTupleOffset (bitmapSize : UInt32) : UInt32 :=
  4 + 4 + bitmapSize * 1

/-- The part of the constructor behind the disk id. -/
def writeRoot (diskId : DiskId) : HeapEffect Unit := do
  let page ← pin diskId rootPage
  page.storeUInt32 firstPageHeapPageStampOffset pageStartStamp
  page.storeInt32 firstPageFreeListOffset (-1)
  page.storeInt32 firstPageFullListOffset (-1)
  setDirty diskId rootPage
  unpin diskId rootPage

def construct (tableName : String) (pageSize : UInt32) :
    HeapEffect Heap := do
  let diskName := tableName ++ heapDiskSuffix
  let created : DiskResult DiskId ←
    attempt .diskManager (← heapCall (.create diskName))
  let diskId ← created.valueOr fun _ => do
    let loaded : DiskResult DiskId ←
      attempt .diskManager (← heapCall (.load diskName))
    unwrapped loaded
  writeRoot diskId
  return ⟨diskName, diskId, pageSize⟩

/-- `~Heap`; the result of `unload` is not looked at. -/
def destructor (self : Heap) : HeapEffect Unit := do
  let _ : DiskResult Unit ←
    attempt .diskManager (← heapCall (.unload self.diskId))
  return ()

def findFreePage (self : Heap) : HeapEffect (Option UInt32) := do
  let page ← pin self.diskId rootPage
  let freeList ← page.loadInt32 firstPageFreeListOffset
  unpin self.diskId rootPage
  if freeList = -1 then
    return none
  else
    return some freeList.toUInt32

/-- The search loop of `append_to_full_pages`: pin pages until one ends the
list. -/
def lastFullPage (self : Heap) :
    Nat → DiskPageCursor → HeapEffect BufferPage
  | 0, _ => crash .outOfFuel
  | fuel + 1, curPageCursor => do
      let curPage ← pin self.diskId curPageCursor
      if (← curPage.loadInt32 fullListOffset) = -1 then
        return curPage
      else
        let nextCurPageCursor ← curPage.loadInt32 fullListOffset
        unpin self.diskId curPageCursor
        self.lastFullPage fuel nextCurPageCursor

/-- The first part of `append_to_full_pages`: the page that ends the full list,
still pinned, and the offset of its pointer. -/
def endOfFullList (fuel : Nat) (self : Heap) :
    HeapEffect (BufferPage × UInt32) := do
  let curPage ← pin self.diskId rootPage
  if (← curPage.loadInt32 firstPageFullListOffset) = -1 then
    return (curPage, firstPageFullListOffset)
  else
    let curPageCursor ← curPage.loadInt32 firstPageFullListOffset
    unpin self.diskId rootPage
    let curPage ← self.lastFullPage fuel curPageCursor
    return (curPage, fullListOffset)

def appendToFullPages (fuel : Nat) (diskPageCursor : DiskPageCursor)
    (self : Heap) : HeapEffect Unit := do
  let (curPage, offset) ← self.endOfFullList fuel
  curPage.storeInt32 offset diskPageCursor
  setDirty self.diskId curPage.diskPageCursor
  unpin self.diskId curPage.diskPageCursor

/-- The number of bits that `insert_tuple` gives the bitmap of a page. -/
def bitmapSize (self : Heap) : UInt32 :=
  self.pageSize - (4 + 4) + 1 * 57

def tupleOffsetWithinPage (bitmap : Bitmap) (slot : UInt32)
    (tuple : Tuple) : UInt32 :=
  firstTupleOffset bitmap.numBytes + slot * tuple.size

/-- The asserts of `insert_tuple` on the bitmap of the page: the first free slot,
and the bitmap with its bit set. -/
def takeSlot (bitmap : Bitmap) : Except HeapFailure (UInt32 × Bitmap) := do
  let numFreeBits ← bitmap.getNumFreeBits.mapError .bitmap
  if ¬ numFreeBits > 0 then
    throw .assertFreeBits
  let slotOpt ← bitmap.getFirstFreeBit.mapError .bitmap
  match slotOpt with
  | none => throw .assertFreeOffset
  | some slot =>
      let bitmap ← (bitmap.setBitVal slot true).mapError .bitmap
      return (slot, bitmap)

/-- The part of `insert_tuple` that works on the page it found: take the first
free slot and write the tuple there.  The array of a bitmap with some number of
bits has `storage` bytes. -/
def placeTuple (storage : UInt32 → Nat) (tuple : Tuple)
    (freePage : BufferPage) (self : Heap) : HeapEffect Bitmap := do
  let bitmap ←
    attempt .bitmap
      (Bitmap.construct (storage self.bitmapSize) self.bitmapSize)
  let bytes ←
    freePage.readBytes bitmapOffset.toNat bitmap.numBytes.toNat
  let bitmap ← attempt .bitmap (bitmap.deserialize bytes)
  let (slot, bitmap) ← attempt id (takeSlot bitmap)
  let bytes ← attempt .bitmap bitmap.serialize
  freePage.writeBytes bitmapOffset.toNat bytes
  tuple.serialize freePage.writeBytes
    (tupleOffsetWithinPage bitmap slot tuple).toNat
  return bitmap

/-- The branch of `insert_tuple` for an empty free list. -/
def extendFreeList (self : Heap) : HeapEffect DiskPageCursor := do
  let extended : DiskResult DiskPageCursor ←
    attempt .diskManager (← heapCall (.extend self.diskId))
  let freeDiskPage ← unwrapped extended
  let page ← pin self.diskId rootPage
  page.storeInt32 firstPageFreeListOffset self.diskId
  setDirty self.diskId rootPage
  unpin self.diskId rootPage
  return freeDiskPage

/-- The first part of `insert_tuple`: the page to use. -/
def pageToUse (self : Heap) : HeapEffect DiskPageCursor := do
  match ← self.findFreePage with
  | none => self.extendFreeList
  | some freePage => return freePage.toInt32

/-- The last part of `insert_tuple`, before the page is marked. -/
def moveIfFull (fuel : Nat) (freeDiskPage : DiskPageCursor)
    (bitmap : Bitmap) (self : Heap) : HeapEffect Unit := do
  let numFreeBits ← attempt .bitmap bitmap.getNumFreeBits
  if numFreeBits = 0 then
    self.appendToFullPages fuel freeDiskPage
  else
    return ()

def insertTuple (storage : UInt32 → Nat) (fuel : Nat) (tuple : Tuple)
    (self : Heap) : HeapEffect Unit := do
  let freeDiskPage ← self.pageToUse
  if freeDiskPage = rootPage then
    crash .assertNotRoot
  else
    let freePage ← pin self.diskId freeDiskPage
    let bitmap ← self.placeTuple storage tuple freePage
    self.moveIfFull fuel freeDiskPage bitmap
    setDirty self.diskId freeDiskPage
    unpin self.diskId freeDiskPage

end Heap

end Lewsql
