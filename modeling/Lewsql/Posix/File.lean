import Mathlib.Data.List.Basic
import Mathlib.Data.List.GetD

/-!
# Contents of a regular file

A file is a size and the bytes below it.  The bytes are a function, so a file
may be as large as a 64-bit offset allows without being listed.  A page is a
run of bytes at a multiple of the page size; past the end it reads as zeros,
which is what growing the file would put there.
-/

namespace Posix

/-- A regular file: its size and its bytes, zero past the end. -/
@[ext]
structure File where
  size : Nat
  byte : Nat → UInt8
  zero_past_end : ∀ position, size ≤ position → byte position = 0

namespace File

def empty : File where
  size := 0
  byte := fun _ => 0
  zero_past_end := fun _ _ => rfl

/-- `truncate`: cut the file, or grow it with zeros. -/
def resize (file : File) (length : Nat) : File where
  size := length
  byte := fun position =>
    if position < length then file.byte position else 0
  zero_past_end := by
    intro position past
    rw [if_neg (by omega)]

/-- `write` of some bytes at an offset. -/
def writeAt (file : File) (offset : Nat) (bytes : List UInt8) : File where
  size :=
    if bytes.length = 0 then file.size
    else max file.size (offset + bytes.length)
  byte := fun position =>
    if offset ≤ position ∧ position < offset + bytes.length then
      bytes.getD (position - offset) 0
    else
      file.byte position
  zero_past_end := by
    intro position past
    by_cases none : bytes.length = 0
    · rw [if_pos none] at past
      rw [if_neg (by omega)]
      exact file.zero_past_end position past
    · rw [if_neg none] at past
      rw [if_neg (by omega)]
      exact file.zero_past_end position (by omega)

/-- `read` of at most `count` bytes at an offset. -/
def readAt (file : File) (offset count : Nat) : List UInt8 :=
  (List.range (min count (file.size - offset))).map fun position =>
    file.byte (offset + position)

/-- The bytes of one page, zeros where the file does not reach. -/
def page (file : File) (pageSize cursor : Nat) : List UInt8 :=
  (List.range pageSize).map fun position =>
    file.byte (cursor * pageSize + position)

def grow (file : File) (length : Nat) : File :=
  if file.size < length then file.resize length else file

/-- Replace one page of a file that is first made to contain it. -/
def writePage (file : File) (pageSize cursor : Nat)
    (bytes : List UInt8) : File :=
  (file.grow (cursor * pageSize + pageSize)).writeAt (cursor * pageSize)
    bytes

@[simp]
theorem empty_size : empty.size = 0 :=
  rfl

@[simp]
theorem resize_size (file : File) (length : Nat) :
    (file.resize length).size = length :=
  rfl

theorem writeAt_size (file : File) (offset : Nat) (bytes : List UInt8) :
    (file.writeAt offset bytes).size =
      if bytes.length = 0 then file.size
      else max file.size (offset + bytes.length) :=
  rfl

theorem writeAt_byte (file : File) (offset : Nat) (bytes : List UInt8)
    (position : Nat) :
    (file.writeAt offset bytes).byte position =
      if offset ≤ position ∧ position < offset + bytes.length then
        bytes.getD (position - offset) 0
      else
        file.byte position :=
  rfl

/-- Growing a file changes none of its bytes. -/
theorem resize_byte_of_le {file : File} {length : Nat}
    (grows : file.size ≤ length) (position : Nat) :
    (file.resize length).byte position = file.byte position := by
  by_cases below : position < length
  · exact if_pos below
  · have past : file.byte position = 0 :=
      file.zero_past_end position (by omega)
    rw [past]
    exact if_neg below

@[simp]
theorem readAt_length (file : File) (offset count : Nat) :
    (file.readAt offset count).length =
      min count (file.size - offset) := by
  simp [readAt]

@[simp]
theorem page_length (file : File) (pageSize cursor : Nat) :
    (file.page pageSize cursor).length = pageSize := by
  simp [page]

/-- A page that lies inside the file is what `read` returns there. -/
theorem readAt_eq_page {file : File} {pageSize cursor : Nat}
    (inside : cursor * pageSize + pageSize ≤ file.size) :
    file.readAt (cursor * pageSize) pageSize =
      file.page pageSize cursor := by
  have whole :
      min pageSize (file.size - cursor * pageSize) = pageSize := by
    omega
  rw [readAt, whole, page]

theorem page_empty (pageSize cursor : Nat) :
    empty.page pageSize cursor = List.replicate pageSize 0 := by
  simp [page, empty]

/-- A written page reads back as written. -/
theorem page_writeAt_self (file : File) {pageSize : Nat} (cursor : Nat)
    {bytes : List UInt8} (full : bytes.length = pageSize) :
    (file.writeAt (cursor * pageSize) bytes).page pageSize cursor =
      bytes := by
  apply List.ext_getElem
  · rw [page_length, full]
  · intro position inPage inBytes
    rw [page_length] at inPage
    simp only [page, List.getElem_map, List.getElem_range, writeAt_byte]
    rw [if_pos (by omega)]
    have back :
        cursor * pageSize + position - cursor * pageSize = position := by
      omega
    rw [back, List.getD_eq_getElem _ _ inBytes]

/-- Different pages are disjoint byte ranges. -/
theorem page_disjoint {pageSize left right position : Nat}
    (different : left ≠ right) (inPage : position < pageSize) :
    ¬ (left * pageSize ≤ right * pageSize + position ∧
      right * pageSize + position < left * pageSize + pageSize) := by
  rcases Nat.lt_or_gt_of_ne different with below | above
  · have step : (left + 1) * pageSize ≤ right * pageSize :=
      Nat.mul_le_mul_right pageSize below
    rw [Nat.add_mul] at step
    omega
  · have step : (right + 1) * pageSize ≤ left * pageSize :=
      Nat.mul_le_mul_right pageSize above
    rw [Nat.add_mul] at step
    omega

/-- Writing one page leaves every other page alone. -/
theorem page_writeAt_of_ne (file : File) {pageSize cursor other : Nat}
    {bytes : List UInt8} (full : bytes.length = pageSize)
    (different : cursor ≠ other) :
    (file.writeAt (cursor * pageSize) bytes).page pageSize other =
      file.page pageSize other := by
  simp only [page]
  apply List.map_congr_left
  intro position member
  have inPage : position < pageSize := List.mem_range.mp member
  rw [writeAt_byte, full, if_neg (page_disjoint different inPage)]

/-- A write inside the file keeps its size. -/
theorem writeAt_size_of_inside {file : File} {offset : Nat}
    {bytes : List UInt8} (inside : offset + bytes.length ≤ file.size) :
    (file.writeAt offset bytes).size = file.size := by
  rw [writeAt_size]
  by_cases none : bytes.length = 0
  · exact if_pos none
  · rw [if_neg none]
    omega

theorem grow_size (file : File) (length : Nat) :
    (file.grow length).size = max file.size length := by
  simp only [grow]
  by_cases short : file.size < length
  · rw [if_pos short, resize_size]
    omega
  · rw [if_neg short]
    omega

@[simp]
theorem grow_byte (file : File) (length : Nat) :
    (file.grow length).byte = file.byte := by
  funext position
  simp only [grow]
  by_cases short : file.size < length
  · rw [if_pos short]
    exact resize_byte_of_le (Nat.le_of_lt short) position
  · rw [if_neg short]

@[simp]
theorem page_grow (file : File) (length pageSize cursor : Nat) :
    (file.grow length).page pageSize cursor =
      file.page pageSize cursor := by
  simp only [page]
  rw [grow_byte]

theorem writePage_size (file : File) {pageSize : Nat} (cursor : Nat)
    {bytes : List UInt8} (full : bytes.length = pageSize) :
    (file.writePage pageSize cursor bytes).size =
      max file.size (cursor * pageSize + pageSize) := by
  simp only [writePage]
  rw [writeAt_size_of_inside, grow_size]
  rw [grow_size, full]
  omega

theorem page_writePage_self (file : File) {pageSize : Nat} (cursor : Nat)
    {bytes : List UInt8} (full : bytes.length = pageSize) :
    (file.writePage pageSize cursor bytes).page pageSize cursor = bytes :=
  page_writeAt_self _ cursor full

theorem page_writePage_of_ne (file : File) {pageSize cursor other : Nat}
    {bytes : List UInt8} (full : bytes.length = pageSize)
    (different : cursor ≠ other) :
    (file.writePage pageSize cursor bytes).page pageSize other =
      file.page pageSize other := by
  simp only [writePage]
  rw [page_writeAt_of_ne _ full different, page_grow]

/-- Making room for one more page keeps a whole number of pages. -/
theorem max_page_mod {size pageSize cursor : Nat}
    (aligned : size % pageSize = 0) :
    max size (cursor * pageSize + pageSize) % pageSize = 0 := by
  rcases Nat.le_total size (cursor * pageSize + pageSize) with le | le
  · rw [Nat.max_eq_right le, Nat.add_mod_right, Nat.mul_mod_left]
  · rw [Nat.max_eq_left le]
    exact aligned

end File

end Posix
