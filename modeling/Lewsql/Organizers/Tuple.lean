import Lewsql.Memory.Bytes
import Mathlib.Data.Set.Function

/-!
# Cells and tuples

A cell stores a number of its own width, while its `size` is declared to be a
`bool`.  A tuple writes its cells one after another and moves its cursor by their
sizes.
-/

namespace Lewsql

open Bytes

inductive TypeList where
  | bool
  | uint8T
  | uint16T
  | uint32T
  | array
  deriving DecidableEq, Repr

/-- An object of one of the subclasses of `Type`. -/
inductive Cell where
  | uint8TType (val : UInt8)
  | uint16TType (val : UInt16)
  | uint32TType (val : UInt32)
  deriving DecidableEq, Repr

namespace Cell

def getType : Cell → TypeList
  | .uint8TType _ => .uint8T
  | .uint16TType _ => .uint16T
  | .uint32TType _ => .uint32T

/-- `sizeof` the type of `val`. -/
def width : Cell → Nat
  | .uint8TType _ => 1
  | .uint16TType _ => 2
  | .uint32TType _ => 4

/-- `size`: the `sizeof`, converted to `bool`. -/
def size (self : Cell) : Bool :=
  self.width != 0

/-- The bytes of `val` in memory. -/
def bytes : Cell → List UInt8
  | .uint8TType val => littleEndian 1 val.toNat
  | .uint16TType val => littleEndian 2 val.toNat
  | .uint32TType val => littleEndian 4 val.toNat

/-- `serialize`, with the store through `dest`. -/
def serialize {M : Type → Type} (store : Nat → List UInt8 → M Unit)
    (dest : Nat) (self : Cell) : M Unit :=
  store dest self.bytes

/-- `deserialize`: a new cell of the same class. -/
def deserialize (memory : Memory) (src : Nat) : Cell → Cell
  | .uint8TType _ =>
      .uint8TType (UInt8.ofNat (ofLittleEndian (memory.read src 1)))
  | .uint16TType _ =>
      .uint16TType (UInt16.ofNat (ofLittleEndian (memory.read src 2)))
  | .uint32TType _ =>
      .uint32TType (UInt32.ofNat (ofLittleEndian (memory.read src 4)))

end Cell

structure Tuple where
  cells : List Cell
  deriving DecidableEq, Repr

namespace Tuple

/-- The loop of `serialize`, with the cursor. -/
def serializeCells {M : Type → Type} [Monad M]
    (store : Nat → List UInt8 → M Unit) : List Cell → Nat → M Unit
  | [], _ => pure ()
  | cell :: rest, cursor => do
      cell.serialize store cursor
      serializeCells store rest (cursor + cell.size.toNat)

def serialize {M : Type → Type} [Monad M]
    (store : Nat → List UInt8 → M Unit) (dest : Nat) (self : Tuple) :
    M Unit :=
  serializeCells store self.cells dest

def size (self : Tuple) : UInt32 :=
  self.cells.foldl (fun size cell => size + UInt32.ofNat cell.size.toNat) 0

def sizeBefore (self : Tuple) (index : Nat) : Nat :=
  ((self.cells.take index).map fun cell => cell.size.toNat).sum

def intoBuffer (address : Nat) (bytes : List UInt8) :
    StateM Memory Unit :=
  modify fun memory => memory.write address bytes

def serialized (self : Tuple) (dest : Nat) (buffer : Memory) : Memory :=
  ((self.serialize intoBuffer dest).run buffer).2

end Tuple

/-! ## One cell -/

namespace Cell

variable {cell other : Cell} {memory : Memory} {src : Nat}

theorem width_pos (cell : Cell) : 0 < cell.width := by
  cases cell <;> simp [width]

@[simp]
theorem size_eq (cell : Cell) : cell.size = true := by
  cases cell <;> rfl

@[simp]
theorem length_bytes (cell : Cell) : cell.bytes.length = cell.width := by
  cases cell <;> rfl

theorem width_eq_one : cell.width = 1 ↔ cell.getType = .uint8T := by
  cases cell <;> simp [width, getType]

theorem width_of_getType (same : cell.getType = other.getType) :
    cell.width = other.width := by
  cases cell <;> cases other <;> first | rfl | cases same

theorem deserialize_of_getType (same : cell.getType = other.getType) :
    cell.deserialize memory src = other.deserialize memory src := by
  cases cell <;> cases other <;> first | rfl | cases same

private theorem ofLittleEndian_read_lt (memory : Memory)
    (src count : Nat) :
    ofLittleEndian (memory.read src count) < 256 ^ count := by
  have bound := ofLittleEndian_lt (memory.read src count)
  rwa [Memory.length_read] at bound

/-- A cell is read back where its bytes are. -/
theorem deserialize_eq_iff :
    cell.deserialize memory src = cell ↔
      memory.read src cell.width = cell.bytes := by
  cases cell with
  | uint8TType val =>
      have read :=
        ofLittleEndian_eq_iff (@Memory.length_read memory src 1)
          val.toNat_lt
      have bound : ofLittleEndian (memory.read src 1) < 2 ^ 8 :=
        ofLittleEndian_read_lt memory src 1
      refine Iff.trans ?_ read
      simp only [deserialize, uint8TType.injEq, ← UInt8.toNat_inj,
        UInt8.toNat_ofNat']
      rw [Nat.mod_eq_of_lt bound]
  | uint16TType val =>
      have read :=
        ofLittleEndian_eq_iff (@Memory.length_read memory src 2)
          val.toNat_lt
      have bound : ofLittleEndian (memory.read src 2) < 2 ^ 16 :=
        ofLittleEndian_read_lt memory src 2
      refine Iff.trans ?_ read
      simp only [deserialize, uint16TType.injEq, ← UInt16.toNat_inj,
        UInt16.toNat_ofNat']
      rw [Nat.mod_eq_of_lt bound]
  | uint32TType val =>
      have read :=
        ofLittleEndian_eq_iff (@Memory.length_read memory src 4)
          val.toNat_lt
      have bound : ofLittleEndian (memory.read src 4) < 2 ^ 32 :=
        ofLittleEndian_read_lt memory src 4
      refine Iff.trans ?_ read
      simp only [deserialize, uint32TType.injEq, ← UInt32.toNat_inj,
        UInt32.toNat_ofNat']
      rw [Nat.mod_eq_of_lt bound]

def withValue (value : Nat) : Cell → Cell
  | .uint8TType _ => .uint8TType (UInt8.ofNat value)
  | .uint16TType _ => .uint16TType (UInt16.ofNat value)
  | .uint32TType _ => .uint32TType (UInt32.ofNat value)

@[simp]
theorem getType_withValue (value : Nat) :
    (cell.withValue value).getType = cell.getType := by
  cases cell <;> rfl

end Cell

namespace Tuple

/-! ## What the writes leave -/

/-- The bytes that writing the cells leaves, from the first cell on: a later
cell lies over all bytes but the first of an earlier one. -/
def image : List Cell → List UInt8
  | [] => []
  | cell :: rest =>
      cell.bytes.take 1 ++ image rest ++
        cell.bytes.drop (1 + (image rest).length)

/-- The number of bytes that writing the cells touches. -/
def extent : List Cell → Nat
  | [] => 0
  | cell :: rest => max cell.width (1 + extent rest)

section Image

variable {cells : List Cell} {cell : Cell} {rest : List Cell}
variable {dest : Nat} {buffer : Memory}

@[simp]
theorem length_image (cells : List Cell) :
    (image cells).length = extent cells := by
  induction cells with
  | nil => rfl
  | cons cell rest inductionHypothesis =>
      have positive := cell.width_pos
      simp only [image, extent, List.length_append, List.length_take,
        List.length_drop, Cell.length_bytes, inductionHypothesis]
      omega

theorem length_le_extent (cells : List Cell) :
    cells.length ≤ extent cells := by
  induction cells with
  | nil => exact Nat.le_refl 0
  | cons cell rest inductionHypothesis =>
      rw [List.length_cons, extent]
      omega

/-- The cells end where the last of their bytes is. -/
theorem extent_le_iff {bound : Nat} :
    extent cells ≤ bound ↔
      ∀ index (inside : index < cells.length),
        index + cells[index].width ≤ bound := by
  induction cells generalizing bound with
  | nil => simp [extent]
  | cons cell rest inductionHypothesis =>
      have positive := cell.width_pos
      rw [extent, Nat.max_le]
      constructor
      · intro ⟨own, later⟩ index inside
        cases index with
        | zero =>
            rw [Nat.zero_add]
            exact own
        | succ index =>
            have shifted :=
              (@inductionHypothesis (bound - 1)).mp (by omega) index
                (by simpa using inside)
            rw [List.getElem_cons_succ]
            omega
      · intro every
        have own := every 0 (Nat.succ_pos _)
        rw [Nat.zero_add, List.getElem_cons_zero] at own
        have later : extent rest ≤ bound - 1 := by
          apply inductionHypothesis.mpr
          intro index inside
          have shifted := every (index + 1) (Nat.succ_lt_succ inside)
          rw [List.getElem_cons_succ] at shifted
          omega
        exact ⟨own, by omega⟩

theorem extent_of_types {others : List Cell}
    (same : cells.map Cell.getType = others.map Cell.getType) :
    extent cells = extent others := by
  induction cells generalizing others with
  | nil =>
      cases others with
      | nil => rfl
      | cons other others => cases same
  | cons cell rest inductionHypothesis =>
      cases others with
      | nil => cases same
      | cons other others =>
          rw [List.map_cons, List.map_cons, List.cons.injEq] at same
          rw [extent, extent, Cell.width_of_getType same.1,
            inductionHypothesis same.2]

/-- The buffer keeps everything but the image of the cells. -/
theorem serialized_eq (self : Tuple) (dest : Nat) (buffer : Memory) :
    self.serialized dest buffer = buffer.write dest (image self.cells) := by
  suffices every : ∀ cells dest buffer,
      ((serializeCells intoBuffer cells dest).run buffer).2 =
        Memory.write buffer dest (image cells) from
    every self.cells dest buffer
  intro cells
  induction cells with
  | nil =>
      intro dest buffer
      exact Memory.write_nil.symm
  | cons cell rest inductionHypothesis =>
      intro dest buffer
      have positive := cell.width_pos
      have later :=
        inductionHypothesis (dest + 1) (buffer.write dest cell.bytes)
      have within : 1 ≤ cell.bytes.length := by
        rw [Cell.length_bytes]
        exact positive
      rw [image, ← Memory.write_write_within _ within, ← later]
      simp only [serializeCells, Cell.serialize, intoBuffer, Cell.size_eq]
      rfl

theorem size_eq (self : Tuple) :
    self.size = UInt32.ofNat self.cells.length := by
  suffices every : ∀ (cells : List Cell) (start : UInt32),
      cells.foldl
          (fun size cell => size + UInt32.ofNat cell.size.toNat) start =
        start + UInt32.ofNat cells.length by
    simp only [size]
    rw [every, UInt32.zero_add]
  intro cells
  induction cells with
  | nil =>
      intro start
      exact (UInt32.add_zero start).symm
  | cons cell rest inductionHypothesis =>
      intro start
      rw [List.foldl_cons, inductionHypothesis, Cell.size_eq,
        List.length_cons, UInt32.ofNat_add, UInt32.add_assoc,
        UInt32.add_comm (UInt32.ofNat rest.length)]
      rfl

theorem sizeBefore_eq (self : Tuple) {index : Nat}
    (inside : index ≤ self.cells.length) :
    self.sizeBefore index = index := by
  simp only [sizeBefore]
  simp only [Cell.size_eq]
  rw [List.map_const', List.sum_replicate_nat, List.length_take,
    Nat.min_eq_left inside]
  exact Nat.mul_one index

end Image

/-! ## Reading the cells back -/

/-- Every cell is read back where the sizes of the cells before it lead. -/
def Decodes (tuple : Tuple) : Prop :=
  ∀ (dest : Nat) (buffer : Memory) (index : Nat)
    (inside : index < tuple.cells.length),
    tuple.cells[index].deserialize (tuple.serialized dest buffer)
        (dest + tuple.sizeBefore index) =
      tuple.cells[index]

def SameTypes (left right : Tuple) : Prop :=
  left.cells.map Cell.getType = right.cells.map Cell.getType

/-- Later cells write over a cell only the bytes it has there. -/
def Survives (cell : Cell) (later : List Cell) : Prop :=
  (image later).take (cell.width - 1) =
    (cell.bytes.drop 1).take (extent later)

/-- No byte of a cell is changed by the cells after it. -/
def Kept : List Cell → Prop
  | [] => True
  | cell :: rest => Survives cell rest ∧ Kept rest

/-- Every cell but the last is one byte wide. -/
def NarrowButLast (cells : List Cell) : Prop :=
  ∀ cell ∈ cells.dropLast, cell.getType = .uint8T

section Decoding

variable {cells : List Cell} {cell other : Cell} {rest : List Cell}

theorem narrowButLast_cons_cons :
    NarrowButLast (cell :: other :: rest) ↔
      cell.getType = .uint8T ∧ NarrowButLast (other :: rest) := by
  simp only [NarrowButLast]
  rw [List.dropLast_cons_cons, List.forall_mem_cons]

private theorem overlay_eq_iff (later tail : List UInt8) :
    (later ++ tail.drop later.length).take tail.length = tail ↔
      later.take tail.length = tail.take later.length := by
  rcases Nat.le_total later.length tail.length with shorter | longer
  · have whole :
        (later ++ tail.drop later.length).length = tail.length := by
      rw [List.length_append, List.length_drop]
      omega
    rw [List.take_of_length_le (Nat.le_of_eq whole),
      List.take_of_length_le shorter]
    constructor
    · intro same
      have first := congrArg (List.take later.length) same
      rwa [List.take_left] at first
    · intro same
      have parts := List.take_append_drop later.length tail
      rwa [← same] at parts
  · rw [List.drop_of_length_le longer, List.append_nil,
      List.take_of_length_le longer]

/-- The first cell is there as long as the others leave it. -/
theorem take_image_eq_iff :
    (image (cell :: rest)).take cell.width = cell.bytes ↔
      Survives cell rest := by
  have width := cell.length_bytes
  have positive := cell.width_pos
  cases written : cell.bytes with
  | nil =>
      rw [written, List.length_nil] at width
      omega
  | cons first tail =>
      rw [written, List.length_cons] at width
      have overlaid :
          image (cell :: rest) =
            first :: (image rest ++ tail.drop (image rest).length) := by
        rw [image, written, Nat.add_comm 1, List.drop_succ_cons]
        rfl
      calc
        (image (cell :: rest)).take cell.width = first :: tail ↔
            (image rest ++ tail.drop (image rest).length).take
              tail.length = tail := by
          rw [overlaid, ← width, List.take_succ_cons, List.cons.injEq]
          exact and_iff_right rfl
        _ ↔ (image rest).take tail.length =
              tail.take (image rest).length :=
          overlay_eq_iff _ _
        _ ↔ Survives cell rest := by
          simp only [Survives]
          rw [written, ← width, Nat.add_sub_cancel, List.drop_succ_cons,
            List.drop_zero, length_image]

private theorem drop_image_cons {index : Nat} {count : Nat}
    (within : index + count ≤ extent rest) :
    ((image (cell :: rest)).drop (index + 1)).take count =
      ((image rest).drop index).take count := by
  have positive := cell.width_pos
  have first : (cell.bytes.take 1).length = 1 := by
    rw [List.length_take, Cell.length_bytes]
    omega
  have enough : count ≤ ((image rest).drop index).length := by
    rw [List.length_drop, length_image]
    omega
  calc
    ((image (cell :: rest)).drop (index + 1)).take count =
        ((image rest ++ cell.bytes.drop (1 + (image rest).length)).drop
          index).take count := by
      rw [image, List.append_assoc, List.drop_append, first,
        Nat.add_sub_cancel, List.drop_of_length_le (by omega),
        List.nil_append]
    _ = ((image rest).drop index).take count := by
      rw [List.drop_append, List.take_append_of_le_length enough]

/-- All cells stand in the image exactly when none is changed. -/
theorem image_holds_iff :
    (∀ index (inside : index < cells.length),
        ((image cells).drop index).take cells[index].width =
          cells[index].bytes) ↔
      Kept cells := by
  induction cells with
  | nil => simp [Kept]
  | cons cell rest inductionHypothesis =>
      have ends := extent_le_iff.mp (Nat.le_refl (extent rest))
      rw [Kept, ← inductionHypothesis, ← take_image_eq_iff]
      constructor
      · intro every
        constructor
        · exact every 0 (Nat.succ_pos _)
        · intro index inside
          have shifted := every (index + 1) (Nat.succ_lt_succ inside)
          rw [List.getElem_cons_succ] at shifted
          rwa [drop_image_cons (ends index inside)] at shifted
      · intro ⟨own, later⟩ index inside
        cases index with
        | zero => exact own
        | succ index =>
            have insideRest : index < rest.length := by
              simpa using inside
            rw [List.getElem_cons_succ,
              drop_image_cons (ends index insideRest)]
            exact later index insideRest

theorem decodes_iff (tuple : Tuple) :
    Decodes tuple ↔ Kept tuple.cells := by
  have ends := extent_le_iff.mp (Nat.le_refl (extent tuple.cells))
  have read (dest : Nat) (buffer : Memory) (index : Nat)
      (inside : index < tuple.cells.length) :
      (tuple.serialized dest buffer).read (dest + tuple.sizeBefore index)
          tuple.cells[index].width =
        ((image tuple.cells).drop index).take
          tuple.cells[index].width := by
    rw [serialized_eq, sizeBefore_eq tuple (Nat.le_of_lt inside)]
    apply Memory.read_write_within
    rw [length_image]
    exact ends index inside
  rw [← image_holds_iff]
  constructor
  · intro decodes index inside
    have same :=
      Cell.deserialize_eq_iff.mp (decodes 0 (fun _ => 0) index inside)
    rwa [read] at same
  · intro stands dest buffer index inside
    rw [Cell.deserialize_eq_iff, read]
    exact stands index inside

theorem narrowButLast_of_types {others : List Cell}
    (same : cells.map Cell.getType = others.map Cell.getType)
    (narrow : NarrowButLast cells) : NarrowButLast others := by
  intro cell member
  have types :
      cells.dropLast.map Cell.getType = others.dropLast.map Cell.getType := by
    rw [List.map_dropLast, List.map_dropLast, same]
  have typeMember := List.mem_map_of_mem (f := Cell.getType) member
  rw [← types] at typeMember
  obtain ⟨original, originalMember, sameType⟩ := List.mem_map.mp typeMember
  rw [← sameType]
  exact narrow original originalMember

theorem kept_of_narrowButLast (narrow : NarrowButLast cells) :
    Kept cells := by
  induction cells with
  | nil => exact True.intro
  | cons cell rest inductionHypothesis =>
      cases rest with
      | nil =>
          refine ⟨?_, True.intro⟩
          rw [Survives, image, List.take_nil, extent, List.take_zero]
      | cons other rest =>
          obtain ⟨first, later⟩ := narrowButLast_cons_cons.mp narrow
          refine ⟨?_, inductionHypothesis later⟩
          have one := Cell.width_eq_one.mpr first
          have short : cell.bytes.length ≤ 1 := by
            rw [Cell.length_bytes, one]
          rw [Survives, one, List.drop_of_length_le short, List.take_nil,
            List.take_zero]

private theorem image_head? :
    (image (cell :: rest))[0]? = cell.bytes[0]? := by
  have width := cell.length_bytes
  have positive := cell.width_pos
  cases written : cell.bytes with
  | nil =>
      rw [written, List.length_nil] at width
      omega
  | cons first tail =>
      rw [image, written]
      rfl

/-- The second byte of a wide cell is the first of the next cell. -/
private theorem second_of_survives (wide : cell.getType ≠ .uint8T)
    (survives : Survives cell (other :: rest)) :
    cell.bytes[1]? = other.bytes[0]? := by
  have width : 0 < cell.width - 1 := by
    have positive := cell.width_pos
    have notOne := mt Cell.width_eq_one.mp wide
    omega
  have some : 0 < extent (other :: rest) := by
    rw [extent]
    omega
  have first := congrArg (fun bytes => bytes[0]?) survives
  rw [List.getElem?_take_of_lt width, List.getElem?_take_of_lt some,
    List.getElem?_drop, image_head?] at first
  exact first.symm

private theorem bytes_withValue (wide : cell.getType ≠ .uint8T) :
    ∃ tail, (cell.withValue 0).bytes = 0 :: 0 :: tail ∧
      (cell.withValue 256).bytes = 0 :: 1 :: tail := by
  cases cell with
  | uint8TType val => exact absurd rfl wide
  | uint16TType val => exact ⟨_, rfl, rfl⟩
  | uint32TType val => exact ⟨_, rfl, rfl⟩

private theorem bytes_withValue_one (cell : Cell) :
    ∃ tail, (cell.withValue 1).bytes = 1 :: tail := by
  cases cell <;> exact ⟨_, rfl⟩

/-- If all tuples of some types are kept, their columns are narrow. -/
theorem narrowButLast_of_kept
    (every : ∀ others : List Cell,
      others.map Cell.getType = cells.map Cell.getType → Kept others) :
    NarrowButLast cells := by
  induction cells with
  | nil => simp [NarrowButLast]
  | cons cell rest inductionHypothesis =>
      have later : NarrowButLast rest := by
        apply inductionHypothesis
        intro others same
        have kept :=
          every (cell :: others) (by rw [List.map_cons, List.map_cons, same])
        exact kept.2
      cases rest with
      | nil => simp [NarrowButLast]
      | cons other rest =>
          refine narrowButLast_cons_cons.mpr ⟨?_, later⟩
          by_contra wide
          have kept :=
            every (cell.withValue 0 :: other.withValue 1 :: rest) (by simp)
          obtain ⟨tail, zeros, _⟩ := bytes_withValue wide
          obtain ⟨more, one⟩ := bytes_withValue_one other
          have same := second_of_survives (by simpa using wide) kept.1
          rw [zeros, one] at same
          cases same

/-- The second byte of a cell does not count when a cell follows. -/
private theorem image_eq_of_second {left right : Cell}
    {first second third : UInt8} {tail : List UInt8}
    (leftBytes : left.bytes = first :: second :: tail)
    (rightBytes : right.bytes = first :: third :: tail) :
    image (left :: other :: rest) = image (right :: other :: rest) := by
  have covered : 0 < (image (other :: rest)).length := by
    rw [length_image, extent]
    omega
  rw [image, image.eq_2 right, leftBytes, rightBytes]
  obtain ⟨count, length⟩ :=
    Nat.exists_eq_succ_of_ne_zero (Nat.ne_of_gt covered)
  rw [length, Nat.add_comm 1]
  rfl

/-- If the image tells all tuples of some types apart, their columns are
narrow. -/
theorem narrowButLast_of_image_injective
    (every : ∀ left right : List Cell,
      left.map Cell.getType = cells.map Cell.getType →
        right.map Cell.getType = cells.map Cell.getType →
          image left = image right → left = right) :
    NarrowButLast cells := by
  induction cells with
  | nil => simp [NarrowButLast]
  | cons cell rest inductionHypothesis =>
      have later : NarrowButLast rest := by
        apply inductionHypothesis
        intro left right leftTypes rightTypes same
        have equal :=
          every (cell :: left) (cell :: right)
            (by rw [List.map_cons, List.map_cons, leftTypes])
            (by rw [List.map_cons, List.map_cons, rightTypes])
            (by rw [image, image, same])
        exact (List.cons.inj equal).2
      cases rest with
      | nil => simp [NarrowButLast]
      | cons other rest =>
          refine narrowButLast_cons_cons.mpr ⟨?_, later⟩
          by_contra wide
          obtain ⟨tail, zeros, spread⟩ := bytes_withValue wide
          have equal :=
            every (cell.withValue 0 :: other :: rest)
              (cell.withValue 256 :: other :: rest) (by simp) (by simp)
              (image_eq_of_second zeros spread)
          have bytes := congrArg Cell.bytes (List.cons.inj equal).1
          rw [zeros, spread] at bytes
          cases bytes

/-- Tuples that are read back and leave the same buffer are the same. -/
theorem eq_of_serialized {left right : Tuple} (types : SameTypes left right)
    (leftDecodes : Decodes left) (rightDecodes : Decodes right)
    {dest : Nat} {buffer : Memory}
    (same : left.serialized dest buffer = right.serialized dest buffer) :
    left = right := by
  have lengths : left.cells.length = right.cells.length := by
    have mapped := congrArg List.length types
    rwa [List.length_map, List.length_map] at mapped
  have cells : left.cells = right.cells := by
    apply List.ext_getElem lengths
    intro index insideLeft insideRight
    have sameType :
        left.cells[index].getType = right.cells[index].getType := by
      have mapped := congrArg (fun types => types[index]?) types
      simpa [insideLeft, insideRight] using mapped
    have leftCell := leftDecodes dest buffer index insideLeft
    have rightCell := rightDecodes dest buffer index insideRight
    rw [sizeBefore_eq _ (Nat.le_of_lt insideLeft)] at leftCell
    rw [sizeBefore_eq _ (Nat.le_of_lt insideRight)] at rightCell
    rw [← leftCell, ← rightCell, same]
    exact Cell.deserialize_of_getType sameType
  cases left
  cases right
  exact congrArg Tuple.mk cells

end Decoding

/-- A tuple is read back exactly when no later cell changes a byte of an earlier
one.  For all tuples of some column types, and for `serialize` to be injective on
them, every column but the last has to be one byte wide. -/
theorem tuple_decodes_iff (tuple : Tuple) :
    (Decodes tuple ↔ Kept tuple.cells) ∧
      ((∀ other, SameTypes other tuple → Decodes other) ↔
        NarrowButLast tuple.cells) ∧
      ((∀ dest buffer,
          Set.InjOn (fun other : Tuple => other.serialized dest buffer)
            {other | SameTypes other tuple}) ↔
        NarrowButLast tuple.cells) := by
  have decodesAll (narrow : NarrowButLast tuple.cells) (other : Tuple)
      (types : SameTypes other tuple) : Decodes other :=
    (decodes_iff other).mpr
      (kept_of_narrowButLast (narrowButLast_of_types types.symm narrow))
  refine ⟨decodes_iff tuple, ⟨?_, decodesAll⟩, ?_, ?_⟩
  · intro every
    apply narrowButLast_of_kept
    intro others types
    exact (decodes_iff ⟨others⟩).mp (every ⟨others⟩ types)
  · intro injective
    apply narrowButLast_of_image_injective
    intro left right leftTypes rightTypes same
    have sameBuffer :
        (Tuple.mk left).serialized 0 (fun _ => 0) =
          (Tuple.mk right).serialized 0 (fun _ => 0) := by
      rw [serialized_eq, serialized_eq]
      exact congrArg _ same
    have equal :=
      @injective 0 (fun _ => 0) ⟨left⟩ leftTypes ⟨right⟩ rightTypes
        sameBuffer
    exact congrArg Tuple.cells equal
  · intro narrow dest buffer left leftTypes right rightTypes same
    exact eq_of_serialized (leftTypes.trans rightTypes.symm)
      (decodesAll narrow left leftTypes)
      (decodesAll narrow right rightTypes) same

/-- A 16-bit cell in front of another cell loses its high byte. -/
theorem wide_cell_not_decoded :
    ¬ Decodes ⟨[.uint16TType 256, .uint8TType 0]⟩ := by
  rw [decodes_iff]
  intro kept
  have changed := kept.1
  revert changed
  simp only [Survives]
  decide

end Tuple

end Lewsql
