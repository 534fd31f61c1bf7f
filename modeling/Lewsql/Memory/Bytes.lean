import Mathlib.Algebra.Order.Group.Nat
import Mathlib.Data.List.Basic
import Mathlib.Data.List.Range
import Mathlib.Data.UInt
import Mathlib.Tactic.Ring

/-!
# Byte memories

A memory has a byte at every address.  A block of bytes is written over a range
of addresses and read from one, and a number stands in memory with its lowest
byte first.
-/

namespace Bytes

abbrev Memory := Nat → UInt8

namespace Memory

def write (memory : Memory) (address : Nat) (bytes : List UInt8) :
    Memory :=
  fun other =>
    if address ≤ other then
      (bytes[other - address]?).getD (memory other)
    else memory other

def read (memory : Memory) (address count : Nat) : List UInt8 :=
  (List.range count).map fun index => memory (address + index)

section Access

variable {memory other : Memory} {address start count index : Nat}
variable {bytes : List UInt8}

@[simp]
theorem length_read : (memory.read address count).length = count := by
  simp [read]

theorem getElem_read (inside : index < (memory.read address count).length) :
    (memory.read address count)[index] = memory (address + index) := by
  simp [read]

theorem read_eq_iff :
    memory.read address count = bytes ↔
      bytes.length = count ∧
        ∀ index (inside : index < bytes.length),
          memory (address + index) = bytes[index] := by
  constructor
  · intro same
    subst same
    exact ⟨length_read, fun index inside => (getElem_read inside).symm⟩
  · intro ⟨length, same⟩
    apply List.ext_getElem
    · rw [length_read, length]
    · intro index insideRead inside
      rw [getElem_read, same]

/-- Two memories read alike where they agree. -/
theorem read_congr
    (same : ∀ index < count,
      memory (address + index) = other (address + index)) :
    memory.read address count = other.read address count := by
  simp only [read]
  apply List.map_congr_left
  intro index member
  exact same index (List.mem_range.mp member)

theorem take_read (fewer : index ≤ count) :
    (memory.read address count).take index = memory.read address index := by
  simp only [read]
  rw [← List.map_take, List.take_range, Nat.min_eq_left fewer]

@[simp]
theorem write_nil : memory.write address [] = memory := by
  funext place
  simp [write]

theorem write_inside (inside : index < bytes.length) :
    memory.write address bytes (address + index) = bytes[index] := by
  simp only [write]
  rw [if_pos (Nat.le_add_right _ _), Nat.add_sub_cancel_left,
    List.getElem?_eq_getElem inside, Option.getD_some]

theorem write_outside
    (outside : start < address ∨ address + bytes.length ≤ start) :
    memory.write address bytes start = memory start := by
  simp only [write]
  by_cases below : address ≤ start
  · rw [if_pos below, List.getElem?_eq_none (by omega), Option.getD_none]
  · rw [if_neg below]

@[simp]
theorem read_write_self :
    (memory.write address bytes).read address bytes.length = bytes :=
  read_eq_iff.mpr ⟨rfl, fun _ inside => write_inside inside⟩

theorem read_write_of_length (length : bytes.length = count) :
    (memory.write address bytes).read address count = bytes := by
  rw [← length, read_write_self]

theorem read_write_apart
    (apart : start + count ≤ address ∨ address + bytes.length ≤ start) :
    (memory.write address bytes).read start count =
      memory.read start count := by
  apply read_congr
  intro index inside
  exact write_outside (by omega)

theorem read_write_within (within : index + count ≤ bytes.length) :
    (memory.write address bytes).read (address + index) count =
      (bytes.drop index).take count := by
  rw [read_eq_iff]
  have length : ((bytes.drop index).take count).length = count := by
    rw [List.length_take, List.length_drop]
    omega
  refine ⟨length, ?_⟩
  intro place inside
  rw [length] at inside
  rw [Nat.add_assoc, write_inside (by omega), List.getElem_take,
    List.getElem_drop]

/-- A later block over an earlier one, from one of its bytes on. -/
theorem write_write_within (later : List UInt8)
    (within : index ≤ bytes.length) :
    (memory.write address bytes).write (address + index) later =
      memory.write address
        (bytes.take index ++ later ++
          bytes.drop (index + later.length)) := by
  funext place
  have lengths :
      (bytes.take index ++ later ++
          bytes.drop (index + later.length)).length =
        max bytes.length (index + later.length) := by
    rw [List.length_append, List.length_append, List.length_take,
      List.length_drop]
    omega
  by_cases below : place < address
  · rw [write_outside (Or.inl (by omega)), write_outside (Or.inl below),
      write_outside (Or.inl below)]
  obtain ⟨offset, rfl⟩ := Nat.exists_eq_add_of_le (Nat.le_of_not_lt below)
  by_cases first : offset < index
  · rw [write_outside (Or.inl (by omega)), write_inside (by omega),
      write_inside (by omega), List.getElem_append_left (by
        rw [List.length_append, List.length_take]; omega),
      List.getElem_append_left (by rw [List.length_take]; omega),
      List.getElem_take]
  by_cases second : offset < index + later.length
  · have split : address + offset =
        address + index + (offset - index) := by omega
    rw [split, write_inside (by omega), ← split, write_inside (by omega),
      List.getElem_append_left (by
        rw [List.length_append, List.length_take]; omega),
      List.getElem_append_right (by rw [List.length_take]; omega)]
    congr 1
    rw [List.length_take]
    omega
  rw [write_outside (Or.inr (by omega))]
  by_cases third : offset < bytes.length
  · have prefixLength :
        (bytes.take index ++ later).length = index + later.length := by
      rw [List.length_append, List.length_take]
      omega
    rw [write_inside third, write_inside (by omega),
      List.getElem_append_right (by omega), List.getElem_drop]
    congr 1
    omega
  · rw [write_outside (Or.inr (by omega)),
      write_outside (Or.inr (by omega))]

end Access

end Memory

/-! ## Numbers -/

/-- The `count` lowest bytes of a number, the lowest first. -/
def littleEndian : Nat → Nat → List UInt8
  | 0, _ => []
  | count + 1, value =>
      UInt8.ofNat value :: littleEndian count (value / 256)

def ofLittleEndian : List UInt8 → Nat
  | [] => 0
  | byte :: rest => byte.toNat + 256 * ofLittleEndian rest

@[simp]
theorem length_littleEndian (count value : Nat) :
    (littleEndian count value).length = count := by
  induction count generalizing value with
  | zero => rfl
  | succ count inductionHypothesis =>
      rw [littleEndian, List.length_cons, inductionHypothesis]

theorem ofLittleEndian_littleEndian (count value : Nat) :
    ofLittleEndian (littleEndian count value) = value % 256 ^ count := by
  induction count generalizing value with
  | zero => rw [pow_zero, Nat.mod_one]; rfl
  | succ count inductionHypothesis =>
      rw [littleEndian, ofLittleEndian, inductionHypothesis, pow_succ',
        Nat.mod_mul]
      rfl

theorem ofLittleEndian_lt (bytes : List UInt8) :
    ofLittleEndian bytes < 256 ^ bytes.length := by
  induction bytes with
  | nil => exact Nat.one_pos
  | cons byte rest inductionHypothesis =>
      have low := byte.toNat_lt
      rw [ofLittleEndian, List.length_cons, pow_succ']
      omega

theorem littleEndian_ofLittleEndian (bytes : List UInt8) :
    littleEndian bytes.length (ofLittleEndian bytes) = bytes := by
  induction bytes with
  | nil => rfl
  | cons byte rest inductionHypothesis =>
      have low := byte.toNat_lt
      have quotient :
          (byte.toNat + 256 * ofLittleEndian rest) / 256 =
            ofLittleEndian rest := by
        omega
      have lowest :
          UInt8.ofNat (byte.toNat + 256 * ofLittleEndian rest) = byte := by
        apply UInt8.toNat_inj.mp
        rw [UInt8.toNat_ofNat']
        omega
      rw [List.length_cons, ofLittleEndian, littleEndian, quotient, lowest,
        inductionHypothesis]

theorem ofLittleEndian_eq_iff {bytes : List UInt8} {count value : Nat}
    (length : bytes.length = count) (small : value < 256 ^ count) :
    ofLittleEndian bytes = value ↔ bytes = littleEndian count value := by
  subst length
  constructor
  · intro same
    rw [← same, littleEndian_ofLittleEndian]
  · intro same
    rw [same, ofLittleEndian_littleEndian, Nat.mod_eq_of_lt small]

end Bytes
