import Lewsql.Organizers.Tuple

/-!
# The extent of a tuple

The bytes that `serialize` stores to reach as far as the last byte of a cell,
while `size` counts one byte for a cell.
-/

namespace Lewsql

open Bytes

namespace Tuple

/-- A store that is only written down. -/
def intoLog (address : Nat) (bytes : List UInt8) :
    StateM (List (Nat × List UInt8)) Unit :=
  modify fun stores => stores ++ [(address, bytes)]

def stores (self : Tuple) (dest : Nat) : List (Nat × List UInt8) :=
  ((self.serialize intoLog dest).run []).2

def StoresTo (self : Tuple) (dest place : Nat) : Prop :=
  ∃ store ∈ self.stores dest,
    store.1 ≤ place ∧ place < store.1 + store.2.length

/-- `serialize` writes every byte of as many as `size` says, and changes no
byte outside. -/
def FillsSize (self : Tuple) (dest : Nat) (buffer : Memory) : Prop :=
  (∀ place, dest ≤ place → place < dest + self.size.toNat →
      self.StoresTo dest place) ∧
    ∀ place, place < dest ∨ dest + self.size.toNat ≤ place →
      self.serialized dest buffer place = buffer place

/-- No cell is wider than the number of cells from it on. -/
def EndsInside (self : Tuple) : Prop :=
  self.cells.length < 2 ^ 32 ∧
    ∀ index (inside : index < self.cells.length),
      index + self.cells[index].width ≤ self.cells.length

section Stores

variable {cells : List Cell} {dest place : Nat}

/-- The stores of some cells, each one byte behind the one before. -/
def cellStores : List Cell → Nat → List (Nat × List UInt8)
  | [], _ => []
  | cell :: rest, dest => (dest, cell.bytes) :: cellStores rest (dest + 1)

theorem stores_eq (self : Tuple) (dest : Nat) :
    self.stores dest = cellStores self.cells dest := by
  suffices every : ∀ cells dest earlier,
      ((serializeCells intoLog cells dest).run earlier).2 =
        earlier ++ cellStores cells dest from
    (every self.cells dest []).trans (List.nil_append _)
  intro cells
  induction cells with
  | nil =>
      intro dest earlier
      exact (List.append_nil earlier).symm
  | cons cell rest inductionHypothesis =>
      intro dest earlier
      have later :=
        inductionHypothesis (dest + 1) (earlier ++ [(dest, cell.bytes)])
      rw [List.append_assoc] at later
      refine Eq.trans ?_ later
      simp only [serializeCells, Cell.serialize, intoLog, Cell.size_eq]
      rfl

/-- The stores leave no gap. -/
theorem covered_cellStores_iff :
    (∃ store ∈ cellStores cells dest,
        store.1 ≤ place ∧ place < store.1 + store.2.length) ↔
      dest ≤ place ∧ place < dest + extent cells := by
  induction cells generalizing dest with
  | nil =>
      simp only [cellStores, extent]
      simp
  | cons cell rest inductionHypothesis =>
      have positive := cell.width_pos
      simp only [cellStores, extent]
      rw [List.exists_mem_cons_iff, inductionHypothesis,
        Cell.length_bytes]
      omega

theorem storesTo_iff (self : Tuple) :
    self.StoresTo dest place ↔
      dest ≤ place ∧ place < dest + extent self.cells := by
  simp only [StoresTo]
  rw [stores_eq, covered_cellStores_iff]

theorem serialized_outside (self : Tuple) (buffer : Memory)
    (outside : place < dest ∨ dest + extent self.cells ≤ place) :
    self.serialized dest buffer place = buffer place := by
  rw [serialized_eq]
  apply Memory.write_outside
  rw [length_image]
  exact outside

/-- A buffer that differs at every byte that is stored to. -/
theorem exists_changed (self : Tuple)
    (inside : place < extent self.cells) :
    ∃ buffer : Memory,
      self.serialized dest buffer (dest + place) ≠
        buffer (dest + place) := by
  rw [← length_image] at inside
  refine ⟨fun _ => (image self.cells)[place] + 1, ?_⟩
  rw [serialized_eq, Memory.write_inside inside]
  intro same
  exact absurd (UInt8.left_eq_add.mp same) (by decide)

theorem toNat_size (self : Tuple) :
    self.size.toNat = self.cells.length % 2 ^ 32 := by
  rw [size_eq]
  exact UInt32.toNat_ofNat'

theorem endsInside_iff (self : Tuple) :
    self.EndsInside ↔ extent self.cells ≤ self.size.toNat := by
  have longer := length_le_extent self.cells
  rw [toNat_size]
  constructor
  · intro ⟨few, inside⟩
    rw [Nat.mod_eq_of_lt few]
    exact extent_le_iff.mpr inside
  · intro enough
    have wrapped := Nat.mod_le self.cells.length (2 ^ 32)
    have below := Nat.mod_lt self.cells.length (Nat.two_pow_pos 32)
    refine ⟨by omega, extent_le_iff.mp (by omega)⟩

end Stores

/-- `size` is the extent of `serialize` exactly for the tuples with fewer than
`2 ^ 32` cells of which none is wider than the number of cells from it on. -/
theorem fills_size_iff (tuple : Tuple) (dest : Nat) :
    (∀ buffer, tuple.FillsSize dest buffer) ↔ tuple.EndsInside := by
  have longer := length_le_extent tuple.cells
  have wrapped := Nat.mod_le tuple.cells.length (2 ^ 32)
  rw [endsInside_iff]
  constructor
  · intro fills
    by_contra short
    obtain ⟨buffer, changed⟩ :=
      @exists_changed dest _ tuple (Nat.not_le.mp short)
    exact changed ((fills buffer).2 _ (Or.inr (Nat.le_refl _)))
  · intro enough buffer
    constructor
    · intro place above below
      refine tuple.storesTo_iff.mpr ⟨above, ?_⟩
      rw [toNat_size] at below
      omega
    · intro place outside
      exact tuple.serialized_outside buffer (by omega)

/-- A 16-bit cell stores its high byte behind the size of the tuple. -/
theorem wide_cell_sticks_out :
    ¬ FillsSize ⟨[.uint16TType 256]⟩ 0 fun _ => 0 := by
  intro ⟨_, outside⟩
  have same := outside 1 (Or.inr (by decide))
  exact absurd same (by decide)

end Tuple

end Lewsql
