import Mathlib.Data.Finmap
import Lewsql.DiskManager.World

/-!
# What a manager is for

`Table` is the reference model of the names and ids: a set of existing names and
a finite map from ids to names.  `PagedStore` adds the pages of every existing
disk.  Their steps say which responses an operation may give; nothing here
speaks of paths, files or descriptors.
-/

namespace Lewsql

open Interaction

/-- The existing names, the name each loaded id stands for, and all ids
returned so far. -/
structure Table where
  names : Finset DiskName
  loaded : Finmap fun _ : DiskId => DiskName
  returned : Finset DiskId

namespace Table

def empty : Table :=
  ⟨∅, ∅, ∅⟩

def handOut (table : Table) (diskId : DiskId) (diskName : DiskName) :
    Table :=
  { table with
    loaded := table.loaded.insert diskId diskName
    returned := insert diskId table.returned }

def loadedName (table : Table) (diskId : DiskId) : DiskResult DiskName :=
  match table.loaded.lookup diskId with
  | none => .error .diskNotFound
  | some diskName => .value (getDiskFullName diskName)

def Step (before : Table) : Event → Table → Prop
  | (.create diskName, response), after =>
      if diskName ∈ before.names then
        response = .diskId (.error .diskAlreadyExists) ∧ after = before
      else
        ∃ diskId, diskId ∉ before.returned ∧
          response = .diskId (.value diskId) ∧
          after =
            { before with names := insert diskName before.names }.handOut
              diskId diskName
  | (.load diskName, response), after =>
      if diskName ∈ before.names then
        ∃ diskId, diskId ∉ before.returned ∧
          response = .diskId (.value diskId) ∧
          after = before.handOut diskId diskName
      else
        response = .diskId (.error .diskNotFound) ∧ after = before
  | (.unload diskId, response), after =>
      if diskId ∈ before.loaded then
        response = .void .ok ∧
          after = { before with loaded := before.loaded.erase diskId }
      else
        response = .void (.error .diskNotFound) ∧ after = before
  | (.destroy diskId, response), after =>
      match before.loaded.lookup diskId with
      | none => response = .void (.error .diskNotFound) ∧ after = before
      | some diskName =>
          if diskName ∈ before.names then
            response = .void .ok ∧
              after =
                { before with
                  names := before.names.erase diskName
                  loaded := before.loaded.erase diskId }
          else
            response = .void (.error .diskNotFound) ∧ after = before
  | (.exists diskName, response), after =>
      response = .flag (.value (decide (diskName ∈ before.names))) ∧
        after = before
  | (.isLoaded diskId, response), after =>
      response = .flag (.value (decide (diskId ∈ before.loaded))) ∧
        after = before
  | (.loadedDiskName diskId, response), after =>
      response = .name (before.loadedName diskId) ∧ after = before
  | (.numLoadedDisks, response), after =>
      response =
          .size (.value (UInt32.ofNat before.loaded.keys.card)) ∧
        after = before
  | (.write _ _ _, _), _ => False
  | (.read _ _ _, _), _ => False
  | (.extend _, _), _ => False
  | (.diskByteSize _, _), _ => False

def machine : Machine Table Event where
  start table := table = empty
  step := Step

private theorem returned_card_handOut {table : Table} {diskId : DiskId}
    (fresh : diskId ∉ table.returned) (diskName : DiskName) :
    (table.handOut diskId diskName).returned.card =
      table.returned.card + 1 :=
  Finset.card_insert_of_notMem fresh

/-- A step adds one id when its response hands one out. -/
theorem Step.returned_card {before after : Table} {operation : Operation}
    {response : Response}
    (taken : before.Step (operation, response) after) :
    after.returned.card =
      before.returned.card + if response.handsOut then 1 else 0 := by
  cases operation with
  | create diskName =>
      by_cases member : diskName ∈ before.names
      · rw [Step, if_pos member] at taken
        obtain ⟨rfl, rfl⟩ := taken
        rfl
      · rw [Step, if_neg member] at taken
        obtain ⟨diskId, fresh, rfl, rfl⟩ := taken
        exact returned_card_handOut fresh diskName
  | load diskName =>
      by_cases member : diskName ∈ before.names
      · rw [Step, if_pos member] at taken
        obtain ⟨diskId, fresh, rfl, rfl⟩ := taken
        exact returned_card_handOut fresh diskName
      · rw [Step, if_neg member] at taken
        obtain ⟨rfl, rfl⟩ := taken
        rfl
  | unload diskId =>
      by_cases member : diskId ∈ before.loaded
      · rw [Step, if_pos member] at taken
        obtain ⟨rfl, rfl⟩ := taken
        rfl
      · rw [Step, if_neg member] at taken
        obtain ⟨rfl, rfl⟩ := taken
        rfl
  | destroy diskId =>
      cases loaded : before.loaded.lookup diskId with
      | none =>
          simp only [Step, loaded] at taken
          obtain ⟨rfl, rfl⟩ := taken
          rfl
      | some diskName =>
          by_cases member : diskName ∈ before.names
          · simp only [Step, loaded, if_pos member] at taken
            obtain ⟨rfl, rfl⟩ := taken
            rfl
          · simp only [Step, loaded, if_neg member] at taken
            obtain ⟨rfl, rfl⟩ := taken
            rfl
  | «exists» diskName =>
      obtain ⟨rfl, rfl⟩ := taken
      rfl
  | isLoaded diskId =>
      obtain ⟨rfl, rfl⟩ := taken
      rfl
  | loadedDiskName diskId =>
      obtain ⟨rfl, rfl⟩ := taken
      rfl
  | numLoadedDisks =>
      obtain ⟨rfl, rfl⟩ := taken
      rfl
  | write diskId cursor bytes => exact taken.elim
  | read diskId cursor buffer => exact taken.elim
  | extend diskId => exact taken.elim
  | diskByteSize diskId => exact taken.elim

/-- As many ids as operations handed out have been returned. -/
theorem returned_card_of_run {events : List Event} {table : Table}
    (run : machine.Run events table) :
    table.returned.card = handedOut events := by
  refine Machine.Run.invariant
    (fun events table => table.returned.card = handedOut events) ?_ ?_ run
  · intro table started
    have fresh : table = empty := started
    rw [fresh]
    rfl
  · intro events before event after _ counted taken
    obtain ⟨operation, response⟩ := event
    calc
      after.returned.card =
          before.returned.card + (if response.handsOut then 1 else 0) :=
        Step.returned_card taken
      _ = handedOut events + (if response.handsOut then 1 else 0) := by
        rw [counted]
      _ = handedOut (events ++ [(operation, response)]) :=
        (handedOut_append events (operation, response)).symm

end Table

/-- A table with the pages of its disks. -/
structure PagedStore where
  table : Table
  pages : DiskName → Nat → List UInt8

namespace PagedStore

def blankPage (pageSize : UInt32) : List UInt8 :=
  List.replicate pageSize.toNat 0

def setPage (store : PagedStore) (diskName : DiskName) (cursor : Nat)
    (bytes : List UInt8) : PagedStore :=
  { store with
    pages :=
      Function.update store.pages diskName
        (Function.update (store.pages diskName) cursor bytes) }

def diskOf (store : PagedStore) (diskId : DiskId) : Option DiskName :=
  (store.table.loaded.lookup diskId).filter
    fun diskName => diskName ∈ store.table.names

/-- The pages after an operation on the table: a disk that is created is
blank. -/
def pagesAfter (pageSize : UInt32) (store : PagedStore) :
    Operation → DiskName → Nat → List UInt8
  | .create diskName =>
      if diskName ∈ store.table.names then store.pages
      else
        Function.update store.pages diskName fun _ => blankPage pageSize
  | _ => store.pages

def Step (pageSize : UInt32) (before : PagedStore) :
    Event → PagedStore → Prop
  | (.write diskId cursor bytes, response), after =>
      match before.diskOf diskId with
      | none => response = .void (.error .diskNotFound) ∧ after = before
      | some diskName =>
          response = .void .ok ∧
            after = before.setPage diskName cursor.toNatClampNeg bytes
  | (.read diskId cursor buffer, response), after =>
      after = before ∧
        match before.diskOf diskId with
        | none => response = .buffer (.error .diskNotFound) buffer
        | some diskName =>
            response =
              .buffer .ok (before.pages diskName cursor.toNatClampNeg)
  | (operation, response), after =>
      before.table.Step (operation, response) after.table ∧
        after.pages = before.pagesAfter pageSize operation

def machine (pageSize : UInt32) : Machine PagedStore Event where
  start store := store.table = Table.empty
  step := Step pageSize

/-- A step on anything but pages is a step of the table. -/
theorem Step.table {pageSize : UInt32} {before after : PagedStore}
    {operation : Operation} {response : Response}
    (onTable : operation.OnTable)
    (taken : before.Step pageSize (operation, response) after) :
    before.table.Step (operation, response) after.table := by
  cases operation with
  | write diskId cursor bytes => exact onTable.elim
  | read diskId cursor buffer => exact onTable.elim
  | extend diskId => exact onTable.elim
  | diskByteSize diskId => exact onTable.elim
  | _ => exact taken.1

theorem Step.returned_card {pageSize : UInt32}
    {before after : PagedStore} {operation : Operation}
    {response : Response}
    (taken : before.Step pageSize (operation, response) after) :
    after.table.returned.card =
      before.table.returned.card +
        if response.handsOut then 1 else 0 := by
  cases operation with
  | write diskId cursor bytes =>
      cases disk : before.diskOf diskId with
      | none =>
          simp only [Step, disk] at taken
          obtain ⟨rfl, rfl⟩ := taken
          rfl
      | some diskName =>
          simp only [Step, disk] at taken
          obtain ⟨rfl, rfl⟩ := taken
          rfl
  | read diskId cursor buffer =>
      obtain ⟨rfl, answered⟩ := taken
      cases disk : after.diskOf diskId with
      | none =>
          simp only [disk] at answered
          rw [answered]
          rfl
      | some diskName =>
          simp only [disk] at answered
          rw [answered]
          rfl
  | _ => exact Table.Step.returned_card taken.1

/-- As many ids as operations handed out have been returned. -/
theorem returned_card_of_run {pageSize : UInt32} {events : List Event}
    {store : PagedStore} (run : (machine pageSize).Run events store) :
    store.table.returned.card = handedOut events := by
  refine Machine.Run.invariant
    (fun events store => store.table.returned.card = handedOut events)
    ?_ ?_ run
  · intro store started
    have empty : store.table = Table.empty := started
    rw [empty]
    rfl
  · intro events before event after _ counted taken
    obtain ⟨operation, response⟩ := event
    calc
      after.table.returned.card =
          before.table.returned.card +
            (if response.handsOut then 1 else 0) :=
        Step.returned_card taken
      _ = handedOut events + (if response.handsOut then 1 else 0) := by
        rw [counted]
      _ = handedOut (events ++ [(operation, response)]) :=
        (handedOut_append events (operation, response)).symm

end PagedStore

end Lewsql
