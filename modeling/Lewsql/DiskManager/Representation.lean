import Lewsql.DiskManager.Offsets
import Lewsql.DiskManager.PagedStore

/-!
# Directories and managers as paged stores

`Represents` relates the directory, the files and the loaded disks to a paged
store.  Each change of the file system or of the table of loaded disks is matched
by a change of the store.
-/

namespace Lewsql

open Interaction Posix FileSystem

/-- A file with these pages, none of them partial. -/
structure HoldsPages (pageSize : UInt32) (file : File)
    (pages : Nat → List UInt8) : Prop where
  aligned : file.size % pageSize.toNat = 0
  bounded : file.size < 2 ^ 32
  page : ∀ cursor, file.page pageSize.toNat cursor = pages cursor

namespace HoldsPages

variable {pageSize maxDiskSize : UInt32} {file : File}
variable {pages : Nat → List UInt8} {cursor : DiskPageCursor}

theorem empty :
    HoldsPages pageSize File.empty
      fun _ => PagedStore.blankPage pageSize where
  aligned := Nat.zero_mod _
  bounded := by norm_num
  page := fun cursor => File.page_empty _ cursor

theorem grow (holds : HoldsPages pageSize file pages)
    (inRange : InRange pageSize maxDiskSize cursor) :
    HoldsPages pageSize
      (file.grow
        (cursor.toNatClampNeg * pageSize.toNat + pageSize.toNat))
      pages where
  aligned := by
    rw [File.grow_size]
    exact File.max_page_mod holds.aligned
  bounded := by
    have below := inRange.end_lt
    have limit := maxDiskSize.toNat_lt
    have size := holds.bounded
    rw [File.grow_size]
    omega
  page := by
    intro other
    rw [File.page_grow]
    exact holds.page other

theorem writePage (holds : HoldsPages pageSize file pages)
    (inRange : InRange pageSize maxDiskSize cursor)
    {bytes : List UInt8} (full : bytes.length = pageSize.toNat) :
    HoldsPages pageSize
      (file.writePage pageSize.toNat cursor.toNatClampNeg bytes)
      (Function.update pages cursor.toNatClampNeg bytes) where
  aligned := by
    rw [File.writePage_size file cursor.toNatClampNeg full]
    exact File.max_page_mod holds.aligned
  bounded := by
    have below := inRange.end_lt
    have limit := maxDiskSize.toNat_lt
    have size := holds.bounded
    rw [File.writePage_size file cursor.toNatClampNeg full]
    omega
  page := by
    intro other
    by_cases same : other = cursor.toNatClampNeg
    · subst other
      rw [File.page_writePage_self file _ full, Function.update_self]
    · rw [File.page_writePage_of_ne file full (Ne.symm same),
        Function.update_of_ne same]
      exact holds.page other

end HoldsPages

/-- The manager and its directory, seen as a paged store. -/
structure Represents (base : DiskManager) (resolve : String → String)
    (world : World) (store : PagedStore) : Prop where
  resolves : world.fileSystem.resolve = resolve
  disks : ∀ diskId,
    world.manager.disks.lookup diskId =
      (store.table.loaded.lookup diskId).map getDiskFullName
  loaded_plain : ∀ diskId diskName,
    store.table.loaded.lookup diskId = some diskName → PlainName diskName
  returned_lt : ∀ diskId ∈ store.table.returned,
    diskId < world.manager.curDiskId
  returned_card :
    (store.table.returned.card : Int) = world.manager.curDiskId.toInt
  names : ∀ diskName, PlainName diskName →
    (diskName ∈ store.table.names ↔
      (world.fileSystem.lookup (base.diskPath diskName)).isSome)
  pages : ∀ diskName inode, PlainName diskName →
    world.fileSystem.lookup (base.diskPath diskName) = some inode →
      HoldsPages base.pageSize (world.fileSystem.file inode)
        (store.pages diskName)

namespace Represents

variable {base : DiskManager} {resolve : String → String}
variable {self : PosixDiskManager} {fs : FileSystem} {store : PagedStore}
variable {diskId : DiskId} {diskName : DiskName} {inode : Nat}

theorem found_of_mem
    (represents : Represents base resolve ⟨self, fs⟩ store)
    (plain : PlainName diskName)
    (member : diskName ∈ store.table.names) :
    ∃ inode, fs.lookup (base.diskPath diskName) = some inode :=
  Option.isSome_iff_exists.mp
    ((represents.names diskName plain).mp member)

theorem absent_of_notMem
    (represents : Represents base resolve ⟨self, fs⟩ store)
    (plain : PlainName diskName)
    (notMember : diskName ∉ store.table.names) :
    fs.lookup (base.diskPath diskName) = none := by
  cases found : fs.lookup (base.diskPath diskName) with
  | none => rfl
  | some inode =>
      refine absurd ((represents.names diskName plain).mpr ?_) notMember
      change (fs.lookup (base.diskPath diskName)).isSome = true
      rw [found]
      rfl

/-- A loaded id stands for the same disk on both sides. -/
theorem lookup_some
    (represents : Represents base resolve ⟨self, fs⟩ store)
    (loaded : store.table.loaded.lookup diskId = some diskName) :
    self.disks.lookup diskId = some (getDiskFullName diskName) := by
  have same := represents.disks diskId
  rw [loaded] at same
  exact same

theorem lookup_none
    (represents : Represents base resolve ⟨self, fs⟩ store)
    (unloaded : store.table.loaded.lookup diskId = none) :
    self.disks.lookup diskId = none := by
  have same := represents.disks diskId
  rw [unloaded] at same
  exact same

theorem mem_disks_iff
    (represents : Represents base resolve ⟨self, fs⟩ store) :
    diskId ∈ self.disks ↔ diskId ∈ store.table.loaded := by
  rw [← AList.lookup_isSome, ← Finmap.lookup_isSome,
    represents.disks diskId, Option.isSome_map]

/-! ### Updates on both sides -/

/-- A handed out id is the counter, which was not returned before. -/
theorem notMem_returned
    (represents : Represents base resolve ⟨self, fs⟩ store) :
    self.curDiskId ∉ store.table.returned := by
  intro member
  exact Int32.lt_irrefl (represents.returned_lt _ member)

theorem handOut
    (represents : Represents base resolve ⟨self, fs⟩ store)
    (plain : PlainName diskName)
    (room : self.curDiskId ≠ Int32.maxValue) :
    Represents base resolve
      ⟨self.insert (getDiskFullName diskName) room, fs⟩
      { store with
        table := store.table.handOut self.curDiskId diskName } where
  resolves := represents.resolves
  disks := by
    intro other
    by_cases same : other = self.curDiskId
    · subst same
      change
        (self.disks.insert self.curDiskId _).lookup self.curDiskId =
          ((store.table.loaded.insert self.curDiskId diskName).lookup
            self.curDiskId).map getDiskFullName
      rw [AList.lookup_insert, Finmap.lookup_insert]
      rfl
    · change
        (self.disks.insert self.curDiskId _).lookup other =
          ((store.table.loaded.insert self.curDiskId diskName).lookup
            other).map getDiskFullName
      rw [AList.lookup_insert_ne same, Finmap.lookup_insert_of_ne _ same]
      exact represents.disks other
  loaded_plain := by
    intro other otherName loaded
    by_cases same : other = self.curDiskId
    · subst same
      change
        (store.table.loaded.insert self.curDiskId diskName).lookup
          self.curDiskId = some otherName at loaded
      rw [Finmap.lookup_insert] at loaded
      cases loaded
      exact plain
    · change
        (store.table.loaded.insert self.curDiskId diskName).lookup
          other = some otherName at loaded
      rw [Finmap.lookup_insert_of_ne _ same] at loaded
      exact represents.loaded_plain other otherName loaded
  returned_lt := by
    intro other member
    have grown := PosixDiskManager.lt_succ_of_ne_maxValue room
    rcases Finset.mem_insert.mp member with same | old
    · subst same
      exact grown
    · exact Int32.lt_trans (represents.returned_lt other old) grown
  returned_card := by
    have counted := represents.returned_card
    change
      ((insert self.curDiskId store.table.returned).card : Int) =
        (self.curDiskId + 1).toInt
    rw [Finset.card_insert_of_notMem represents.notMem_returned,
      PosixDiskManager.toInt_succ_of_ne_maxValue room]
    push_cast
    exact congrArg (· + 1) counted
  names := represents.names
  pages := represents.pages

theorem erase
    (represents : Represents base resolve ⟨self, fs⟩ store) :
    Represents base resolve ⟨self.erase diskId, fs⟩
      { store with
        table :=
          { store.table with
            loaded := store.table.loaded.erase diskId } } where
  resolves := represents.resolves
  disks := by
    intro other
    change
      (self.disks.erase diskId).lookup other =
        ((store.table.loaded.erase diskId).lookup other).map
          getDiskFullName
    by_cases same : other = diskId
    · subst same
      rw [AList.lookup_erase, Finmap.lookup_erase]
      rfl
    · rw [AList.lookup_erase_ne same, Finmap.lookup_erase_ne same]
      exact represents.disks other
  loaded_plain := by
    intro other otherName loaded
    change (store.table.loaded.erase diskId).lookup other = _ at loaded
    by_cases same : other = diskId
    · subst same
      rw [Finmap.lookup_erase] at loaded
      cases loaded
    · rw [Finmap.lookup_erase_ne same] at loaded
      exact represents.loaded_plain other otherName loaded
  returned_lt := represents.returned_lt
  returned_card := represents.returned_card
  names := represents.names
  pages := represents.pages

/-- Different plain names have different directory entries. -/
theorem resolve_ne
    (represents : Represents base resolve ⟨self, fs⟩ store)
    (apart : KeepsNamesApart base resolve)
    {other : DiskName} (plain : PlainName diskName)
    (plainOther : PlainName other) (different : other ≠ diskName) :
    fs.resolve (base.diskPath other) ≠
      fs.resolve (base.diskPath diskName) := by
  intro same
  have resolves : fs.resolve = resolve := represents.resolves
  rw [resolves] at same
  exact different (apart other diskName plainOther plain same)

theorem link (represents : Represents base resolve ⟨self, fs⟩ store)
    (apart : KeepsNamesApart base resolve)
    (plain : PlainName diskName)
    (absent : fs.lookup (base.diskPath diskName) = none) :
    Represents base resolve ⟨self, fs.link (base.diskPath diskName)⟩
      { table :=
          { store.table with
            names := insert diskName store.table.names }
        pages :=
          Function.update store.pages diskName
            fun _ => PagedStore.blankPage base.pageSize } where
  resolves := represents.resolves
  disks := represents.disks
  loaded_plain := represents.loaded_plain
  returned_lt := represents.returned_lt
  returned_card := represents.returned_card
  names := by
    intro other plainOther
    change
      other ∈ insert diskName store.table.names ↔
        ((fs.link _).lookup (base.diskPath other)).isSome
    by_cases same : other = diskName
    · subst same
      simp
    · have different :=
        represents.resolve_ne apart plain plainOther same
      rw [Finset.mem_insert, lookup_link_of_ne fs _ _ different]
      simpa [same] using represents.names other plainOther
  pages := by
    intro other inode plainOther found
    by_cases same : other = diskName
    · subst same
      change (fs.link _).lookup _ = some inode at found
      rw [lookup_link_self] at found
      cases found
      change
        HoldsPages base.pageSize
          (Function.update fs.file fs.nextInode File.empty fs.nextInode)
          (Function.update store.pages other _ other)
      rw [Function.update_self, Function.update_self]
      exact HoldsPages.empty
    · have different :=
        represents.resolve_ne apart plain plainOther same
      change (fs.link _).lookup _ = some inode at found
      rw [lookup_link_of_ne fs _ _ different] at found
      have old : inode ≠ fs.nextInode := by
        have := fs.entry_lt _ _ found
        omega
      change
        HoldsPages base.pageSize
          (Function.update fs.file fs.nextInode File.empty inode)
          (Function.update store.pages diskName _ other)
      rw [Function.update_of_ne old, Function.update_of_ne same]
      exact represents.pages other inode plainOther found

theorem unlink (represents : Represents base resolve ⟨self, fs⟩ store)
    (apart : KeepsNamesApart base resolve)
    (plain : PlainName diskName) {descriptor : Nat} {opened : OpenFile} :
    Represents base resolve
      ⟨self,
        (fs.unlink (base.diskPath diskName)).setDescriptor descriptor
          opened⟩
      { store with
        table :=
          { store.table with
            names := store.table.names.erase diskName } } where
  resolves := represents.resolves
  disks := represents.disks
  loaded_plain := represents.loaded_plain
  returned_lt := represents.returned_lt
  returned_card := represents.returned_card
  names := by
    intro other plainOther
    change
      other ∈ store.table.names.erase diskName ↔
        ((fs.unlink _).lookup (base.diskPath other)).isSome
    by_cases same : other = diskName
    · subst same
      simp
    · have different :=
        represents.resolve_ne apart plain plainOther same
      rw [Finset.mem_erase, lookup_unlink_of_ne fs _ _ different]
      simpa [same] using represents.names other plainOther
  pages := by
    intro other inode plainOther found
    change (fs.unlink _).lookup _ = some inode at found
    by_cases same : other = diskName
    · subst same
      rw [lookup_unlink_self] at found
      cases found
    · have different :=
        represents.resolve_ne apart plain plainOther same
      rw [lookup_unlink_of_ne fs _ _ different] at found
      exact represents.pages other inode plainOther found

theorem setFile (represents : Represents base resolve ⟨self, fs⟩ store)
    (apart : KeepsNamesApart base resolve)
    (plain : PlainName diskName)
    (found : fs.lookup (base.diskPath diskName) = some inode)
    {file : File} {pages : Nat → List UInt8}
    (holds : HoldsPages base.pageSize file pages) :
    Represents base resolve ⟨self, fs.setFile inode file⟩
      { store with
        pages := Function.update store.pages diskName pages } where
  resolves := represents.resolves
  disks := represents.disks
  loaded_plain := represents.loaded_plain
  returned_lt := represents.returned_lt
  returned_card := represents.returned_card
  names := represents.names
  pages := by
    intro other otherInode plainOther foundOther
    change fs.lookup _ = some otherInode at foundOther
    by_cases same : other = diskName
    · subst same
      rw [found] at foundOther
      cases foundOther
      change
        HoldsPages base.pageSize ((fs.setFile inode file).file inode)
          (Function.update store.pages other pages other)
      rw [file_setFile_self, Function.update_self]
      exact holds
    · have different :=
        represents.resolve_ne apart plain plainOther same
      have otherFile : otherInode ≠ inode := by
        intro equal
        subst equal
        exact different (fs.entry_injective _ _ _ foundOther found)
      change
        HoldsPages base.pageSize ((fs.setFile inode file).file otherInode)
          (Function.update store.pages diskName pages other)
      rw [file_setFile_of_ne fs inode file otherFile,
        Function.update_of_ne same]
      exact represents.pages other otherInode plainOther foundOther

end Represents

end Lewsql
