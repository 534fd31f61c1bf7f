import Lewsql.Interaction.Pairing
import Lewsql.Posix.FileSystem

/-!
# Two file systems for one user

A process group that uses some of the names only, and one open descriptor at a
time, cannot tell a file system from another one with the same files under these
names.  The numbers of descriptors and inodes may differ; the calls and replies in
the two file systems belong together, and whatever a call changes is under these
names or behind the open descriptor.
-/

namespace Posix

open Interaction FileSystem

abbrev HeldPair := Option (Nat × Nat)

/-- Calls that use the names that are owned, and the descriptor that is held.  The
replies are the same, except for the number of a descriptor. -/
def pairing (resolve : String → String) (owns : String → Prop) :
    Pairing calls HeldPair where
  asks held left right :=
    match left, right with
    | .access path, .access other => owns (resolve path) ∧ other = path
    | .openFile path, .openFile other =>
        owns (resolve path) ∧ other = path ∧ held = none
    | .close descriptor, .close other => held = some (descriptor, other)
    | .stat path, .stat other => owns (resolve path) ∧ other = path
    | .truncate path length, .truncate other size =>
        owns (resolve path) ∧ other = path ∧ size = length
    | .lseek descriptor offset, .lseek other position =>
        held = some (descriptor, other) ∧ position = offset
    | .write descriptor bytes, .write other data =>
        held = some (descriptor, other) ∧ data = bytes
    | .read descriptor count, .read other size =>
        held = some (descriptor, other) ∧ size = count
    | .fsync descriptor, .fsync other => held = some (descriptor, other)
    | .unlink path, .unlink other => owns (resolve path) ∧ other = path
    | _, _ => False
  answers held left right :=
    match left, right with
    | .access _, .access _ => fun reply answer after =>
        answer = reply ∧ after = held
    | .openFile _, .openFile _ => fun reply answer after =>
        match reply, answer with
        | .ok descriptor, .ok other => after = some (descriptor, other)
        | .error number, .error same => same = number ∧ after = held
        | _, _ => False
    | .close _, .close _ => fun reply answer after =>
        answer = reply ∧ after = none
    | .stat _, .stat _ => fun reply answer after =>
        answer = reply ∧ after = held
    | .truncate _ _, .truncate _ _ => fun reply answer after =>
        answer = reply ∧ after = held
    | .lseek _ _, .lseek _ _ => fun reply answer after =>
        answer = reply ∧ after = held
    | .write _ _, .write _ _ => fun reply answer after =>
        answer = reply ∧ after = held
    | .read _ _, .read _ _ => fun reply answer after =>
        answer = reply ∧ after = held
    | .fsync _, .fsync _ => fun reply answer after =>
        answer = reply ∧ after = held
    | .unlink _, .unlink _ => fun reply answer after =>
        answer = reply ∧ after = held
    | _, _ => fun _ _ _ => False

namespace FileSystem

/-- Two inodes for the same file under the names that are owned. -/
structure Partners (owns : String → Prop) (shared alone : FileSystem)
    (inode partner : Nat) : Prop where
  file : shared.file inode = alone.file partner
  entry : ∀ name, owns name →
    (shared.entry name = some inode ↔ alone.entry name = some partner)

/-- An open descriptor in both, at the same offset of the same file. -/
structure Holding (owns : String → Prop) (shared alone : FileSystem)
    (descriptor other inode partner offset : Nat) : Prop where
  left : shared.descriptors.lookup descriptor = some ⟨inode, offset⟩
  right : alone.descriptors.lookup other = some ⟨partner, offset⟩
  partners : Partners owns shared alone inode partner
  place : ∀ name, shared.entry name = some inode → owns name
  old : inode < shared.nextInode

/-- The user of the names cannot tell the two apart. -/
structure Alike (owns : String → Prop) (held : HeldPair)
    (shared alone : FileSystem) : Prop where
  resolve : alone.resolve = shared.resolve
  entry : ∀ name, owns name →
    (shared.entry name = none ∧ alone.entry name = none) ∨
      ∃ inode partner, shared.entry name = some inode ∧
        alone.entry name = some partner ∧
        shared.file inode = alone.file partner
  held : ∀ descriptor other, held = some (descriptor, other) →
    ∃ inode partner offset,
      Holding owns shared alone descriptor other inode partner offset

section Alike

variable {owns : String → Prop} {held : HeldPair} {shared alone : FileSystem}
variable {path name : String} {inode partner descriptor other : Nat}

/-- The files under an owned name are partners. -/
theorem Alike.partners (alike : Alike owns held shared alone)
    (owned : owns name) (found : shared.entry name = some inode) :
    ∃ partner, alone.entry name = some partner ∧
      Partners owns shared alone inode partner := by
  rcases alike.entry name owned with none | both
  · rw [none.1] at found
    cases found
  · obtain ⟨_, partner, left, right, file⟩ := both
    have same := Option.some.inj (left.symm.trans found)
    subst same
    refine ⟨partner, right, file, fun another _ => ?_⟩
    constructor
    · intro linked
      have equal := shared.entry_injective _ _ _ linked found
      rw [equal]
      exact right
    · intro linked
      have equal := alone.entry_injective _ _ _ linked right
      rw [equal]
      exact found

theorem Alike.entry_none (alike : Alike owns held shared alone)
    (owned : owns name) (absent : shared.entry name = none) :
    alone.entry name = none := by
  rcases alike.entry name owned with none | both
  · exact none.2
  · obtain ⟨_, _, left, _⟩ := both
    rw [left] at absent
    cases absent

/-- What a path means in both. -/
theorem Alike.lookup (alike : Alike owns held shared alone)
    (owned : owns (shared.resolve path)) :
    (shared.lookup path = none ∧ alone.lookup path = none) ∨
      ∃ inode partner, shared.lookup path = some inode ∧
        alone.lookup path = some partner ∧
        Partners owns shared alone inode partner := by
  simp only [FileSystem.lookup, alike.resolve]
  cases found : shared.entry (shared.resolve path) with
  | none => exact Or.inl ⟨rfl, alike.entry_none owned found⟩
  | some inode =>
      obtain ⟨partner, right, partners⟩ := alike.partners owned found
      exact Or.inr ⟨inode, partner, rfl, right, partners⟩

/-- Without the descriptor. -/
theorem Alike.drop (alike : Alike owns held shared alone) :
    Alike owns none shared alone where
  resolve := alike.resolve
  entry := alike.entry
  held := by
    intro descriptor other impossible
    cases impossible

/-- The descriptor is set to the same offset of the same file. -/
theorem Alike.setDescriptor {offset : Nat}
    (alike : Alike owns held shared alone)
    (partners : Partners owns shared alone inode partner)
    (place : ∀ name, shared.entry name = some inode → owns name)
    (old : inode < shared.nextInode) :
    Alike owns (some (descriptor, other))
      (shared.setDescriptor descriptor ⟨inode, offset⟩)
      (alone.setDescriptor other ⟨partner, offset⟩) where
  resolve := alike.resolve
  entry := alike.entry
  held := by
    intro first second same
    cases same
    exact ⟨inode, partner, offset, descriptors_setDescriptor _ _ _,
      descriptors_setDescriptor _ _ _, ⟨partners.file, partners.entry⟩,
      place, old⟩

/-- Both descriptors are closed. -/
theorem Alike.release (alike : Alike owns held shared alone) :
    Alike owns none (shared.release descriptor) (alone.release other) where
  resolve := alike.resolve
  entry := alike.entry
  held := by
    intro first second impossible
    cases impossible

/-- Partners stay partners when a file and its partner change alike. -/
theorem Partners.setFile {file : File} {first second : Nat}
    (partners : Partners owns shared alone first second)
    (same : first = inode ↔ second = partner) :
    Partners owns (shared.setFile inode file) (alone.setFile partner file)
      first second where
  file := by
    by_cases this : first = inode
    · have that := same.mp this
      subst this
      subst that
      rw [file_setFile_self, file_setFile_self]
    · rw [file_setFile_of_ne _ _ _ this,
        file_setFile_of_ne _ _ _ (mt same.mpr this)]
      exact partners.file
  entry := partners.entry

theorem Alike.setFile {file : File}
    (alike : Alike owns held shared alone)
    (partners : Partners owns shared alone inode partner)
    (same : ∀ descriptor other first second offset,
      held = some (descriptor, other) →
        Holding owns shared alone descriptor other first second offset →
          (first = inode ↔ second = partner)) :
    Alike owns held (shared.setFile inode file)
      (alone.setFile partner file) where
  resolve := alike.resolve
  entry := by
    intro name owned
    cases found : shared.entry name with
    | none => exact Or.inl ⟨found, alike.entry_none owned found⟩
    | some first =>
        obtain ⟨second, right, both⟩ := alike.partners owned found
        have equal : first = inode ↔ second = partner := by
          constructor
          · intro this
            subst this
            have linked := (partners.entry name owned).mp found
            exact Option.some.inj (right.symm.trans linked)
          · intro that
            subst that
            have linked := (partners.entry name owned).mpr right
            exact Option.some.inj (found.symm.trans linked)
        exact Or.inr ⟨first, second, found, right,
          (both.setFile equal).file⟩
  held := by
    intro descriptor other holds
    obtain ⟨first, second, offset, holding⟩ :=
      alike.held descriptor other holds
    exact ⟨first, second, offset, holding.left, holding.right,
      holding.partners.setFile (same _ _ _ _ _ holds holding),
      holding.place, holding.old⟩

/-- A name for a new file in both. -/
theorem Alike.link (alike : Alike owns held shared alone)
    (owned : owns (shared.resolve path)) :
    Alike owns none (shared.link path) (alone.link path) ∧
      Partners owns (shared.link path) (alone.link path) shared.nextInode
        alone.nextInode ∧
      (∀ name, (shared.link path).entry name = some shared.nextInode →
        owns name) ∧
      shared.nextInode < (shared.link path).nextInode := by
  have leftEntry (name : String) :
      (shared.link path).entry name =
        if name = shared.resolve path then some shared.nextInode
        else shared.entry name :=
    Function.update_apply _ _ _ _
  have rightEntry (name : String) :
      (alone.link path).entry name =
        if name = shared.resolve path then some alone.nextInode
        else alone.entry name := by
    have equal : alone.resolve path = shared.resolve path := by
      rw [alike.resolve]
    rw [← equal]
    exact Function.update_apply _ _ _ _
  have leftNew (name : String) :
      shared.entry name ≠ some shared.nextInode := fun found =>
    absurd (shared.entry_lt _ _ found) (Nat.lt_irrefl _)
  have rightNew (name : String) :
      alone.entry name ≠ some alone.nextInode := fun found =>
    absurd (alone.entry_lt _ _ found) (Nat.lt_irrefl _)
  have newFiles :
      (shared.link path).file shared.nextInode =
        (alone.link path).file alone.nextInode := by
    rw [file_link_self, file_link_self]
  refine ⟨⟨alike.resolve, ?_, ?_⟩, ⟨?_, ?_⟩, ?_, Nat.lt_succ_self _⟩
  · intro name owned
    rw [leftEntry, rightEntry]
    by_cases this : name = shared.resolve path
    · rw [if_pos this, if_pos this]
      exact Or.inr ⟨_, _, rfl, rfl, newFiles⟩
    · rw [if_neg this, if_neg this]
      rcases alike.entry name owned with none | both
      · exact Or.inl none
      · obtain ⟨first, second, left, right, file⟩ := both
        have leftOld := shared.entry_lt _ _ left
        have rightOld := alone.entry_lt _ _ right
        refine Or.inr ⟨first, second, left, right, ?_⟩
        rw [file_link_of_ne _ _ _ (by omega),
          file_link_of_ne _ _ _ (by omega)]
        exact file
  · intro descriptor other impossible
    cases impossible
  · exact newFiles
  · intro name _
    rw [leftEntry, rightEntry]
    by_cases this : name = shared.resolve path
    · rw [if_pos this, if_pos this]
      exact ⟨fun _ => rfl, fun _ => rfl⟩
    · rw [if_neg this, if_neg this]
      exact iff_of_false (leftNew name) (rightNew name)
  · intro name linked
    rw [leftEntry] at linked
    by_cases this : name = shared.resolve path
    · exact this ▸ owned
    · rw [if_neg this] at linked
      exact absurd linked (leftNew name)

/-- The name is removed in both. -/
theorem Alike.unlink (alike : Alike owns held shared alone) :
    Alike owns held (shared.unlink path) (alone.unlink path) := by
  have leftEntry (name : String) :
      (shared.unlink path).entry name =
        if name = shared.resolve path then none else shared.entry name :=
    Function.update_apply _ _ _ _
  have rightEntry (name : String) :
      (alone.unlink path).entry name =
        if name = shared.resolve path then none else alone.entry name := by
    have equal : alone.resolve path = shared.resolve path := by
      rw [alike.resolve]
    rw [← equal]
    exact Function.update_apply _ _ _ _
  refine ⟨alike.resolve, ?_, ?_⟩
  · intro name owned
    rw [leftEntry, rightEntry]
    split
    · exact Or.inl ⟨rfl, rfl⟩
    · exact alike.entry name owned
  · intro descriptor other holds
    obtain ⟨first, second, offset, holding⟩ :=
      alike.held descriptor other holds
    refine ⟨first, second, offset, holding.left, holding.right,
      ⟨holding.partners.file, ?_⟩, ?_, holding.old⟩
    · intro name owned
      rw [leftEntry, rightEntry]
      split
      · exact iff_of_false (Option.some_ne_none _).symm
          (Option.some_ne_none _).symm
      · exact holding.partners.entry name owned
    · intro name linked
      rw [leftEntry] at linked
      split at linked
      · cases linked
      · exact holding.place name linked

end Alike

/-! ## What others notice -/

/-- Nothing changes but what is under the owned names or behind the descriptor,
and what is new. -/
structure Confined (owns : String → Prop) (held : HeldPair)
    (before after : FileSystem) : Prop where
  resolve : after.resolve = before.resolve
  grows : before.nextInode ≤ after.nextInode
  entry : ∀ name, ¬ owns name → after.entry name = before.entry name
  fresh : ∀ name inode, after.entry name = some inode →
    before.entry name = some inode ∨ inode = before.nextInode
  file : ∀ inode, inode < before.nextInode →
    (∀ name, owns name → before.entry name ≠ some inode) →
      (∀ descriptor other opened, held = some (descriptor, other) →
        before.descriptors.lookup descriptor = some opened →
          opened.inode ≠ inode) →
        after.file inode = before.file inode
  descriptor : ∀ descriptor, descriptor ∈ before.descriptors →
    (∀ other, held ≠ some (descriptor, other)) →
      after.descriptors.lookup descriptor =
        before.descriptors.lookup descriptor

/-- The descriptor is the one that was held, on the same file, or it was free and
is for a new file or one under an owned name. -/
def Renews (owns : String → Prop) (held link : HeldPair)
    (before after : FileSystem) : Prop :=
  ∀ descriptor other opened, link = some (descriptor, other) →
    after.descriptors.lookup descriptor = some opened →
      (held = link ∧ ∃ old,
        before.descriptors.lookup descriptor = some old ∧
          opened.inode = old.inode) ∨
      descriptor ∉ before.descriptors ∧
        (opened.inode = before.nextInode ∨
          ∃ name, owns name ∧ before.entry name = some opened.inode)

section Confined

variable {owns : String → Prop} {held : HeldPair} {fs after : FileSystem}
variable {path : String} {inode descriptor other : Nat} {file : File}
variable {opened : OpenFile}

theorem Confined.refl : Confined owns held fs fs where
  resolve := rfl
  grows := Nat.le_refl _
  entry _ _ := rfl
  fresh _ _ found := Or.inl found
  file _ _ _ _ := rfl
  descriptor _ _ _ := rfl

/-- A descriptor that was free, or is held. -/
theorem Confined.setDescriptor (confined : Confined owns held fs after)
    (own : descriptor ∉ fs.descriptors ∨
      ∃ other, held = some (descriptor, other)) :
    Confined owns held fs (after.setDescriptor descriptor opened) where
  resolve := confined.resolve
  grows := confined.grows
  entry := confined.entry
  fresh := confined.fresh
  file := confined.file
  descriptor := by
    intro number isOpen notHeld
    have different : number ≠ descriptor := by
      intro same
      subst same
      rcases own with free | ⟨other, holds⟩
      · exact free isOpen
      · exact notHeld other holds
    have kept :
        (after.setDescriptor descriptor opened).descriptors.lookup number =
          after.descriptors.lookup number :=
      AList.lookup_insert_ne different
    rw [kept]
    exact confined.descriptor number isOpen notHeld

theorem Confined.release (holds : held = some (descriptor, other)) :
    Confined owns held fs (fs.release descriptor) where
  resolve := rfl
  grows := Nat.le_refl _
  entry _ _ := rfl
  fresh _ _ found := Or.inl found
  file _ _ _ _ := rfl
  descriptor := by
    intro number _ notHeld
    have different : number ≠ descriptor := by
      intro same
      subst same
      exact notHeld other holds
    exact AList.lookup_erase_ne different

/-- A file under an owned name, or behind the descriptor. -/
theorem Confined.setFile
    (own : (∃ name, owns name ∧ fs.entry name = some inode) ∨
      ∃ descriptor other opened, held = some (descriptor, other) ∧
        fs.descriptors.lookup descriptor = some opened ∧
        opened.inode = inode) :
    Confined owns held fs (fs.setFile inode file) where
  resolve := rfl
  grows := Nat.le_refl _
  entry _ _ := rfl
  fresh _ _ found := Or.inl found
  file := by
    intro number _ notLinked notHeld
    apply file_setFile_of_ne
    intro same
    subst same
    rcases own with linked | behind
    · obtain ⟨name, owned, found⟩ := linked
      exact notLinked name owned found
    · obtain ⟨descriptor, other, opened, holds, found, same⟩ := behind
      exact notHeld descriptor other opened holds found same
  descriptor _ _ _ := rfl

theorem Confined.link (owned : owns (fs.resolve path)) :
    Confined owns held fs (fs.link path) where
  resolve := rfl
  grows := Nat.le_succ _
  entry := by
    intro name notOwned
    apply Function.update_of_ne
    intro same
    exact notOwned (same ▸ owned)
  fresh := by
    intro name inode found
    by_cases same : name = fs.resolve path
    · subst same
      have new : (fs.link path).entry (fs.resolve path) = _ :=
        Function.update_self _ _ _
      exact Or.inr (Option.some.inj (found.symm.trans new))
    · have kept : (fs.link path).entry name = fs.entry name :=
        Function.update_of_ne same _ _
      exact Or.inl (kept.symm.trans found)
  file := by
    intro number old _ _
    exact file_link_of_ne _ _ _ (Nat.ne_of_lt old)
  descriptor _ _ _ := rfl

theorem Confined.unlink (owned : owns (fs.resolve path)) :
    Confined owns held fs (fs.unlink path) where
  resolve := rfl
  grows := Nat.le_refl _
  entry := by
    intro name notOwned
    apply Function.update_of_ne
    intro same
    exact notOwned (same ▸ owned)
  fresh := by
    intro name inode found
    by_cases same : name = fs.resolve path
    · subst same
      have gone : (fs.unlink path).entry (fs.resolve path) = none :=
        Function.update_self _ _ _
      rw [gone] at found
      cases found
    · have kept : (fs.unlink path).entry name = fs.entry name :=
        Function.update_of_ne same _ _
      exact Or.inl (kept.symm.trans found)
  file _ _ _ _ := rfl
  descriptor _ _ _ := rfl

theorem Renews.none : Renews owns held none fs after := by
  intro descriptor other opened impossible
  cases impossible

/-- The descriptor stays on its file. -/
theorem Renews.keep
    (kept : ∀ descriptor other opened, held = some (descriptor, other) →
      after.descriptors.lookup descriptor = some opened →
        ∃ old, fs.descriptors.lookup descriptor = some old ∧
          opened.inode = old.inode) :
    Renews owns held held fs after := by
  intro descriptor other opened holds found
  exact Or.inl ⟨rfl, kept descriptor other opened holds found⟩

theorem Renews.same (kept : after.descriptors = fs.descriptors) :
    Renews owns held held fs after := by
  apply Renews.keep
  intro descriptor other opened _ found
  rw [kept] at found
  exact ⟨opened, found, rfl⟩

/-- Another offset. -/
theorem Renews.setDescriptor {old : OpenFile}
    (holds : held = some (descriptor, other))
    (found : fs.descriptors.lookup descriptor = some old)
    (same : opened.inode = old.inode) :
    Renews owns held held fs (after.setDescriptor descriptor opened) := by
  apply Renews.keep
  intro number partner now holdsToo foundNow
  rw [holds] at holdsToo
  cases holdsToo
  rw [descriptors_setDescriptor] at foundNow
  cases foundNow
  exact ⟨old, found, same⟩

/-- A new descriptor. -/
theorem Renews.acquired (free : descriptor ∉ fs.descriptors)
    (place : opened.inode = fs.nextInode ∨
      ∃ name, owns name ∧ fs.entry name = some opened.inode) :
    Renews owns held (some (descriptor, other)) fs
      (after.setDescriptor descriptor opened) := by
  intro number partner now same found
  cases same
  rw [descriptors_setDescriptor] at found
  cases found
  exact Or.inr ⟨free, place⟩

end Confined

/-! ## Calls in both -/

/-- Two calls that belong together, with replies that do and file systems that the
user cannot tell apart after them, where nobody else notices the first. -/
def InParallel (owns : String → Prop) (held : HeldPair) (left right : Request)
    (shared : FileSystem)
    (first : Except Errno (Answer left) × FileSystem)
    (second : Except Errno (Answer right) × FileSystem) : Prop :=
  ∃ link,
    (pairing shared.resolve owns).answers held left right first.1 second.1
        link ∧
      Alike owns link first.2 second.2 ∧
      Confined owns held shared first.2 ∧
      Renews owns held link shared first.2

section Calls

variable {owns : String → Prop} {held : HeldPair} {shared alone : FileSystem}
variable {path : String} {descriptor other : Nat}

theorem serve_access (alike : Alike owns held shared alone)
    (owned : owns (shared.resolve path)) :
    InParallel owns held (.access path) (.access path) shared
      (serve (.access path) shared) (serve (.access path) alone) := by
  rcases alike.lookup owned with ⟨left, right⟩ | both
  · simp only [serve, left, right]
    exact ⟨held, ⟨rfl, rfl⟩, alike, .refl, .same rfl⟩
  · obtain ⟨inode, partner, left, right, _⟩ := both
    simp only [serve, left, right]
    exact ⟨held, ⟨rfl, rfl⟩, alike, .refl, .same rfl⟩

theorem serve_stat (alike : Alike owns held shared alone)
    (owned : owns (shared.resolve path)) :
    InParallel owns held (.stat path) (.stat path) shared
      (serve (.stat path) shared) (serve (.stat path) alone) := by
  rcases alike.lookup owned with ⟨left, right⟩ | both
  · simp only [serve, left, right]
    exact ⟨held, ⟨rfl, rfl⟩, alike, .refl, .same rfl⟩
  · obtain ⟨inode, partner, left, right, partners⟩ := both
    simp only [serve, left, right]
    refine ⟨held, ⟨?_, rfl⟩, alike, .refl, .same rfl⟩
    rw [partners.file]

theorem serve_unlink (alike : Alike owns held shared alone)
    (owned : owns (shared.resolve path)) :
    InParallel owns held (.unlink path) (.unlink path) shared
      (serve (.unlink path) shared) (serve (.unlink path) alone) := by
  rcases alike.lookup owned with ⟨left, right⟩ | both
  · simp only [serve, left, right]
    exact ⟨held, ⟨rfl, rfl⟩, alike, .refl, .same rfl⟩
  · obtain ⟨inode, partner, left, right, _⟩ := both
    simp only [serve, left, right]
    exact ⟨held, ⟨rfl, rfl⟩, alike.unlink, .unlink owned, .same rfl⟩

theorem serve_truncate {length : Nat} (alike : Alike owns held shared alone)
    (owned : owns (shared.resolve path)) :
    InParallel owns held (.truncate path length) (.truncate path length)
      shared (serve (.truncate path length) shared)
      (serve (.truncate path length) alone) := by
  rcases alike.lookup owned with ⟨left, right⟩ | both
  · simp only [serve, left, right]
    exact ⟨held, ⟨rfl, rfl⟩, alike, .refl, .same rfl⟩
  · obtain ⟨inode, partner, left, right, partners⟩ := both
    have linked : shared.entry (shared.resolve path) = some inode := left
    simp only [serve, left, right]
    rw [← partners.file]
    refine ⟨held, ⟨rfl, rfl⟩, alike.setFile partners ?_,
      .setFile (Or.inl ⟨_, owned, linked⟩), .same rfl⟩
    intro first second k l offset _ holding
    have behind := holding.partners.entry _ owned
    have named := partners.entry _ owned
    constructor
    · intro this
      subst this
      exact Option.some.inj
        ((behind.mp linked).symm.trans (named.mp linked))
    · intro that
      subst that
      exact Option.some.inj
        ((behind.mpr (named.mp linked)).symm.trans linked)

theorem serve_openFile (alike : Alike owns none shared alone)
    (owned : owns (shared.resolve path)) :
    InParallel owns none (.openFile path) (.openFile path) shared
      (serve (.openFile path) shared) (serve (.openFile path) alone) := by
  have free := shared.freeDescriptor_notMem
  rcases alike.lookup owned with ⟨left, right⟩ | both
  · obtain ⟨linked, partners, place, old⟩ := alike.link owned
    simp only [serve, left, right]
    exact ⟨some (shared.freeDescriptor, alone.freeDescriptor), rfl,
      linked.setDescriptor partners place old,
      (Confined.link owned).setDescriptor (Or.inl free),
      .acquired free (Or.inl rfl)⟩
  · obtain ⟨inode, partner, left, right, partners⟩ := both
    have linked : shared.entry (shared.resolve path) = some inode := left
    simp only [serve, left, right]
    refine ⟨some (shared.freeDescriptor, alone.freeDescriptor), rfl,
      alike.setDescriptor partners ?_ (shared.entry_lt _ _ linked),
      Confined.refl.setDescriptor (Or.inl free),
      .acquired free (Or.inr ⟨_, owned, linked⟩)⟩
    intro name found
    rw [shared.entry_injective _ _ _ found linked]
    exact owned

theorem serve_close (alike : Alike owns held shared alone)
    (holds : held = some (descriptor, other)) :
    InParallel owns held (.close descriptor) (.close other) shared
      (serve (.close descriptor) shared) (serve (.close other) alone) := by
  obtain ⟨inode, partner, offset, holding⟩ := alike.held _ _ holds
  simp only [serve, holding.left, holding.right]
  exact ⟨none, ⟨rfl, rfl⟩, alike.release, .release holds, .none⟩

theorem serve_fsync (alike : Alike owns held shared alone)
    (holds : held = some (descriptor, other)) :
    InParallel owns held (.fsync descriptor) (.fsync other) shared
      (serve (.fsync descriptor) shared) (serve (.fsync other) alone) := by
  obtain ⟨inode, partner, offset, holding⟩ := alike.held _ _ holds
  simp only [serve, holding.left, holding.right]
  exact ⟨held, ⟨rfl, rfl⟩, alike, .refl, .same rfl⟩

theorem serve_lseek {offset : Nat} (alike : Alike owns held shared alone)
    (holds : held = some (descriptor, other)) :
    InParallel owns held (.lseek descriptor offset) (.lseek other offset)
      shared (serve (.lseek descriptor offset) shared)
      (serve (.lseek other offset) alone) := by
  obtain ⟨inode, partner, old, holding⟩ := alike.held _ _ holds
  simp only [serve, holding.left, holding.right]
  refine ⟨held, ⟨rfl, rfl⟩, ?_,
    Confined.refl.setDescriptor (Or.inr ⟨other, holds⟩),
    .setDescriptor holds holding.left rfl⟩
  rw [holds]
  exact alike.setDescriptor holding.partners holding.place holding.old

theorem serve_read {count : Nat} (alike : Alike owns held shared alone)
    (holds : held = some (descriptor, other)) :
    InParallel owns held (.read descriptor count) (.read other count)
      shared (serve (.read descriptor count) shared)
      (serve (.read other count) alone) := by
  obtain ⟨inode, partner, old, holding⟩ := alike.held _ _ holds
  simp only [serve, holding.left, holding.right]
  rw [holding.partners.file]
  refine ⟨held, ⟨rfl, rfl⟩, ?_,
    Confined.refl.setDescriptor (Or.inr ⟨other, holds⟩),
    .setDescriptor holds holding.left rfl⟩
  rw [holds]
  exact alike.setDescriptor holding.partners holding.place holding.old

theorem serve_write {bytes : List UInt8}
    (alike : Alike owns held shared alone)
    (holds : held = some (descriptor, other)) :
    InParallel owns held (.write descriptor bytes) (.write other bytes)
      shared (serve (.write descriptor bytes) shared)
      (serve (.write other bytes) alone) := by
  obtain ⟨inode, partner, old, holding⟩ := alike.held _ _ holds
  simp only [serve, holding.left, holding.right]
  rw [holding.partners.file]
  refine ⟨held, ⟨rfl, rfl⟩, ?_,
    (Confined.setFile (Or.inr ⟨_, _, _, holds, holding.left,
      rfl⟩)).setDescriptor (Or.inr ⟨other, holds⟩),
    .setDescriptor holds holding.left rfl⟩
  rw [holds]
  have written :
      Alike owns none
        (shared.setFile inode ((alone.file partner).writeAt old bytes))
        (alone.setFile partner ((alone.file partner).writeAt old bytes)) :=
    alike.drop.setFile holding.partners
      fun _ _ _ _ _ impossible => nomatch impossible
  exact written.setDescriptor
    (holding.partners.setFile (iff_of_true rfl rfl)) holding.place
    holding.old

/-- A call that fails changes nothing. -/
theorem failed_parallel {left right : Request} {number : Errno}
    (alike : Alike owns held shared alone)
    (answers :
      (pairing shared.resolve owns).answers held left right (.error number)
        (.error number) held) :
    InParallel owns held left right shared (.error number, shared)
      (.error number, alone) :=
  ⟨held, answers, alike, .refl, .same rfl⟩

/-- Every call and its fault, in both. -/
theorem serveWith_parallel {left right : Request} (fault : Fault)
    (alike : Alike owns held shared alone)
    (asks : (pairing shared.resolve owns).asks held left right) :
    InParallel owns held left right shared (serveWith fault left shared)
      (serveWith fault right alone) := by
  cases left with
  | access path =>
      cases right with
      | access other =>
          obtain ⟨owned, rfl⟩ := asks
          cases fault with
          | none => exact serve_access alike owned
          | fail => exact failed_parallel alike ⟨rfl, rfl⟩
          | short count => exact serve_access alike owned
      | _ => exact asks.elim
  | openFile path =>
      cases right with
      | openFile other =>
          obtain ⟨owned, rfl, rfl⟩ := asks
          cases fault with
          | none => exact serve_openFile alike owned
          | fail => exact failed_parallel alike ⟨rfl, rfl⟩
          | short count => exact serve_openFile alike owned
      | _ => exact asks.elim
  | close descriptor =>
      cases right with
      | close other =>
          cases fault with
          | none => exact serve_close alike asks
          | fail =>
              exact ⟨none, ⟨rfl, rfl⟩, alike.release, .release asks, .none⟩
          | short count => exact serve_close alike asks
      | _ => exact asks.elim
  | stat path =>
      cases right with
      | stat other =>
          obtain ⟨owned, rfl⟩ := asks
          cases fault with
          | none => exact serve_stat alike owned
          | fail => exact failed_parallel alike ⟨rfl, rfl⟩
          | short count => exact serve_stat alike owned
      | _ => exact asks.elim
  | truncate path length =>
      cases right with
      | truncate other size =>
          obtain ⟨owned, rfl, rfl⟩ := asks
          cases fault with
          | none => exact serve_truncate alike owned
          | fail => exact failed_parallel alike ⟨rfl, rfl⟩
          | short count => exact serve_truncate alike owned
      | _ => exact asks.elim
  | lseek descriptor offset =>
      cases right with
      | lseek other position =>
          obtain ⟨holds, rfl⟩ := asks
          cases fault with
          | none => exact serve_lseek alike holds
          | fail => exact failed_parallel alike ⟨rfl, rfl⟩
          | short count => exact serve_lseek alike holds
      | _ => exact asks.elim
  | write descriptor bytes =>
      cases right with
      | write other data =>
          obtain ⟨holds, rfl⟩ := asks
          cases fault with
          | none => exact serve_write alike holds
          | fail => exact failed_parallel alike ⟨rfl, rfl⟩
          | short count => exact serve_write alike holds
      | _ => exact asks.elim
  | read descriptor count =>
      cases right with
      | read other size =>
          obtain ⟨holds, rfl⟩ := asks
          cases fault with
          | none => exact serve_read alike holds
          | fail => exact failed_parallel alike ⟨rfl, rfl⟩
          | short limit => exact serve_read alike holds
      | _ => exact asks.elim
  | fsync descriptor =>
      cases right with
      | fsync other =>
          cases fault with
          | none => exact serve_fsync alike asks
          | fail => exact failed_parallel alike ⟨rfl, rfl⟩
          | short count => exact serve_fsync alike asks
      | _ => exact asks.elim
  | unlink path =>
      cases right with
      | unlink other =>
          obtain ⟨owned, rfl⟩ := asks
          cases fault with
          | none => exact serve_unlink alike owned
          | fail => exact failed_parallel alike ⟨rfl, rfl⟩
          | short count => exact serve_unlink alike owned
      | _ => exact asks.elim

end Calls

/-! ## Users of different names -/

def faulty (allowed : Fault → Prop) : Transition calls FileSystem :=
  fun before request reply after =>
    ∃ fault, allowed fault ∧ serveWith fault request before = (reply, after)

/-- Each user has a file system of its own that it cannot tell from the shared
one, and no two hold one descriptor or one file. -/
structure Apart {Who : Type} (resolve : String → String)
    (owns : Who → String → Prop) (links : Who → HeldPair) (shared : FileSystem)
    (alone : Who → FileSystem) : Prop where
  resolve : shared.resolve = resolve
  alike : ∀ who, Alike (owns who) (links who) shared (alone who)
  distinct : ∀ who other, who ≠ other →
    ∀ first second first' second' opened opened',
      links who = some (first, second) →
        links other = some (first', second') →
          shared.descriptors.lookup first = some opened →
            shared.descriptors.lookup first' = some opened' →
              first ≠ first' ∧ opened.inode ≠ opened'.inode

section Apart

variable {Who : Type} {resolve : String → String}
variable {owns : Who → String → Prop} {links : Who → HeldPair}
variable {shared after : FileSystem} {alone : Who → FileSystem}
variable {who other : Who}

/-- What a user does under its names does not change what another one sees. -/
theorem Apart.spared (apart : Apart resolve owns links shared alone)
    (disjoint : ∀ name, owns who name → ¬ owns other name)
    (different : who ≠ other)
    (confined : Confined (owns who) (links who) shared after) :
    Alike (owns other) (links other) after (alone other) ∧
      ∀ descriptor partner opened,
        links other = some (descriptor, partner) →
          shared.descriptors.lookup descriptor = some opened →
            after.descriptors.lookup descriptor = some opened := by
  have alike := apart.alike other
  have ownLinks (name : String) (owned : owns other name) :
      ¬ owns who name := fun both => disjoint name both owned
  have descriptorKept (descriptor partner : Nat) (opened : OpenFile)
      (holds : links other = some (descriptor, partner))
      (found : shared.descriptors.lookup descriptor = some opened) :
      after.descriptors.lookup descriptor = some opened := by
    have isOpen : descriptor ∈ shared.descriptors := by
      rw [← AList.lookup_isSome, found]
      rfl
    rw [confined.descriptor descriptor isOpen ?_]
    · exact found
    · intro number holdsToo
      exact (apart.distinct who other different _ _ _ _ _ _ holdsToo holds
        found found).1 rfl
  refine ⟨⟨alike.resolve.trans confined.resolve.symm, ?_, ?_⟩,
    descriptorKept⟩
  · intro name owned
    rw [confined.entry name (ownLinks name owned)]
    rcases alike.entry name owned with none | both
    · exact Or.inl none
    · obtain ⟨inode, partner, left, right, file⟩ := both
      refine Or.inr ⟨inode, partner, left, right, ?_⟩
      rw [← file]
      apply confined.file inode (shared.entry_lt _ _ left)
      · intro another ownedByWho found
        rw [shared.entry_injective _ _ _ found left] at ownedByWho
        exact ownLinks name owned ownedByWho
      · intro descriptor number opened holds found same
        obtain ⟨place, _, _, holding⟩ :=
          (apart.alike who).held _ _ holds
        rw [holding.left] at found
        cases found
        have same : place = inode := same
        subst same
        exact ownLinks name owned (holding.place name left)
  · intro descriptor partner holds
    obtain ⟨inode, second, offset, holding⟩ := alike.held _ _ holds
    refine ⟨inode, second, offset,
      descriptorKept _ _ _ holds holding.left, holding.right, ⟨?_, ?_⟩, ?_,
      Nat.lt_of_lt_of_le holding.old confined.grows⟩
    · rw [← holding.partners.file]
      apply confined.file inode holding.old
      · intro name ownedByWho found
        exact ownLinks name (holding.place name found) ownedByWho
      · intro number copy opened holdsToo found same
        exact (apart.distinct who other different _ _ _ _ _ _ holdsToo
          holds found holding.left).2 same
    · intro name owned
      rw [confined.entry name (ownLinks name owned)]
      exact holding.partners.entry name owned
    · intro name found
      rcases confined.fresh name inode found with before | new
      · exact holding.place name before
      · exact absurd holding.old (new ▸ Nat.lt_irrefl _)

/-- What a user newly holds, nobody else holds. -/
theorem Apart.renewed (apart : Apart resolve owns links shared alone)
    (disjoint : ∀ name, owns who name → ¬ owns other name)
    (different : who ≠ other) {link : HeldPair}
    (renews : Renews (owns who) (links who) link shared after)
    {first second first' second' : Nat} {opened opened' : OpenFile}
    (holds : link = some (first, second))
    (found : after.descriptors.lookup first = some opened)
    (holds' : links other = some (first', second'))
    (found' : shared.descriptors.lookup first' = some opened') :
    first ≠ first' ∧ opened.inode ≠ opened'.inode := by
  obtain ⟨inode, _, _, holding⟩ := (apart.alike other).held _ _ holds'
  rw [holding.left] at found'
  cases found'
  rcases renews _ _ _ holds found with ⟨same, old, was, stays⟩ | new
  · rw [stays]
    exact apart.distinct who other different _ _ _ _ _ _
      (same.trans holds) holds' was holding.left
  · obtain ⟨free, place⟩ := new
    constructor
    · intro same
      subst same
      apply free
      rw [← AList.lookup_isSome, holding.left]
      rfl
    · intro same
      have same : opened.inode = inode := same
      rcases place with fresh | ⟨name, owned, linked⟩
      · have old := holding.old
        omega
      · rw [same] at linked
        exact disjoint name owned (holding.place name linked)

/-- A call of one user, in the shared file system and in its own. -/
theorem Apart.move (apart : Apart resolve owns links shared alone)
    (disjoint : ∀ who other name, who ≠ other → owns who name →
      ¬ owns other name) [DecidableEq Who] {allowed : Fault → Prop}
    {left right : Request} {reply : Except Errno (Answer left)}
    (asks : (pairing resolve (owns who)).asks (links who) left right)
    (moved : faulty allowed shared left reply after) :
    ∃ answer last link,
      faulty allowed (alone who) right answer last ∧
        (pairing resolve (owns who)).answers (links who) left right reply
          answer link ∧
        Apart resolve owns (Function.update links who link) after
          (Function.update alone who last) := by
  obtain ⟨fault, permitted, served⟩ := moved
  have same := apart.resolve
  subst same
  obtain ⟨link, answers, alike, confined, renews⟩ :=
    serveWith_parallel fault (apart.alike who) asks
  rw [served] at answers alike confined renews
  have sparing (other : Who) (different : other ≠ who) :=
    apart.spared (fun name => disjoint who other name different.symm)
      different.symm confined
  refine ⟨(serveWith fault right (alone who)).1,
    (serveWith fault right (alone who)).2, link, ⟨fault, permitted, rfl⟩,
    answers, ⟨confined.resolve, ?_, ?_⟩⟩
  · intro other
    by_cases this : other = who
    · subst this
      rw [Function.update_self, Function.update_self]
      exact alike
    · rw [Function.update_of_ne this, Function.update_of_ne this]
      exact (sparing other this).1
  · intro first other different d e d' e' opened opened' holds holds' found
      found'
    -- What others hold was open before, on the same file.
    have before (party : Who) (notWho : party ≠ who) (number copy : Nat)
        (now : OpenFile) (holding : links party = some (number, copy))
        (open_ : after.descriptors.lookup number = some now) :
        shared.descriptors.lookup number = some now := by
      obtain ⟨_, _, _, held⟩ := (apart.alike party).held _ _ holding
      have kept := (sparing party notWho).2 _ _ _ holding held.left
      rw [← open_, kept]
      exact held.left
    by_cases this : first = who
    · subst this
      have that : other ≠ first := different.symm
      rw [Function.update_self] at holds
      rw [Function.update_of_ne that] at holds'
      exact apart.renewed (fun name => disjoint first other name different)
        different renews holds found holds' (before _ that _ _ _ holds' found')
    · rw [Function.update_of_ne this] at holds
      by_cases that : other = who
      · subst that
        rw [Function.update_self] at holds'
        have apartNow :=
          apart.renewed (fun name => disjoint other first name different.symm)
            different.symm renews holds' found' holds
            (before _ this _ _ _ holds found)
        exact ⟨apartNow.1.symm, apartNow.2.symm⟩
      · rw [Function.update_of_ne that] at holds'
        exact apart.distinct first other different _ _ _ _ _ _ holds holds'
          (before _ this _ _ _ holds found)
          (before _ that _ _ _ holds' found')

/-- A user without a descriptor. -/
theorem Apart.rest (apart : Apart resolve owns links shared alone)
    [DecidableEq Who] :
    Apart resolve owns (Function.update links who none) shared alone where
  resolve := apart.resolve
  alike := by
    intro other
    by_cases this : other = who
    · subst this
      rw [Function.update_self]
      exact (apart.alike other).drop
    · rw [Function.update_of_ne this]
      exact apart.alike other
  distinct := by
    intro first other different d e d' e' opened opened' holds holds'
    have held (party : Who) (number copy : Nat)
        (holds : Function.update links who none party =
          some (number, copy)) :
        links party = some (number, copy) := by
      by_cases this : party = who
      · subst this
        rw [Function.update_self] at holds
        cases holds
      · rw [Function.update_of_ne this] at holds
        exact holds
    exact apart.distinct first other different _ _ _ _ _ _
      (held _ _ _ holds) (held _ _ _ holds')

/-- At the start everyone sees the same file system. -/
theorem Apart.start (same : shared.resolve = resolve) :
    Apart resolve owns (fun _ => none) shared fun _ => shared where
  resolve := same
  alike who := by
    refine ⟨rfl, ?_, ?_⟩
    · intro name _
      cases found : shared.entry name with
      | none => exact Or.inl ⟨rfl, rfl⟩
      | some inode => exact Or.inr ⟨inode, inode, rfl, rfl, rfl⟩
    · intro descriptor other impossible
      cases impossible
  distinct := by
    intro first other different d e d' e' opened opened' impossible
    cases impossible

def contentsOf (fs : FileSystem) (path : String) : Option File :=
  (fs.lookup path).map fs.file

/-- Under the names of a user the contents are the same in both. -/
theorem Alike.contentsOf {owned : String → Prop} {held : HeldPair}
    {alone : FileSystem} (alike : Alike owned held shared alone)
    {path : String} (own : owned (shared.resolve path)) :
    alone.contentsOf path = shared.contentsOf path := by
  simp only [FileSystem.contentsOf]
  rcases alike.lookup own with ⟨left, right⟩ | both
  · rw [left, right]
    rfl
  · obtain ⟨inode, partner, left, right, partners⟩ := both
    rw [left, right]
    exact congrArg some partners.file.symm

end Apart

end FileSystem

end Posix
