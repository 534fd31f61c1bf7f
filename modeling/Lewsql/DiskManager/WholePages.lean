import Lewsql.DiskManager.Alignment

/-!
# Runs of a manager under faults

Accesses within the limit to one disk, through any ids that name it, and any
other operations.  The file of the disk has a partial page after some call exactly
when a write of the run stopped short past its end.
-/

namespace Lewsql

open Interaction Posix FileSystem

/-- An operation that returns, or crashes over sizes only on a partial
page. -/
def SizeSafe {Value : Type} (pageSize inode : Nat) :
    Outcome Crash Value → FileSystem → Prop
  | .done _, _ => True
  | .crashed reason, after => Blames pageSize inode reason after

namespace PosixDiskManager

variable {base : DiskManager} {self : PosixDiskManager}
variable {inode : Nat} {fs : FileSystem} {path : String}
variable {diskId : DiskId} {diskName : DiskName}
variable {cursor : DiskPageCursor}

/-! ## Operations that open no disk of the run -/

private theorem opens_mayFail (shouldExist : Bool) :
    Opens mayFail (KeepsPages base.pageSize.toNat inode) base path
      shouldExist (fun _ _ => True) (fun _ _ => True)
      (fun reason _ => ¬ reason.blamesSize) fs := by
  have checks :
      Checks mayFail (KeepsPages base.pageSize.toNat inode) path
        (fun _ => True) (fun _ _ => True) True := by
    intro before reply after _ moved
    refine ⟨keepsPages_of_fits (by exact True.intro) moved, True.intro, ?_⟩
    rcases reply with (_ | _) | ⟨⟩ <;> exact True.intro
  refine PosixDisk.wp_init checks ?_ (fun _ _ _ => True.intro)
    (fun _ _ _ => True.intro) ?_ True.intro
  · intro before reply after _ _ moved
    refine ⟨keepsPages_of_fits (by exact True.intro) moved, ?_⟩
    cases reply <;> exact True.intro
  · exact fun _ reason _ expansion _ =>
      Crash.not_blamesSize_of_fromMacro expansion

private theorem closing_mayFail {fd : Nat} {Value : Type} {value : Value} :
    Closing mayFail (KeepsPages base.pageSize.toNat inode) fd
      (SizeSafe base.pageSize.toNat inode) (.done value) fs :=
  fun _ _ moved => ⟨keepsPages_of_fits (by exact True.intro) moved,
    True.intro⟩

private theorem wp_load_mayFail :
    ((load base diskName).run self).wp mayFail
      (KeepsPages base.pageSize.toNat inode)
      (SizeSafe base.pageSize.toNat inode) fs := by
  refine wp_load (opens_mayFail true) (fun _ _ _ => True.intro)
    ?_ (fun _ _ _ _ => fun blames => blames.elim)
    (fun _ _ _ _ => closing_mayFail)
  exact fun _ _ innocent blames => absurd blames innocent

private theorem wp_create_mayFail :
    ((create base diskName).run self).wp mayFail
      (KeepsPages base.pageSize.toNat inode)
      (SizeSafe base.pageSize.toNat inode) fs := by
  refine wp_create (opens_mayFail false)
    (fun _ _ _ => opens_mayFail false) (fun _ _ _ => True.intro) ?_
    (fun _ _ _ blames => blames.elim) ?_
  · exact fun _ _ innocent blames => absurd blames innocent
  · intro fd before reply after _ moved
    exact ⟨keepsPages_of_fits (by exact True.intro) moved,
      wp_load_mayFail⟩

private theorem wp_destroy_mayFail :
    ((destroy base diskId).run self).wp mayFail
      (KeepsPages base.pageSize.toNat inode)
      (SizeSafe base.pageSize.toNat inode) fs := by
  cases loaded : self.disks.lookup diskId with
  | none =>
      simp only [destroy_run, loaded]
      exact True.intro
  | some fileName =>
      refine wp_destroy loaded (opens_mayFail true)
        (fun _ _ _ => True.intro) ?_ ?_ (fun _ _ _ => closing_mayFail)
      · exact fun _ _ innocent blames => absurd blames innocent
      · intro fd before reply after _ moved
        refine ⟨keepsPages_of_fits (by exact True.intro) moved, ?_⟩
        cases reply with
        | ok answer => exact ⟨True.intro, fun blames => blames.elim⟩
        | error number => exact True.intro

private theorem wp_exists_mayFail :
    ((«exists» base diskName).run self).wp mayFail
      (KeepsPages base.pageSize.toNat inode)
      (SizeSafe base.pageSize.toNat inode) fs := by
  change
    (PosixDisk.exists (base.diskPath diskName) >>= fun result =>
      Program.done (result, self)).wp _ _ _ fs
  rw [PosixDisk.exists_eq]
  exact fun reply after moved =>
    ⟨keepsPages_of_fits (by exact True.intro) moved, True.intro⟩

/-! ## Accesses to the disk -/

/-- The end of a scope of the disk, and what its value says of the file. -/
private def Reached {Value : Type} (base : DiskManager) (path : String)
    (inode : Nat) (holds : Value → File → Prop) :
    Outcome Crash Value → FileSystem → Prop
  | .done value, after =>
      Reaches path inode after ∧ holds value (after.file inode)
  | .crashed reason, after =>
      Blames base.pageSize.toNat inode reason after

private theorem wp_withDisk_mayFail {Value : Type}
    {failed : DiskManagerErrorCode → Value}
    {body : PosixDisk → Effect Value}
    (holds : Value → File → Prop)
    (used : ∀ fd fs, Reaches path inode fs →
      (body
        (PosixDisk.new path fd base.pageSize base.maxDiskByteSize)).wp
        mayFail (KeepsPages base.pageSize.toNat inode)
        (Reached base path inode holds)
        fs)
    (failing : ∀ failure file, holds (failed failure) file)
    (reaches : Reaches path inode fs) :
    (withDisk base path failed body).wp mayFail
      (KeepsPages base.pageSize.toNat inode)
      (Reached base path inode holds) fs := by
  have checks :
      Checks mayFail (KeepsPages base.pageSize.toNat inode) path
        (Reaches path inode) (fun _ _ => True) True := by
    intro before reply after reaches moved
    obtain ⟨kept, still⟩ := reaches.step moved True.intro True.intro
    refine ⟨kept, still, ?_⟩
    rcases reply with (_ | _) | ⟨⟩ <;> exact True.intro
  have opens :
      Opens mayFail (KeepsPages base.pageSize.toNat inode) base path true
        (fun _ => Reaches path inode) (fun _ => Reaches path inode)
        (fun reason _ => ¬ reason.blamesSize) fs := by
    refine PosixDisk.wp_init checks ?_ (fun _ reaches _ => reaches)
      (fun _ _ reaches => reaches)
      (fun _ _ _ expansion _ =>
        Crash.not_blamesSize_of_fromMacro expansion) reaches
    intro before reply after reaches _ moved
    have kept :
        KeepsPages base.pageSize.toNat inode before (.openFile path) reply
          after :=
      keepsPages_of_fits True.intro moved
    refine ⟨kept, ?_⟩
    rcases mayFail_openFile reaches.found moved with
      ⟨_, rfl, rfl⟩ | ⟨rfl, rfl⟩
    · exact reaches
    · exact ⟨reaches.found, reaches.sized⟩
  refine wp_withDisk opens ?_ ?_ ?_
  · exact fun failure after reaches => ⟨reaches, failing _ _⟩
  · exact fun _ _ innocent blames => absurd blames innocent
  · intro fd after reaches
    refine Program.wp_consequence (used fd after reaches) ?_
    intro outcome last ended
    rcases outcome with value | reason
    · intro reply closed moved
      obtain ⟨kept, still⟩ := ended.1.step moved True.intro True.intro
      have files := mayFail_keepsFiles (by exact True.intro) moved
      refine ⟨kept, still, ?_⟩
      rw [files]
      exact ended.2
    · exact ended

private theorem wp_write_mayFail (positive : base.pageSize ≠ 0)
    (loaded : self.disks.lookup diskId = some diskName)
    (inRange : InRange base.pageSize base.maxDiskByteSize cursor)
    {bytes : List UInt8} (full : bytes.length = base.pageSize.toNat)
    (reaches : Reaches (base.getDiskPath diskName) inode fs) :
    ((write base diskId cursor bytes).run self).wp mayFail
      (KeepsPages base.pageSize.toNat inode)
      (SizeSafe base.pageSize.toNat inode) fs := by
  simp only [write_run, loaded]
  rw [Program.wp_bind]
  refine Program.wp_consequence
    (wp_withDisk_mayFail (fun _ _ => True) ?_ (fun _ _ => True.intro)
      reaches) ?_
  · intro fd fs reaches
    refine PosixDisk.wp_propIfError_mayFail
      (fun _ reaches =>
        PosixDisk.wp_write_mayFail positive inRange full reaches)
      (fun _ reaches => ⟨reaches, True.intro⟩)
      (fun _ _ reaches => ⟨reaches, True.intro⟩)
      (fun _ _ blames => blames) reaches
  · intro outcome after ended
    rcases outcome with value | reason
    · exact True.intro
    · exact ended

private theorem wp_read_mayFail (positive : base.pageSize ≠ 0)
    (loaded : self.disks.lookup diskId = some diskName)
    (inRange : InRange base.pageSize base.maxDiskByteSize cursor)
    (buffer : List UInt8)
    (reaches : Reaches (base.getDiskPath diskName) inode fs) :
    (((read base diskId cursor).run buffer).run self).wp mayFail
      (KeepsPages base.pageSize.toNat inode)
      (SizeSafe base.pageSize.toNat inode) fs := by
  simp only [read_run, loaded]
  rw [Program.wp_bind]
  refine Program.wp_consequence
    (wp_withDisk_mayFail (fun _ _ => True) ?_ (fun _ _ => True.intro)
      reaches) ?_
  · intro fd fs reaches
    refine Program.wp_consequence
      (PosixDisk.wp_propIfError_read_mayFail positive inRange buffer
        reaches) ?_
    intro outcome after ended
    rcases outcome with value | reason
    · exact ⟨ended, True.intro⟩
    · exact ended
  · intro outcome after ended
    rcases outcome with value | reason
    · exact True.intro
    · exact ended

private def SizeRead : DiskResult UInt32 → File → Prop
  | .value size, file => size = UInt32.ofNat file.size
  | .error _, _ => True

private theorem wp_sizeRead_mayFail (positive : base.pageSize ≠ 0)
    (reaches : Reaches path inode fs) :
    (withDisk base path Result.error
      fun posixDisk => posixDisk.getDiskByteSize).wp mayFail
      (KeepsPages base.pageSize.toNat inode)
      (Reached base path inode SizeRead) fs := by
  refine wp_withDisk_mayFail SizeRead ?_ ?_ reaches
  · intro fd fs reaches
    refine Program.wp_consequence
      (PosixDisk.wp_getDiskByteSize_mayFail positive reaches) ?_
    intro outcome after ended
    rcases outcome with (size | failure) | reason
    · exact ended
    · exact ended
    · exact ended
  · exact fun _ _ => True.intro

private theorem wp_diskByteSize_mayFail (positive : base.pageSize ≠ 0)
    (loaded : self.disks.lookup diskId = some diskName)
    (reaches : Reaches (base.getDiskPath diskName) inode fs) :
    ((diskByteSize base diskId).run self).wp mayFail
      (KeepsPages base.pageSize.toNat inode)
      (SizeSafe base.pageSize.toNat inode) fs := by
  simp only [diskByteSize_run, loaded]
  rw [Program.wp_bind]
  refine Program.wp_consequence (wp_sizeRead_mayFail positive reaches) ?_
  intro outcome after ended
  rcases outcome with value | reason
  · exact True.intro
  · exact ended

private theorem wp_extend_mayFail (positive : base.pageSize ≠ 0)
    (loaded : self.disks.lookup diskId = some diskName)
    (reaches : Reaches (base.getDiskPath diskName) inode fs) :
    ((extend base diskId).run self).wp mayFail
      (KeepsPages base.pageSize.toNat inode)
      (SizeSafe base.pageSize.toNat inode) fs := by
  have sized (fs : FileSystem)
      (reaches : Reaches (base.getDiskPath diskName) inode fs) :
      (withDisk base (base.getDiskPath diskName) Result.error
        fun posixDisk => posixDisk.getDiskByteSize).wp mayFail
        (KeepsPages base.pageSize.toNat inode)
        (ending
          (fun size after =>
            Reaches (base.getDiskPath diskName) inode after ∧
              size = UInt32.ofNat (after.file inode).size)
          (fun _ after =>
            Reaches (base.getDiskPath diskName) inode after ∧ True)
          (Blames base.pageSize.toNat inode))
        fs := by
    refine Program.wp_consequence
      (wp_sizeRead_mayFail positive reaches) ?_
    intro outcome after ended
    rcases outcome with (size | failure) | reason
    · exact ended
    · exact ended
    · exact ended
  simp only [extend_run, loaded]
  refine wp_unwrap sized ?_ ?_ (fun _ _ blames => blames)
    (fun _ _ _ _ _ _ _ blames => blames.elim) ?_ reaches
  · intro size after reaches equal
    rcases equal with rfl
    rw [if_neg positive]
    split_ifs with partly past
    · intro _ whole
      apply partly
      rw [← UInt32.toNat_inj, UInt32.toNat_mod,
        UInt32.toNat_ofNat_of_lt' reaches.sized]
      exact whole
    · exact True.intro
    · exact True.intro
  · exact fun _ _ _ _ => True.intro
  · intro _ _ failure after _ _ _ blames
    have expansion := Result.unwrapCrash_fromMacro failure
    exact absurd blames (Crash.not_blamesSize_of_fromMacro expansion)

private theorem sizeSafe_map {pageSize : Nat} {Value : Type}
    {wrap : Value → Response} {member : Member Value}
    (safe :
      (member.run self).wp mayFail (KeepsPages pageSize inode)
        (SizeSafe pageSize inode) fs) :
    ((wrap <$> member).run self).wp mayFail (KeepsPages pageSize inode)
      (SizeSafe pageSize inode) fs := by
  rw [StateT.run_map, Program.wp_map]
  refine Program.wp_consequence safe ?_
  intro outcome after ended
  rcases outcome with value | reason
  · exact True.intro
  · exact ended

end PosixDiskManager

/-- Accesses within the limit to the disk of a file, and operations that do not
look at file sizes. -/
def World.InBounds (base : DiskManager) (inode : Nat) (world : World) :
    Operation → Prop
  | .write diskId cursor bytes =>
      world.Names base diskId inode ∧
        bytes.length = base.pageSize.toNat ∧
        InRange base.pageSize base.maxDiskByteSize cursor
  | .read diskId cursor buffer =>
      world.Names base diskId inode ∧
        buffer.length = base.pageSize.toNat ∧
        InRange base.pageSize base.maxDiskByteSize cursor
  | .extend diskId => world.Names base diskId inode
  | .diskByteSize diskId => world.Names base diskId inode
  | _ => True

section Runs

variable {base : DiskManager} {inode : Nat} {world : World}
variable {operation : Operation}

/-- One operation under faults. -/
private theorem wp_perform_mayFail (positive : base.pageSize ≠ 0)
    (sized : Sized inode world.fileSystem)
    (allowed : world.InBounds base inode operation) :
    ((PosixDiskManager.perform base operation).run world.manager).wp
      mayFail (KeepsPages base.pageSize.toNat inode)
      (SizeSafe base.pageSize.toNat inode) world.fileSystem := by
  cases operation with
  | create diskName =>
      exact PosixDiskManager.sizeSafe_map
        PosixDiskManager.wp_create_mayFail
  | load diskName =>
      exact PosixDiskManager.sizeSafe_map PosixDiskManager.wp_load_mayFail
  | destroy diskId =>
      exact PosixDiskManager.sizeSafe_map
        PosixDiskManager.wp_destroy_mayFail
  | «exists» diskName =>
      exact PosixDiskManager.sizeSafe_map
        PosixDiskManager.wp_exists_mayFail
  | write diskId cursor bytes =>
      obtain ⟨⟨diskName, loaded, found⟩, full, inRange⟩ := allowed
      exact PosixDiskManager.sizeSafe_map
        (PosixDiskManager.wp_write_mayFail positive loaded inRange full
          ⟨found, sized⟩)
  | read diskId cursor buffer =>
      obtain ⟨⟨diskName, loaded, found⟩, _, inRange⟩ := allowed
      have safe :=
        PosixDiskManager.wp_read_mayFail positive loaded inRange buffer
          ⟨found, sized⟩
      exact PosixDiskManager.sizeSafe_map safe
  | extend diskId =>
      obtain ⟨diskName, loaded, found⟩ := allowed
      exact PosixDiskManager.sizeSafe_map
        (PosixDiskManager.wp_extend_mayFail positive loaded
          ⟨found, sized⟩)
  | diskByteSize diskId =>
      obtain ⟨diskName, loaded, found⟩ := allowed
      exact PosixDiskManager.sizeSafe_map
        (PosixDiskManager.wp_diskByteSize_mayFail positive loaded
          ⟨found, sized⟩)
  | unload diskId =>
      apply PosixDiskManager.sizeSafe_map
      rw [PosixDiskManager.unload_run]
      split_ifs <;> exact True.intro
  | loadedDiskName diskId =>
      apply PosixDiskManager.sizeSafe_map
      rw [PosixDiskManager.loadedDiskName_run]
      cases world.manager.disks.lookup diskId <;> exact True.intro
  | isLoaded diskId => exact True.intro
  | numLoadedDisks => exact True.intro

/-- A move that does not stop inside a page past the end of the file. -/
def FullOrInside (inode : Nat)
    (move : Move Posix.calls FileSystem) : Prop :=
  ¬ ShortPastEnd inode move.before move.request move.reply

/-- The pages of one operation. -/
private theorem performs_wholePages (positive : base.pageSize ≠ 0)
    (sized : Sized inode world.fileSystem)
    (allowed : world.InBounds base inode operation)
    {moves : List (Move Posix.calls FileSystem)}
    {outcome : Outcome Crash (Response × PosixDiskManager)}
    {last : FileSystem}
    (course : world.Performs base mayFail operation moves outcome last) :
    SizeSafe base.pageSize.toNat inode outcome last ∧
      Sized inode last ∧
      (WholePages base.pageSize.toNat inode world.fileSystem →
        ((∀ move ∈ moves,
            WholePages base.pageSize.toNat inode move.after) ↔
          ∀ move ∈ moves, FullOrInside inode move) ∧
        ((∀ move ∈ moves, FullOrInside inode move) →
          WholePages base.pageSize.toNat inode last)) := by
  obtain ⟨obeyed, safe⟩ :=
    Program.wp_sound course (wp_perform_mayFail positive sized allowed)
  have carried :=
    course.holds_iff (Sized inode)
      (WholePages base.pageSize.toNat inode) (FullOrInside inode) obeyed
      sized
  exact ⟨safe, carried.1, carried.2⟩

/-- The pages of a run of operations. -/
private theorem courses_wholePages (positive : base.pageSize ≠ 0)
    {courses : List Course}
    (run :
      (World.courses base mayFail
        (fun start => (start.fileSystem.file inode).size = 0)
        (World.InBounds base inode)).Run courses world) :
    Sized inode world.fileSystem ∧
      ((∀ move ∈ courses.flatMap Course.moves,
          WholePages base.pageSize.toNat inode move.after) ↔
        ∀ move ∈ courses.flatMap Course.moves, FullOrInside inode move) ∧
      ((∀ move ∈ courses.flatMap Course.moves, FullOrInside inode move) →
        WholePages base.pageSize.toNat inode world.fileSystem) := by
  refine Machine.Run.invariant
    (fun courses world =>
      Sized inode world.fileSystem ∧
        ((∀ move ∈ courses.flatMap Course.moves,
            WholePages base.pageSize.toNat inode move.after) ↔
          ∀ move ∈ courses.flatMap Course.moves,
            FullOrInside inode move) ∧
        ((∀ move ∈ courses.flatMap Course.moves,
            FullOrInside inode move) →
          WholePages base.pageSize.toNat inode world.fileSystem))
    ?_ ?_ run
  · intro start started
    have empty : (start.fileSystem.file inode).size = 0 := started
    unfold Sized WholePages
    rw [empty]
    exact ⟨by omega, by simp, fun _ => Nat.zero_mod _⟩
  · intro earlier before course after _ invariant step
    rcases invariant with ⟨sized, same, whole⟩
    rcases step with ⟨_, rfl, allowed, performed⟩
    obtain ⟨_, sizedAfter, carried⟩ :=
      performs_wholePages positive sized allowed performed
    simp only [List.flatMap_append, List.flatMap_singleton,
      List.forall_mem_append]
    refine ⟨sizedAfter, ?_, ?_⟩
    · constructor
      · intro allWhole
        rcases allWhole with ⟨wholeBefore, wholeNow⟩
        have fine := same.mp wholeBefore
        exact ⟨fine, (carried (whole fine)).1.mp wholeNow⟩
      · intro allFine
        rcases allFine with ⟨fine, fineNow⟩
        exact ⟨same.mpr fine, (carried (whole fine)).1.mpr fineNow⟩
    · intro allFine
      rcases allFine with ⟨fine, fineNow⟩
      exact (carried (whole fine)).2 fineNow

end Runs

/-- In every run under faults, and in one more operation that may crash, the
file has whole pages after every call and no size assertion fails, exactly when
no write stops inside a page past the end of the file. -/
theorem whole_pages_iff (base : DiskManager) (inode : Nat)
    (positive : base.pageSize ≠ 0) {courses : List Course} {world : World}
    (run :
      (World.courses base mayFail
        (fun start => (start.fileSystem.file inode).size = 0)
        (World.InBounds base inode)).Run courses world)
    {operation : Operation}
    (allowed : world.InBounds base inode operation)
    {moves : List (Move Posix.calls FileSystem)}
    {outcome : Outcome Crash (Response × PosixDiskManager)}
    {last : FileSystem}
    (performed :
      world.Performs base mayFail operation moves outcome last) :
    ((∀ move ∈ courses.flatMap Course.moves ++ moves,
        WholePages base.pageSize.toNat inode move.after) ∧
      ∀ reason, outcome = .crashed reason → ¬ reason.blamesSize) ↔
      ∀ move ∈ courses.flatMap Course.moves ++ moves,
        FullOrInside inode move := by
  obtain ⟨sized, same, whole⟩ := courses_wholePages positive run
  obtain ⟨safe, _, carried⟩ :=
    performs_wholePages positive sized allowed performed
  simp only [List.forall_mem_append]
  constructor
  · intro allWhole
    rcases allWhole with ⟨⟨wholeBefore, wholeNow⟩, _⟩
    have fine := same.mp wholeBefore
    exact ⟨fine, (carried (whole fine)).1.mp wholeNow⟩
  · intro allFine
    rcases allFine with ⟨fine, fineNow⟩
    have now := carried (whole fine)
    refine ⟨⟨same.mpr fine, now.1.mpr fineNow⟩, ?_⟩
    intro reason equal blames
    rcases equal with rfl
    exact safe blames (now.2 fineNow)

private theorem smallDisk_inBounds :
    World.smallDisk.InBounds smallBase 0 (.write 0 0 [1, 2]) :=
  ⟨⟨"a.disk", by decide, by decide⟩, by decide, by decide⟩

/-- A write of the first page that stops after one byte, in a file that is long
enough by then. -/
theorem whole_pages_iff_small :
    ∃ moves outcome last,
      World.smallDisk.Performs smallBase mayFail (.write 0 0 [1, 2]) moves
          outcome last ∧
        (((∀ move ∈ moves, WholePages 2 0 move.after) ∧
            ∀ reason, outcome = .crashed reason → ¬ reason.blamesSize) ↔
          ∀ move ∈ moves, FullOrInside 0 move) := by
  obtain ⟨moves, performed⟩ :=
    World.performs_of_planned
      (fun index => if index = 8 then .short 1 else .none)
      (Prod.eta _).symm
  have begun :
      (World.courses smallBase mayFail
        (fun start => (start.fileSystem.file 0).size = 0)
        (World.InBounds smallBase 0)).Run [] World.smallDisk :=
    .start rfl
  exact ⟨moves, _, _, performed,
    whole_pages_iff smallBase 0 (by decide) begun smallDisk_inBounds
      performed⟩

/-- A `truncate` that fails and a write that stops after one byte: the write is
tried again and runs into the assertion. -/
theorem short_write_blames_size :
    ∃ moves last,
      World.smallDisk.InBounds smallBase 0 (.write 0 0 [1, 2]) ∧
        (World.smallDisk.fileSystem.file 0).size = 0 ∧
        World.smallDisk.Performs smallBase mayFail (.write 0 0 [1, 2])
          moves (.crashed .assertFileSize) last ∧
        (last.file 0).size = 1 := by
  obtain ⟨moves, performed⟩ :=
    World.performs_of_planned
      (fun index =>
        if index = 5 then .fail else if index = 7 then .short 1 else .none)
      (Prod.eta _).symm
  exact ⟨moves, _, smallDisk_inBounds, rfl, performed, rfl⟩

end Lewsql
