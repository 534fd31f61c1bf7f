import Lewsql.DiskManager.RacingDestroy
import Lewsql.Interaction.Bounded

/-!
# How operations end

The errors that each member function can report, the ways in which it can crash and
the number of POSIX calls that it makes at most, when the calls answer anything and
others act between them.  The tables are exact: everything in them happens.
-/

namespace Lewsql

open Interaction Posix

/-- How an operation ends, without what it returns. -/
abbrev Ending := Outcome Crash (Option DiskManagerErrorCode)

def endingOf {Value : Type}
    (error? : Value → Option DiskManagerErrorCode) :
    Outcome Crash Value → Ending
  | .done value => .done (error? value)
  | .crashed reason => .crashed reason

/-- No error or one of these, or one of these crashes. -/
def Among (errors : List DiskManagerErrorCode) (crashes : List Crash) :
    Ending → Prop
  | .done none => True
  | .done (some failure) => failure ∈ errors
  | .crashed reason => reason ∈ crashes

instance {errors : List DiskManagerErrorCode} {crashes : List Crash} :
    (ending : Ending) → Decidable (Among errors crashes ending)
  | .done none => inferInstanceAs (Decidable True)
  | .done (some failure) => inferInstanceAs (Decidable (failure ∈ errors))
  | .crashed reason => inferInstanceAs (Decidable (reason ∈ crashes))

theorem Among.mono {errors more : List DiskManagerErrorCode}
    {crashes others : List Crash} {ending : Ending}
    (among : Among errors crashes ending) (errorsIn : errors ⊆ more)
    (crashesIn : crashes ⊆ others) : Among more others ending := by
  cases ending with
  | done error =>
      cases error with
      | none => exact True.intro
      | some failure => exact errorsIn among
  | crashed reason => exact crashesIn among

def Result.error? {R E : Type} : Result R E → Option E
  | .value _ => none
  | .error failure => some failure

/-- A program ends so after at most so many calls. -/
def EndsBy {Value : Type} (error? : Value → Option DiskManagerErrorCode)
    (errors : List DiskManagerErrorCode) (crashes : List Crash)
    (limit : Nat) (program : Effect Value) : Prop :=
  program.EndsWithin
    (fun outcome => Among errors crashes (endingOf error? outcome)) limit

abbrev EndsAmong {R : Type} (errors : List DiskManagerErrorCode)
    (crashes : List Crash) (limit : Nat)
    (program : Effect (DiskResult R)) : Prop :=
  EndsBy Result.error? errors crashes limit program

/-! ## The macros -/

section Macros

variable {R S T : Type} {errors more : List DiskManagerErrorCode}
variable {crashes others : List Crash}
variable {post : Outcome Crash T → Prop}
variable {result : Effect (DiskResult R)} {limit rest : Nat}
variable {onError : DiskManagerErrorCode → Effect T}
variable {onValue : R → Effect T}

theorem EndsBy.mono {error? : T → Option DiskManagerErrorCode}
    {program : Effect T} (ends : EndsBy error? errors crashes limit program)
    (le : limit ≤ rest) (errorsIn : errors ⊆ more)
    (crashesIn : crashes ⊆ others) :
    EndsBy error? more others rest program :=
  Program.EndsWithin.mono ends le
    fun _ among => among.mono errorsIn crashesIn

variable (limit rest) in
theorem EndsBy.bind {Value : Type}
    {error? : Value → Option DiskManagerErrorCode}
    {program : Effect Value} {next : Value → Effect T}
    (evaluates : EndsBy error? errors crashes limit program)
    (crashed : ∀ reason ∈ crashes, post (.crashed reason))
    (returns : ∀ value, Among errors crashes (.done (error? value)) →
      (next value).EndsWithin post rest) :
    (program >>= next).EndsWithin post (limit + rest) := by
  apply Program.EndsWithin.bind
  refine Program.EndsWithin.mono evaluates (Nat.le_refl _) ?_
  intro outcome among
  cases outcome with
  | crashed reason => exact crashed reason among
  | done value => exact returns value among

variable (limit rest) in
theorem endsWithin_bind {next : DiskResult R → Effect T}
    (evaluates : EndsAmong errors crashes limit result)
    (crashed : ∀ reason ∈ crashes, post (.crashed reason))
    (errs : ∀ failure ∈ errors,
      (next (.error failure)).EndsWithin post rest)
    (returns : ∀ value, (next (.value value)).EndsWithin post rest) :
    (result >>= next).EndsWithin post (limit + rest) := by
  refine evaluates.bind limit rest crashed ?_
  intro evaluated among
  cases evaluated with
  | value value => exact returns value
  | error failure => exact errs failure among

variable (limit rest) in
theorem endsWithin_propagate
    (evaluates : EndsAmong errors crashes limit result)
    (crashed : ∀ reason ∈ crashes, post (.crashed reason))
    (asserts : post (.crashed .assertIsError))
    (errs : ∀ failure ∈ errors, (onError failure).EndsWithin post rest)
    (returns : ∀ value,
      (onValue value).EndsWithin post (limit + rest)) :
    (propagate result onError onValue).EndsWithin post
      (limit + (limit + rest)) := by
  simp only [propagate]
  refine endsWithin_bind limit (limit + rest) evaluates crashed ?_ returns
  intro failure known
  refine endsWithin_bind limit rest evaluates crashed errs ?_
  exact fun value => Program.endsWithin_crash.mpr asserts

variable (limit rest) in
theorem endsWithin_unwrap
    (evaluates : EndsAmong errors crashes limit result)
    (crashed : ∀ reason ∈ crashes, post (.crashed reason))
    (asserts : post (.crashed .assertIsError))
    (unwraps : ∀ failure ∈ errors,
      post (.crashed (Result.unwrapCrash failure)))
    (errs : ∀ failure ∈ errors, (onError failure).EndsWithin post rest)
    (returns : ∀ value, (onValue value).EndsWithin post rest) :
    (unwrap result onError onValue).EndsWithin post
      (limit + (limit + rest)) := by
  simp only [unwrap]
  refine endsWithin_bind limit (limit + rest) evaluates crashed ?_ ?_
  · intro failure known
    rw [Result.isError_error, if_pos rfl]
    refine endsWithin_bind limit rest evaluates crashed errs ?_
    exact fun value => Program.endsWithin_crash.mpr asserts
  · intro value
    rw [Result.isError_value, if_neg Bool.false_ne_true]
    refine endsWithin_bind limit rest evaluates crashed ?_ returns
    intro failure known
    rw [Result.getValue_error]
    exact Program.endsWithin_crash.mpr (unwraps failure known)

end Macros

/-! ## An open disk -/

theorem endsAmong_done {R : Type} {errors : List DiskManagerErrorCode}
    {crashes : List Crash} {limit : Nat} {result : DiskResult R}
    (among : Among errors crashes (.done result.error?)) :
    EndsAmong errors crashes limit (.done result) :=
  Program.endsWithin_done.mpr among

def openErrors (shouldExist : Bool) : List DiskManagerErrorCode :=
  [.unkownError, refusal shouldExist, .createDiskError]

def openCrashes : List Crash :=
  [.assertIsError, .badOptionalAccess]

def prepareErrors : List DiskManagerErrorCode :=
  [.getDiskSizeError, .diskExceedsMaxSize, .unkownError]

def prepareCrashes : List Crash :=
  [.divisionByZero, .assertFileSize, .assertIsError, .assertWhat]

namespace PosixDisk

variable {path : String} {disk : PosixDisk}

theorem endsAmong_exists :
    EndsAmong [.unkownError] [] 1 (PosixDisk.exists path) := by
  rw [exists_eq]
  intro reply
  apply endsAmong_done
  cases reply with
  | ok answer => exact True.intro
  | error number =>
      cases number with
      | enoent => exact True.intro
      | other => exact List.mem_singleton_self _

theorem endsAmong_init {shouldExist : Bool}
    {pageSize maxDiskSize : UInt32} :
    EndsAmong (openErrors shouldExist) openCrashes 3
      (PosixDisk.init path shouldExist pageSize maxDiskSize) := by
  rw [init_eq]
  refine endsWithin_unwrap 1 1 endsAmong_exists ?_ ?_ ?_ ?_ ?_
  · exact fun _ impossible => absurd impossible List.not_mem_nil
  · exact List.mem_cons_self
  · intro failure known
    rw [List.mem_singleton.mp known]
    exact List.mem_cons_of_mem _ List.mem_cons_self
  · intro failure known
    apply endsAmong_done
    rw [List.mem_singleton.mp known]
    exact List.mem_cons_self
  · intro exist
    split_ifs
    · intro reply
      apply endsAmong_done
      cases reply with
      | ok fd => exact True.intro
      | error number =>
          change DiskManagerErrorCode.createDiskError ∈ openErrors _
          simp [openErrors]
    · apply endsAmong_done
      change refusal shouldExist ∈ openErrors shouldExist
      simp [openErrors]

theorem endsAmong_sync : EndsAmong [.unkownError] [] 1 disk.sync := by
  rw [sync, posix]
  intro reply
  cases reply with
  | ok done => exact True.intro
  | error number => exact List.mem_singleton_self _

theorem endsAmong_seek {position : UInt32} :
    EndsAmong [.unkownError] [] 1 (disk.seek position) := by
  rw [seek, posix]
  intro reply
  cases reply with
  | error number => exact List.mem_singleton_self _
  | ok offset =>
      change Program.EndsWithin _ 0 (if _ then _ else _)
      split_ifs
      · exact List.mem_singleton_self _
      · exact True.intro

/-- Propagation in front of a success. -/
theorem endsAmong_propagate {R : Type} {limit : Nat}
    {errors : List DiskManagerErrorCode} {crashes : List Crash}
    {result : Effect (DiskResult R)}
    (evaluates : EndsAmong errors crashes limit result)
    (asserts : .assertIsError ∈ crashes) :
    EndsAmong errors crashes (limit + (limit + 0))
      (propagate result (fun failure => .done (.error failure))
        (fun _ => .done .ok) : Effect (DiskResult Unit)) := by
  refine endsWithin_propagate limit 0 evaluates (fun _ known => known)
    asserts ?_ ?_
  · intro failure known
    exact endsAmong_done known
  · intro content
    exact endsAmong_done True.intro

theorem endsAmong_truncate {size : UInt32} :
    EndsAmong [.unkownError] [.assertIsError] 3 (disk.truncate size) := by
  rw [truncate, posix]
  intro reply
  cases reply with
  | error number => exact List.mem_singleton_self _
  | ok done =>
      change EndsAmong _ _ 2 (propIfError _ _)
      rw [propIfError_eq]
      exact endsAmong_propagate
        (endsAmong_sync.mono (Nat.le_refl 1) (List.Subset.refl _)
          (List.nil_subset _))
        (List.mem_singleton_self _)

theorem endsAmong_getDiskByteSize :
    EndsAmong [.getDiskSizeError] [.divisionByZero, .assertFileSize] 1
      disk.getDiskByteSize := by
  rw [getDiskByteSize, posix]
  intro reply
  cases reply with
  | error number => exact List.mem_singleton_self _
  | ok size =>
      change Program.EndsWithin _ 0 (if _ then _ else _)
      split_ifs
      · exact List.mem_cons_self
      · exact List.mem_cons_of_mem _ List.mem_cons_self
      · exact True.intro

theorem endsAmong_prepareRw {cursor : DiskPageCursor} :
    EndsAmong prepareErrors prepareCrashes 7 (disk.prepareRw cursor) := by
  rw [prepareRw, unwrapOrPropError_eq]
  refine endsWithin_unwrap 1 5 endsAmong_getDiskByteSize ?_ ?_ ?_ ?_ ?_
  · intro reason known
    exact List.mem_append_left [.assertIsError, .assertWhat] known
  · change Crash.assertIsError ∈ prepareCrashes
    decide
  · intro failure known
    rw [List.mem_singleton.mp known]
    change Crash.assertWhat ∈ prepareCrashes
    decide
  · intro failure known
    apply endsAmong_done
    rw [List.mem_singleton.mp known]
    exact List.mem_cons_self
  · intro size
    have sought (position : UInt32) :
        EndsAmong prepareErrors prepareCrashes 2
          (propIfError (disk.seek position) (return .ok)) := by
      rw [propIfError_eq]
      exact endsAmong_propagate
        (endsAmong_seek.mono (Nat.le_refl 1) (by decide)
          (List.nil_subset _)) (by decide)
    dsimp only
    split_ifs
    · exact endsAmong_done (by decide)
    · refine endsWithin_bind 3 2 endsAmong_truncate ?_ ?_ ?_
      · intro reason known
        rw [List.mem_singleton.mp known]
        change Crash.assertIsError ∈ prepareCrashes
        decide
      · exact fun _ _ => sought _
      · exact fun _ => sought _
    · exact (sought _).mono (by decide) (List.Subset.refl _)
        (List.Subset.refl _)

/-- How a write can fail is how finding its page can. -/
theorem endsAmong_write {cursor : DiskPageCursor} {data : List UInt8} :
    EndsAmong prepareErrors prepareCrashes 14 (disk.write cursor data) := by
  rw [write_eq]
  refine endsWithin_propagate 7 0 endsAmong_prepareRw (fun _ known => known)
    ?_ ?_ ?_
  · change Crash.assertIsError ∈ prepareCrashes
    decide
  · exact fun failure known => endsAmong_done known
  · intro _
    have written (reply : Except Errno Nat) :
        EndsAmong prepareErrors prepareCrashes 6
          (disk.afterWrite reply) := by
      rw [afterWrite]
      split_ifs
      · exact endsAmong_done (by decide)
      · exact (endsAmong_propagate
          (endsAmong_sync.mono (Nat.le_refl 1) (by decide)
            (List.nil_subset _)) (by decide)).mono (by decide)
          (List.Subset.refl _) (List.Subset.refl _)
    exact written

/-- What a read that leaves its buffer reports. -/
def readErrors : List DiskManagerErrorCode :=
  .readDiskError :: prepareErrors

theorem endsBy_read {cursor : DiskPageCursor} {buffer : List UInt8} :
    EndsBy (fun returned => returned.1.error?) readErrors prepareCrashes 14
      ((disk.read cursor).run buffer) := by
  rw [read_run]
  refine endsWithin_propagate 7 0 endsAmong_prepareRw (fun _ known => known)
    ?_ ?_ ?_
  · change Crash.assertIsError ∈ prepareCrashes
    decide
  · intro failure known
    exact Program.endsWithin_done.mpr (List.mem_cons_of_mem _ known)
  · intro _ reply
    rw [Program.endsWithin_done]
    simp only [afterRead]
    split_ifs
    · exact List.mem_cons_self
    · exact True.intro

/-- A propagated read. -/
theorem endsBy_propagated_read {cursor : DiskPageCursor}
    {buffer : List UInt8} :
    EndsBy (fun returned => returned.1.error?) readErrors prepareCrashes 28
      ((propIfError (disk.read cursor)
        (pure .ok : StateT (List UInt8) Effect (DiskResult Unit))).run
          buffer) := by
  simp only [propIfError]
  rw [StateT.run_bind]
  refine endsBy_read.bind 14 14 (fun _ known => known) ?_
  intro evaluated among
  obtain ⟨result, bytes⟩ := evaluated
  cases result with
  | value content => exact Program.endsWithin_done.mpr True.intro
  | error failure =>
      dsimp only
      rw [Result.isError_error, if_pos rfl, StateT.run_bind]
      refine endsBy_read.bind 14 0 (fun _ known => known) ?_
      intro evaluated among
      obtain ⟨again, left⟩ := evaluated
      cases again with
      | value content =>
          apply Program.endsWithin_crash.mpr
          change Crash.assertIsError ∈ prepareCrashes
          decide
      | error failure => exact Program.endsWithin_done.mpr among

/-- The end of the scope of a disk. -/
theorem endsWithin_destructor {T : Type} {post : Outcome Crash T → Prop}
    {value : T} (ended : post (.done value)) :
    (disk.destructor >>= fun _ => Program.done value).EndsWithin post 1 := by
  rw [destructor]
  split_ifs
  · intro reply
    cases reply with
    | ok answer => exact ended
    | error number => exact ended
  · exact Program.endsWithin_done.mpr ended

end PosixDisk

/-! ## The tables -/

/-- A member function, without its arguments. -/
inductive MemberFunction where
  | create
  | load
  | unload
  | destroy
  | write
  | read
  | extend
  | diskByteSize
  | «exists»
  | isLoaded
  | loadedDiskName
  | numLoadedDisks
  deriving DecidableEq, Repr

def Operation.memberFunction : Operation → MemberFunction
  | .create _ => .create
  | .load _ => .load
  | .unload _ => .unload
  | .destroy _ => .destroy
  | .write _ _ _ => .write
  | .read _ _ _ => .read
  | .extend _ => .extend
  | .diskByteSize _ => .diskByteSize
  | .exists _ => .exists
  | .isLoaded _ => .isLoaded
  | .loadedDiskName _ => .loadedDiskName
  | .numLoadedDisks => .numLoadedDisks

namespace MemberFunction

def errors : MemberFunction → List DiskManagerErrorCode
  | .create =>
      [.unkownError, .diskAlreadyExists, .diskNotFound, .createDiskError]
  | .load => [.unkownError, .diskNotFound, .createDiskError]
  | .unload => [.diskNotFound]
  | .destroy =>
      [.diskNotFound, .unkownError, .createDiskError, .destroyDiskError]
  | .write =>
      [.diskNotFound, .unkownError, .createDiskError, .getDiskSizeError,
        .diskExceedsMaxSize]
  | .read =>
      [.diskNotFound, .unkownError, .createDiskError, .getDiskSizeError,
        .diskExceedsMaxSize, .readDiskError]
  | .extend =>
      [.diskNotFound, .unkownError, .createDiskError, .getDiskSizeError,
        .diskExceedsMaxSize]
  | .diskByteSize =>
      [.diskNotFound, .unkownError, .createDiskError, .getDiskSizeError]
  | .exists => [.unkownError]
  | .isLoaded => []
  | .loadedDiskName => [.diskNotFound]
  | .numLoadedDisks => []

def crashes : MemberFunction → List Crash
  | .create => [.assertIsError, .badOptionalAccess, .signedOverflow]
  | .load => [.assertIsError, .badOptionalAccess, .signedOverflow]
  | .destroy => [.assertIsError, .badOptionalAccess]
  | .write =>
      [.assertIsError, .badOptionalAccess, .divisionByZero,
        .assertFileSize, .assertWhat]
  | .read =>
      [.assertIsError, .badOptionalAccess, .divisionByZero,
        .assertFileSize, .assertWhat]
  | .extend =>
      [.assertIsError, .badOptionalAccess, .divisionByZero,
        .assertFileSize, .assertWhat, .assertByteSize]
  | .diskByteSize =>
      [.assertIsError, .badOptionalAccess, .divisionByZero,
        .assertFileSize]
  | _ => []

/-- The most POSIX calls that it makes. -/
def mostCalls : MemberFunction → Nat
  | .create => 8
  | .load => 4
  | .destroy => 6
  | .write => 32
  | .read => 32
  | .extend => 10
  | .diskByteSize => 5
  | .exists => 1
  | _ => 0

abbrev CanEnd (function : MemberFunction) : Ending → Prop :=
  Among function.errors function.crashes

end MemberFunction

/-! ## Operations -/

namespace PosixDiskManager

variable {base : DiskManager} {self : PosixDiskManager}
variable {diskId : DiskId} {diskNamePrefix : DiskName}
variable {path : String} {Value : Type} {limit : Nat}
variable {error? : Value → Option DiskManagerErrorCode}
variable {errors : List DiskManagerErrorCode} {crashes : List Crash}

variable (limit) in
/-- The scope of a disk. -/
theorem endsBy_withDisk {failed : DiskManagerErrorCode → Value}
    {body : PosixDisk → Effect Value}
    (fails : ∀ failure, error? (failed failure) = some failure)
    (opens : openErrors true ⊆ errors) (breaks : openCrashes ⊆ crashes)
    (uses : ∀ disk, EndsBy error? errors crashes limit (body disk)) :
    EndsBy error? errors crashes (3 + (limit + 1))
      (withDisk base path failed body) := by
  simp only [withDisk]
  refine endsWithin_bind 3 (limit + 1) PosixDisk.endsAmong_init ?_ ?_ ?_
  · exact fun reason known => breaks known
  · intro failure known
    apply Program.endsWithin_done.mpr
    change Among _ _ (.done (error? (failed failure)))
    rw [fails]
    exact opens known
  · intro disk
    refine (uses disk).bind limit 1 (fun _ known => known) ?_
    exact fun value among => PosixDisk.endsWithin_destructor among

variable (error? limit) in
/-- An operation on a disk that leaves the manager alone. -/
theorem endsBy_usesDisk {failed : DiskManagerErrorCode → Value}
    {body : PosixDisk → Effect Value}
    (fails : ∀ failure, error? (failed failure) = some failure)
    (opens : openErrors true ⊆ errors) (breaks : openCrashes ⊆ crashes)
    (uses : ∀ disk, EndsBy error? errors crashes limit (body disk)) :
    EndsBy (fun returned => error? returned.1) errors crashes
      (3 + (limit + 1))
      (withDisk base path failed body >>= fun value =>
        Program.done (value, self)) := by
  refine (endsBy_withDisk limit fails opens breaks uses).bind _ 0
    (fun _ known => known) ?_
  exact fun value among => Program.endsWithin_done.mpr among

theorem endsBy_load :
    EndsBy (fun returned => returned.1.error?) MemberFunction.load.errors
      MemberFunction.load.crashes 4 ((load base diskNamePrefix).run self) := by
  rw [load_run]
  refine endsWithin_bind 3 1 PosixDisk.endsAmong_init ?_ ?_ ?_
  · intro reason known
    exact List.mem_append_left [.signedOverflow] known
  · exact fun failure known => Program.endsWithin_done.mpr known
  · intro disk
    dsimp only
    split_ifs with room
    · apply Program.endsWithin_crash.mpr
      change Crash.signedOverflow ∈ MemberFunction.load.crashes
      decide
    · exact PosixDisk.endsWithin_destructor True.intro

theorem endsBy_create :
    EndsBy (fun returned => returned.1.error?) MemberFunction.create.errors
      MemberFunction.create.crashes 8
      ((create base diskNamePrefix).run self) := by
  rw [create_run]
  refine endsWithin_propagate 3 2 PosixDisk.endsAmong_init ?_ ?_ ?_ ?_
  · intro reason known
    exact List.mem_append_left [.signedOverflow] known
  · change Crash.assertIsError ∈ MemberFunction.create.crashes
    decide
  · intro failure known
    apply Program.endsWithin_done.mpr
    have refused : openErrors false ⊆ MemberFunction.create.errors := by
      decide
    exact refused known
  · intro disk
    have loads :
        EndsBy (fun returned => returned.1.error?)
          MemberFunction.create.errors MemberFunction.create.crashes 4
          ((load base diskNamePrefix).run self) :=
      endsBy_load.mono (Nat.le_refl 4) (by decide) (by decide)
    rw [PosixDisk.destructor]
    split_ifs
    · intro reply
      cases reply with
      | ok answer => exact loads
      | error number => exact loads
    · exact loads.mono (by decide) (List.Subset.refl _) (List.Subset.refl _)

theorem endsAmong_destroyInScope {disk : PosixDisk} :
    EndsAmong [.destroyDiskError] [.assertIsError] 3
      disk.destroyInScope := by
  simp only [PosixDisk.destroyInScope]
  intro reply
  cases reply with
  | ok removed => exact True.intro
  | error number =>
      intro reply
      cases reply with
      | ok removed => exact List.mem_singleton_self _
      | error number =>
          exact PosixDisk.endsWithin_destructor (List.mem_singleton_self _)

theorem endsBy_destroy :
    EndsBy (fun returned => returned.1.error?)
      MemberFunction.destroy.errors MemberFunction.destroy.crashes 6
      ((destroy base diskId).run self) := by
  rw [destroy_run]
  cases self.disks.lookup diskId with
  | none => exact List.mem_cons_self
  | some diskName =>
      refine endsWithin_bind 3 3 PosixDisk.endsAmong_init ?_ ?_ ?_
      · exact fun reason known => known
      · intro failure known
        apply Program.endsWithin_done.mpr
        have refused : openErrors true ⊆ MemberFunction.destroy.errors := by
          decide
        exact refused known
      · intro disk
        refine endsAmong_destroyInScope.bind 3 0 ?_ ?_
        · intro reason known
          rw [List.mem_singleton.mp known]
          change Crash.assertIsError ∈ MemberFunction.destroy.crashes
          decide
        · intro result among
          apply Program.endsWithin_done.mpr
          exact among.mono (by decide) (by decide)

theorem endsBy_write {cursor : DiskPageCursor} {bytes : List UInt8} :
    EndsBy (fun returned => returned.1.error?) MemberFunction.write.errors
      MemberFunction.write.crashes 32
      ((write base diskId cursor bytes).run self) := by
  rw [write_run]
  cases self.disks.lookup diskId with
  | none => exact List.mem_cons_self
  | some diskName =>
      refine endsBy_usesDisk 28 Result.error? ?_ ?_ ?_ ?_
      · exact fun _ => rfl
      · decide
      · decide
      · intro disk
        rw [propIfError_eq]
        exact (PosixDisk.endsAmong_propagate PosixDisk.endsAmong_write
          (by decide)).mono (Nat.le_refl 28) (by decide) (by decide)

theorem endsBy_read {cursor : DiskPageCursor} {buffer : List UInt8} :
    EndsBy (fun returned => returned.1.1.error?) MemberFunction.read.errors
      MemberFunction.read.crashes 32
      (((read base diskId cursor).run buffer).run self) := by
  rw [read_run]
  cases self.disks.lookup diskId with
  | none => exact List.mem_cons_self
  | some diskName =>
      refine endsBy_usesDisk 28
        (fun returned : DiskResult Unit × List UInt8 => returned.1.error?)
        ?_ ?_ ?_ ?_
      · exact fun _ => rfl
      · decide
      · decide
      · intro disk
        exact PosixDisk.endsBy_propagated_read.mono (Nat.le_refl 28)
          (by decide) (by decide)

theorem endsBy_diskByteSize :
    EndsBy (fun returned => returned.1.error?)
      MemberFunction.diskByteSize.errors
      MemberFunction.diskByteSize.crashes 5
      ((diskByteSize base diskId).run self) := by
  rw [diskByteSize_run]
  cases self.disks.lookup diskId with
  | none => exact List.mem_cons_self
  | some diskName =>
      refine endsBy_usesDisk 1 Result.error? ?_ ?_ ?_ ?_
      · exact fun _ => rfl
      · decide
      · decide
      · intro disk
        exact PosixDisk.endsAmong_getDiskByteSize.mono (Nat.le_refl 1)
          (by decide) (by decide)

theorem endsBy_extend :
    EndsBy (fun returned => returned.1.error?)
      MemberFunction.extend.errors MemberFunction.extend.crashes 10
      ((extend base diskId).run self) := by
  rw [extend_run]
  cases self.disks.lookup diskId with
  | none => exact List.mem_cons_self
  | some diskName =>
      have measures :
          EndsAmong MemberFunction.diskByteSize.errors
            MemberFunction.diskByteSize.crashes 5
            (withDisk base (base.getDiskPath diskName) Result.error
              fun posixDisk => posixDisk.getDiskByteSize) := by
        refine endsBy_withDisk 1 ?_ ?_ ?_ ?_
        · exact fun _ => rfl
        · decide
        · decide
        · intro disk
          exact PosixDisk.endsAmong_getDiskByteSize.mono (Nat.le_refl 1)
            (by decide) (by decide)
      refine endsWithin_unwrap 5 0 measures ?_ ?_ ?_ ?_ ?_
      · intro reason known
        exact List.mem_append_left [.assertWhat, .assertByteSize] known
      · change Crash.assertIsError ∈ MemberFunction.extend.crashes
        decide
      · intro failure known
        change Result.unwrapCrash failure ∈ MemberFunction.extend.crashes
        cases failure <;> decide
      · intro failure known
        exact List.mem_append_left [.diskExceedsMaxSize] known
      · intro size
        split_ifs
        · change Crash.divisionByZero ∈ MemberFunction.extend.crashes
          decide
        · change Crash.assertByteSize ∈ MemberFunction.extend.crashes
          decide
        · change DiskManagerErrorCode.diskExceedsMaxSize ∈
            MemberFunction.extend.errors
          decide
        · exact True.intro

private theorem reports_diskId (result : DiskResult DiskId) :
    (Response.diskId result).error? = result.error? := by
  cases result <;> rfl

private theorem reports_void (result : DiskResult Unit) :
    (Response.void result).error? = result.error? := by
  cases result <;> rfl

private theorem reports_buffer (returned : DiskResult Unit × List UInt8) :
    (Response.buffer returned.1 returned.2).error? = returned.1.error? := by
  obtain ⟨result, bytes⟩ := returned
  cases result <;> rfl

private theorem reports_cursor (result : DiskResult DiskPageCursor) :
    (Response.cursor result).error? = result.error? := by
  cases result <;> rfl

private theorem reports_size (result : DiskResult UInt32) :
    (Response.size result).error? = result.error? := by
  cases result <;> rfl

private theorem reports_flag (result : DiskResult Bool) :
    (Response.flag result).error? = result.error? := by
  cases result <;> rfl

private theorem reports_name (result : DiskResult DiskName) :
    (Response.name result).error? = result.error? := by
  cases result <;> rfl

theorem endsBy_map {wrap : Value → Response} {member : Member Value}
    (same : ∀ value, (wrap value).error? = error? value)
    (ends :
      EndsBy (fun returned => error? returned.1) errors crashes limit
        (member.run self)) :
    EndsBy (fun returned => returned.1.error?) errors crashes limit
      ((wrap <$> member).run self) := by
  rw [StateT.run_map]
  apply Program.EndsWithin.map
  refine Program.EndsWithin.mono ends (Nat.le_refl _) ?_
  intro outcome among
  cases outcome with
  | done returned =>
      change Among _ _ (.done (wrap returned.1).error?)
      rw [same]
      exact among
  | crashed reason => exact among

/-- Every operation ends as its tables say. -/
theorem endsBy_perform {operation : Operation} :
    EndsBy (fun returned => returned.1.error?)
      operation.memberFunction.errors operation.memberFunction.crashes
      operation.memberFunction.mostCalls
      ((perform base operation).run self) := by
  cases operation with
  | create diskName => exact endsBy_map reports_diskId endsBy_create
  | load diskName => exact endsBy_map reports_diskId endsBy_load
  | destroy diskId => exact endsBy_map reports_void endsBy_destroy
  | write diskId cursor bytes => exact endsBy_map reports_void endsBy_write
  | read diskId cursor buffer => exact endsBy_map reports_buffer endsBy_read
  | extend diskId => exact endsBy_map reports_cursor endsBy_extend
  | diskByteSize diskId => exact endsBy_map reports_size endsBy_diskByteSize
  | «exists» diskName =>
      apply endsBy_map reports_flag
      exact PosixDisk.endsAmong_exists.bind 1 0 (fun _ known => known)
        fun _ among => Program.endsWithin_done.mpr among
  | unload diskId =>
      apply endsBy_map reports_void
      rw [unload_run]
      split_ifs
      · exact True.intro
      · exact List.mem_cons_self
  | loadedDiskName diskId =>
      apply endsBy_map reports_name
      rw [loadedDiskName_run]
      cases self.disks.lookup diskId with
      | none => exact List.mem_cons_self
      | some diskName => exact True.intro
  | isLoaded diskId => exact True.intro
  | numLoadedDisks => exact True.intro

end PosixDiskManager

end Lewsql
