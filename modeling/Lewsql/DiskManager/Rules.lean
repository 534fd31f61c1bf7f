import Lewsql.DiskManager.Footprint
import Lewsql.DiskManager.Operation

/-!
# Rules for the scope of a disk

What is needed of the surroundings to know how `init`, and the member functions
that open a disk, use it and let it be destroyed, can end.  The surroundings are
arbitrary here: calls may fail, and others may act between them.
-/

namespace Lewsql

open Interaction Posix

/-- Crashes out of `PROP_IF_ERROR` and `UNWRAP_OR_PROP_ERROR` when a result
changes between its evaluations. -/
def Crash.fromMacro : Crash → Bool
  | .assertIsError => true
  | .badOptionalAccess => true
  | .assertWhat => true
  | _ => false

theorem Result.unwrapCrash_fromMacro (failure : DiskManagerErrorCode) :
    (Result.unwrapCrash failure).fromMacro = true := by
  cases failure <;> rfl

/-- What `exists` makes of the answer of `access`. -/
def existenceOf : Except Errno Unit → DiskResult Bool
  | .ok () => .value true
  | .error .enoent => .value false
  | .error .other => .error .unkownError

/-- The error of an `init` that finds the opposite of what it should. -/
def refusal (shouldExist : Bool) : DiskManagerErrorCode :=
  if shouldExist then .diskNotFound else .diskAlreadyExists

theorem PosixDisk.exists_eq (path : String) :
    PosixDisk.exists path =
      .call (.access path) fun reply => .done (existenceOf reply) := by
  rw [PosixDisk.exists, posix, Program.perform_bind]
  apply congrArg (Program.call _)
  funext reply
  rcases reply with (_ | _) | ⟨⟩ <;> rfl

def openedAs (path : String) (pageSize maxDiskSize : UInt32) :
    Except Errno Nat → DiskResult PosixDisk
  | .ok fd => .value (PosixDisk.new path fd pageSize maxDiskSize)
  | .error _ => .error .createDiskError

theorem PosixDisk.init_eq (path : String) (shouldExist : Bool)
    (pageSize maxDiskSize : UInt32) :
    PosixDisk.init path shouldExist pageSize maxDiskSize =
      unwrap (PosixDisk.exists path) (fun error => .done (.error error))
        (fun exist =>
          if exist = shouldExist then
            .call (.openFile path) fun reply =>
              .done (openedAs path pageSize maxDiskSize reply)
          else
            .done (.error (refusal shouldExist))) := by
  rw [PosixDisk.init, unwrapOrPropError_eq]
  apply congrArg (unwrap (PosixDisk.exists path) _)
  funext exist
  cases shouldExist <;> cases exist
  · apply congrArg (Program.call _)
    funext reply
    cases reply <;> rfl
  · rfl
  · rfl
  · apply congrArg (Program.call _)
    funext reply
    cases reply <;> rfl

/-- What `init` does after its two checks. -/
def PosixDisk.afterChecks (path : String) (shouldExist : Bool)
    (pageSize maxDiskSize : UInt32) :
    DiskResult Bool → DiskResult Bool → Effect (DiskResult PosixDisk)
  | .value _, .value exist =>
      if exist = shouldExist then
        .call (.openFile path) fun reply =>
          .done (openedAs path pageSize maxDiskSize reply)
      else
        .done (.error (refusal shouldExist))
  | .value _, .error failure => .crash (Result.unwrapCrash failure)
  | .error _, .value _ => .crash .assertIsError
  | .error _, .error failure => .done (.error failure)

theorem PosixDisk.init_calls (path : String) (shouldExist : Bool)
    (pageSize maxDiskSize : UInt32) :
    PosixDisk.init path shouldExist pageSize maxDiskSize =
      .call (.access path) fun first =>
        .call (.access path) fun second =>
          afterChecks path shouldExist pageSize maxDiskSize
            (existenceOf first) (existenceOf second) := by
  rw [init_eq, unwrap, exists_eq, Program.call_bind]
  apply congrArg (Program.call _)
  funext first
  rw [Program.done_bind]
  cases existenceOf first with
  | value found =>
      rw [Result.isError_value, if_neg Bool.false_ne_true,
        Program.call_bind]
      apply congrArg (Program.call _)
      funext second
      rw [Program.done_bind]
      cases existenceOf second with
      | value exist => rfl
      | error failure =>
          rw [Result.getValue_error]
          rfl
  | error failure =>
      rw [Result.isError_error, if_pos rfl, Program.call_bind]
      apply congrArg (Program.call _)
      funext second
      rw [Program.done_bind]
      cases existenceOf second with
      | value exist => rfl
      | error failure => rfl
section Opening

variable {State : Type} {env guarantee : Transition Posix.calls State}
variable {path : String} {ready : State → Prop}
variable {saw : Bool → State → Prop} {broken : Prop}

/-- Existence checks of a path keep `ready` and establish `saw`; they fail for
other reasons only where `broken` holds. -/
def Checks (env guarantee : Transition Posix.calls State) (path : String)
    (ready : State → Prop) (saw : Bool → State → Prop)
    (broken : Prop) : Prop :=
  ∀ before (reply : Except Errno Unit) after,
    ready before → env before (.access path) reply after →
      guarantee before (.access path) reply after ∧ ready after ∧
        match existenceOf reply with
        | .value exist => saw exist after
        | .error _ => broken

theorem PosixDisk.wp_exists
    (checks : Checks env guarantee path ready saw broken) {state : State}
    (start : ready state) :
    (PosixDisk.exists path).wp env guarantee
      (ending (fun exist after => ready after ∧ saw exist after)
        (fun failure after =>
          ready after ∧ failure = .unkownError ∧ broken)
        (fun _ _ => False))
      state := by
  rw [PosixDisk.exists_eq]
  intro reply after moved
  obtain ⟨kept, stillReady, answered⟩ := checks _ _ _ start moved
  refine ⟨kept, ?_⟩
  rcases reply with (_ | _) | ⟨⟩
  · exact ⟨stillReady, answered⟩
  · exact ⟨stillReady, rfl, answered⟩
  · exact ⟨stillReady, answered⟩

/-- The ends of an `init` that expects an existing disk or a new one. -/
def Opens (env guarantee : Transition Posix.calls State)
    (base : DiskManager) (path : String) (shouldExist : Bool)
    (opened : Nat → State → Prop)
    (refused : DiskManagerErrorCode → State → Prop)
    (crashed : Crash → State → Prop) (state : State) : Prop :=
  (PosixDisk.init path shouldExist base.pageSize
      base.maxDiskByteSize).wp env guarantee
    (ending
      (fun disk after =>
        ∃ fd, disk =
            PosixDisk.new path fd base.pageSize base.maxDiskByteSize ∧
          opened fd after)
      refused crashed)
    state

section Init

variable {base : DiskManager} {opened : Nat → State → Prop}
variable {refused : DiskManagerErrorCode → State → Prop}
variable {crashed : Crash → State → Prop} {state : State}

theorem Opens.mono {path : String} {shouldExist : Bool}
    {opened' : Nat → State → Prop}
    {refused' : DiskManagerErrorCode → State → Prop}
    {crashed' : Crash → State → Prop}
    (opens :
      Opens env guarantee base path shouldExist opened refused crashed
        state)
    (weakerOpened : ∀ fd after, opened fd after → opened' fd after)
    (weakerRefused : ∀ failure after,
      refused failure after → refused' failure after)
    (weakerCrashed : ∀ reason after,
      crashed reason after → crashed' reason after) :
    Opens env guarantee base path shouldExist opened' refused' crashed'
      state := by
  refine Program.wp_consequence opens ?_
  intro outcome after ended
  rcases outcome with (disk | failure) | reason
  · obtain ⟨fd, made, reached⟩ := ended
    exact ⟨fd, made, weakerOpened fd after reached⟩
  · exact weakerRefused failure after ended
  · exact weakerCrashed reason after ended

/-- `init` opens the file, or reports what its last check found. -/
theorem PosixDisk.wp_init {shouldExist : Bool}
    (checks : Checks env guarantee path ready saw broken)
    (openFile : ∀ before (reply : Except Errno Nat) after,
      ready before → saw shouldExist before →
        env before (.openFile path) reply after →
          guarantee before (.openFile path) reply after ∧
            match reply with
            | .ok fd => opened fd after
            | .error _ => refused .createDiskError after)
    (opposite : ∀ after, ready after → saw (!shouldExist) after →
      refused (refusal shouldExist) after)
    (unknown : broken → ∀ after, ready after →
      refused .unkownError after)
    (crashes : broken → ∀ reason after, reason.fromMacro = true →
      ready after → crashed reason after)
    (start : ready state) :
    Opens env guarantee base path shouldExist opened refused crashed
      state := by
  simp only [Opens]
  rw [PosixDisk.init_eq]
  refine wp_unwrap
    (fun _ ready => PosixDisk.wp_exists checks ready)
    ?_ ?_ (fun _ _ impossible => impossible.elim) ?_ ?_ start
  · intro exist after stillReady answered
    by_cases asked : exist = shouldExist
    · rw [if_pos asked]
      intro reply last moved
      obtain ⟨kept, ended⟩ :=
        openFile _ _ _ stillReady (asked ▸ answered) moved
      refine ⟨kept, ?_⟩
      cases reply with
      | error number => exact ended
      | ok fd => exact ⟨fd, rfl, ended⟩
    · rw [if_neg asked]
      have other : exist = !shouldExist := by
        cases exist <;> cases shouldExist <;> simp_all
      exact opposite _ stillReady (other ▸ answered)
  · intro failure after stillReady broken
    rcases broken with ⟨rfl, whyBroken⟩
    exact unknown whyBroken _ stillReady
  · intro failure before content after failed stillReady _
    exact crashes failed.2 _ _ rfl stillReady
  · intro content before failure after _ stillReady broken
    rcases broken with ⟨rfl, whyBroken⟩
    exact crashes whyBroken _ _ rfl stillReady

end Init

/-- The end of a scope in which `fd` is open. -/
def Closing {Value : Type} (env guarantee : Transition Posix.calls State)
    (fd : Nat) (post : Outcome Crash Value → State → Prop) :
    Outcome Crash Value → State → Prop
  | .done value, state =>
      ∀ (reply : Except Errno Unit) last,
        env state (.close fd) reply last →
          guarantee state (.close fd) reply last ∧ post (.done value) last
  | .crashed reason, state => post (.crashed reason) state

/-- A body followed by the end of the scope of its disk. -/
theorem PosixDisk.wp_scope {Value : Type} {body : Effect Value}
    {fd : Nat} {pageSize maxDiskSize : UInt32}
    {post : Outcome Crash Value → State → Prop} {state : State}
    (used : body.wp env guarantee (Closing env guarantee fd post) state) :
    (body >>= fun value =>
      (PosixDisk.new path fd pageSize maxDiskSize).destructor >>= fun _ =>
        .done value).wp env guarantee post state := by
  rw [Program.wp_bind]
  refine Program.wp_consequence used ?_
  intro outcome after ended
  rcases outcome with value | reason
  · dsimp only
    rw [PosixDisk.destructor_of_owns rfl]
    exact ended
  · exact ended

namespace PosixDiskManager

variable {base : DiskManager} {self : PosixDiskManager}
variable {opened : Nat → State → Prop}
variable {refused : DiskManagerErrorCode → State → Prop}
variable {crashed : Crash → State → Prop} {state : State}

theorem wp_withDisk {Value : Type}
    {failed : DiskManagerErrorCode → Value}
    {body : PosixDisk → Effect Value}
    {post : Outcome Crash Value → State → Prop}
    (opens : Opens env guarantee base path true opened refused crashed state)
    (error : ∀ failure after, refused failure after →
      post (.done (failed failure)) after)
    (crash : ∀ reason after, crashed reason after →
      post (.crashed reason) after)
    (used : ∀ fd after, opened fd after →
      (body
        (PosixDisk.new path fd base.pageSize base.maxDiskByteSize)).wp
          env guarantee (Closing env guarantee fd post) after) :
    (withDisk base path failed body).wp env guarantee post state := by
  simp only [withDisk]
  rw [Program.wp_bind]
  refine Program.wp_consequence opens ?_
  intro outcome after ended
  rcases outcome with result | reason
  · cases result with
    | error failure => exact error failure after ended
    | value disk =>
        obtain ⟨fd, rfl, isOpen⟩ := ended
        exact PosixDisk.wp_scope (used fd after isOpen)
  · exact crash reason after ended

theorem wp_load {diskNamePrefix : DiskName}
    {post :
      Outcome Crash (DiskResult DiskId × PosixDiskManager) → State → Prop}
    (opens : Opens env guarantee base (base.diskPath diskNamePrefix) true
      opened refused crashed state)
    (error : ∀ failure after, refused failure after →
      post (.done (.error failure, self)) after)
    (crash : ∀ reason after, crashed reason after →
      post (.crashed reason) after)
    (overflow : ∀ fd after, self.curDiskId = Int32.maxValue →
      opened fd after → post (.crashed .signedOverflow) after)
    (closed : ∀ fd after room, opened fd after →
      Closing env guarantee fd post
        (.done (.value self.curDiskId,
          self.insert (getDiskFullName diskNamePrefix) room))
        after) :
    ((load base diskNamePrefix).run self).wp env guarantee post state := by
  rw [load_run, Program.wp_bind]
  refine Program.wp_consequence opens ?_
  intro outcome after ended
  rcases outcome with result | reason
  · cases result with
    | error failure => exact error failure after ended
    | value disk =>
        obtain ⟨fd, rfl, isOpen⟩ := ended
        by_cases room : self.curDiskId = Int32.maxValue
        · simp only [dif_pos room]
          exact overflow fd after room isOpen
        · simp only [dif_neg room]
          rw [PosixDisk.destructor_of_owns rfl]
          exact closed fd after room isOpen
  · exact crash reason after ended

theorem wp_create {diskNamePrefix : DiskName}
    {post :
      Outcome Crash (DiskResult DiskId × PosixDiskManager) → State → Prop}
    {againOpened : Nat → State → Prop}
    {againRefused : DiskManagerErrorCode → State → Prop}
    (opens : Opens env guarantee base (base.diskPath diskNamePrefix) false
      opened refused crashed state)
    (again : ∀ failure after, refused failure after →
      Opens env guarantee base (base.diskPath diskNamePrefix) false
        againOpened againRefused crashed after)
    (error : ∀ failure after, againRefused failure after →
      post (.done (.error failure, self)) after)
    (crash : ∀ reason after, crashed reason after →
      post (.crashed reason) after)
    (asserted : ∀ fd after, againOpened fd after →
      post (.crashed .assertIsError) after)
    (closed : ∀ fd before (reply : Except Errno Unit) after,
      opened fd before → env before (.close fd) reply after →
        guarantee before (.close fd) reply after ∧
          ((load base diskNamePrefix).run self).wp env guarantee post
            after) :
    ((create base diskNamePrefix).run self).wp env guarantee post
      state := by
  rw [create_run]
  refine wp_propagate_twice opens again ?_ error crash ?_
  · intro disk after opened
    rcases opened with ⟨fd, rfl, isOpen⟩
    rw [PosixDisk.destructor_of_owns rfl]
    exact fun reply last moved => closed fd after reply last isOpen moved
  · intro disk after opened
    rcases opened with ⟨fd, rfl, isOpen⟩
    exact asserted fd after isOpen

theorem wp_destroy {diskId : DiskId} {diskName : DiskName}
    {post :
      Outcome Crash (DiskResult Unit × PosixDiskManager) → State → Prop}
    (loaded : self.disks.lookup diskId = some diskName)
    (opens : Opens env guarantee base (base.getDiskPath diskName) true
      opened refused crashed state)
    (error : ∀ failure after, refused failure after →
      post (.done (.error failure, self)) after)
    (crash : ∀ reason after, crashed reason after →
      post (.crashed reason) after)
    (unlinked : ∀ fd before (reply : Except Errno Unit) after,
      opened fd before →
        env before (.unlink (base.getDiskPath diskName)) reply after →
          guarantee before (.unlink (base.getDiskPath diskName)) reply
              after ∧
            match reply with
            | .ok () =>
                post (.done (.ok, self.erase diskId)) after ∧
                  post (.crashed .assertIsError) after
            | .error _ => opened fd after)
    (closed : ∀ fd after, opened fd after →
      Closing env guarantee fd post
        (.done (.error .destroyDiskError, self)) after) :
    ((destroy base diskId).run self).wp env guarantee post state := by
  simp only [destroy_run, loaded]
  rw [Program.wp_bind]
  refine Program.wp_consequence opens ?_
  intro outcome after ended
  rcases outcome with result | reason
  · cases result with
    | error failure => exact error failure after ended
    | value disk =>
        obtain ⟨fd, rfl, isOpen⟩ := ended
        intro reply next moved
        obtain ⟨kept, removed⟩ := unlinked fd _ _ _ isOpen moved
        refine ⟨kept, ?_⟩
        cases reply with
        | ok answer => exact removed.1
        | error number =>
            intro again last movedAgain
            obtain ⟨keptAgain, removedAgain⟩ :=
              unlinked fd _ _ _ removed movedAgain
            refine ⟨keptAgain, ?_⟩
            cases again with
            | ok answer => exact removedAgain.2
            | error numberAgain =>
                change
                  ((PosixDisk.destructor _ >>= fun _ =>
                    Program.done (Result.error _)) >>= fun result =>
                      Program.done (result, _)).wp env guarantee post last
                rw [PosixDisk.destructor_of_owns rfl]
                exact closed fd last removedAgain
  · exact crash reason after ended

end PosixDiskManager

end Opening

end Lewsql
