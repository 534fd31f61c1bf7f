import Lewsql.DiskManager.Offsets
import Lewsql.DiskManager.Rules

/-!
# Rules for one access through an open disk

A page is written or read by a fixed course of calls: the size is looked at twice,
a file that is too short is grown, the descriptor is moved and the bytes are
transferred; a write is synced after that.  `Access` says what holds between
these calls and how each of them moves on.  The surroundings and the cursor are
arbitrary.
-/

namespace Lewsql

open Interaction Posix

section Transfers

variable {State : Type}

/-- What holds along an access up to the position of its page.  A call fails, or
the access is refused, only where `faulty` holds. -/
structure Access (env guarantee : Transition Posix.calls State)
    (disk : PosixDisk) (cursor : DiskPageCursor) (faulty : Prop)
    (crashed : Crash → State → Prop) where
  isOpen : State → Prop
  short : State → Prop
  large : State → Prop
  stands : State → Prop
  positive : disk.pageSize ≠ 0
  refused :
    disk.maxDiskSize ≤ newByteSize disk.pageSize cursor → faulty
  expansion : faulty → ∀ reason after, reason.fromMacro = true →
    crashed reason after
  stat : ∀ before (reply : Except Errno Nat) after,
    isOpen before → env before (.stat disk.filePath) reply after →
      guarantee before (.stat disk.filePath) reply after ∧ isOpen after ∧
        match reply with
        | .ok size =>
            (size % disk.pageSize.toNat ≠ 0 →
              crashed .assertFileSize after) ∧
            if newByteSize disk.pageSize cursor > UInt32.ofNat size then
              short after
            else
              large after
        | .error _ => faulty
  truncate : ∀ before (reply : Except Errno Unit) after,
    isOpen before → short before →
      env before
          (.truncate disk.filePath
            (newByteSize disk.pageSize cursor).toNat) reply after →
        guarantee before
            (.truncate disk.filePath
              (newByteSize disk.pageSize cursor).toNat) reply after ∧
          isOpen after ∧ large after
  fsync : ∀ before (reply : Except Errno Unit) after,
    isOpen before → env before (.fsync disk.fd) reply after →
      guarantee before (.fsync disk.fd) reply after ∧ isOpen after ∧
        (large before → large after) ∧
        match reply with
        | .ok () => True
        | .error _ => faulty
  lseek : ∀ before (reply : Except Errno Nat) after,
    isOpen before → large before →
      env before (.lseek disk.fd (foffset disk.pageSize cursor).toNat)
          reply after →
        guarantee before
            (.lseek disk.fd (foffset disk.pageSize cursor).toNat) reply
            after ∧
          isOpen after ∧ large after ∧
          match reply with
          | .ok offset =>
              if Int32.ofNat offset = -1 then faulty else stands after
          | .error _ => faulty

structure WriteAccess (env guarantee : Transition Posix.calls State)
    (disk : PosixDisk) (cursor : DiskPageCursor) (faulty : Prop)
    (crashed : Crash → State → Prop) (data : List UInt8)
    extends Access env guarantee disk cursor faulty crashed where
  written : State → Prop
  synced : State → Prop
  write : ∀ before (reply : Except Errno Nat) after,
    isOpen before → stands before →
      env before (.write disk.fd (data.take disk.pageSize.toNat)) reply
          after →
        guarantee before (.write disk.fd (data.take disk.pageSize.toNat))
            reply after ∧
          if unsignedReturn reply = disk.pageSize then written after
          else isOpen after ∧ faulty
  sync : ∀ before (reply : Except Errno Unit) after,
    written before → env before (.fsync disk.fd) reply after →
      guarantee before (.fsync disk.fd) reply after ∧
        match reply with
        | .ok () => synced after
        | .error _ => isOpen after ∧ faulty

/-- What holds along a read into a buffer of one page. -/
structure ReadAccess (env guarantee : Transition Posix.calls State)
    (disk : PosixDisk) (cursor : DiskPageCursor) (faulty : Prop)
    (crashed : Crash → State → Prop)
    extends Access env guarantee disk cursor faulty crashed where
  got : List UInt8 → State → Prop
  read : ∀ buffer before (reply : Except Errno (List UInt8)) after,
    buffer.length = disk.pageSize.toNat → isOpen before →
      stands before →
        env before (.read disk.fd disk.pageSize.toNat) reply after →
          guarantee before (.read disk.fd disk.pageSize.toNat) reply
              after ∧
            match disk.afterRead reply buffer with
            | (.value (), left) => got left after
            | (.error _, left) =>
                isOpen after ∧ faulty ∧
                  left.length = disk.pageSize.toNat

variable {env guarantee : Transition Posix.calls State}
variable {disk : PosixDisk} {cursor : DiskPageCursor} {faulty : Prop}
variable {crashed : Crash → State → Prop} {data : List UInt8}
variable {state : State}

namespace Access

variable (access : Access env guarantee disk cursor faulty crashed)

include access

theorem wp_getDiskByteSize (isOpen : access.isOpen state) :
    disk.getDiskByteSize.wp env guarantee
      (ending
        (fun size after => access.isOpen after ∧
          if newByteSize disk.pageSize cursor > size then
            access.short after
          else
            access.large after)
        (fun _ after => access.isOpen after ∧ faulty) crashed)
      state := by
  rw [PosixDisk.getDiskByteSize, posix, Program.perform_bind]
  intro reply after moved
  obtain ⟨kept, stillOpen, answered⟩ :=
    access.stat _ _ _ isOpen moved
  refine ⟨kept, ?_⟩
  cases reply with
  | error number => exact ⟨stillOpen, answered⟩
  | ok size =>
      dsimp only
      rw [if_neg access.positive]
      by_cases whole : size % disk.pageSize.toNat = 0
      · rw [if_neg (not_not.mpr whole)]
        exact ⟨stillOpen, answered.2⟩
      · rw [if_pos whole]
        exact answered.1 whole

/-- A propagated call whose errors leave it ready to be evaluated again. -/
theorem wp_propIfError {result rest : Effect (DiskResult Unit)}
    {ready : State → Prop} {valuePost : Unit → State → Prop}
    {post : Outcome Crash (DiskResult Unit) → State → Prop}
    (safe : ∀ state, ready state →
      result.wp env guarantee
        (ending valuePost (fun _ after => ready after ∧ faulty) crashed)
        state)
    (value : ∀ after, valuePost () after →
      rest.wp env guarantee post after)
    (error : faulty → ∀ failure after, ready after →
      post (.done (.error failure)) after)
    (crash : ∀ reason after, crashed reason after →
      post (.crashed reason) after)
    (start : ready state) :
    (propIfError result rest).wp env guarantee post state := by
  rw [propIfError_eq]
  refine wp_propagate_when safe ?_ ?_ crash ?_ start
  · exact fun _ after returned => value after returned
  · exact fun fault failure after stillReady =>
      error fault failure after stillReady
  · exact fun fault _ after _ =>
      crash _ _ (access.expansion fault _ after rfl)

theorem wp_sync (isOpen : access.isOpen state) :
    disk.sync.wp env guarantee
      (ending (fun _ => access.isOpen)
        (fun _ after => access.isOpen after ∧ faulty) crashed)
      state := by
  rw [PosixDisk.sync, posix, Program.perform_bind]
  intro reply after moved
  obtain ⟨kept, stillOpen, _, answered⟩ :=
    access.fsync _ _ _ isOpen moved
  refine ⟨kept, ?_⟩
  cases reply with
  | error number => exact ⟨stillOpen, answered⟩
  | ok answer => exact stillOpen

theorem wp_truncate (isOpen : access.isOpen state)
    (short : access.short state) :
    (disk.truncate (newByteSize disk.pageSize cursor)).wp env guarantee
      (fun outcome after =>
        match outcome with
        | .done _ => access.isOpen after ∧ access.large after
        | .crashed reason => crashed reason after)
      state := by
  have synced (state : State)
      (ready : access.isOpen state ∧ access.large state) :
      disk.sync.wp env guarantee
        (ending (fun _ after => access.isOpen after ∧ access.large after)
          (fun _ after =>
            (access.isOpen after ∧ access.large after) ∧ faulty)
          crashed)
        state := by
    rw [PosixDisk.sync, posix, Program.perform_bind]
    intro reply after moved
    obtain ⟨kept, stillOpen, stillLarge, answered⟩ :=
      access.fsync _ _ _ ready.1 moved
    refine ⟨kept, ?_⟩
    cases reply with
    | error number => exact ⟨⟨stillOpen, stillLarge ready.2⟩, answered⟩
    | ok answer => exact ⟨stillOpen, stillLarge ready.2⟩
  rw [PosixDisk.truncate, posix, Program.perform_bind]
  intro reply after moved
  obtain ⟨kept, grown⟩ :=
    access.truncate _ _ _ isOpen short moved
  refine ⟨kept, ?_⟩
  cases reply with
  | error number => exact grown
  | ok answer =>
      exact access.wp_propIfError synced (fun _ ready => ready)
        (fun _ _ _ ready => ready) (fun _ _ crash => crash) grown

theorem wp_seek (isOpen : access.isOpen state)
    (large : access.large state) :
    (disk.seek (foffset disk.pageSize cursor)).wp env guarantee
      (ending
        (fun _ after => access.isOpen after ∧ access.stands after)
        (fun _ after =>
          (access.isOpen after ∧ access.large after) ∧ faulty)
        crashed)
      state := by
  rw [PosixDisk.seek, posix, Program.perform_bind]
  intro reply after moved
  obtain ⟨kept, stillOpen, stillLarge, answered⟩ :=
    access.lseek _ _ _ isOpen large moved
  refine ⟨kept, ?_⟩
  cases reply with
  | error number => exact ⟨⟨stillOpen, stillLarge⟩, answered⟩
  | ok offset =>
      dsimp only at answered ⊢
      split_ifs at answered ⊢
      · exact ⟨⟨stillOpen, stillLarge⟩, answered⟩
      · exact ⟨stillOpen, answered⟩

theorem wp_prepareRw (isOpen : access.isOpen state) :
    (disk.prepareRw cursor).wp env guarantee
      (ending
        (fun _ after => access.isOpen after ∧ access.stands after)
        (fun _ after => access.isOpen after ∧ faulty) crashed)
      state := by
  have sought (state : State)
      (ready : access.isOpen state ∧ access.large state) :
      (propIfError (disk.seek (foffset disk.pageSize cursor))
          (pure .ok : Effect (DiskResult Unit))).wp env guarantee
        (ending
          (fun _ after => access.isOpen after ∧ access.stands after)
          (fun _ after => access.isOpen after ∧ faulty) crashed)
        state :=
    access.wp_propIfError
      (fun _ ready => access.wp_seek ready.1 ready.2)
      (fun _ stands => stands)
      (fun fault _ _ ready => ⟨ready.1, fault⟩)
      (fun _ _ crash => crash) ready
  rw [PosixDisk.prepareRw, unwrapOrPropError_eq]
  refine wp_unwrap (fun _ isOpen => access.wp_getDiskByteSize isOpen)
    ?_ ?_ (fun _ _ crash => crash) ?_ ?_ isOpen
  · intro curByteSize after stillOpen sized
    dsimp only
    split_ifs with limit short
    · exact ⟨stillOpen, access.refused limit⟩
    · rw [if_pos (show newByteSize _ cursor > curByteSize from short)]
        at sized
      rw [Program.wp_bind]
      refine Program.wp_consequence
        (access.wp_truncate stillOpen sized) ?_
      intro outcome last ended
      rcases outcome with result | reason
      · exact sought last ended
      · exact ended
    · rw [if_neg (show ¬ newByteSize _ cursor > curByteSize from short)]
        at sized
      exact sought after ⟨stillOpen, sized⟩
  · exact fun _ _ stillOpen fault => ⟨stillOpen, fault⟩
  · exact fun _ _ _ after fault _ _ =>
      access.expansion fault _ after rfl
  · intro _ _ failure after _ _ fault
    exact access.expansion fault _ after
      (Result.unwrapCrash_fromMacro failure)

end Access

namespace WriteAccess

variable (access : WriteAccess env guarantee disk cursor faulty crashed data)

include access

private theorem wp_afterWrite {reply : Except Errno Nat}
    (answered :
      if unsignedReturn reply = disk.pageSize then access.written state
      else access.isOpen state ∧ faulty) :
    (disk.afterWrite reply).wp env guarantee
      (ending (fun _ => access.synced)
        (fun _ after => access.isOpen after ∧ faulty) crashed)
      state := by
  simp only [PosixDisk.afterWrite]
  by_cases whole : unsignedReturn reply = disk.pageSize
  · rw [if_pos whole] at answered
    rw [if_neg (not_not.mpr whole)]
    have first :
        disk.sync.wp env guarantee
          (ending (fun _ => access.synced)
            (fun _ after => access.isOpen after ∧ faulty) crashed)
          state := by
      rw [PosixDisk.sync, posix, Program.perform_bind]
      intro reply after moved
      obtain ⟨kept, durable⟩ := access.sync _ _ _ answered moved
      refine ⟨kept, ?_⟩
      cases reply with
      | error number => exact durable
      | ok answer => exact durable
    -- a success of the second evaluation is the assertion of the macro
    have again (failure : DiskManagerErrorCode) (after : State)
        (failed : access.isOpen after ∧ faulty) :
        disk.sync.wp env guarantee
          (ending (fun _ _ => faulty)
            (fun _ last => access.isOpen last ∧ faulty) crashed)
          after := by
      refine Program.wp_consequence (access.wp_sync failed.1) ?_
      intro outcome last ended
      rcases outcome with (content | failureAgain) | reason
      · exact failed.2
      · exact ended
      · exact ended
    exact wp_propagate_twice first again (fun _ _ durable => durable)
      (fun _ _ failed => failed) (fun _ _ crash => crash)
      (fun _ after fault => access.expansion fault _ after rfl)
  · rw [if_neg whole] at answered
    rw [if_pos whole]
    exact answered

theorem wp_write (isOpen : access.isOpen state) :
    (disk.write cursor data).wp env guarantee
      (ending (fun _ => access.synced)
        (fun _ after => access.isOpen after ∧ faulty) crashed)
      state := by
  rw [PosixDisk.write_eq]
  refine wp_propagate_when (fun _ isOpen => access.wp_prepareRw isOpen)
    ?_ ?_ (fun _ _ crash => crash)
    (fun fault _ after _ => access.expansion fault _ after rfl) isOpen
  · intro _ after ready reply last moved
    obtain ⟨kept, answered⟩ :=
      access.write _ _ _ ready.1 ready.2 moved
    exact ⟨kept, access.wp_afterWrite answered⟩
  · exact fun fault _ _ stillOpen => ⟨stillOpen, fault⟩

/-- The write in the scope of the manager. -/
theorem wp_propagated (isOpen : access.isOpen state) :
    (propIfError (disk.write cursor data)
        (pure .ok : Effect (DiskResult Unit))).wp env guarantee
      (ending (fun _ => access.synced)
        (fun _ after => access.isOpen after ∧ faulty) crashed)
      state :=
  access.wp_propIfError (fun _ isOpen => access.wp_write isOpen)
    (fun _ synced => synced)
    (fun fault _ _ stillOpen => ⟨stillOpen, fault⟩)
    (fun _ _ crash => crash) isOpen

end WriteAccess

namespace ReadAccess

variable (access : ReadAccess env guarantee disk cursor faulty crashed)

/-- How a read ends, with the buffer it leaves. -/
def ends :
    Outcome Crash (DiskResult Unit × List UInt8) → State → Prop
  | .done (.value (), left), after => access.got left after
  | .done (.error _, left), after =>
      access.isOpen after ∧ faulty ∧
        left.length = disk.pageSize.toNat
  | .crashed reason, after => crashed reason after

theorem wp_read {buffer : List UInt8}
    (full : buffer.length = disk.pageSize.toNat)
    (isOpen : access.isOpen state) :
    ((disk.read cursor).run buffer).wp env guarantee access.ends
      state := by
  rw [PosixDisk.read_run]
  refine wp_propagate_when (fun _ isOpen => access.wp_prepareRw isOpen)
    ?_ ?_ (fun _ _ crash => crash)
    (fun fault _ after _ => access.expansion fault _ after rfl) isOpen
  · intro _ after ready reply last moved
    obtain ⟨kept, answered⟩ :=
      access.read buffer _ _ _ full ready.1 ready.2 moved
    refine ⟨kept, ?_⟩
    rw [Program.wp_done]
    cases ended : disk.afterRead reply buffer with
    | mk result left =>
        rw [ended] at answered
        cases result with
        | value content => exact answered
        | error failure => exact answered
  · exact fun fault _ _ stillOpen => ⟨stillOpen, fault, full⟩

/-- The read in the scope of the manager. -/
theorem wp_propagated {buffer : List UInt8}
    (full : buffer.length = disk.pageSize.toNat)
    (isOpen : access.isOpen state) :
    ((propIfError (disk.read cursor)
        (pure .ok : StateT (List UInt8) Effect (DiskResult Unit))).run
          buffer).wp env guarantee access.ends state := by
  simp only [propIfError]
  rw [StateT.run_bind, Program.wp_bind]
  refine Program.wp_consequence (access.wp_read full isOpen) ?_
  intro outcome after ended
  rcases outcome with ⟨result, left⟩ | reason
  · cases result with
    | value content => exact ended
    | error failure =>
        obtain ⟨stillOpen, fault, stillFull⟩ := ended
        dsimp only
        rw [Result.isError_error, if_pos rfl, StateT.run_bind,
          Program.wp_bind]
        refine Program.wp_consequence
          (access.wp_read stillFull stillOpen) ?_
        intro outcome last ended
        rcases outcome with ⟨again, left⟩ | reason
        · cases again with
          | value content =>
              exact access.expansion fault .assertIsError last rfl
          | error failureAgain => exact ended
        · exact ended
  · exact ended

end ReadAccess

end Transfers

end Lewsql
