import Lewsql.DiskManager.PosixDisk

/-!
# The calls of an open disk

Between its construction and its destruction a `PosixDisk` only looks at, cuts
or grows the file at its path and transfers bytes through its own descriptor; it
neither opens nor closes nor unlinks.
-/

namespace Lewsql

open Interaction Posix

namespace PosixDisk

/-- The calls of `get_disk_byte_size`, `prepare_rw`, `read` and `write`. -/
def Transfers (self : PosixDisk) : Request → Prop
  | .stat path => path = self.filePath
  | .truncate path _ => path = self.filePath
  | .lseek descriptor _ => descriptor = self.fd
  | .write descriptor _ => descriptor = self.fd
  | .read descriptor _ => descriptor = self.fd
  | .fsync descriptor => descriptor = self.fd
  | _ => False

variable (self : PosixDisk) (cursor : DiskPageCursor)

theorem getDiskByteSize_transfers :
    self.getDiskByteSize.makesOnly self.Transfers := by
  rw [getDiskByteSize, posix, Program.perform_bind]
  refine ⟨rfl, fun reply => ?_⟩
  cases reply with
  | error number => exact True.intro
  | ok size =>
      dsimp only
      split_ifs <;> exact True.intro

theorem sync_transfers : self.sync.makesOnly self.Transfers := by
  rw [sync, posix, Program.perform_bind]
  refine ⟨rfl, fun reply => ?_⟩
  cases reply <;> exact True.intro

theorem truncate_transfers (newByteSize : UInt32) :
    (self.truncate newByteSize).makesOnly self.Transfers := by
  rw [truncate, posix, Program.perform_bind]
  refine ⟨rfl, fun reply => ?_⟩
  cases reply with
  | error number => exact True.intro
  | ok answer =>
      dsimp only
      rw [propIfError_eq]
      exact makesOnly_propagate self.sync_transfers
        (fun _ => True.intro) (fun _ => True.intro)

theorem seek_transfers (pos : UInt32) :
    (self.seek pos).makesOnly self.Transfers := by
  rw [seek, posix, Program.perform_bind]
  refine ⟨rfl, fun reply => ?_⟩
  cases reply with
  | error number => exact True.intro
  | ok offset =>
      dsimp only
      split_ifs <;> exact True.intro

theorem prepareRw_transfers :
    (self.prepareRw cursor).makesOnly self.Transfers := by
  rw [prepareRw, unwrapOrPropError_eq]
  apply makesOnly_unwrap self.getDiskByteSize_transfers
  · exact fun _ => True.intro
  · intro curByteSize
    have sought (pos : UInt32) :
        (propIfError (self.seek pos)
          (Program.done Result.ok : Effect (DiskResult Unit))).makesOnly
            self.Transfers := by
      rw [propIfError_eq]
      exact makesOnly_propagate (self.seek_transfers pos)
        (fun _ => True.intro) (fun _ => True.intro)
    dsimp only
    split_ifs
    · exact True.intro
    · exact Program.makesOnly_bind (self.truncate_transfers _)
        fun _ => sought _
    · exact sought _

/-- What `write` makes of the answer to its transfer. -/
def afterWrite (reply : Except Errno Nat) : Effect (DiskResult Unit) :=
  if unsignedReturn reply ≠ self.pageSize then
    .done (.error .unkownError)
  else
    propagate self.sync (fun error => .done (.error error))
      (fun _ => .done .ok)

theorem write_eq (data : List UInt8) :
    self.write cursor data =
      propagate (self.prepareRw cursor)
        (fun error => .done (.error error))
        (fun _ =>
          .call (.write self.fd (data.take self.pageSize.toNat))
            self.afterWrite) := by
  rw [PosixDisk.write, propIfError_eq]
  apply congrArg (propagate (self.prepareRw cursor) _)
  funext _
  rw [posix, Program.perform_bind]
  apply congrArg (Program.call _)
  funext reply
  dsimp only
  rw [propIfError_eq]
  rfl

theorem write_transfers (data : List UInt8) :
    (self.write cursor data).makesOnly self.Transfers := by
  rw [write_eq]
  apply makesOnly_propagate (self.prepareRw_transfers cursor)
  · exact fun _ => True.intro
  · intro _
    refine ⟨rfl, fun reply => ?_⟩
    simp only [afterWrite]
    split_ifs
    · exact True.intro
    · exact makesOnly_propagate self.sync_transfers
        (fun _ => True.intro) (fun _ => True.intro)

/-- The result of a read and the buffer after it, from what `read`
answered. -/
def afterRead (reply : Except Errno (List UInt8)) (buffer : List UInt8) :
    DiskResult Unit × List UInt8 :=
  (if unsignedReturn (reply.map List.length) ≠ self.pageSize then
      .error .readDiskError
    else .ok,
    match reply with
    | .ok bytes => bytes ++ buffer.drop bytes.length
    | .error _ => buffer)

theorem read_run (buffer : List UInt8) :
    (self.read cursor).run buffer =
      propagate (self.prepareRw cursor)
        (fun error => .done (.error error, buffer))
        (fun _ =>
          .call (.read self.fd self.pageSize.toNat) fun reply =>
            .done (self.afterRead reply buffer)) := by
  rw [PosixDisk.read, propIfError_lift_run]
  apply congrArg (propagate (self.prepareRw cursor) _)
  funext _
  simp only [StateT.run_bind, posix, Program.perform]
  apply congrArg (Program.call _)
  funext reply
  cases reply with
  | error number =>
      by_cases whole :
          unsignedReturn
              (Except.map List.length
                (Except.error number : Except Errno (List UInt8))) =
            self.pageSize
      · simp [Program.bind, afterRead, whole]
      · simp [Program.bind, afterRead, whole]
  | ok bytes =>
      by_cases whole :
          unsignedReturn
              (Except.map List.length
                (Except.ok bytes : Except Errno (List UInt8))) =
            self.pageSize
      · simp [Program.bind, afterRead, whole]
      · simp [Program.bind, afterRead, whole]

theorem read_transfers (buffer : List UInt8) :
    ((self.read cursor).run buffer).makesOnly self.Transfers := by
  rw [read_run]
  exact makesOnly_propagate (self.prepareRw_transfers cursor)
    (fun _ => True.intro) (fun _ => ⟨rfl, fun _ => True.intro⟩)

theorem propagated_read_transfers (buffer : List UInt8) :
    ((propIfError (self.read cursor) (pure .ok)).run
      buffer).makesOnly self.Transfers := by
  simp only [propIfError]
  rw [StateT.run_bind]
  apply Program.makesOnly_bind (self.read_transfers cursor buffer)
  intro returned
  rcases returned with ⟨result, bytes⟩
  cases result with
  | value content => exact True.intro
  | error failure =>
      dsimp only
      rw [Result.isError_error, if_pos rfl, StateT.run_bind]
      apply Program.makesOnly_bind (self.read_transfers cursor bytes)
      intro both
      rcases both with ⟨again, _⟩
      cases again <;> exact True.intro

/-- A propagated read, when an error leaves the read ready to be evaluated
again with the buffer it left. -/
theorem wp_propagated_read {State : Type}
    {env guarantee : Transition Posix.calls State}
    {post : Outcome Crash (DiskResult Unit × List UInt8) → State → Prop}
    (ready : List UInt8 → State → Prop)
    (safe : ∀ bytes state, ready bytes state →
      ((self.read cursor).run bytes).wp env guarantee
        (fun outcome after => post outcome after ∧
          ∀ failure left, outcome = .done (.error failure, left) →
            ready left after)
        state)
    (asserted : ∀ bytes after, post (.done (.ok, bytes)) after →
      post (.crashed .assertIsError) after)
    {buffer : List UInt8} {state : State} (start : ready buffer state) :
    ((propIfError (self.read cursor)
        (pure .ok : StateT (List UInt8) Effect (DiskResult Unit))).run
          buffer).wp env guarantee post state := by
  simp only [propIfError]
  rw [StateT.run_bind, Program.wp_bind]
  refine Program.wp_consequence (safe buffer state start) ?_
  intro outcome after ended
  rcases ended with ⟨ended, again⟩
  rcases outcome with ⟨evaluated, bytes⟩ | reason
  · cases evaluated with
    | value content => exact ended
    | error failure =>
        dsimp only
        rw [Result.isError_error, if_pos rfl, StateT.run_bind,
          Program.wp_bind]
        refine Program.wp_consequence
          (safe bytes after (again failure bytes rfl)) ?_
        intro outcome last ended
        rcases ended with ⟨endedAgain, _⟩
        rcases outcome with ⟨evaluatedAgain, left⟩ | reason
        · cases evaluatedAgain with
          | value content => exact asserted left last endedAgain
          | error failureAgain => exact endedAgain
        · exact endedAgain
  · exact ended

/-- The destructor of an object that owns its descriptor is one `close`, whose
failure it does not look at. -/
theorem destructor_of_owns {self : PosixDisk}
    (owns : self.shouldClose = true) :
    self.destructor = .call (.close self.fd) fun _ => .done () := by
  simp only [destructor, owns, if_true, close, posix, Program.perform]
  simp
  funext reply
  cases reply <;> rfl

theorem keepsNames_of_transfers {self : PosixDisk} {request : Request}
    (transfers : self.Transfers request) :
    FileSystem.KeepsNames request := by
  cases request with
  | openFile path => exact transfers.elim
  | unlink path => exact transfers.elim
  | _ => exact True.intro

end PosixDisk

end Lewsql
