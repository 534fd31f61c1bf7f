import Lewsql.DiskManager.Rules
import Lewsql.Posix.Separate

/-!
# Operations in step

An operation uses the names in its table and the one it is given, and works
through one descriptor at a time.  So it makes the same calls in two file systems
that are alike under these names, and it returns the same.
-/

namespace Lewsql

open Interaction Posix

/-! ## The macros -/

/-- Two evaluations of a result: values that go together, or the same error where
it can be evaluated again. -/
def bothEnd {R Other E Link : Type} (good : R → Other → Link → Prop)
    (ready : Link → Prop) : Result R E → Result Other E → Link → Prop
  | .value value, .value other, link => good value other link
  | .error failure, .error same, link => same = failure ∧ ready link
  | _, _, _ => False

section Macros

variable {C : Signature} {R Other E S T Link : Type}
variable {pairing : Pairing C Link} {good : R → Other → Link → Prop}
variable {ready : Link → Prop} {post : S → T → Link → Prop}
variable {result : Program C Crash (Result R E)}
variable {result' : Program C Crash (Result Other E)}
variable {onError : E → Program C Crash S}
variable {onError' : E → Program C Crash T}
variable {onValue : R → Program C Crash S}
variable {onValue' : Other → Program C Crash T} {link : Link}

variable (good ready) in
theorem inStep_propagate
    (evaluates : ∀ link, ready link →
      result.InStep pairing (bothEnd good ready) result' link)
    (errs : ∀ failure link, ready link →
      (onError failure).InStep pairing post (onError' failure) link)
    (returns : ∀ value other link, good value other link →
      (onValue value).InStep pairing post (onValue' other) link)
    (start : ready link) :
    (propagate result onError onValue).InStep pairing post
      (propagate result' onError' onValue') link := by
  simp only [propagate]
  apply Program.InStep.bind
  refine (evaluates link start).mono ?_
  intro first second after both
  cases first with
  | value value =>
      cases second with
      | value other => exact returns value other after both
      | error failure => exact both.elim
  | error failure =>
      cases second with
      | value other => exact both.elim
      | error same =>
          obtain ⟨rfl, again⟩ := both
          apply Program.InStep.bind
          refine (evaluates after again).mono ?_
          intro first second last both
          cases first with
          | value value =>
              cases second with
              | value other => exact Program.inStep_crash
              | error failure => exact both.elim
          | error failure =>
              cases second with
              | value other => exact both.elim
              | error same =>
                  obtain ⟨rfl, ended⟩ := both
                  exact errs _ last ended

variable (good ready) in
theorem inStep_unwrap [Exception E]
    (evaluates : ∀ link, ready link →
      result.InStep pairing (bothEnd good ready) result' link)
    (again : ∀ value other link, good value other link → ready link)
    (errs : ∀ failure link, ready link →
      (onError failure).InStep pairing post (onError' failure) link)
    (returns : ∀ value other link, good value other link →
      (onValue value).InStep pairing post (onValue' other) link)
    (start : ready link) :
    (unwrap result onError onValue).InStep pairing post
      (unwrap result' onError' onValue') link := by
  simp only [unwrap]
  apply Program.InStep.bind
  refine (evaluates link start).mono ?_
  intro first second after both
  cases first with
  | value value =>
      cases second with
      | error failure => exact both.elim
      | value other =>
          simp only [Result.isError_value, Bool.false_eq_true, if_false]
          apply Program.InStep.bind
          refine (evaluates after (again _ _ _ both)).mono ?_
          intro first second last both
          cases first with
          | value value =>
              cases second with
              | value other => exact returns value other last both
              | error failure => exact both.elim
          | error failure =>
              cases second with
              | value other => exact both.elim
              | error same =>
                  obtain ⟨rfl, _⟩ := both
                  rw [Result.getValue_error, Result.getValue_error]
                  exact Program.inStep_crash
  | error failure =>
      cases second with
      | value other => exact both.elim
      | error same =>
          obtain ⟨rfl, still⟩ := both
          simp only [Result.isError_error, if_true]
          apply Program.InStep.bind
          refine (evaluates after still).mono ?_
          intro first second last both
          cases first with
          | value value =>
              cases second with
              | value other => exact Program.inStep_crash
              | error failure => exact both.elim
          | error failure =>
              cases second with
              | value other => exact both.elim
              | error same =>
                  obtain ⟨rfl, ended⟩ := both
                  exact errs _ last ended

/-- The same value, and the link as it was. -/
def steady (link : Link) (value other : S) (after : Link) : Prop :=
  other = value ∧ after = link

theorem bothEnd_of_steady {first second : Result R E} {after : Link}
    (same : steady link first second after) :
    bothEnd (steady link) (· = link) first second after := by
  obtain ⟨equal, unchanged⟩ := same
  subst equal
  cases second with
  | value value => exact ⟨rfl, unchanged⟩
  | error failure => exact ⟨rfl, unchanged⟩

variable {evaluated evaluated' : Program C Crash (Result R E)}
variable {continues continues' : R → Program C Crash S}
variable {fails fails' : E → Program C Crash S}

theorem steady_propagate
    (evaluates : evaluated.InStep pairing (steady link) evaluated' link)
    (errs : ∀ failure,
      (fails failure).InStep pairing (steady link) (fails' failure) link)
    (returns : ∀ value,
      (continues value).InStep pairing (steady link) (continues' value)
        link) :
    (propagate evaluated fails continues).InStep pairing (steady link)
      (propagate evaluated' fails' continues') link := by
  refine inStep_propagate (steady link) (· = link) ?_ ?_ ?_ rfl
  · intro after same
    subst same
    exact evaluates.mono fun _ _ _ => bothEnd_of_steady
  · intro failure after same
    subst same
    exact errs failure
  · intro value other after same
    obtain ⟨equal, unchanged⟩ := same
    subst equal
    subst unchanged
    exact returns other

theorem steady_unwrap [Exception E]
    (evaluates : evaluated.InStep pairing (steady link) evaluated' link)
    (errs : ∀ failure,
      (fails failure).InStep pairing (steady link) (fails' failure) link)
    (returns : ∀ value,
      (continues value).InStep pairing (steady link) (continues' value)
        link) :
    (unwrap evaluated fails continues).InStep pairing (steady link)
      (unwrap evaluated' fails' continues') link := by
  refine inStep_unwrap (steady link) (· = link) ?_ ?_ ?_ ?_ rfl
  · intro after same
    subst same
    exact evaluates.mono fun _ _ _ => bothEnd_of_steady
  · exact fun _ _ _ same => same.2
  · intro failure after same
    subst same
    exact errs failure
  · intro value other after same
    obtain ⟨equal, unchanged⟩ := same
    subst equal
    subst unchanged
    exact returns other

theorem steady_done {value : S} :
    (Program.done value : Program C Crash S).InStep pairing (steady link)
      (.done value) link :=
  Program.inStep_done ⟨rfl, rfl⟩

end Macros

/-! ## An open disk -/

/-- One disk in two file systems, through the descriptors that are held. -/
structure PosixDisk.Twins (owns : String → Prop) (first second : PosixDisk)
    (held : HeldPair) : Prop where
  path : second.filePath = first.filePath
  pageSize : second.pageSize = first.pageSize
  maxDiskSize : second.maxDiskSize = first.maxDiskSize
  owned : owns first.filePath
  held : held = some (first.fd, second.fd)

namespace PosixDisk

variable {resolve : String → String} {owns : String → Prop}
variable {first second : PosixDisk} {held : HeldPair} {path : String}

theorem inStep_exists (owned : owns (resolve path)) :
    (PosixDisk.exists path).InStep (pairing resolve owns) (steady held)
      (PosixDisk.exists path) held := by
  rw [exists_eq]
  refine Program.inStep_call ⟨owned, rfl⟩ ?_
  intro reply answer after same
  obtain ⟨rfl, rfl⟩ := same
  exact steady_done

theorem inStep_getDiskByteSize
    (twins : Twins (fun path => owns (resolve path)) first second held) :
    first.getDiskByteSize.InStep (pairing resolve owns) (steady held)
      second.getDiskByteSize held := by
  rw [getDiskByteSize, getDiskByteSize, posix, posix, twins.path,
    twins.pageSize]
  refine Program.inStep_call ⟨twins.owned, rfl⟩ ?_
  intro reply answer after same
  obtain ⟨rfl, rfl⟩ := same
  cases answer with
  | error number => exact steady_done
  | ok size =>
      dsimp only
      change Program.InStep _ _ (if _ then _ else _) (if _ then _ else _) _
      split_ifs
      · exact Program.inStep_crash
      · exact Program.inStep_crash
      · exact steady_done

theorem inStep_sync
    (twins : Twins (fun path => owns (resolve path)) first second held) :
    first.sync.InStep (pairing resolve owns) (steady held) second.sync
      held := by
  rw [sync, sync, posix, posix]
  refine Program.inStep_call twins.held ?_
  intro reply answer after same
  obtain ⟨rfl, rfl⟩ := same
  cases answer with
  | error number => exact steady_done
  | ok done => exact steady_done

theorem inStep_truncate {size : UInt32}
    (twins : Twins (fun path => owns (resolve path)) first second held) :
    (first.truncate size).InStep (pairing resolve owns) (steady held)
      (second.truncate size) held := by
  rw [truncate, truncate, posix, posix, twins.path]
  refine Program.inStep_call ⟨twins.owned, rfl, rfl⟩ ?_
  intro reply answer after same
  obtain ⟨rfl, rfl⟩ := same
  cases answer with
  | error number => exact steady_done
  | ok done =>
      change Program.InStep _ _ (propIfError _ _) (propIfError _ _) _
      rw [propIfError_eq, propIfError_eq]
      exact steady_propagate (inStep_sync twins) (fun _ => steady_done)
        fun _ => steady_done

theorem inStep_seek {position : UInt32}
    (twins : Twins (fun path => owns (resolve path)) first second held) :
    (first.seek position).InStep (pairing resolve owns) (steady held)
      (second.seek position) held := by
  rw [seek, seek, posix, posix]
  refine Program.inStep_call ⟨twins.held, rfl⟩ ?_
  intro reply answer after same
  obtain ⟨rfl, rfl⟩ := same
  cases answer with
  | error number => exact steady_done
  | ok offset =>
      change Program.InStep _ _ (if _ then _ else _) (if _ then _ else _) _
      split_ifs
      · exact steady_done
      · exact steady_done

theorem inStep_prepareRw {cursor : DiskPageCursor}
    (twins : Twins (fun path => owns (resolve path)) first second held) :
    (first.prepareRw cursor).InStep (pairing resolve owns) (steady held)
      (second.prepareRw cursor) held := by
  rw [prepareRw, prepareRw, unwrapOrPropError_eq, unwrapOrPropError_eq,
    twins.pageSize, twins.maxDiskSize]
  refine steady_unwrap (inStep_getDiskByteSize twins)
    (fun _ => steady_done) ?_
  intro size
  have sought (position : UInt32) :
      (propIfError (first.seek position)
        (Program.done Result.ok : Effect (DiskResult Unit))).InStep
          (pairing resolve owns) (steady held)
          (propIfError (second.seek position) (Program.done Result.ok))
          held := by
    rw [propIfError_eq, propIfError_eq]
    exact steady_propagate (inStep_seek twins) (fun _ => steady_done)
      fun _ => steady_done
  dsimp only
  split_ifs
  · exact steady_done
  · refine Program.InStep.bind ((inStep_truncate twins).mono ?_)
    intro value other after same
    obtain ⟨_, rfl⟩ := same
    exact sought _
  · exact sought _

theorem inStep_write {cursor : DiskPageCursor} {data : List UInt8}
    (twins : Twins (fun path => owns (resolve path)) first second held) :
    (first.write cursor data).InStep (pairing resolve owns) (steady held)
      (second.write cursor data) held := by
  rw [write_eq, write_eq, twins.pageSize]
  refine steady_propagate (inStep_prepareRw twins) (fun _ => steady_done) ?_
  intro _
  refine Program.inStep_call ⟨twins.held, rfl⟩ ?_
  intro reply answer after same
  obtain ⟨rfl, rfl⟩ := same
  simp only [afterWrite]
  rw [twins.pageSize]
  split_ifs
  · exact steady_done
  · exact steady_propagate (inStep_sync twins) (fun _ => steady_done)
      fun _ => steady_done

theorem inStep_read {cursor : DiskPageCursor} {buffer : List UInt8}
    (twins : Twins (fun path => owns (resolve path)) first second held) :
    ((first.read cursor).run buffer).InStep (pairing resolve owns)
      (steady held) ((second.read cursor).run buffer) held := by
  rw [read_run, read_run, twins.pageSize]
  refine steady_propagate (inStep_prepareRw twins) (fun _ => steady_done) ?_
  intro _
  refine Program.inStep_call ⟨twins.held, rfl⟩ ?_
  intro reply answer after same
  obtain ⟨rfl, rfl⟩ := same
  have left : first.afterRead answer buffer =
      second.afterRead answer buffer := by
    simp only [afterRead]
    rw [twins.pageSize]
  rw [left]
  exact steady_done

/-- A propagated read, which an error makes go on with the buffer it left. -/
theorem inStep_propagated_read {cursor : DiskPageCursor}
    {buffer : List UInt8}
    (twins : Twins (fun path => owns (resolve path)) first second held) :
    ((propIfError (first.read cursor)
        (pure .ok : StateT (List UInt8) Effect (DiskResult Unit))).run
          buffer).InStep (pairing resolve owns) (steady held)
      ((propIfError (second.read cursor)
        (pure .ok : StateT (List UInt8) Effect (DiskResult Unit))).run
          buffer) held := by
  simp only [propIfError]
  rw [StateT.run_bind, StateT.run_bind]
  refine Program.InStep.bind ((inStep_read twins).mono ?_)
  intro value other after same
  obtain ⟨rfl, rfl⟩ := same
  obtain ⟨result, bytes⟩ := other
  cases result with
  | value content => exact steady_done
  | error failure =>
      dsimp only
      rw [Result.isError_error, if_pos rfl, if_pos rfl, StateT.run_bind,
        StateT.run_bind]
      refine Program.InStep.bind ((inStep_read twins).mono ?_)
      intro value other last same
      obtain ⟨rfl, rfl⟩ := same
      obtain ⟨again, left⟩ := other
      cases again with
      | value content => exact Program.inStep_crash
      | error failure => exact steady_done

def OpenedBoth (path : String) (pageSize maxDiskSize : UInt32)
    (disk other : PosixDisk) (link : HeldPair) : Prop :=
  ∃ fd fd', disk = PosixDisk.new path fd pageSize maxDiskSize ∧
    other = PosixDisk.new path fd' pageSize maxDiskSize ∧
    link = some (fd, fd')

theorem inStep_init {shouldExist : Bool} {pageSize maxDiskSize : UInt32}
    (owned : owns (resolve path)) :
    (PosixDisk.init path shouldExist pageSize maxDiskSize).InStep
      (pairing resolve owns)
      (bothEnd (OpenedBoth path pageSize maxDiskSize) (· = none))
      (PosixDisk.init path shouldExist pageSize maxDiskSize) none := by
  rw [init_eq]
  refine inStep_unwrap (steady none) (· = none) ?_ ?_ ?_ ?_ rfl
  · intro link same
    subst same
    exact (inStep_exists owned).mono fun _ _ _ => bothEnd_of_steady
  · exact fun _ _ _ same => same.2
  · intro failure link same
    exact Program.inStep_done ⟨rfl, same⟩
  · intro exist other link same
    obtain ⟨rfl, rfl⟩ := same
    split_ifs
    · refine Program.inStep_call ⟨owned, rfl, rfl⟩ ?_
      intro reply answer after answers
      cases reply with
      | ok fd =>
          cases answer with
          | ok fd' =>
              exact Program.inStep_done ⟨fd, fd', rfl, rfl, answers⟩
          | error number => exact answers.elim
      | error number =>
          cases answer with
          | ok fd' => exact answers.elim
          | error same => exact Program.inStep_done ⟨rfl, answers.2⟩
    · exact Program.inStep_done ⟨rfl, rfl⟩

/-- The end of the scope of a disk. -/
theorem inStep_destructor {fd fd' : Nat} {pageSize maxDiskSize : UInt32}
    {Value Other : Type} {post : Value → Other → HeldPair → Prop}
    {value : Value} {other : Other}
    (ended : post value other none) :
    ((PosixDisk.new path fd pageSize maxDiskSize).destructor >>= fun _ =>
        Program.done value).InStep (pairing resolve owns) post
      ((PosixDisk.new path fd' pageSize maxDiskSize).destructor >>= fun _ =>
        Program.done other) (some (fd, fd')) := by
  rw [destructor_of_owns rfl, destructor_of_owns rfl]
  refine Program.inStep_call rfl ?_
  intro reply answer after same
  obtain ⟨_, rfl⟩ := same
  exact Program.inStep_done ended

end PosixDisk

/-! ## Operations -/

def WithinNames (base : DiskManager) (resolve : String → String)
    (owns : String → Prop) (self : PosixDiskManager) : Prop :=
  ∀ diskId fileName, self.disks.lookup diskId = some fileName →
    owns (resolve (base.getDiskPath fileName))

def Operation.Within (base : DiskManager) (resolve : String → String)
    (owns : String → Prop) : Operation → Prop
  | .create diskNamePrefix => owns (resolve (base.diskPath diskNamePrefix))
  | .load diskNamePrefix => owns (resolve (base.diskPath diskNamePrefix))
  | .exists diskNamePrefix => owns (resolve (base.diskPath diskNamePrefix))
  | _ => True

instance {base : DiskManager} {resolve : String → String}
    {owns : String → Prop} [DecidablePred owns] :
    (operation : Operation) →
      Decidable (operation.Within base resolve owns)
  | .create diskNamePrefix =>
      inferInstanceAs
        (Decidable (owns (resolve (base.diskPath diskNamePrefix))))
  | .load diskNamePrefix =>
      inferInstanceAs
        (Decidable (owns (resolve (base.diskPath diskNamePrefix))))
  | .exists diskNamePrefix =>
      inferInstanceAs
        (Decidable (owns (resolve (base.diskPath diskNamePrefix))))
  | .unload _ => inferInstanceAs (Decidable True)
  | .destroy _ => inferInstanceAs (Decidable True)
  | .write _ _ _ => inferInstanceAs (Decidable True)
  | .read _ _ _ => inferInstanceAs (Decidable True)
  | .extend _ => inferInstanceAs (Decidable True)
  | .diskByteSize _ => inferInstanceAs (Decidable True)
  | .isLoaded _ => inferInstanceAs (Decidable True)
  | .loadedDiskName _ => inferInstanceAs (Decidable True)
  | .numLoadedDisks => inferInstanceAs (Decidable True)

namespace PosixDiskManager

section Operations

variable {base : DiskManager} {resolve : String → String}
variable {owns : String → Prop} {self : PosixDiskManager} {path : String}
variable {diskNamePrefix : DiskName} {diskId : DiskId} {Value : Type}

theorem withinNames_insert {fileName : DiskName}
    (room : self.curDiskId ≠ Int32.maxValue)
    (within : WithinNames base resolve owns self)
    (owned : owns (resolve (base.getDiskPath fileName))) :
    WithinNames base resolve owns (self.insert fileName room) := by
  intro diskId name found
  by_cases same : diskId = self.curDiskId
  · subst same
    have new :
        (self.insert fileName room).disks.lookup self.curDiskId =
          some fileName :=
      AList.lookup_insert _
    rw [new] at found
    cases found
    exact owned
  · have kept :
        (self.insert fileName room).disks.lookup diskId =
          self.disks.lookup diskId :=
      AList.lookup_insert_ne same
    exact within diskId name (kept.symm.trans found)

theorem withinNames_erase (within : WithinNames base resolve owns self) :
    WithinNames base resolve owns (self.erase diskId) := by
  intro number name found
  by_cases same : number = diskId
  · subst same
    have gone : (self.erase number).disks.lookup number = none :=
      AList.lookup_erase _ _
    rw [gone] at found
    cases found
  · have kept :
        (self.erase diskId).disks.lookup number =
          self.disks.lookup number :=
      AList.lookup_erase_ne same
    exact within number name (kept.symm.trans found)

/-- The same value and the same manager, with no other names. -/
def agreed (base : DiskManager) (resolve : String → String)
    (owns : String → Prop) {Value : Type}
    (left right : Value × PosixDiskManager) (_ : HeldPair) : Prop :=
  left = right ∧ WithinNames base resolve owns left.2

theorem inStep_agreed {value : Value} {held : HeldPair}
    (within : WithinNames base resolve owns self) :
    (Program.done (value, self) :
      Effect (Value × PosixDiskManager)).InStep (pairing resolve owns)
        (agreed base resolve owns) (.done (value, self)) held :=
  Program.inStep_done ⟨rfl, within⟩

theorem inStep_withDisk {failed : DiskManagerErrorCode → Value}
    {body : PosixDisk → Effect Value} (owned : owns (resolve path))
    (used : ∀ first second held,
      PosixDisk.Twins (fun path => owns (resolve path)) first second held →
        (body first).InStep (pairing resolve owns) (steady held)
          (body second) held) :
    (withDisk base path failed body).InStep (pairing resolve owns)
      (steady none) (withDisk base path failed body) none := by
  simp only [withDisk]
  refine Program.InStep.bind ((PosixDisk.inStep_init owned).mono ?_)
  intro opened other link both
  cases opened with
  | error failure =>
      cases other with
      | value disk => exact both.elim
      | error same =>
          obtain ⟨rfl, rfl⟩ := both
          exact steady_done
  | value disk =>
      cases other with
      | error failure => exact both.elim
      | value disk' =>
          obtain ⟨fd, fd', rfl, rfl, rfl⟩ := both
          have twins :
              PosixDisk.Twins (fun path => owns (resolve path))
                (PosixDisk.new path fd base.pageSize base.maxDiskByteSize)
                (PosixDisk.new path fd' base.pageSize base.maxDiskByteSize)
                (some (fd, fd')) :=
            ⟨rfl, rfl, rfl, owned, rfl⟩
          refine Program.InStep.bind ((used _ _ _ twins).mono ?_)
          intro value other after same
          obtain ⟨rfl, rfl⟩ := same
          exact PosixDisk.inStep_destructor ⟨rfl, rfl⟩

/-- An operation that opens a loaded disk, uses it and leaves the manager. -/
theorem inStep_usesDisk {Next : Type} {failed : DiskManagerErrorCode → Value}
    {body : PosixDisk → Effect Value} {wrap : Value → Next}
    (within : WithinNames base resolve owns self)
    (owned : owns (resolve path))
    (used : ∀ first second held,
      PosixDisk.Twins (fun path => owns (resolve path)) first second held →
        (body first).InStep (pairing resolve owns) (steady held)
          (body second) held) :
    (withDisk base path failed body >>= fun value =>
        Program.done (wrap value, self)).InStep (pairing resolve owns)
      (agreed base resolve owns)
      (withDisk base path failed body >>= fun value =>
        Program.done (wrap value, self)) none := by
  refine Program.InStep.bind ((inStep_withDisk owned used).mono ?_)
  intro value other after same
  obtain ⟨rfl, rfl⟩ := same
  exact inStep_agreed within

theorem inStep_load (within : WithinNames base resolve owns self)
    (owned : owns (resolve (base.diskPath diskNamePrefix))) :
    ((load base diskNamePrefix).run self).InStep (pairing resolve owns)
      (agreed base resolve owns) ((load base diskNamePrefix).run self)
      none := by
  rw [load_run]
  refine Program.InStep.bind ((PosixDisk.inStep_init owned).mono ?_)
  intro opened other link both
  cases opened with
  | error failure =>
      cases other with
      | value disk => exact both.elim
      | error same =>
          obtain ⟨rfl, rfl⟩ := both
          exact inStep_agreed within
  | value disk =>
      cases other with
      | error failure => exact both.elim
      | value disk' =>
          obtain ⟨fd, fd', rfl, rfl, rfl⟩ := both
          dsimp only
          split_ifs with room
          · exact Program.inStep_crash
          · exact PosixDisk.inStep_destructor
              ⟨rfl, withinNames_insert room within owned⟩

theorem inStep_create (within : WithinNames base resolve owns self)
    (owned : owns (resolve (base.diskPath diskNamePrefix))) :
    ((create base diskNamePrefix).run self).InStep (pairing resolve owns)
      (agreed base resolve owns) ((create base diskNamePrefix).run self)
      none := by
  rw [create_run]
  refine inStep_propagate
    (PosixDisk.OpenedBoth (base.diskPath diskNamePrefix) base.pageSize
      base.maxDiskByteSize) (· = none) ?_ ?_ ?_ rfl
  · intro link same
    subst same
    exact PosixDisk.inStep_init owned
  · intro failure link same
    subst same
    exact inStep_agreed within
  · intro disk disk' link both
    obtain ⟨fd, fd', rfl, rfl, rfl⟩ := both
    rw [PosixDisk.destructor_of_owns rfl, PosixDisk.destructor_of_owns rfl]
    refine Program.inStep_call rfl ?_
    intro reply answer after same
    obtain ⟨_, rfl⟩ := same
    exact inStep_load within owned

theorem inStep_destroy (within : WithinNames base resolve owns self) :
    ((destroy base diskId).run self).InStep (pairing resolve owns)
      (agreed base resolve owns) ((destroy base diskId).run self) none := by
  rw [destroy_run]
  cases found : self.disks.lookup diskId with
  | none => exact inStep_agreed within
  | some diskName =>
      have owned := within diskId diskName found
      refine Program.InStep.bind ((PosixDisk.inStep_init owned).mono ?_)
      intro opened other link both
      cases opened with
      | error failure =>
          cases other with
          | value disk => exact both.elim
          | error same =>
              obtain ⟨rfl, rfl⟩ := both
              exact inStep_agreed within
      | value disk =>
          cases other with
          | error failure => exact both.elim
          | value disk' =>
              obtain ⟨fd, fd', rfl, rfl, rfl⟩ := both
              simp only [PosixDisk.destroyInScope]
              refine Program.inStep_call ⟨owned, rfl⟩ ?_
              intro reply answer after same
              obtain ⟨rfl, rfl⟩ := same
              cases answer with
              | ok removed =>
                  exact inStep_agreed (withinNames_erase within)
              | error number =>
                  refine Program.inStep_call ⟨owned, rfl⟩ ?_
                  intro reply answer after same
                  obtain ⟨rfl, rfl⟩ := same
                  cases answer with
                  | ok removed => exact Program.inStep_crash
                  | error number =>
                      rw [PosixDisk.destructor_of_owns rfl,
                        PosixDisk.destructor_of_owns rfl]
                      refine Program.inStep_call rfl ?_
                      intro reply answer after same
                      exact inStep_agreed within

theorem inStep_extend (within : WithinNames base resolve owns self) :
    ((extend base diskId).run self).InStep (pairing resolve owns)
      (agreed base resolve owns) ((extend base diskId).run self) none := by
  rw [extend_run]
  cases found : self.disks.lookup diskId with
  | none => exact inStep_agreed within
  | some diskName =>
      have owned := within diskId diskName found
      refine inStep_unwrap (steady none) (· = none) ?_ ?_ ?_ ?_ rfl
      · intro link same
        subst same
        refine (inStep_withDisk owned fun first second held twins =>
          PosixDisk.inStep_getDiskByteSize twins).mono ?_
        exact fun _ _ _ => bothEnd_of_steady
      · exact fun _ _ _ same => same.2
      · intro failure link same
        exact inStep_agreed within
      · intro size other link same
        obtain ⟨rfl, rfl⟩ := same
        split_ifs
        · exact Program.inStep_crash
        · exact Program.inStep_crash
        · exact inStep_agreed within
        · exact inStep_agreed within

/-- An operation that leaves the manager alone and makes no call. -/
theorem inStep_map {Next : Type} {wrap : Value → Next}
    {member : Member Value}
    (inStep :
      (member.run self).InStep (pairing resolve owns)
        (agreed base resolve owns) (member.run self) none) :
    ((wrap <$> member).run self).InStep (pairing resolve owns)
      (agreed base resolve owns) ((wrap <$> member).run self) none := by
  rw [StateT.run_map]
  apply Program.InStep.map
  refine inStep.mono ?_
  intro left right link same
  obtain ⟨rfl, within⟩ := same
  exact ⟨rfl, within⟩

theorem inStep_write {cursor : DiskPageCursor} {bytes : List UInt8}
    (within : WithinNames base resolve owns self) :
    ((write base diskId cursor bytes).run self).InStep
      (pairing resolve owns) (agreed base resolve owns)
      ((write base diskId cursor bytes).run self) none := by
  rw [write_run]
  cases found : self.disks.lookup diskId with
  | none => exact inStep_agreed within
  | some diskName =>
      apply inStep_usesDisk within (within diskId diskName found)
      intro first second held twins
      rw [propIfError_eq, propIfError_eq]
      exact steady_propagate (PosixDisk.inStep_write twins)
        (fun _ => steady_done) fun _ => steady_done

theorem inStep_diskByteSize (within : WithinNames base resolve owns self) :
    ((diskByteSize base diskId).run self).InStep (pairing resolve owns)
      (agreed base resolve owns) ((diskByteSize base diskId).run self)
      none := by
  rw [diskByteSize_run]
  cases found : self.disks.lookup diskId with
  | none => exact inStep_agreed within
  | some diskName =>
      exact inStep_usesDisk within (within diskId diskName found)
        fun first second held twins =>
          PosixDisk.inStep_getDiskByteSize twins

theorem inStep_read {cursor : DiskPageCursor} {buffer : List UInt8}
    (within : WithinNames base resolve owns self) :
    (((read base diskId cursor).run buffer).run self).InStep
      (pairing resolve owns) (agreed base resolve owns)
      (((read base diskId cursor).run buffer).run self) none := by
  rw [read_run]
  cases found : self.disks.lookup diskId with
  | none => exact inStep_agreed within
  | some diskName =>
      exact inStep_usesDisk within (within diskId diskName found)
        fun first second held twins =>
          PosixDisk.inStep_propagated_read twins

/-- Every operation with a name of its own. -/
theorem inStep_perform {operation : Operation}
    (suits : operation.Within base resolve owns)
    (within : WithinNames base resolve owns self) :
    ((perform base operation).run self).InStep (pairing resolve owns)
      (agreed base resolve owns) ((perform base operation).run self)
      none := by
  cases operation with
  | create diskName => exact inStep_map (inStep_create within suits)
  | load diskName => exact inStep_map (inStep_load within suits)
  | destroy diskId => exact inStep_map (inStep_destroy within)
  | write diskId cursor bytes => exact inStep_map (inStep_write within)
  | read diskId cursor buffer => exact inStep_map (inStep_read within)
  | extend diskId => exact inStep_map (inStep_extend within)
  | diskByteSize diskId => exact inStep_map (inStep_diskByteSize within)
  | «exists» diskName =>
      apply inStep_map
      change
        (PosixDisk.exists (base.diskPath diskName) >>= fun result =>
          Program.done (result, self)).InStep _ _
          (PosixDisk.exists (base.diskPath diskName) >>= fun result =>
            Program.done (result, self)) none
      refine Program.InStep.bind ((PosixDisk.inStep_exists suits).mono ?_)
      intro value other link same
      obtain ⟨rfl, rfl⟩ := same
      exact inStep_agreed within
  | unload diskId =>
      apply inStep_map
      rw [unload_run]
      split_ifs
      · exact inStep_agreed (withinNames_erase within)
      · exact inStep_agreed within
  | loadedDiskName diskId =>
      apply inStep_map
      rw [loadedDiskName_run]
      cases self.disks.lookup diskId with
      | none => exact inStep_agreed within
      | some diskName => exact inStep_agreed within
  | isLoaded diskId => exact inStep_agreed within
  | numLoadedDisks => exact inStep_agreed within

end Operations

end PosixDiskManager

end Lewsql
