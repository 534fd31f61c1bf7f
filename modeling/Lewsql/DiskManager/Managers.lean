import Lewsql.DiskManager.Descriptors
import Lewsql.Interaction.Concurrent

/-!
# Managers that share a directory

Any number of managers work on one file system, each with its own table of
loaded disks and its own parameters.  An operation of a manager is a job, and
the POSIX calls of different managers interleave in any order.

Whatever the others do, a job works through the one descriptor that it holds, and
no other job disturbs that descriptor.
-/

namespace Lewsql

open Interaction Posix FileSystem

abbrev ManagerJob := Job Operation PosixDiskManager

abbrev ManagerScene (Who : Type) :=
  Scene Posix.calls Crash Who Operation PosixDiskManager Response FileSystem

abbrev ManagerEvent (Who : Type) :=
  Occurrence Posix.calls Crash Who Operation PosixDiskManager Response
    FileSystem

abbrev ManagerContract :=
  Contract Posix.calls Crash Operation PosixDiskManager Response FileSystem

/-- Managers with their parameters, on POSIX calls that behave as `env` says. -/
def managers {Who : Type} (env : Transition Posix.calls FileSystem)
    (base : Who → DiskManager) :
    Parties Posix.calls Crash Who Operation PosixDiskManager Response
      FileSystem where
  env := env
  body who job :=
    (PosixDiskManager.perform (base who) job.task).run job.own

/-- The calls that an operation may make after its moves so far. -/
def Disciplined (operation : Operation)
    (moves : List (Move Posix.calls FileSystem)) : Request → Prop
  | .access _ => True
  | .openFile _ => ledger moves = some []
  | .close descriptor => ledger moves = some [descriptor]
  | .stat _ => True
  | .truncate _ _ => True
  | .lseek descriptor _ => ledger moves = some [descriptor]
  | .write descriptor _ => ledger moves = some [descriptor]
  | .read descriptor _ => ledger moves = some [descriptor]
  | .fsync descriptor => ledger moves = some [descriptor]
  | .unlink _ => ∃ diskId, operation = .destroy diskId

theorem Disciplined.uses {operation : Operation}
    {moves : List (Move Posix.calls FileSystem)} {request : Request}
    {descriptor : Nat} (disciplined : Disciplined operation moves request)
    (uses : Uses descriptor request) :
    ledger moves = some [descriptor] := by
  cases request with
  | close other => exact uses ▸ disciplined
  | lseek other offset => exact uses ▸ disciplined
  | write other bytes => exact uses ▸ disciplined
  | read other count => exact uses ▸ disciplined
  | fsync other => exact uses ▸ disciplined
  | access path => exact uses.elim
  | openFile path => exact uses.elim
  | stat path => exact uses.elim
  | truncate path length => exact uses.elim
  | unlink path => exact uses.elim

def discipline : ManagerContract where
  rely _ _ _ _ := True
  guarantee job before request _ _ := Disciplined job.task before.2 request
  post _ _ _ := True

section Runs

variable {Who : Type} [DecidableEq Who]
variable {env : Transition Posix.calls FileSystem}
variable {base : Who → DiskManager} {starts : FileSystem → Prop}
variable {fine : ManagerEvent Who → Prop}
variable {events : List (ManagerEvent Who)} {scene : ManagerScene Who}

variable (env base fine) in
private def ledgerPhases (who : Who) (job : ManagerJob) :
    Phases ((managers env base).around fine discipline.rely who job)
      (discipline.guarantee job) job.task where
  idle state := ledger state.2 = some []
  checked _ _ _ := True
  holding _ descriptor state := ledger state.2 = some [descriptor]
  removed _ := True
  access := by
    intro path before reply after idle moved
    rcases moved with ⟨middle, _, _, _, recorded⟩
    refine ⟨True.intro, ?_, ?_⟩
    · rw [recorded, ledger_append idle]
      rfl
    · cases existenceOf reply <;> exact True.intro
  openFile := by
    intro path shouldExist before reply after _ idle _ moved
    rcases moved with ⟨middle, _, _, _, recorded⟩
    refine ⟨idle, ?_⟩
    rw [recorded, ledger_append idle]
    cases reply with
    | ok descriptor => rfl
    | error number => rfl
  transfer := by
    intro disk before request reply after holding transfers moved
    rcases moved with ⟨middle, _, _, _, recorded⟩
    rw [recorded, ledger_append holding]
    cases request with
    | stat path => exact ⟨True.intro, rfl⟩
    | truncate path length => exact ⟨True.intro, rfl⟩
    | lseek other offset => exact ⟨transfers ▸ holding, rfl⟩
    | write other bytes => exact ⟨transfers ▸ holding, rfl⟩
    | read other count => exact ⟨transfers ▸ holding, rfl⟩
    | fsync other => exact ⟨transfers ▸ holding, rfl⟩
    | access path => exact transfers.elim
    | openFile path => exact transfers.elim
    | close other => exact transfers.elim
    | unlink path => exact transfers.elim
  close := by
    intro path descriptor before reply after holding moved
    rcases moved with ⟨middle, _, _, _, recorded⟩
    refine ⟨holding, ?_⟩
    rw [recorded, ledger_append holding]
    simp [settle]
  unlink := by
    intro diskId path descriptor before reply after destroys holding moved
    rcases moved with ⟨middle, _, _, _, recorded⟩
    refine ⟨⟨diskId, destroys⟩, ?_⟩
    cases reply with
    | ok answer => exact True.intro
    | error number =>
        dsimp only
        rw [recorded, ledger_append holding]
        rfl

/-- Every call of every run is disciplined. -/
theorem disciplined_of_run
    (run :
      ((managers env base).machineWhile starts fine).Run events scene)
    {who : Who} {job : ManagerJob}
    {earlier : List (Move Posix.calls FileSystem)}
    {move : Move Posix.calls FileSystem} {after : ManagerScene Who}
    (allowed : fine (.calls who job earlier move))
    (stepped :
      (managers env base).Step scene (.calls who job earlier move) after) :
    Disciplined job.task earlier move.request := by
  have ongoing :
      (managers env base).Ongoing fine discipline who scene := by
    refine Parties.ongoing_of_run (fun _ _ _ => True.intro) ?_
      (fun _ _ _ _ _ _ _ _ _ _ _ _ _ _ => True.intro) run
    intro job state _
    have idle :
        (ledgerPhases env base fine who job).idle (state, []) := rfl
    exact Program.wp_consequence (Phases.wp_perform _ idle)
      (fun _ _ _ => True.intro)
  obtain ⟨seen, _, disciplined⟩ := ongoing.calls allowed stepped
  exact disciplined

/-! ## Descriptors of different jobs -/

def Holds (scene : ManagerScene Who) (who : Who) (descriptor : Nat) :
    Prop :=
  ∃ job moves rest, scene.activity who = .busy job moves rest ∧
    ledger moves = some [descriptor]

/-- Held descriptors are open, and each has one holder. -/
structure Owned (scene : ManagerScene Who) : Prop where
  isOpen : ∀ who descriptor, Holds scene who descriptor →
    descriptor ∈ scene.shared.descriptors
  apart : ∀ who other descriptor, Holds scene who descriptor →
    Holds scene other descriptor → who = other

variable {before after : ManagerScene Who} {who : Who}

private theorem mem_of_lookup {descriptor : Nat} {fs last : FileSystem}
    (same :
      last.descriptors.lookup descriptor = fs.descriptors.lookup descriptor)
    (isOpen : descriptor ∈ fs.descriptors) :
    descriptor ∈ last.descriptors := by
  rw [← AList.lookup_isSome] at isOpen ⊢
  rw [same]
  exact isOpen

private theorem ledger_append_none
    {moves : List (Move Posix.calls FileSystem)}
    {move : Move Posix.calls FileSystem} (spoilt : ledger moves = none) :
    ledger (moves ++ [move]) = none := by
  unfold ledger at *
  rw [List.foldl_append, spoilt]
  rfl

omit [DecidableEq Who] in
/-- Descriptors held after a step were held before it, or one party opened
them just then. -/
private theorem Owned.of_step (who : Who) (owned : Owned before)
    (held : ∀ other descriptor, Holds after other descriptor →
      descriptor ∈ after.shared.descriptors ∧
        (Holds before other descriptor ∨
          other = who ∧ descriptor ∉ before.shared.descriptors)) :
    Owned after := by
  constructor
  · intro other descriptor holds
    exact (held other descriptor holds).1
  · intro first second descriptor holds holdsToo
    rcases (held _ _ holds).2 with old | ⟨new, unused⟩
    · rcases (held _ _ holdsToo).2 with oldToo | ⟨_, unused⟩
      · exact owned.apart _ _ _ old oldToo
      · exact absurd (owned.isOpen _ _ old) unused
    · rcases (held _ _ holdsToo).2 with oldToo | ⟨newToo, _⟩
      · exact absurd (owned.isOpen _ _ oldToo) unused
      · rw [new, newToo]

/-- A party that is given nothing to hold. -/
private theorem holds_of_put {activity : Activity Posix.calls Crash
      Operation PosixDiskManager Response FileSystem}
    (nothing : ∀ job moves rest descriptor,
      activity = .busy job moves rest → ledger moves ≠ some [descriptor])
    {other : Who} {descriptor : Nat}
    (holds : Holds (before.put who activity) other descriptor) :
    Holds before other descriptor := by
  obtain ⟨job, moves, rest, working, held⟩ := holds
  by_cases same : other = who
  · subst same
    rw [Scene.put_self] at working
    exact absurd held (nothing _ _ _ _ working)
  · rw [Scene.put_other _ _ _ same] at working
    exact ⟨job, moves, rest, working, held⟩

private theorem Owned.put (owned : Owned before)
    {activity : Activity Posix.calls Crash Operation PosixDiskManager
      Response FileSystem}
    (nothing : ∀ job moves rest descriptor,
      activity = .busy job moves rest →
        ledger moves ≠ some [descriptor]) :
    Owned (before.put who activity) := by
  refine Owned.of_step who owned ?_
  intro other descriptor holds
  have old := holds_of_put nothing holds
  exact ⟨owned.isOpen _ _ old, Or.inl old⟩

/-- What the party that made a call holds after it. -/
private theorem settled {job : ManagerJob}
    {earlier : List (Move Posix.calls FileSystem)}
    {fs last : FileSystem} {request : Request}
    {reply : Except Errno (Answer request)} {descriptor : Nat}
    (disciplined : Disciplined job.task earlier request)
    (served : mayFail fs request reply last)
    (isOpen : ledger earlier = some [descriptor] →
      descriptor ∈ fs.descriptors)
    (held :
      ledger (earlier ++ [⟨fs, request, reply, last⟩]) =
        some [descriptor]) :
    descriptor ∈ last.descriptors ∧
      (ledger earlier = some [descriptor] ∨
        descriptor ∉ fs.descriptors) := by
  cases before : ledger earlier with
  | none =>
      rw [ledger_append_none before] at held
      cases held
  | some descriptors =>
      rw [ledger_append before] at held
      have kept (stays : request ≠ .close descriptor)
          (same : settle descriptors request reply = some descriptors) :
          descriptor ∈ last.descriptors ∧
            (some descriptors = some [descriptor] ∨
              descriptor ∉ fs.descriptors) := by
        have still : some descriptors = some [descriptor] :=
          same.symm.trans held
        have member := isOpen (before.trans still)
        rw [← AList.lookup_isSome, Option.isSome_iff_exists] at member
        obtain ⟨opened, found⟩ := member
        obtain ⟨offset, stillOpen⟩ := mayFail_stays served found stays
        refine ⟨?_, Or.inl still⟩
        rw [← AList.lookup_isSome, stillOpen]
        rfl
      cases request with
      | openFile path =>
          have empty := before.symm.trans disciplined
          cases empty
          cases reply with
          | error number => cases held
          | ok opened =>
              cases held
              obtain ⟨free, file, grown⟩ := mayFail_openFile_ok served
              rw [grown]
              exact ⟨(AList.mem_insert _).mpr (Or.inl rfl), Or.inr free⟩
      | close other =>
          have single := before.symm.trans disciplined
          cases single
          simp [settle] at held
      | access path => exact kept (fun same => by cases same) rfl
      | stat path => exact kept (fun same => by cases same) rfl
      | truncate path length =>
          exact kept (fun same => by cases same) rfl
      | lseek other offset => exact kept (fun same => by cases same) rfl
      | write other bytes => exact kept (fun same => by cases same) rfl
      | read other count => exact kept (fun same => by cases same) rfl
      | fsync other => exact kept (fun same => by cases same) rfl
      | unlink path => exact kept (fun same => by cases same) rfl

omit [DecidableEq Who] in
/-- A call of one party leaves the descriptors of the others alone. -/
private theorem Owned.others (owned : Owned before) {job : ManagerJob}
    {earlier : List (Move Posix.calls FileSystem)} {request : Request}
    {reply : Except Errno (Answer request)}
    {rest : Effect (Response × PosixDiskManager)} {last : FileSystem}
    (working : before.activity who = .busy job earlier rest)
    (disciplined : Disciplined job.task earlier request)
    (served : mayFail before.shared request reply last) {other : Who}
    (different : other ≠ who) {descriptor : Nat}
    (holds : Holds before other descriptor) :
    last.descriptors.lookup descriptor =
      before.shared.descriptors.lookup descriptor := by
  refine mayFail_elsewhere served (owned.isOpen _ _ holds) ?_
  intro uses
  have own : Holds before who descriptor :=
    ⟨job, earlier, rest, working, disciplined.uses uses⟩
  exact different (owned.apart _ _ _ holds own)

private theorem Owned.step (owned : Owned before)
    (within : ∀ fs request reply last, env fs request reply last →
      mayFail fs request reply last)
    {event : ManagerEvent Who}
    (stepped : (managers env base).Step before event after)
    (disciplined : ∀ who job earlier move,
      event = .calls who job earlier move →
        Disciplined job.task earlier move.request) :
    Owned after := by
  cases stepped with
  | @begins who job resting =>
      refine owned.put ?_
      intro other moves rest descriptor same
      cases same
      exact fun held => by cases held
  | @calls who job earlier request next reply last asked moved =>
      have allowed := disciplined _ _ _ _ rfl
      have served := within _ _ _ _ moved
      refine Owned.of_step who owned ?_
      intro other descriptor holds
      rcases holds with ⟨task, moves, rest, working, held⟩
      by_cases same : other = who
      · subst same
        rw [Scene.put_self] at working
        cases working
        have own (held : ledger earlier = some [descriptor]) :
            Holds before other descriptor :=
          ⟨job, earlier, _, asked, held⟩
        obtain ⟨isOpen, before | fresh⟩ :=
          settled allowed served
            (fun held => owned.isOpen _ _ (own held)) held
        · exact ⟨isOpen, Or.inl (own before)⟩
        · exact ⟨isOpen, Or.inr ⟨rfl, fresh⟩⟩
      · rw [Scene.put_other _ _ _ same] at working
        have old : Holds before other descriptor :=
          ⟨task, moves, rest, working, held⟩
        have kept := owned.others asked allowed served same old
        exact ⟨mem_of_lookup kept (owned.isOpen _ _ old), Or.inl old⟩
  | @returns who job moves value own finished =>
      refine owned.put ?_
      intro other moves rest descriptor same
      cases same
  | @crashes who job moves reason failed =>
      refine owned.put ?_
      intro other moves rest descriptor same
      cases same

/-- In every run each descriptor in use has one holder. -/
theorem owned_of_run
    (within : ∀ fs request reply last, env fs request reply last →
      mayFail fs request reply last)
    (run :
      ((managers env base).machineWhile starts fine).Run events scene) :
    Owned scene := by
  refine Machine.Run.invariant (fun _ scene => Owned scene) ?_ ?_ run
  · intro scene started
    have nothing (who : Who) (descriptor : Nat) :
        ¬ Holds scene who descriptor := by
      intro held
      rcases held with ⟨job, moves, rest, working, _⟩
      obtain ⟨own, resting⟩ := started.2 who
      rw [resting] at working
      cases working
    exact ⟨fun who descriptor holds => (nothing who descriptor holds).elim,
      fun who _ descriptor holds => (nothing who descriptor holds).elim⟩
  · intro events before event after earlier owned stepped
    refine owned.step within stepped.2 ?_
    intro who job moves move equal
    rcases equal with rfl
    exact disciplined_of_run earlier stepped.1 stepped.2

/-- No step of another party touches a descriptor that a party holds. -/
theorem undisturbed_of_run
    (within : ∀ fs request reply last, env fs request reply last →
      mayFail fs request reply last)
    (run :
      ((managers env base).machineWhile starts fine).Run events before)
    {event : ManagerEvent Who} (allowed : fine event)
    (stepped : (managers env base).Step before event after)
    {descriptor : Nat} (different : event.who ≠ who)
    (holds : Holds before who descriptor) :
    after.shared.descriptors.lookup descriptor =
      before.shared.descriptors.lookup descriptor := by
  have owned := owned_of_run within run
  cases stepped with
  | begins resting => rfl
  | returns finished => rfl
  | crashes failed => rfl
  | calls asked moved =>
      have disciplined :=
        disciplined_of_run run allowed (.calls asked moved)
      exact owned.others asked disciplined (within _ _ _ _ moved)
        (Ne.symm different) holds

end Runs

end Lewsql
