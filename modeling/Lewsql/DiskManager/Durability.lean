import Lewsql.DiskManager.Surviving

/-!
# Pages across failures

A manager works on a file system whose calls may fail.  At any point of an
operation the process may be killed or the power lost; then a new manager starts,
after a power loss on a file that the disk happens to hold.  Every page of a file
still consists of bytes of the last write of it that was acknowledged, and of the
writes that were attempted since.
-/

namespace Lewsql

open Interaction Posix FileSystem

/-- What happens to a manager: an operation returns, or it is cut off. -/
inductive Incident where
  | returned (course : Course)
  | killed (before : World) (operation : Operation)
      (moves : List (Move Posix.calls FileSystem))
  | powerLoss (before : World) (operation : Operation)
      (moves : List (Move Posix.calls FileSystem))

namespace Incident

def before : Incident → World
  | .returned course => course.before
  | .killed before _ _ => before
  | .powerLoss before _ _ => before

def operation : Incident → Operation
  | .returned course => course.operation
  | .killed _ operation _ => operation
  | .powerLoss _ operation _ => operation

def acknowledged : Incident → Bool
  | .returned course => course.response = .void .ok
  | .killed _ _ _ => false
  | .powerLoss _ _ _ => false

/-- The bytes that an operation tries to write to a page of a file. -/
def attempt (base : DiskManager) (inode page : Nat)
    (incident : Incident) : Option (List UInt8) :=
  match incident.operation with
  | .write diskId cursor bytes =>
      if incident.before.named base diskId = some inode ∧
          cursor.toNatClampNeg = page then
        some bytes
      else
        none
  | _ => none

/-- What may be in a page after an incident, from what may be in it
before. -/
def candidates (base : DiskManager) (inode page : Nat)
    (held : List (List UInt8)) (incident : Incident) : List (List UInt8) :=
  match incident.attempt base inode page with
  | none => held
  | some bytes =>
      if incident.acknowledged then [bytes] else held ++ [bytes]

end Incident

/-- What may be in a page of a file after a history: the last contents that were
acknowledged and those that were attempted since. -/
def candidates (base : DiskManager) (inode page : Nat) (file : File)
    (incidents : List Incident) : List (List UInt8) :=
  incidents.foldl (Incident.candidates base inode page)
    [file.page base.pageSize.toNat page]

/-- Every byte is the one of some of the contents at its position. -/
def MadeOf (contents : List (List UInt8)) (bytes : List UInt8) : Prop :=
  ∀ (position : Nat) (value : UInt8), bytes[position]? = some value →
    ∃ content ∈ contents, content[position]? = some value

/-- A manager with its file system, and what the disk may hold of one file. -/
structure Site where
  world : World
  medium : Medium

namespace Site

def mediumAfter (site : Site) (inode : Nat)
    (moves : List (Move Posix.calls FileSystem)) : Medium :=
  moves.foldl (Medium.after inode) site.medium

/-- An operation that was cut off after some calls. -/
def Interrupted (base : DiskManager) (inode : Nat) (site : Site)
    (operation : Operation) (moves : List (Move Posix.calls FileSystem))
    (last : FileSystem) : Prop :=
  site.world.Handles base inode operation ∧
    ∃ rest,
      Progress mayFail
        ((PosixDiskManager.perform base operation).run
          site.world.manager)
        site.world.fileSystem moves rest last

/-- A new manager finds the file as the last process left it, or after a power
loss a file that the disk may hold; other files and all names may differ. -/
inductive Step (base : DiskManager) (inode : Nat) :
    Site → Incident → Site → Prop
  | returned {site : Site} {course : Course} :
      course.before = site.world →
      site.world.Handles base inode course.operation →
      site.world.Performs base mayFail course.operation course.moves
          (.done (course.response, course.after.manager))
          course.after.fileSystem →
      Step base inode site (.returned course)
        ⟨course.after, site.mediumAfter inode course.moves⟩
  | killed {site : Site} {operation : Operation}
      {moves : List (Move Posix.calls FileSystem)} {last : FileSystem}
      {world : World} :
      site.Interrupted base inode operation moves last →
      world.manager = PosixDiskManager.new →
      inode < world.fileSystem.nextInode →
      world.fileSystem.file inode = last.file inode →
      Step base inode site (.killed site.world operation moves)
        ⟨world, site.mediumAfter inode moves⟩
  | powerLoss {site : Site} {operation : Operation}
      {moves : List (Move Posix.calls FileSystem)} {last : FileSystem}
      {world : World} :
      site.Interrupted base inode operation moves last →
      world.manager = PosixDiskManager.new →
      Standing inode world.fileSystem →
      (site.mediumAfter inode moves).Leaves
        (world.fileSystem.file inode) →
      Step base inode site (.powerLoss site.world operation moves)
        ⟨world, Medium.settled (world.fileSystem.file inode)⟩

/-- A history that starts with a file on the disk. -/
def machine (base : DiskManager) (inode : Nat) (file : File) :
    Machine Site Incident where
  start site :=
    Standing inode site.world.fileSystem ∧
      site.world.fileSystem.file inode = file ∧
      site.medium = Medium.settled file
  step := Step base inode

end Site

/-! ## Histories -/

/-- What may be at a place, when the place lies in the page. -/
private def Offered (pageSize page : Nat) (contents : List (List UInt8))
    (place : Nat) (value : UInt8) : Prop :=
  ∀ position, position < pageSize →
    place = page * pageSize + position →
      ∃ content ∈ contents, content[position]? = some value

/-- A file whose bytes are all offered. -/
private theorem madeOf_page {pageSize page : Nat}
    {contents : List (List UInt8)} {file : File}
    (offered : ∀ place,
      Offered pageSize page contents place (file.byte place)) :
    MadeOf contents (file.page pageSize page) := by
  intro position value found
  have inPage : position < pageSize := by
    have bound := (List.getElem?_eq_some_iff.mp found).1
    rw [File.page_length] at bound
    exact bound
  obtain ⟨content, member, same⟩ :=
    offered (page * pageSize + position) position inPage rfl
  refine ⟨content, member, same.trans ?_⟩
  rw [← found, File.page, List.getElem?_map,
    List.getElem?_range inPage]
  rfl

private theorem offered_mono {pageSize page place : Nat} {value : UInt8}
    {contents more : List (List UInt8)}
    (offered : Offered pageSize page contents place value)
    (subset : ∀ content ∈ contents, content ∈ more) :
    Offered pageSize page more place value := by
  intro position inPage same
  obtain ⟨content, member, holds⟩ := offered position inPage same
  exact ⟨content, subset content member, holds⟩

section Incidents

variable {base : DiskManager} {inode page : Nat} {incident : Incident}
variable {held : List (List UInt8)}

/-- The page to which a byte is put. -/
private theorem page_of_puts {pageSize cursor position : Nat}
    {bytes : List UInt8} {value : UInt8}
    (full : bytes.length = pageSize) (inPage : position < pageSize)
    (puts : Puts pageSize cursor bytes (page * pageSize + position)
      value) :
    cursor = page ∧ bytes[position]? = some value := by
  obtain ⟨index, same, found⟩ := puts
  have bound := (List.getElem?_eq_some_iff.mp found).1
  have equal : cursor = page := by
    by_contra different
    exact File.page_disjoint different inPage (by omega)
  subst equal
  have index_eq : index = position := by omega
  exact ⟨rfl, index_eq ▸ found⟩

/-- What an operation changes is what it attempts. -/
private theorem offered_of_change
    (handles : incident.before.Handles base inode incident.operation)
    {place : Nat} {value : UInt8}
    (allowed :
      Offered base.pageSize.toNat page held place value ∨
        incident.before.Changes base inode incident.operation place
          value) :
    Offered base.pageSize.toNat page
      (held ++ (incident.attempt base inode page).toList) place value := by
  rcases allowed with old | new
  · exact offered_mono old
      fun content member => List.mem_append_left _ member
  · intro position inPage same
    subst same
    cases asked : incident.operation with
    | write diskId cursor bytes =>
        rw [asked] at new handles
        obtain ⟨samePage, found⟩ :=
          page_of_puts handles.1 inPage new.2
        have attempted :
            incident.attempt base inode page = some bytes := by
          rw [Incident.attempt, asked]
          exact if_pos ⟨new.1, samePage⟩
        refine ⟨bytes, ?_, found⟩
        rw [attempted]
        exact List.mem_append_right _ List.mem_cons_self
    | _ =>
        rw [asked] at new
        exact new.elim

private theorem candidates_of_pending
    (pending : incident.acknowledged = false ∨
      incident.attempt base inode page = none) :
    incident.candidates base inode page held =
      held ++ (incident.attempt base inode page).toList := by
  simp only [Incident.candidates]
  cases attempted : incident.attempt base inode page with
  | none => exact (List.append_nil held).symm
  | some bytes =>
      rcases pending with pending | none
      · rw [pending]
        rfl
      · rw [attempted] at none
        cases none

private theorem attempt_eq_some {bytes : List UInt8}
    (attempted : incident.attempt base inode page = some bytes) :
    ∃ diskId cursor, incident.operation = .write diskId cursor bytes ∧
      incident.before.named base diskId = some inode ∧
      cursor.toNatClampNeg = page := by
  unfold Incident.attempt at attempted
  split at attempted
  · rename_i diskId cursor content asked
    split_ifs at attempted with owns
    cases attempted
    exact ⟨diskId, cursor, asked, owns⟩
  · cases attempted

/-- An acknowledged attempt is a write of the page that succeeded. -/
private theorem offered_of_acknowledged
    {last : FileSystem} {medium : Medium} {manager : PosixDiskManager}
    {course : Course} {bytes : List UInt8}
    (finished : course.before.Finishes base inode course.operation
      (.done (course.response, manager)) (last, medium))
    (acknowledged : (Incident.returned course).acknowledged = true)
    (attempted :
      (Incident.returned course).attempt base inode page = some bytes)
    {place : Nat} {value : UInt8} (found : medium place value) :
    Offered base.pageSize.toNat page [bytes] place value := by
  have succeeded : course.response = .void .ok :=
    of_decide_eq_true acknowledged
  obtain ⟨diskId, cursor, asked, names, rfl⟩ := attempt_eq_some attempted
  rw [show course.operation = _ from asked, succeeded] at finished
  intro position inPage same
  subst same
  exact ⟨bytes, List.mem_cons_self,
    finished names position value inPage found⟩

end Incidents

namespace Site

variable {base : DiskManager} {inode : Nat} {file : File}
variable {incidents : List Incident} {site : Site}

/-- The file stands, and the disk holds only what may be in its pages. -/
private structure Sound (base : DiskManager) (inode : Nat) (file : File)
    (incidents : List Incident) (site : Site) : Prop where
  kept : Kept inode (site.world.fileSystem, site.medium)
  within : ∀ page, site.medium.Within
    (Offered base.pageSize.toNat page
      (candidates base inode page file incidents))

/-- What the calls of an operation leave, wherever they were cut off. -/
private theorem Sound.progress
    (sound : Sound base inode file incidents site)
    (positive : base.pageSize ≠ 0) {operation : Operation}
    {moves : List (Move Posix.calls FileSystem)} {last : FileSystem}
    (interrupted : site.Interrupted base inode operation moves last) :
    Kept inode (last, site.mediumAfter inode moves) ∧
      ∀ page, (site.mediumAfter inode moves).Within fun place value =>
        Offered base.pageSize.toNat page
            (candidates base inode page file incidents) place value ∨
          site.world.Changes base inode operation place value := by
  obtain ⟨handles, rest, progress⟩ := interrupted
  have safe := World.wp_perform_watched positive handles sound.kept
  obtain ⟨obeyed, _⟩ := progress.sound_of_watched safe
  refine progress.holds_of_watched
    (fun last medium => Kept inode (last, medium) ∧
      ∀ page, medium.Within fun place value =>
        Offered base.pageSize.toNat page
            (candidates base inode page file incidents) place value ∨
          site.world.Changes base inode operation place value)
    ?_ ⟨sound.kept, fun page place value found =>
      Or.inl (sound.within page place value found)⟩
  intro move member medium holds
  have spared := obeyed move member
  refine ⟨⟨spared.1, Medium.leaves_after⟩, fun page => ?_⟩
  exact Medium.within_after (holds.2 page) holds.1.current spared.2

private theorem candidates_append {page : Nat} {incident : Incident} :
    candidates base inode page file (incidents ++ [incident]) =
      incident.candidates base inode page
        (candidates base inode page file incidents) := by
  rw [candidates, List.foldl_append]
  rfl

private theorem Sound.step
    (sound : Sound base inode file incidents site)
    (positive : base.pageSize ≠ 0) {incident : Incident} {after : Site}
    (stepped : Step base inode site incident after) :
    Sound base inode file (incidents ++ [incident]) after := by
  cases stepped with
  | @returned course begun handles performed =>
      obtain ⟨rest, progress⟩ := performed.progress
      obtain ⟨kept, within⟩ :=
        sound.progress positive ⟨handles, rest, progress⟩
      refine ⟨kept, fun page place value found => ?_⟩
      rw [candidates_append]
      have allowed := within page place value found
      rw [← begun] at allowed handles
      have offered :
          Offered base.pageSize.toNat page
            (candidates base inode page file incidents ++
              ((Incident.returned course).attempt base inode page).toList)
            place value :=
        offered_of_change handles allowed
      by_cases pending :
          (Incident.returned course).acknowledged = false ∨
            (Incident.returned course).attempt base inode page = none
      · rw [candidates_of_pending pending]
        exact offered
      · obtain ⟨acknowledged, attempted⟩ := not_or.mp pending
        have acknowledged := (Bool.not_eq_false _).mp acknowledged
        obtain ⟨bytes, attempted⟩ := Option.ne_none_iff_exists'.mp attempted
        have safe :=
          World.wp_perform_watched positive (begun ▸ handles) sound.kept
        obtain ⟨_, finished⟩ := performed.sound_of_watched safe
        rw [← begun] at finished
        simp only [Incident.candidates]
        rw [attempted, acknowledged]
        exact offered_of_acknowledged finished acknowledged attempted found
  | @killed operation moves last world interrupted fresh made same =>
      obtain ⟨kept, within⟩ := sound.progress positive interrupted
      constructor
      · constructor
        · refine ⟨made, ?_⟩
          rw [same]
          exact kept.standing.sized
        · rw [same]
          exact kept.current
      · intro page place value found
        rw [candidates_append, candidates_of_pending (Or.inl rfl)]
        exact offered_of_change interrupted.1 (within page place value found)
  | @powerLoss operation moves last world interrupted fresh standing left =>
      obtain ⟨_, within⟩ := sound.progress positive interrupted
      refine ⟨⟨standing, Medium.leaves_settled _⟩, ?_⟩
      intro page place value found
      rw [candidates_append, candidates_of_pending (Or.inl rfl)]
      have survived : site.mediumAfter inode moves place value := by
        rw [show value = _ from found]
        exact left place
      exact offered_of_change interrupted.1
        (within page place value survived)

/-- Every history is sound. -/
private theorem sound_of_run (positive : base.pageSize ≠ 0)
    (run : (machine base inode file).Run incidents site) :
    Sound base inode file incidents site := by
  refine Machine.Run.invariant
    (fun incidents site => Sound base inode file incidents site) ?_ ?_ run
  · intro start started
    rcases started with ⟨standing, rfl, settled⟩
    refine ⟨⟨standing, ?_⟩, fun page place value found => ?_⟩
    · rw [settled]
      exact Medium.leaves_settled _
    · rw [settled] at found
      rw [show value = _ from found]
      intro position inPage same
      refine ⟨_, List.mem_cons_self, ?_⟩
      rw [same, File.page, List.getElem?_map, List.getElem?_range inPage]
      rfl
  · intro earlier before incident after _ sound stepped
    exact sound.step positive stepped

end Site

/-- In every history with failing calls, killed processes and power losses, what
a power loss leaves of a page is made of the last acknowledged contents and of
those that were attempted since. -/
theorem survivors_madeOf (base : DiskManager) (inode page : Nat)
    (file : File) (positive : base.pageSize ≠ 0)
    {incidents : List Incident} {site : Site}
    (run : (Site.machine base inode file).Run incidents site)
    {found : File} (survives : site.medium.Leaves found) :
    MadeOf (candidates base inode page file incidents)
      (found.page base.pageSize.toNat page) :=
  madeOf_page fun place =>
    (Site.sound_of_run positive run).within page _ _ (survives place)

private def writtenDisk : World :=
  (World.smallDisk.step smallBase (.write 0 0 [1, 2])).2

private theorem run_of_first_write :
    ∃ moves medium,
      (Site.machine smallBase 0 (World.smallDisk.fileSystem.file 0)).Run
        [.returned ⟨World.smallDisk, .write 0 0 [1, 2], moves, .void .ok,
          writtenDisk⟩]
        ⟨writtenDisk, medium⟩ := by
  obtain ⟨moves, performed⟩ :=
    World.performs_of_planned (fun _ => .none) (Prod.eta _).symm
  have begun :
      (Site.machine smallBase 0
        (World.smallDisk.fileSystem.file 0)).Run []
        ⟨World.smallDisk,
          Medium.settled (World.smallDisk.fileSystem.file 0)⟩ :=
    .start ⟨⟨by decide, by decide⟩, rfl, rfl⟩
  have handles : World.smallDisk.Handles smallBase 0 (.write 0 0 [1, 2]) :=
    ⟨rfl, fun _ => by decide⟩
  exact ⟨moves, _, begun.step (.returned rfl handles performed)⟩

/-- The file after a write that was acknowledged. -/
theorem survivors_madeOf_small :
    ∃ moves,
      MadeOf
        (candidates smallBase 0 0 (World.smallDisk.fileSystem.file 0)
          [.returned ⟨World.smallDisk, .write 0 0 [1, 2], moves, .void .ok,
            writtenDisk⟩])
        ((writtenDisk.fileSystem.file 0).page 2 0) := by
  obtain ⟨moves, medium, run⟩ := run_of_first_write
  exact ⟨moves, survivors_madeOf smallBase 0 0 _ (by decide) run
    (Site.sound_of_run (by decide) run).kept.current⟩

/-- In every such history a read that succeeds returns one page, which is made
of them as well. -/
theorem reads_madeOf (base : DiskManager) (inode : Nat) (file : File)
    (positive : base.pageSize ≠ 0) {incidents : List Incident}
    {site : Site}
    (run : (Site.machine base inode file).Run incidents site)
    {diskId : DiskId} {cursor : DiskPageCursor} {buffer : List UInt8}
    (full : buffer.length = base.pageSize.toNat)
    (names : site.world.named base diskId = some inode)
    (inRange : InRange base.pageSize base.maxDiskByteSize cursor)
    {moves : List (Move Posix.calls FileSystem)} {bytes : List UInt8}
    {manager : PosixDiskManager} {last : FileSystem}
    (performed : site.world.Performs base mayFail
      (.read diskId cursor buffer) moves
      (.done (.buffer .ok bytes, manager)) last) :
    bytes.length = base.pageSize.toNat ∧
      MadeOf
        (candidates base inode cursor.toNatClampNeg file incidents)
        bytes := by
  have sound := Site.sound_of_run positive run
  have handles :
      site.world.Handles base inode (.read diskId cursor buffer) := full
  have safe := World.wp_perform_watched positive handles sound.kept
  obtain ⟨_, finished⟩ := performed.sound_of_watched safe
  obtain ⟨rest, progress⟩ := performed.progress
  obtain ⟨kept, within⟩ :=
    sound.progress positive ⟨handles, rest, progress⟩
  have page : bytes =
      (last.file inode).page base.pageSize.toNat cursor.toNatClampNeg :=
    finished names inRange
  subst page
  refine ⟨File.page_length _ _ _, madeOf_page fun place => ?_⟩
  rcases within cursor.toNatClampNeg _ _ (kept.current place) with
    offered | impossible
  · exact offered
  · exact impossible.elim

/-- A read of the page that was just written. -/
theorem reads_madeOf_small :
    ∃ moves readMoves last,
      writtenDisk.Performs smallBase mayFail (.read 0 0 [0, 0]) readMoves
          (.done (.buffer .ok [1, 2], writtenDisk.manager)) last ∧
        MadeOf
          (candidates smallBase 0 0 (World.smallDisk.fileSystem.file 0)
            [.returned ⟨World.smallDisk, .write 0 0 [1, 2], moves,
              .void .ok, writtenDisk⟩])
          [1, 2] := by
  obtain ⟨moves, medium, run⟩ := run_of_first_write
  obtain ⟨readMoves, performed⟩ :=
    World.performs_of_planned (fun _ => .none) (Prod.eta _).symm
  have names : writtenDisk.named smallBase 0 = some 0 := by decide
  exact ⟨moves, readMoves, _, performed,
    (reads_madeOf smallBase 0 _ (by decide) run rfl names (by decide)
      performed).2⟩

end Lewsql
