import Lewsql.Posix.FileSystem

/-!
# What a call may do that may fail

One lemma for each kind of call, whatever its fault is.
-/

namespace Posix

open Interaction

namespace FileSystem

variable {before after : FileSystem} {path : String}

def KeepsFiles : Request → Prop
  | .openFile _ => False
  | .truncate _ _ => False
  | .write _ _ => False
  | _ => True

theorem serve_keepsFiles (request : Request) (fs : FileSystem)
    (keeps : KeepsFiles request) :
    (serve request fs).2.file = fs.file := by
  cases request with
  | openFile path => exact keeps.elim
  | truncate path length => exact keeps.elim
  | write descriptor bytes => exact keeps.elim
  | access path => cases found : fs.lookup path <;> simp only [serve, found]
  | stat path => cases found : fs.lookup path <;> simp only [serve, found]
  | unlink path =>
      cases found : fs.lookup path <;> simp only [serve, found]
      rfl
  | close descriptor =>
      cases isOpen : fs.descriptors.lookup descriptor <;>
        simp only [serve, isOpen]
      rfl
  | lseek descriptor offset =>
      cases isOpen : fs.descriptors.lookup descriptor <;>
        simp only [serve, isOpen]
      rfl
  | read descriptor count =>
      cases isOpen : fs.descriptors.lookup descriptor <;>
        simp only [serve, isOpen]
      rfl
  | fsync descriptor =>
      cases isOpen : fs.descriptors.lookup descriptor <;>
        simp only [serve, isOpen]

/-- A faulty call is a call that failed, or that was served, perhaps for less
than it asked. -/
theorem mayFail_cases {request : Request}
    {reply : Except Errno (Answer request)}
    (moved : mayFail before request reply after) :
    (∃ number, reply = .error number ∧
      (after = before ∨ ∃ descriptor, request = .close descriptor ∧
        after = before.release descriptor)) ∨
    serve request before = (reply, after) ∨
    (∃ descriptor bytes count, request = .write descriptor bytes ∧
      (serve (.write descriptor (bytes.take count)) before).2 = after) ∨
    (∃ descriptor wanted count, request = .read descriptor wanted ∧
      (serve (.read descriptor count) before).2 = after) := by
  obtain ⟨fault, served⟩ := moved
  cases fault with
  | none => exact Or.inr (Or.inl served)
  | fail =>
      left
      cases request <;> cases served
      all_goals first
        | exact ⟨_, rfl, Or.inl rfl⟩
        | exact ⟨_, rfl, Or.inr ⟨_, rfl, rfl⟩⟩
  | short count =>
      cases request with
      | write descriptor bytes =>
          right; right; left
          exact ⟨descriptor, bytes, count, rfl, congrArg Prod.snd served⟩
      | read descriptor wanted =>
          right; right; right
          exact ⟨descriptor, wanted, _, rfl, congrArg Prod.snd served⟩
      | _ => exact Or.inr (Or.inl served)

theorem mayFail_keepsNames {request : Request}
    {reply : Except Errno (Answer request)} (keeps : KeepsNames request)
    (moved : mayFail before request reply after) :
    SameDirectory before after := by
  rcases mayFail_cases moved with
    ⟨_, _, rfl | ⟨_, _, rfl⟩⟩ | served | ⟨_, _, _, _, rfl⟩ |
    ⟨_, _, _, _, rfl⟩
  · exact .refl _
  · exact ⟨rfl, rfl, rfl⟩
  · have kept := serve_keepsNames request before keeps
    rw [served] at kept
    exact kept
  · exact serve_keepsNames _ before True.intro
  · exact serve_keepsNames _ before True.intro

theorem mayFail_keepsFiles {request : Request}
    {reply : Except Errno (Answer request)} (keeps : KeepsFiles request)
    (moved : mayFail before request reply after) :
    after.file = before.file := by
  rcases mayFail_cases moved with
    ⟨_, _, rfl | ⟨_, _, rfl⟩⟩ | served | ⟨_, _, _, rfl, _⟩ |
    ⟨_, _, _, _, rfl⟩
  · rfl
  · rfl
  · have kept := serve_keepsFiles request before keeps
    rw [served] at kept
    exact kept
  · exact keeps.elim
  · exact serve_keepsFiles _ before True.intro

theorem mayFail_lseek {descriptor offset result : Nat}
    (moved : mayFail before (.lseek descriptor offset) (.ok result)
      after) :
    ∃ opened, before.descriptors.lookup descriptor = some opened ∧
      after = before.setDescriptor descriptor
        { opened with offset := offset } := by
  rcases mayFail_cases moved with
    ⟨_, impossible, _⟩ | served | ⟨_, _, _, impossible, _⟩ |
    ⟨_, _, _, impossible, _⟩
  · cases impossible
  · cases isOpen : before.descriptors.lookup descriptor with
    | none =>
        simp only [serve, isOpen] at served
        cases served
    | some opened =>
        simp only [serve, isOpen] at served
        cases served
        exact ⟨opened, rfl, rfl⟩
  · cases impossible
  · cases impossible

theorem mayFail_openFile {inode : Nat}
    (found : before.lookup path = some inode)
    {reply : Except Errno Nat}
    (moved : mayFail before (.openFile path) reply after) :
    (∃ number, reply = .error number ∧ after = before) ∨
      reply = .ok before.freeDescriptor ∧
        after = before.setDescriptor before.freeDescriptor ⟨inode, 0⟩ := by
  rcases mayFail_cases moved with
    ⟨number, failed, rfl | ⟨_, impossible, _⟩⟩ | served |
    ⟨_, _, _, impossible, _⟩ | ⟨_, _, _, impossible, _⟩
  · exact Or.inl ⟨number, failed, rfl⟩
  · cases impossible
  · simp only [serve, found] at served
    cases served
    exact Or.inr ⟨rfl, rfl⟩
  · cases impossible
  · cases impossible

theorem mayFail_stat {size : Nat}
    (moved : mayFail before (.stat path) (.ok size) after) :
    after = before ∧ ∃ inode, before.lookup path = some inode ∧
      size = (before.file inode).size := by
  rcases mayFail_cases moved with
    ⟨_, impossible, _⟩ | served | ⟨_, _, _, impossible, _⟩ |
    ⟨_, _, _, impossible, _⟩
  · cases impossible
  · cases found : before.lookup path with
    | none =>
        simp only [serve, found] at served
        cases served
    | some inode =>
        simp only [serve, found] at served
        cases served
        exact ⟨rfl, inode, rfl, rfl⟩
  · cases impossible
  · cases impossible

/-- A transfer to a file writes a part of the bytes, or fails. -/
theorem mayFail_write {descriptor : Nat} {bytes : List UInt8}
    {reply : Except Errno Nat}
    (moved : mayFail before (.write descriptor bytes) reply after) :
    ((∃ number, reply = .error number) ∧ after = before) ∨
      ∃ opened taken, before.descriptors.lookup descriptor = some opened ∧
        taken <+: bytes ∧ reply = .ok taken.length ∧
        after =
          (before.setFile opened.inode
            ((before.file opened.inode).writeAt opened.offset
              taken)).setDescriptor descriptor
            { opened with offset := opened.offset + taken.length } := by
  obtain ⟨fault, served⟩ := moved
  have transfer (taken : List UInt8) (part : taken <+: bytes)
      (served : serve (.write descriptor taken) before = (reply, after)) :
      ((∃ number, reply = .error number) ∧ after = before) ∨
        ∃ opened taken,
          before.descriptors.lookup descriptor = some opened ∧
          taken <+: bytes ∧ reply = .ok taken.length ∧
          after =
            (before.setFile opened.inode
              ((before.file opened.inode).writeAt opened.offset
                taken)).setDescriptor descriptor
              { opened with offset := opened.offset + taken.length } := by
    cases isOpen : before.descriptors.lookup descriptor with
    | none =>
        simp only [serve, isOpen] at served
        cases served
        exact Or.inl ⟨⟨_, rfl⟩, rfl⟩
    | some opened =>
        simp only [serve, isOpen] at served
        cases served
        exact Or.inr ⟨opened, taken, rfl, part, rfl, rfl⟩
  cases fault with
  | none => exact transfer bytes (List.prefix_refl bytes) served
  | fail =>
      cases served
      exact Or.inl ⟨⟨_, rfl⟩, rfl⟩
  | short count =>
      exact transfer (bytes.take count) (List.take_prefix count bytes)
        served

/-- A transfer from a file reads a part of what is there, or fails. -/
theorem mayFail_read {descriptor wanted : Nat}
    {reply : Except Errno (List UInt8)}
    (moved : mayFail before (.read descriptor wanted) reply after) :
    (∃ number, reply = .error number) ∨
      ∃ opened count, before.descriptors.lookup descriptor = some opened ∧
        count ≤ wanted ∧
        reply =
          .ok ((before.file opened.inode).readAt opened.offset count) := by
  obtain ⟨fault, served⟩ := moved
  have transfer (count : Nat) (part : count ≤ wanted)
      (served : serve (.read descriptor count) before = (reply, after)) :
      (∃ number, reply = .error number) ∨
        ∃ opened count,
          before.descriptors.lookup descriptor = some opened ∧
          count ≤ wanted ∧
          reply =
            .ok
              ((before.file opened.inode).readAt opened.offset count) := by
    cases isOpen : before.descriptors.lookup descriptor with
    | none =>
        simp only [serve, isOpen] at served
        cases served
        exact Or.inl ⟨_, rfl⟩
    | some opened =>
        simp only [serve, isOpen] at served
        cases served
        exact Or.inr ⟨opened, count, rfl, part, rfl⟩
  cases fault with
  | none => exact transfer wanted (Nat.le_refl wanted) served
  | fail =>
      cases served
      exact Or.inl ⟨_, rfl⟩
  | short count =>
      exact transfer (min wanted count) (Nat.min_le_left wanted count)
        served

theorem mayFail_truncate {length : Nat} {reply : Except Errno Unit}
    (moved : mayFail before (.truncate path length) reply after) :
    after = before ∨
      ∃ inode, before.lookup path = some inode ∧
        after = before.setFile inode
          ((before.file inode).resize length) := by
  rcases mayFail_cases moved with
    ⟨_, _, rfl | ⟨_, impossible, _⟩⟩ | served |
    ⟨_, _, _, impossible, _⟩ | ⟨_, _, _, impossible, _⟩
  · exact Or.inl rfl
  · cases impossible
  · cases found : before.lookup path with
    | none =>
        simp only [serve, found] at served
        cases served
        exact Or.inl rfl
    | some inode =>
        simp only [serve, found] at served
        cases served
        exact Or.inr ⟨inode, rfl, rfl⟩
  · cases impossible
  · cases impossible

/-! ## The descriptor table -/

def KeepsDescriptors : Request → Prop
  | .access _ => True
  | .stat _ => True
  | .truncate _ _ => True
  | .fsync _ => True
  | .unlink _ => True
  | _ => False

theorem serve_keepsDescriptors (request : Request) (fs : FileSystem)
    (keeps : KeepsDescriptors request) :
    (serve request fs).2.descriptors = fs.descriptors := by
  cases request with
  | access path => cases found : fs.lookup path <;> simp only [serve, found]
  | stat path => cases found : fs.lookup path <;> simp only [serve, found]
  | truncate path length =>
      cases found : fs.lookup path <;> simp only [serve, found]
      rfl
  | unlink path =>
      cases found : fs.lookup path <;> simp only [serve, found]
      rfl
  | fsync descriptor =>
      cases isOpen : fs.descriptors.lookup descriptor <;>
        simp only [serve, isOpen]
  | openFile path => exact keeps.elim
  | close descriptor => exact keeps.elim
  | lseek descriptor offset => exact keeps.elim
  | write descriptor bytes => exact keeps.elim
  | read descriptor count => exact keeps.elim

theorem mayFail_keepsDescriptors {request : Request}
    {reply : Except Errno (Answer request)}
    (moved : mayFail before request reply after)
    (keeps : KeepsDescriptors request) :
    after.descriptors = before.descriptors := by
  rcases mayFail_cases moved with
    ⟨_, _, rfl | ⟨_, rfl, _⟩⟩ | served | ⟨_, _, _, rfl, _⟩ |
    ⟨_, _, _, rfl, _⟩
  · rfl
  · exact keeps.elim
  · have kept := serve_keepsDescriptors request before keeps
    rw [served] at kept
    exact kept
  · exact keeps.elim
  · exact keeps.elim

def MovesOffset (descriptor : Nat) : Request → Prop
  | .lseek other _ => other = descriptor
  | .write other _ => other = descriptor
  | .read other _ => other = descriptor
  | _ => False

theorem serve_movesOffset {descriptor : Nat} {request : Request}
    {fs : FileSystem} {opened : OpenFile}
    (uses : MovesOffset descriptor request)
    (isOpen : fs.descriptors.lookup descriptor = some opened) :
    ∃ offset, (serve request fs).2.descriptors =
      fs.descriptors.insert descriptor { opened with offset := offset } := by
  cases request with
  | lseek other offset =>
      obtain rfl : other = descriptor := uses
      simp only [serve, isOpen]
      exact ⟨offset, rfl⟩
  | write other bytes =>
      obtain rfl : other = descriptor := uses
      simp only [serve, isOpen]
      exact ⟨_, rfl⟩
  | read other count =>
      obtain rfl : other = descriptor := uses
      simp only [serve, isOpen]
      exact ⟨_, rfl⟩
  | access path => exact uses.elim
  | stat path => exact uses.elim
  | truncate path length => exact uses.elim
  | unlink path => exact uses.elim
  | fsync other => exact uses.elim
  | openFile path => exact uses.elim
  | close other => exact uses.elim

theorem mayFail_movesOffset {descriptor : Nat} {request : Request}
    {reply : Except Errno (Answer request)} {opened : OpenFile}
    (moved : mayFail before request reply after)
    (uses : MovesOffset descriptor request)
    (isOpen : before.descriptors.lookup descriptor = some opened) :
    after = before ∨
      ∃ offset, after.descriptors =
        before.descriptors.insert descriptor
          { opened with offset := offset } := by
  rcases mayFail_cases moved with
    ⟨_, _, rfl | ⟨_, rfl, _⟩⟩ | served | ⟨_, _, _, rfl, rfl⟩ |
    ⟨_, _, _, rfl, rfl⟩
  · exact Or.inl rfl
  · exact uses.elim
  · have kept := serve_movesOffset uses isOpen
    rw [served] at kept
    exact Or.inr kept
  · obtain rfl : _ = descriptor := uses
    exact Or.inr (serve_movesOffset (by exact rfl) isOpen)
  · obtain rfl : _ = descriptor := uses
    exact Or.inr (serve_movesOffset (by exact rfl) isOpen)

theorem mayFail_openFile_ok {descriptor : Nat}
    (moved : mayFail before (.openFile path) (.ok descriptor) after) :
    descriptor ∉ before.descriptors ∧
      ∃ opened, after.descriptors =
        before.descriptors.insert descriptor opened := by
  rcases mayFail_cases moved with
    ⟨_, impossible, _⟩ | served | ⟨_, _, _, impossible, _⟩ |
    ⟨_, _, _, impossible, _⟩
  · cases impossible
  · cases found : before.lookup path <;>
      simp only [serve, found] at served <;> cases served <;>
      exact ⟨freeDescriptor_notMem before, _, rfl⟩
  · cases impossible
  · cases impossible

theorem mayFail_openFile_error {number : Errno}
    (moved : mayFail before (.openFile path) (.error number) after) :
    after = before := by
  rcases mayFail_cases moved with
    ⟨_, _, rfl | ⟨_, impossible, _⟩⟩ | served |
    ⟨_, _, _, impossible, _⟩ | ⟨_, _, _, impossible, _⟩
  · rfl
  · cases impossible
  · cases found : before.lookup path <;>
      simp only [serve, found] at served <;> cases served
  · cases impossible
  · cases impossible

/-- `close` gives up an open descriptor, whatever it answers. -/
theorem mayFail_close {descriptor : Nat} {reply : Except Errno Unit}
    {opened : OpenFile}
    (moved : mayFail before (.close descriptor) reply after)
    (isOpen : before.descriptors.lookup descriptor = some opened) :
    after = before.release descriptor := by
  obtain ⟨fault, served⟩ := moved
  cases fault <;> simp only [serveWith, serve, isOpen] at served <;>
    cases served <;> rfl

def Uses (descriptor : Nat) : Request → Prop
  | .close other => other = descriptor
  | .lseek other _ => other = descriptor
  | .write other _ => other = descriptor
  | .read other _ => other = descriptor
  | .fsync other => other = descriptor
  | _ => False

theorem serve_elsewhere {descriptor : Nat} (request : Request)
    (fs : FileSystem) (isOpen : descriptor ∈ fs.descriptors)
    (elsewhere : ¬ Uses descriptor request) :
    (serve request fs).2.descriptors.lookup descriptor =
      fs.descriptors.lookup descriptor := by
  have others (other : Nat) (different : ¬ other = descriptor)
      (opened : OpenFile) :
      (fs.descriptors.insert other opened).lookup descriptor =
        fs.descriptors.lookup descriptor :=
    AList.lookup_insert_ne (Ne.symm different)
  cases request with
  | access path =>
      rw [serve_keepsDescriptors (.access path) fs True.intro]
  | stat path =>
      rw [serve_keepsDescriptors (.stat path) fs True.intro]
  | truncate path length =>
      rw [serve_keepsDescriptors (.truncate path length) fs True.intro]
  | unlink path =>
      rw [serve_keepsDescriptors (.unlink path) fs True.intro]
  | fsync other =>
      rw [serve_keepsDescriptors (.fsync other) fs True.intro]
  | openFile path =>
      have different : ¬ fs.freeDescriptor = descriptor := by
        intro equal
        rcases equal with rfl
        exact freeDescriptor_notMem fs isOpen
      cases found : fs.lookup path <;> simp only [serve, found] <;>
        exact others _ different _
  | close other =>
      cases used : fs.descriptors.lookup other <;> simp only [serve, used]
      exact AList.lookup_erase_ne (Ne.symm elsewhere)
  | lseek other offset =>
      cases used : fs.descriptors.lookup other <;> simp only [serve, used]
      exact others _ elsewhere _
  | write other bytes =>
      cases used : fs.descriptors.lookup other <;> simp only [serve, used]
      exact others _ elsewhere _
  | read other count =>
      cases used : fs.descriptors.lookup other <;> simp only [serve, used]
      exact others _ elsewhere _

/-- A call leaves the descriptors alone that it does not work through. -/
theorem mayFail_elsewhere {descriptor : Nat} {request : Request}
    {reply : Except Errno (Answer request)}
    (moved : mayFail before request reply after)
    (isOpen : descriptor ∈ before.descriptors)
    (elsewhere : ¬ Uses descriptor request) :
    after.descriptors.lookup descriptor =
      before.descriptors.lookup descriptor := by
  rcases mayFail_cases moved with
    ⟨_, _, rfl | ⟨_, rfl, rfl⟩⟩ | served | ⟨_, _, _, rfl, rfl⟩ |
    ⟨_, _, _, rfl, rfl⟩
  · rfl
  · exact AList.lookup_erase_ne (Ne.symm elsewhere)
  · have kept := serve_elsewhere request before isOpen elsewhere
    rw [served] at kept
    exact kept
  · exact serve_elsewhere _ before isOpen (by exact elsewhere)
  · exact serve_elsewhere _ before isOpen (by exact elsewhere)

/-- A descriptor stays open on its file until it is closed. -/
theorem mayFail_stays {descriptor inode offset : Nat} {request : Request}
    {reply : Except Errno (Answer request)}
    (moved : mayFail before request reply after)
    (isOpen :
      before.descriptors.lookup descriptor = some ⟨inode, offset⟩)
    (stays : request ≠ .close descriptor) :
    ∃ offset, after.descriptors.lookup descriptor =
      some ⟨inode, offset⟩ := by
  by_cases uses : MovesOffset descriptor request
  · rcases mayFail_movesOffset moved uses isOpen with
      same | ⟨offset, written⟩
    · rw [same]
      exact ⟨_, isOpen⟩
    · rw [written]
      exact ⟨_, AList.lookup_insert _⟩
  · refine ⟨offset, ?_⟩
    rw [← isOpen]
    by_cases synced : request = .fsync descriptor
    · subst synced
      rw [mayFail_keepsDescriptors moved True.intro]
    · have member : descriptor ∈ before.descriptors := by
        rw [← AList.lookup_isSome, isOpen]
        rfl
      refine mayFail_elsewhere moved member ?_
      cases request with
      | close other => exact fun same => stays (congrArg Request.close same)
      | fsync other => exact fun same => synced (congrArg Request.fsync same)
      | lseek other offset => exact uses
      | write other bytes => exact uses
      | read other count => exact uses
      | access path => exact id
      | stat path => exact id
      | truncate path length => exact id
      | unlink path => exact id
      | openFile path => exact id

/-! ## Calls on one file -/

/-- The call is about this file; a check is about none, and so is a `truncate`
that finds none. -/
def ActsOn (inode : Nat) (fs : FileSystem) : Request → Prop
  | .access _ => True
  | .openFile path => fs.lookup path = some inode
  | .stat path => fs.lookup path = some inode
  | .truncate path _ =>
      fs.lookup path = none ∨ fs.lookup path = some inode
  | .close descriptor => ∃ offset,
      fs.descriptors.lookup descriptor = some ⟨inode, offset⟩
  | .lseek descriptor _ => ∃ offset,
      fs.descriptors.lookup descriptor = some ⟨inode, offset⟩
  | .write descriptor _ => ∃ offset,
      fs.descriptors.lookup descriptor = some ⟨inode, offset⟩
  | .read descriptor _ => ∃ offset,
      fs.descriptors.lookup descriptor = some ⟨inode, offset⟩
  | .fsync descriptor => ∃ offset,
      fs.descriptors.lookup descriptor = some ⟨inode, offset⟩
  | .unlink _ => False

theorem serve_actsOn {inode : Nat} {request : Request} {fs : FileSystem}
    (acts : ActsOn inode fs request) :
    (∀ other, other ≠ inode →
        (serve request fs).2.file other = fs.file other) ∧
      (serve request fs).2.entry = fs.entry := by
  by_cases keeps : KeepsNames request
  · refine ⟨fun other different => ?_,
      (serve_keepsNames request fs keeps).entry⟩
    by_cases keepsFiles : KeepsFiles request
    · rw [serve_keepsFiles request fs keepsFiles]
    · cases request with
      | openFile path => exact keeps.elim
      | truncate path length =>
          rcases acts with absent | found
          · simp only [serve, absent]
          · simp only [serve, found]
            exact file_setFile_of_ne _ _ _ different
      | write descriptor bytes =>
          obtain ⟨offset, isOpen⟩ := acts
          simp only [serve, isOpen, file_setDescriptor]
          exact file_setFile_of_ne _ _ _ different
      | _ => exact absurd True.intro keepsFiles
  · cases request with
    | openFile path =>
        have found : fs.lookup path = some inode := acts
        simp only [serve, found]
        exact ⟨fun _ _ => rfl, rfl⟩
    | unlink path => exact acts.elim
    | _ => exact absurd True.intro keeps

/-- A call about one file changes no other file and no name. -/
theorem mayFail_actsOn {inode : Nat} {request : Request}
    {reply : Except Errno (Answer request)}
    (acts : ActsOn inode before request)
    (moved : mayFail before request reply after) :
    (∀ other, other ≠ inode → after.file other = before.file other) ∧
      after.entry = before.entry := by
  rcases mayFail_cases moved with
    ⟨_, _, rfl | ⟨_, rfl, rfl⟩⟩ | served | ⟨_, _, _, rfl, rfl⟩ |
    ⟨_, _, _, rfl, rfl⟩
  · exact ⟨fun _ _ => rfl, rfl⟩
  · exact ⟨fun _ _ => rfl, rfl⟩
  · have kept := serve_actsOn acts
    rw [served] at kept
    exact kept
  · exact serve_actsOn (by exact acts)
  · exact serve_actsOn (by exact acts)

/-- Only an `open` makes a name, and only one that is not there. -/
theorem mayFail_makesNothing {request : Request}
    {reply : Except Errno (Answer request)}
    (moved : mayFail before request reply after)
    (finds : ∀ path, request = .openFile path →
      before.lookup path ≠ none)
    {name : String} (absent : before.entry name = none) :
    after.entry name = none := by
  by_cases keeps : KeepsNames request
  · rw [(mayFail_keepsNames keeps moved).entry]
    exact absent
  · cases request with
    | openFile path =>
        obtain ⟨inode, found⟩ :=
          Option.ne_none_iff_exists'.mp (finds path rfl)
        rw [(mayFail_actsOn (by exact found) moved).2]
        exact absent
    | unlink path =>
        rcases mayFail_cases moved with
          ⟨_, _, rfl | ⟨_, impossible, _⟩⟩ | served |
          ⟨_, _, _, impossible, _⟩ | ⟨_, _, _, impossible, _⟩
        · exact absent
        · cases impossible
        · cases found : before.lookup path with
          | none =>
              simp only [serve, found] at served
              cases served
              exact absent
          | some inode =>
              simp only [serve, found] at served
              cases served
              by_cases same : name = before.resolve path
              · subst same
                exact Function.update_self _ _ _
              · exact (Function.update_of_ne same _ _).trans absent
        · cases impossible
        · cases impossible
    | _ => exact absurd True.intro keeps

/-! ## What becomes of a path -/

/-- The call removed the file that the path names. -/
def unlinks (path : String) : Move calls FileSystem → Bool
  | ⟨before, .unlink other, .ok _, _⟩ =>
      decide (before.resolve other = before.resolve path)
  | _ => false

/-- The call made a file where the path named none. -/
def makes (path : String) : Move calls FileSystem → Bool
  | ⟨before, .openFile other, .ok _, _⟩ =>
      decide (before.resolve other = before.resolve path) &&
        (before.lookup path).isNone
  | _ => false

private theorem mayFail_openFile_served {descriptor : Nat}
    (moved : mayFail before (.openFile path) (.ok descriptor) after) :
    serve (.openFile path) before = (.ok descriptor, after) := by
  rcases mayFail_cases moved with
    ⟨_, impossible, _⟩ | served | ⟨_, _, _, impossible, _⟩ |
    ⟨_, _, _, impossible, _⟩
  · cases impossible
  · exact served
  · cases impossible
  · cases impossible

private theorem mayFail_unlink_served {reply : Except Errno Unit}
    (moved : mayFail before (.unlink path) reply after) :
    (∃ number, reply = .error number ∧ after = before) ∨
      serve (.unlink path) before = (reply, after) := by
  rcases mayFail_cases moved with
    ⟨number, failed, rfl | ⟨_, impossible, _⟩⟩ | served |
    ⟨_, _, _, impossible, _⟩ | ⟨_, _, _, impossible, _⟩
  · exact Or.inl ⟨number, failed, rfl⟩
  · cases impossible
  · exact Or.inr served
  · cases impossible
  · cases impossible

/-- What a path names after a call. -/
theorem mayFail_lookup {request : Request}
    {reply : Except Errno (Answer request)}
    (moved : mayFail before request reply after) (path : String) :
    after.lookup path =
      if unlinks path ⟨before, request, reply, after⟩ then none
      else if makes path ⟨before, request, reply, after⟩ then
        some before.nextInode
      else before.lookup path := by
  cases request with
  | openFile other =>
      cases reply with
      | error number =>
          rw [mayFail_openFile_error moved]
          rfl
      | ok descriptor =>
          have served := mayFail_openFile_served moved
          by_cases same : before.resolve other = before.resolve path
          · have alike : before.lookup other = before.lookup path :=
              congrArg before.entry same
            cases found : before.lookup path with
            | some inode =>
                rw [found] at alike
                simp only [serve, alike] at served
                cases served
                simp [unlinks, makes, found]
            | none =>
                rw [found] at alike
                simp only [serve, alike] at served
                cases served
                simp [unlinks, makes, found, same,
                  lookup_link_of_eq _ _ _ same.symm]
          · have kept : after.lookup path = before.lookup path := by
              cases found : before.lookup other with
              | some inode =>
                  simp only [serve, found] at served
                  cases served
                  rfl
              | none =>
                  simp only [serve, found] at served
                  cases served
                  exact lookup_link_of_ne _ _ _ (Ne.symm same)
            simp [unlinks, makes, same, kept]
  | unlink other =>
      rcases mayFail_unlink_served moved with ⟨number, rfl, rfl⟩ | served
      · rfl
      · cases found : before.lookup other with
        | none =>
            simp only [serve, found] at served
            cases served
            rfl
        | some inode =>
            simp only [serve, found] at served
            cases served
            by_cases same : before.resolve other = before.resolve path
            · simp [unlinks, same, lookup_unlink_of_eq _ _ _ same.symm]
            · simp [unlinks, makes, same,
                lookup_unlink_of_ne _ _ _ (Ne.symm same)]
  | _ => exact (mayFail_keepsNames (by exact True.intro) moved).lookup path

end FileSystem

end Posix
