import Lewsql.DiskManager.Courses
import Lewsql.DiskManager.Requests
import Lewsql.DiskManager.Transfers

/-!
# Operations and what the disk holds

The calls of an operation may fail, and a ghost beside the file system watches
what a power loss would leave of one file.  An operation changes no byte of the
file but in the page that it writes, and a write returns only when the disk holds
its bytes.
-/

namespace Lewsql

open Interaction Posix FileSystem

/-- Accesses pass one page of bytes, and writes to the file are in range. -/
def World.Handles (base : DiskManager) (inode : Nat) (world : World) :
    Operation → Prop
  | .write diskId cursor bytes =>
      bytes.length = base.pageSize.toNat ∧
        (world.named base diskId = some inode →
          InRange base.pageSize base.maxDiskByteSize cursor)
  | .read _ _ buffer => buffer.length = base.pageSize.toNat
  | _ => True

/-- A call changes the bytes of the file at most as `change` allows. -/
def Spares (inode : Nat) (change : Nat → UInt8 → Prop) :
    Transition Posix.calls FileSystem :=
  fun before _ _ after =>
    Standing inode after ∧
      ∀ position,
        (after.file inode).byte position =
            (before.file inode).byte position ∨
          change position ((after.file inode).byte position)

abbrev FileAndMedium := FileSystem × Medium

abbrev watching (inode : Nat) : Transition Posix.calls FileAndMedium :=
  mayFail.watched (Medium.after inode)

/-- The file stands, and what is in it may be on the disk. -/
structure Kept (inode : Nat) (state : FileAndMedium) : Prop where
  standing : Standing inode state.1
  current : state.2.Leaves (state.1.file inode)

section Calls

variable {inode : Nat} {change : Nat → UInt8 → Prop}
variable {before after : FileAndMedium} {request : Request}
variable {reply : Except Errno (Answer request)}

private theorem Kept.of_moved (standing : Standing inode after.1)
    (moved : watching inode before request reply after) :
    Kept inode after where
  standing := standing
  current := by
    rw [moved.2]
    exact Medium.leaves_after

/-- A call that changes no bytes. -/
private theorem Kept.step (kept : Kept inode before)
    (leaves : LeavesBytes request)
    (moved : watching inode before request reply after) :
    (Spares inode change).beside before request reply after ∧
      Kept inode after ∧
      after.1.file inode = before.1.file inode := by
  have same := mayFail_leavesBytes leaves kept.standing.made moved.1
  have standing :=
    kept.standing.of_same (mayFail_nextInode moved.1) same
  refine ⟨⟨standing, fun position => Or.inl ?_⟩,
    .of_moved standing moved, same⟩
  rw [same]

end Calls

/-! ## Accesses under faults -/

/-- The path of a disk names a file, and the disk has it open. -/
private structure Reaching (inode number : Nat) (disk : PosixDisk)
    (state : FileAndMedium) : Prop where
  found : state.1.lookup disk.filePath = some number
  isOpen : ∃ offset,
    state.1.descriptors.lookup disk.fd = some ⟨number, offset⟩
  kept : Kept inode state

section Accesses

variable {inode number : Nat} {disk : PosixDisk}
variable {cursor : DiskPageCursor} {change : Nat → UInt8 → Prop}
variable {before after : FileAndMedium} {request : Request}
variable {reply : Except Errno (Answer request)}

/-- A call of an open disk, when the file stands after it. -/
private theorem Reaching.of_moved
    (reaching : Reaching inode number disk before)
    (keeps : KeepsNames request) (stays : request ≠ .close disk.fd)
    (standing : Standing inode after.1)
    (moved : watching inode before request reply after) :
    Reaching inode number disk after := by
  obtain ⟨offset, isOpen⟩ := reaching.isOpen
  refine ⟨?_, mayFail_stays moved.1 isOpen stays,
    .of_moved standing moved⟩
  rw [(mayFail_keepsNames keeps moved.1).lookup]
  exact reaching.found

/-- A call of an open disk that changes no bytes. -/
private theorem Reaching.step
    (reaching : Reaching inode number disk before)
    (leaves : LeavesBytes request) (keeps : KeepsNames request)
    (stays : request ≠ .close disk.fd)
    (moved : watching inode before request reply after) :
    (Spares inode change).beside before request reply after ∧
      Reaching inode number disk after := by
  obtain ⟨spared, kept, _⟩ := reaching.kept.step leaves moved
  exact ⟨spared, reaching.of_moved keeps stays kept.standing moved⟩

/-- Growing a file changes none of its bytes. -/
private theorem Reaching.truncate {newSize : UInt32}
    {reply : Except Errno Unit}
    (reaching : Reaching inode number disk before)
    (short : number = inode →
      (before.1.file inode).size < newSize.toNat)
    (moved : watching inode before
      (.truncate disk.filePath newSize.toNat) reply after) :
    (Spares inode change).beside before
        (.truncate disk.filePath newSize.toNat) reply after ∧
      Reaching inode number disk after := by
  have spared : Standing inode after.1 ∧
      ∀ position, (after.1.file inode).byte position =
        (before.1.file inode).byte position := by
    have grown := mayFail_nextInode moved.1
    rcases mayFail_truncate moved.1 with same | ⟨other, found, resized⟩
    · rw [same]
      exact ⟨reaching.kept.standing, fun _ => rfl⟩
    · rw [reaching.found] at found
      cases found
      by_cases same : number = inode
      · subst same
        rw [resized] at grown ⊢
        rw [file_setFile_self]
        refine ⟨⟨Nat.lt_of_lt_of_le reaching.kept.standing.made grown,
          ?_⟩, ?_⟩
        · rw [file_setFile_self]
          exact newSize.toNat_lt
        · exact File.resize_byte_of_le (Nat.le_of_lt (short rfl))
      · have unchanged : after.1.file inode = before.1.file inode := by
          rw [resized]
          exact file_setFile_of_ne _ _ _ (Ne.symm same)
        exact ⟨reaching.kept.standing.of_same grown unchanged,
          fun _ => by rw [unchanged]⟩
  exact ⟨⟨spared.1, fun position => Or.inl (spared.2 position)⟩,
    reaching.of_moved (by exact True.intro) (fun same => by cases same)
      spared.1 moved⟩

private def accessing (inode number : Nat)
    (change : Nat → UInt8 → Prop) (disk : PosixDisk)
    (cursor : DiskPageCursor) (positive : disk.pageSize ≠ 0) :
    Access (watching inode) (Spares inode change).beside disk cursor True
      (fun _ _ => True) where
  isOpen := Reaching inode number disk
  short state := number = inode →
    (state.1.file inode).size < (newByteSize disk.pageSize cursor).toNat
  large _ := True
  stands state := state.1.descriptors.lookup disk.fd =
    some ⟨number, (foffset disk.pageSize cursor).toNat⟩
  positive := positive
  refused _ := True.intro
  expansion _ _ _ _ := True.intro
  stat := by
    intro before reply after reaching moved
    obtain ⟨spared, still⟩ :=
      reaching.step (by exact True.intro) (by exact True.intro)
        (fun same => by cases same) moved
    refine ⟨spared, still, ?_⟩
    cases reply with
    | error failure => exact True.intro
    | ok size =>
        obtain ⟨_, other, found, rfl⟩ := mayFail_stat moved.1
        refine ⟨fun _ => True.intro, ?_⟩
        split_ifs with short
        intro same
        rw [reaching.found] at found
        cases found
        subst same
        have unchanged :=
          mayFail_leavesBytes (by exact True.intro)
            reaching.kept.standing.made moved.1
        rw [unchanged]
        have small := UInt32.lt_iff_toNat_lt.mp short
        rw [UInt32.toNat_ofNat_of_lt' reaching.kept.standing.sized]
          at small
        exact small
  truncate := by
    intro before reply after reaching short moved
    obtain ⟨spared, still⟩ := reaching.truncate short moved
    exact ⟨spared, still, True.intro⟩
  fsync := by
    intro before reply after reaching moved
    obtain ⟨spared, still⟩ :=
      reaching.step (by exact True.intro) (by exact True.intro)
        (fun same => by cases same) moved
    refine ⟨spared, still, fun _ => True.intro, ?_⟩
    cases reply <;> exact True.intro
  lseek := by
    intro before reply after reaching _ moved
    obtain ⟨spared, still⟩ :=
      reaching.step (by exact True.intro) (by exact True.intro)
        (fun same => by cases same) moved
    refine ⟨spared, still, True.intro, ?_⟩
    cases reply with
    | error failure => exact True.intro
    | ok offset =>
        obtain ⟨opened, isOpen, sought⟩ := mayFail_lseek moved.1
        obtain ⟨earlier, wasOpen⟩ := reaching.isOpen
        rw [wasOpen] at isOpen
        cases isOpen
        dsimp only
        split_ifs
        rw [sought]
        exact descriptors_setDescriptor _ _ _

/-- A transfer of a part of some bytes puts only them into the file. -/
private theorem byte_writeAt_prefix {file : File} {offset : Nat}
    {taken data : List UInt8} (part : taken <+: data) (place : Nat) :
    (file.writeAt offset taken).byte place = file.byte place ∨
      ∃ position, place = offset + position ∧
        data[position]? = some ((file.writeAt offset taken).byte place) := by
  rw [File.writeAt_byte]
  split_ifs with inside
  · refine Or.inr ⟨place - offset, by omega, ?_⟩
    have short : place - offset < taken.length := by omega
    rw [List.getD_eq_getElem _ _ short]
    obtain ⟨rest, rfl⟩ := part
    rw [List.getElem?_append_left short]
    exact List.getElem?_eq_getElem short
  · exact Or.inl rfl

/-- The bytes that an access puts at the places of its page. -/
def Puts (pageSize page : Nat) (data : List UInt8) (place : Nat)
    (value : UInt8) : Prop :=
  ∃ position, place = page * pageSize + position ∧
    data[position]? = some value

private def PageHolds (disk : PosixDisk) (cursor : DiskPageCursor)
    (data : List UInt8) (holds : Nat → UInt8 → Prop) : Prop :=
  ∀ position value, position < disk.pageSize.toNat →
    holds ((foffset disk.pageSize cursor).toNat + position) value →
      data[position]? = some value

/-- A transfer in range to the file. -/
private theorem Reaching.write {data : List UInt8}
    {reply : Except Errno Nat}
    (reaching : Reaching inode number disk before)
    (stands : before.1.descriptors.lookup disk.fd =
      some ⟨number, (foffset disk.pageSize cursor).toNat⟩)
    (full : data.length = disk.pageSize.toNat)
    (inRange : number = inode →
      InRange disk.pageSize disk.maxDiskSize cursor)
    (moved : watching inode before (.write disk.fd data) reply after) :
    Spares inode
        (fun place value => number = inode ∧
          Puts disk.pageSize.toNat cursor.toNatClampNeg data place value)
        before.1 (.write disk.fd data) reply after.1 ∧
      Reaching inode number disk after ∧
      (unsignedReturn reply = disk.pageSize → number = inode →
        PageHolds disk cursor data fun place value =>
          value = (after.1.file inode).byte place) := by
  have grown := mayFail_nextInode moved.1
  have stays : (Request.write disk.fd data) ≠ .close disk.fd :=
    fun same => by cases same
  rcases mayFail_write moved.1 with
    ⟨⟨failure, rfl⟩, same⟩ | ⟨opened, taken, isOpen, part, rfl, written⟩
  · have standing : Standing inode after.1 :=
      same ▸ reaching.kept.standing
    refine ⟨⟨standing, fun _ => Or.inl (by rw [same])⟩,
      reaching.of_moved (by exact True.intro) stays standing moved, ?_⟩
    intro whole own
    have room := (inRange own).end_lt
    have limit := disk.maxDiskSize.toNat_lt
    have size := congrArg UInt32.toNat whole
    simp only [unsignedReturn] at size
    rw [UInt32.toNat_ofNat_of_lt' (by decide)] at size
    simp only [UInt32.size] at size
    omega
  · rw [stands] at isOpen
    cases isOpen
    by_cases own : number = inode
    · subst own
      have noCarry := (inRange rfl).noCarry
      have short := part.length_le
      have file : after.1.file number =
          (before.1.file number).writeAt
            (foffset disk.pageSize cursor).toNat taken := by
        rw [written, file_setDescriptor, file_setFile_self]
      have standing : Standing number after.1 := by
        refine ⟨Nat.lt_of_lt_of_le reaching.kept.standing.made grown, ?_⟩
        have sized := reaching.kept.standing.sized
        rw [file, File.writeAt_size]
        split_ifs
        · exact sized
        · omega
      refine ⟨⟨standing, ?_⟩,
        reaching.of_moved (by exact True.intro) stays standing moved, ?_⟩
      · intro place
        rw [file]
        rcases byte_writeAt_prefix part place with old | new
        · exact Or.inl old
        · rw [(inRange rfl).foffset] at new ⊢
          exact Or.inr ⟨rfl, new⟩
      · intro whole _ position value inPage found
        have size := congrArg UInt32.toNat whole
        simp only [unsignedReturn] at size
        rw [UInt32.toNat_ofNat_of_lt'
          (Nat.lt_of_le_of_lt (full ▸ short) disk.pageSize.toNat_lt)]
          at size
        have all : taken = data := part.eq_of_length (size.trans full.symm)
        subst all
        rw [found, file, File.writeAt_byte, if_pos (by omega)]
        have back : (foffset disk.pageSize cursor).toNat + position -
            (foffset disk.pageSize cursor).toNat = position := by
          omega
        have inData : position < taken.length := by omega
        rw [back, List.getD_eq_getElem _ _ inData]
        exact List.getElem?_eq_getElem inData
    · have same : after.1.file inode = before.1.file inode := by
        rw [written, file_setDescriptor]
        exact file_setFile_of_ne _ _ _ (Ne.symm own)
      have standing := reaching.kept.standing.of_same grown same
      exact ⟨⟨standing, fun _ => Or.inl (by rw [same])⟩,
        reaching.of_moved (by exact True.intro) stays standing moved,
        fun _ impossible => absurd impossible own⟩

private def writing (inode number : Nat) (disk : PosixDisk)
    (cursor : DiskPageCursor) (data : List UInt8)
    (positive : disk.pageSize ≠ 0)
    (full : data.length = disk.pageSize.toNat)
    (inRange : number = inode →
      InRange disk.pageSize disk.maxDiskSize cursor) :
    WriteAccess (watching inode)
      (Spares inode fun place value => number = inode ∧
        Puts disk.pageSize.toNat cursor.toNatClampNeg data place
          value).beside
      disk cursor True (fun _ _ => True) data where
  toAccess := accessing inode number _ disk cursor positive
  written state := Reaching inode number disk state ∧
    (number = inode → PageHolds disk cursor data fun place value =>
      value = (state.1.file inode).byte place)
  synced state := Reaching inode number disk state ∧
    (number = inode → PageHolds disk cursor data state.2)
  write := by
    intro before reply after reaching stands moved
    have whole : data.take disk.pageSize.toNat = data :=
      List.take_of_length_le (Nat.le_of_eq full)
    rw [whole] at moved ⊢
    obtain ⟨spared, still, written⟩ :=
      reaching.write stands full inRange moved
    refine ⟨spared, ?_⟩
    by_cases taken : unsignedReturn reply = disk.pageSize
    · rw [if_pos taken]
      exact ⟨still, written taken⟩
    · rw [if_neg taken]
      exact ⟨still, True.intro⟩
  sync := by
    intro before reply after ready moved
    obtain ⟨reaching, written⟩ := ready
    obtain ⟨spared, still⟩ :=
      reaching.step (by exact True.intro) (by exact True.intro)
        (fun same => by cases same) moved
    refine ⟨spared, ?_⟩
    cases reply with
    | error failure => exact ⟨still, True.intro⟩
    | ok answer =>
        refine ⟨still, fun own position value inPage found => ?_⟩
        obtain ⟨offset, isOpen⟩ := reaching.isOpen
        rw [own] at isOpen
        rw [moved.2] at found
        have synced : Syncs inode
            ⟨before.1, .fsync disk.fd, .ok answer, after.1⟩ :=
          ⟨offset, isOpen⟩
        have current := Medium.after_of_syncs synced found
        have same :=
          mayFail_leavesBytes (by exact True.intro)
            reaching.kept.standing.made moved.1
        rw [same] at current
        exact written own position value inPage current

private def PageRead (inode number : Nat) (disk : PosixDisk)
    (cursor : DiskPageCursor) (left : List UInt8) (state : FileAndMedium) :
    Prop :=
  number = inode → InRange disk.pageSize disk.maxDiskSize cursor →
    left = (state.1.file inode).page disk.pageSize.toNat
      cursor.toNatClampNeg

/-- A transfer from the file. -/
private theorem Reaching.read {buffer : List UInt8}
    {reply : Except Errno (List UInt8)}
    (positive : disk.pageSize ≠ 0)
    (reaching : Reaching inode number disk before)
    (stands : before.1.descriptors.lookup disk.fd =
      some ⟨number, (foffset disk.pageSize cursor).toNat⟩)
    (full : buffer.length = disk.pageSize.toNat)
    (moved : watching inode before
      (.read disk.fd disk.pageSize.toNat) reply after) :
    match disk.afterRead reply buffer with
    | (.value (), left) => PageRead inode number disk cursor left after
    | (.error _, left) => left.length = disk.pageSize.toNat := by
  have unchanged :=
    mayFail_leavesBytes (by exact True.intro) reaching.kept.standing.made
      moved.1
  rcases mayFail_read moved.1 with
    ⟨failure, rfl⟩ | ⟨opened, count, isOpen, part, rfl⟩
  · simp only [PosixDisk.afterRead]
    by_cases whole :
        unsignedReturn (Except.map List.length
          (.error failure : Except Errno (List UInt8))) = disk.pageSize
    · rw [if_neg (not_not.mpr whole)]
      intro _ inRange
      have room := inRange.end_lt
      have limit := disk.maxDiskSize.toNat_lt
      have size := congrArg UInt32.toNat whole
      simp only [Except.map, unsignedReturn] at size
      rw [UInt32.toNat_ofNat_of_lt' (by decide)] at size
      simp only [UInt32.size] at size
      omega
    · rw [if_pos whole]
      exact full
  · rw [stands] at isOpen
    cases isOpen
    have length := File.readAt_length (before.1.file number)
      (foffset disk.pageSize cursor).toNat count
    simp only [PosixDisk.afterRead]
    by_cases whole :
        unsignedReturn (Except.map List.length
          (.ok ((before.1.file number).readAt
            (foffset disk.pageSize cursor).toNat count) :
              Except Errno (List UInt8))) = disk.pageSize
    · rw [if_neg (not_not.mpr whole)]
      intro own inRange
      have size := congrArg UInt32.toNat whole
      simp only [Except.map, unsignedReturn] at size
      have bound := disk.pageSize.toNat_lt
      rw [UInt32.toNat_ofNat_of_lt'
        (show _ < 2 ^ 32 by rw [length]; omega)] at size
      have large := Nat.pos_of_ne_zero
        (fun zero => positive (UInt32.toNat_inj.mp zero))
      have all : count = disk.pageSize.toNat := by omega
      have inside :
          cursor.toNatClampNeg * disk.pageSize.toNat +
              disk.pageSize.toNat ≤
            (before.1.file number).size := by
        rw [← inRange.foffset]
        omega
      have covered : buffer.drop disk.pageSize.toNat = [] :=
        List.drop_of_length_le (Nat.le_of_eq full)
      rw [unchanged, ← own, all, inRange.foffset,
        File.readAt_eq_page inside, File.page_length, covered,
        List.append_nil]
    · rw [if_pos whole]
      change (_ ++ _ : List UInt8).length = _
      rw [List.length_append, List.length_drop, length, full]
      omega

private def reading (inode number : Nat) (disk : PosixDisk)
    (cursor : DiskPageCursor) (positive : disk.pageSize ≠ 0) :
    ReadAccess (watching inode) (Spares inode fun _ _ => False).beside
      disk cursor True (fun _ _ => True) where
  toAccess := accessing inode number _ disk cursor positive
  got left state := Reaching inode number disk state ∧
    PageRead inode number disk cursor left state
  read := by
    intro buffer before reply after full reaching stands moved
    obtain ⟨spared, still⟩ :=
      reaching.step (by exact True.intro) (by exact True.intro)
        (fun same => by cases same) moved
    have answered := reaching.read positive stands full moved
    refine ⟨spared, ?_⟩
    cases ended : disk.afterRead reply buffer with
    | mk result left =>
        rw [ended] at answered
        cases result with
        | value content => exact ⟨still, answered⟩
        | error failure => exact ⟨still, True.intro, answered⟩

end Accesses

/-! ## One operation under faults -/

/-- What a transfer leaves when its disk is closed. -/
private structure Outlives (inode : Nat) (before after : FileAndMedium) : Prop
    where
  file : after.1.file inode = before.1.file inode
  medium : ∀ place value, after.2 place value → before.2 place value

private theorem Kept.close {inode fd : Nat} {before after : FileAndMedium}
    {change : Nat → UInt8 → Prop} {reply : Except Errno Unit}
    (kept : Kept inode before)
    (moved : watching inode before (.close fd) reply after) :
    (Spares inode change).beside before (.close fd) reply after ∧
      Outlives inode before after := by
  obtain ⟨spared, _, same⟩ := kept.step (by exact True.intro) moved
  refine ⟨spared, same, fun place value found => ?_⟩
  rw [moved.2] at found
  rcases found with rfl | older
  · dsimp only
    rw [same]
    exact kept.current place
  · exact older.2

/-- The scope of a disk, when what its body ends with outlives the `close`. -/
private theorem wp_withDisk_watched {Value : Type} {base : DiskManager}
    {path : String} {inode : Nat} {change : Nat → UInt8 → Prop}
    {failed : DiskManagerErrorCode → Value}
    {body : PosixDisk → Effect Value} {state : FileAndMedium}
    (holds : Value → FileAndMedium → Prop)
    (failing : ∀ failure after, holds (failed failure) after)
    (stable : ∀ value before after, holds value before →
      Outlives inode before after → holds value after)
    (used : ∀ number fd after,
      state.1.lookup path = some number →
        Reaching inode number
            (PosixDisk.new path fd base.pageSize base.maxDiskByteSize)
            after →
          (body
            (PosixDisk.new path fd base.pageSize
              base.maxDiskByteSize)).wp (watching inode)
            (Spares inode change).beside
            (fun outcome last =>
              match outcome with
              | .done value => Kept inode last ∧ holds value last
              | .crashed _ => True)
            after)
    (kept : Kept inode state) :
    (PosixDiskManager.withDisk base path failed body).wp (watching inode)
      (Spares inode change).beside
      (fun outcome last =>
        match outcome with
        | .done value => holds value last
        | .crashed _ => True)
      state := by
  have checks :
      Checks (watching inode) (Spares inode change).beside path
        (fun now => Kept inode now ∧
          now.1.lookup path = state.1.lookup path)
        (fun exist _ => exist = true → state.1.lookup path ≠ none)
        True := by
    intro before reply after ready moved
    obtain ⟨spared, still, _⟩ := ready.1.step (by exact True.intro) moved
    have same :=
      (mayFail_keepsNames (by exact True.intro) moved.1).lookup path
    refine ⟨spared, ⟨still, same.trans ready.2⟩, ?_⟩
    rcases reply with (_ | _) | ⟨⟩
    · exact fun impossible => by cases impossible
    · exact True.intro
    · intro _ absent
      obtain ⟨fault, served⟩ := moved.1
      cases fault <;>
        simp only [serveWith, serve, ready.2, absent] at served <;>
        cases served
  have opens :
      Opens (watching inode) (Spares inode change).beside base path true
        (fun fd after => ∃ number, state.1.lookup path = some number ∧
          Reaching inode number
            (PosixDisk.new path fd base.pageSize base.maxDiskByteSize)
            after)
        (fun _ _ => True) (fun _ _ => True) state := by
    refine PosixDisk.wp_init checks ?_ (fun _ _ _ => True.intro)
      (fun _ _ _ => True.intro) (fun _ _ _ _ _ => True.intro) ⟨kept, rfl⟩
    intro before reply after ready exist moved
    obtain ⟨spared, still, _⟩ := ready.1.step (by exact True.intro) moved
    refine ⟨spared, ?_⟩
    obtain ⟨number, found⟩ :=
      Option.ne_none_iff_exists'.mp (exist rfl)
    have there := ready.2.trans found
    rcases mayFail_openFile there moved.1 with
      ⟨_, rfl, _⟩ | ⟨rfl, opened⟩
    · exact True.intro
    · refine ⟨number, found, ?_, ⟨0, ?_⟩, still⟩
      · rw [opened]
        exact there
      · rw [opened]
        exact descriptors_setDescriptor _ _ _
  refine PosixDiskManager.wp_withDisk opens
    (fun failure after _ => failing failure after)
    (fun _ _ _ => True.intro) ?_
  intro fd after opened
  obtain ⟨number, found, reaching⟩ := opened
  refine Program.wp_consequence (used number fd after found reaching) ?_
  intro outcome last ended
  rcases outcome with value | reason
  · intro reply closed moved
    obtain ⟨spared, outlived⟩ := ended.1.close moved
    exact ⟨spared, stable _ _ _ ended.2 outlived⟩
  · exact True.intro

namespace World

variable {base : DiskManager} {inode : Nat} {world : World}
variable {operation : Operation} {medium : Medium}

/-- The bytes that an operation may put into the file. -/
def Changes (base : DiskManager) (inode : Nat) (world : World) :
    Operation → Nat → UInt8 → Prop
  | .write diskId cursor bytes => fun place value =>
      world.named base diskId = some inode ∧
        Puts base.pageSize.toNat cursor.toNatClampNeg bytes place value
  | _ => fun _ _ => False

/-- After a write of the file that succeeded the disk holds the page, and a read
that succeeded returned the page. -/
def Finishes (base : DiskManager) (inode : Nat) (world : World)
    (operation : Operation) :
    Outcome Crash (Response × PosixDiskManager) → FileAndMedium → Prop
  | .done (response, _), last =>
      match operation, response with
      | .write diskId cursor bytes, .void (.value ()) =>
          world.named base diskId = some inode →
            ∀ position value, position < base.pageSize.toNat →
              last.2
                  (cursor.toNatClampNeg * base.pageSize.toNat + position)
                  value →
                bytes[position]? = some value
      | .read diskId cursor _, .buffer (.value ()) left =>
          world.named base diskId = some inode →
            InRange base.pageSize base.maxDiskByteSize cursor →
              left = (last.1.file inode).page base.pageSize.toNat
                cursor.toNatClampNeg
      | _, _ => True
  | .crashed _, _ => True

private theorem wp_write_watched {diskId : DiskId}
    {cursor : DiskPageCursor} {bytes : List UInt8}
    (positive : base.pageSize ≠ 0)
    (handles : world.Handles base inode (.write diskId cursor bytes))
    (kept : Kept inode (world.fileSystem, medium)) :
    ((PosixDiskManager.write base diskId cursor bytes).run
        world.manager).wp (watching inode)
      (Spares inode
        (world.Changes base inode (.write diskId cursor bytes))).beside
      (fun outcome last => world.Finishes base inode
        (.write diskId cursor bytes)
        (match outcome with
          | .done (result, manager) => .done (.void result, manager)
          | .crashed reason => .crashed reason) last)
      (world.fileSystem, medium) := by
  rw [PosixDiskManager.write_run]
  cases loaded : world.manager.disks.lookup diskId with
  | none => exact True.intro
  | some fileName =>
      have named : world.named base diskId =
          world.fileSystem.lookup (base.getDiskPath fileName) := by
        rw [World.named, loaded]
        rfl
      rw [Program.wp_bind]
      refine Program.wp_consequence
        (wp_withDisk_watched
          (fun result last => world.Finishes base inode
            (.write diskId cursor bytes)
            (.done (.void result, world.manager)) last)
          (fun _ _ => True.intro) ?_ ?_ kept) ?_
      · intro result before after finished closed
        cases result with
        | error failure => exact True.intro
        | value content =>
            intro own position value inPage found
            exact finished own position value inPage
              (closed.medium _ _ found)
      · intro number fd after found reaching
        have own : number = inode ↔
            world.named base diskId = some inode := by
          rw [named, show world.fileSystem.lookup _ = some number from
            found, Option.some_inj]
        have inRange : number = inode →
            InRange base.pageSize base.maxDiskByteSize cursor :=
          fun same => handles.2 (own.mp same)
        refine Program.wp_mono (fun _ _ _ _ moved => moved) ?_ ?_
          ((writing inode number
            (PosixDisk.new (base.getDiskPath fileName) fd base.pageSize
              base.maxDiskByteSize) cursor bytes positive handles.1
            inRange).wp_propagated reaching)
        · intro before request reply last _ spared
          refine ⟨spared.1, fun place => ?_⟩
          rcases spared.2 place with old | new
          · exact Or.inl old
          · exact Or.inr ⟨own.mp new.1, new.2⟩
        · intro outcome last ended
          rcases outcome with (content | failure) | reason
          · refine ⟨ended.1.kept, fun named position value inPage found => ?_⟩
            have same := own.mpr named
            apply ended.2 same position value inPage
            rw [← (inRange same).foffset] at found
            exact found
          · exact ⟨ended.1.kept, True.intro⟩
          · exact True.intro
      · intro outcome last ended
        rcases outcome with result | reason
        · exact ended
        · exact True.intro

private theorem wp_read_watched {diskId : DiskId}
    {cursor : DiskPageCursor} {buffer : List UInt8}
    (positive : base.pageSize ≠ 0)
    (full : buffer.length = base.pageSize.toNat)
    (kept : Kept inode (world.fileSystem, medium)) :
    (((PosixDiskManager.read base diskId cursor).run buffer).run
        world.manager).wp (watching inode)
      (Spares inode fun _ _ => False).beside
      (fun outcome last => world.Finishes base inode
        (.read diskId cursor buffer)
        (match outcome with
          | .done ((result, left), manager) =>
              .done (.buffer result left, manager)
          | .crashed reason => .crashed reason) last)
      (world.fileSystem, medium) := by
  rw [PosixDiskManager.read_run]
  cases loaded : world.manager.disks.lookup diskId with
  | none => exact True.intro
  | some fileName =>
      have named : world.named base diskId =
          world.fileSystem.lookup (base.getDiskPath fileName) := by
        rw [World.named, loaded]
        rfl
      rw [Program.wp_bind]
      refine Program.wp_consequence
        (wp_withDisk_watched
          (fun result last => world.Finishes base inode
            (.read diskId cursor buffer)
            (.done (.buffer result.1 result.2, world.manager)) last)
          ?_ ?_ ?_ kept) ?_
      · exact fun _ _ => True.intro
      · intro result before after finished closed
        rcases result with ⟨content | failure, left⟩
        · intro own inRange
          rw [closed.file]
          exact finished own inRange
        · exact True.intro
      · intro number fd after found reaching
        refine Program.wp_consequence
          ((reading inode number
            (PosixDisk.new (base.getDiskPath fileName) fd base.pageSize
              base.maxDiskByteSize) cursor positive).wp_propagated full
            reaching) ?_
        intro outcome last ended
        rcases outcome with ⟨content | failure, left⟩ | reason
        · refine ⟨ended.1.kept, fun own inRange => ?_⟩
          apply ended.2 _ inRange
          rw [named, show world.fileSystem.lookup _ = some number from
            found, Option.some_inj] at own
          exact own
        · exact ⟨ended.1.kept, True.intro⟩
        · exact True.intro
      · intro outcome last ended
        rcases outcome with result | reason
        · exact ended
        · exact True.intro

/-- Every operation, under faults and watched. -/
theorem wp_perform_watched (positive : base.pageSize ≠ 0)
    (handles : world.Handles base inode operation)
    (kept : Kept inode (world.fileSystem, medium)) :
    ((PosixDiskManager.perform base operation).run world.manager).wp
      (watching inode)
      (Spares inode (world.Changes base inode operation)).beside
      (world.Finishes base inode operation)
      (world.fileSystem, medium) := by
  by_cases other : operation.transfers = false
  · refine Program.wp_consequence
      (Program.wp_of_makesOnly ?_ (perform_leavesBytes other) kept) ?_
    · intro before request reply after kept leaves moved
      obtain ⟨spared, still, _⟩ := kept.step leaves moved
      exact ⟨spared, still⟩
    · intro outcome last _
      rcases outcome with ⟨response, manager⟩ | reason
      · cases operation with
        | write diskId cursor bytes => cases other
        | read diskId cursor buffer => cases other
        | _ => exact True.intro
      · exact True.intro
  · cases operation with
    | write diskId cursor bytes =>
        change ((Response.void <$>
          PosixDiskManager.write base diskId cursor bytes).run
            world.manager).wp _ _ _ _
        rw [StateT.run_map, Program.wp_map]
        refine Program.wp_consequence
          (wp_write_watched positive handles kept) ?_
        intro outcome last ended
        rcases outcome with ⟨result, manager⟩ | reason
        · exact ended
        · exact True.intro
    | read diskId cursor buffer =>
        change (((fun transferred =>
          Response.buffer transferred.1 transferred.2) <$>
            (PosixDiskManager.read base diskId cursor).run buffer).run
              world.manager).wp _ _ _ _
        rw [StateT.run_map, Program.wp_map]
        refine Program.wp_consequence
          (wp_read_watched positive handles kept) ?_
        intro outcome last ended
        rcases outcome with ⟨result, manager⟩ | reason
        · exact ended
        · exact True.intro
    | _ => exact absurd rfl other

end World

end Lewsql
