import Lewsql.Interaction.Machine
import Lewsql.Library.BitmapSet

/-!
# `BitmapTracker`

A bitmap with one bit for each frame of the pool.  Over runs that acquire the next
free frame and release held ones, the bits are the set of held frames.
-/

namespace Lewsql

open Interaction

abbrev BufferPageCursor := UInt32

structure BitmapTracker where
  numPages : UInt32
  bitmap : Bitmap
  deriving DecidableEq, Repr

namespace BitmapTracker

def new (numPages : UInt32) : Except BitmapFailure BitmapTracker := do
  return ⟨numPages, ← Bitmap.new numPages⟩

def getNumFreePages (self : BitmapTracker) :
    Except BitmapFailure UInt32 :=
  self.bitmap.getNumFreeBits

def getNumTakenPages (self : BitmapTracker) :
    Except BitmapFailure UInt32 :=
  self.bitmap.getNumTakenBits

/-- `get_next_free_page`: the optional is unwrapped with `value()`. -/
def getNextFreePage (self : BitmapTracker) :
    Except BitmapFailure BufferPageCursor := do
  match ← self.bitmap.getFirstFreeBit with
  | some page => return page
  | none => throw .badOptionalAccess

def setPageStatus (self : BitmapTracker) (page : BufferPageCursor)
    (val : Bool) : Except BitmapFailure BitmapTracker := do
  return { self with bitmap := ← self.bitmap.setBitVal page val }

def getPageStatus (self : BitmapTracker) (page : BufferPageCursor) :
    Except BitmapFailure Bool :=
  self.bitmap.getBitVal page

/-- The bits of the tracker are a set of frames. -/
structure Tracks (numPages : UInt32) (tracker : BitmapTracker)
    (held : Finset Nat) : Prop where
  pages : tracker.numPages = numPages
  sized : Bitmap.SizedFor numPages tracker.bitmap
  below : held ⊆ Finset.range numPages.toNat
  bits : ∀ index < numPages.toNat,
    tracker.bitmap.bit index = decide (index ∈ held)

section Tracks

variable {numPages : UInt32} {tracker : BitmapTracker}
variable {held : Finset Nat} {page : BufferPageCursor}

theorem Tracks.represents (tracks : Tracks numPages tracker held) :
    Bitmap.Represents numPages tracker.bitmap held :=
  ⟨tracks.sized, tracks.below, tracks.bits⟩

theorem Tracks.getNumFreePages (tracks : Tracks numPages tracker held)
    (whole : numPages.toNat % 8 = 0)
    (small : numPages.toNat < 2 ^ 31) :
    tracker.getNumFreePages =
      .ok (UInt32.ofNat (numPages.toNat - held.card)) :=
  tracks.represents.getNumFreeBits whole small

theorem Tracks.getNumTakenPages (tracks : Tracks numPages tracker held)
    (whole : numPages.toNat % 8 = 0)
    (small : numPages.toNat < 2 ^ 31) :
    tracker.getNumTakenPages = .ok (UInt32.ofNat held.card) :=
  tracks.represents.getNumTakenBits whole small

theorem Tracks.getPageStatus (tracks : Tracks numPages tracker held)
    (whole : numPages.toNat % 8 = 0) (below : page < numPages) :
    tracker.getPageStatus page = .ok (decide (page.toNat ∈ held)) :=
  tracks.represents.getBitVal whole below

/-- Setting the status of one frame adds it to the set or takes it out. -/
theorem Tracks.setPageStatus (tracks : Tracks numPages tracker held)
    (whole : numPages.toNat % 8 = 0) (below : page < numPages)
    (val : Bool) :
    ∃ after, tracker.setPageStatus page val = .ok after ∧
      Tracks numPages after
        (if val then insert page.toNat held else held.erase page.toNat) := by
  obtain ⟨bitmap, written, represents⟩ :=
    tracks.represents.setBitVal whole below val
  refine ⟨{ tracker with bitmap := bitmap }, ?_,
    tracks.pages, represents.sized, represents.below, represents.bits⟩
  simp only [BitmapTracker.setPageStatus]
  rw [written]
  rfl

/-- The frame that is handed out is the first free bit. -/
theorem getNextFreePage_iff (tracker : BitmapTracker)
    (page : BufferPageCursor) :
    tracker.getNextFreePage = .ok page ↔
      tracker.bitmap.getFirstFreeBit = .ok (some page) := by
  simp only [BitmapTracker.getNextFreePage]
  cases tracker.bitmap.getFirstFreeBit with
  | error failure =>
      refine iff_of_false ?_ ?_
      · intro same
        cases same
      · intro same
        cases same
  | ok found =>
      cases found with
      | none =>
          refine iff_of_false ?_ ?_
          · intro same
            cases same
          · intro same
            cases same
      | some bit =>
          change Except.ok bit = Except.ok page ↔ _
          rw [Except.ok.injEq, Except.ok.injEq, Option.some.injEq]

/-- The frame that is handed out is the lowest one that is not held. -/
theorem Tracks.getNextFreePage_ok (tracks : Tracks numPages tracker held)
    (whole : numPages.toNat % 8 = 0)
    (small : numPages.toNat < 2 ^ 31)
    (found : tracker.getNextFreePage = .ok page) :
    page < numPages ∧ page.toNat ∉ held ∧
      ∀ index < page.toNat, index ∈ held :=
  (tracks.represents.getFirstFreeBit_some whole small).mp
    ((getNextFreePage_iff tracker page).mp found)

/-- A frame is handed out, or all are held. -/
theorem Tracks.getNextFreePage_cases
    (tracks : Tracks numPages tracker held)
    (whole : numPages.toNat % 8 = 0)
    (small : numPages.toNat < 2 ^ 31) :
    (∃ page, tracker.getNextFreePage = .ok page ∧
      held ≠ Finset.range numPages.toNat) ∨
    (tracker.getNextFreePage = .error .badOptionalAccess ∧
      held = Finset.range numPages.toNat) := by
  have none := tracks.represents.getFirstFreeBit_none whole small
  have answer :=
    Bitmap.getFirstFreeBit_eq (tracks.sized.covered whole small)
  cases found : tracker.bitmap.lowestFree with
  | none =>
      rw [found] at answer
      refine .inr ⟨?_, none.mp answer⟩
      simp only [BitmapTracker.getNextFreePage]
      rw [answer]
      rfl
  | some index =>
      rw [found] at answer
      refine .inl ⟨_, (getNextFreePage_iff tracker _).mpr answer, ?_⟩
      intro all
      cases answer.symm.trans (none.mpr all)

/-- No frame is handed out exactly when all are held. -/
theorem Tracks.getNextFreePage_error (tracks : Tracks numPages tracker held)
    (whole : numPages.toNat % 8 = 0)
    (small : numPages.toNat < 2 ^ 31) :
    tracker.getNextFreePage = .error .badOptionalAccess ↔
      held = Finset.range numPages.toNat := by
  rcases tracks.getNextFreePage_cases whole small with
    ⟨page, found, some⟩ | ⟨failed, all⟩
  · rw [found]
    refine iff_of_false ?_ some
    intro same
    cases same
  · exact iff_of_true failed all

end Tracks

theorem tracks_new {numPages : UInt32} {tracker : BitmapTracker}
    (whole : numPages.toNat % 8 = 0)
    (constructed : new numPages = .ok tracker) :
    Tracks numPages tracker ∅ := by
  obtain ⟨bitmap, filled, represents⟩ := Bitmap.represents_new whole
  simp only [new] at constructed
  rw [filled] at constructed
  cases constructed
  exact ⟨rfl, represents.sized, represents.below, represents.bits⟩

/-! ## Runs -/

inductive FrameEvent where
  | acquired (page : BufferPageCursor)
  | released (page : BufferPageCursor)
  deriving DecidableEq, Repr

/-- A tracker and the frames that are held. -/
structure Frames where
  tracker : BitmapTracker
  held : Finset Nat

/-- Acquiring the next free frame and releasing held ones, in any order. -/
def frames (numPages : UInt32) : Machine Frames FrameEvent where
  start before := new numPages = .ok before.tracker ∧ before.held = ∅
  step before event after :=
    match event with
    | .acquired page =>
        before.tracker.getNextFreePage = .ok page ∧
          before.tracker.setPageStatus page true = .ok after.tracker ∧
          after.held = insert page.toNat before.held
    | .released page =>
        page.toNat ∈ before.held ∧
          before.tracker.setPageStatus page false = .ok after.tracker ∧
          after.held = before.held.erase page.toNat

/-- The frames held are the bits of the tracker throughout a run. -/
theorem tracks_of_run {numPages : UInt32}
    (whole : numPages.toNat % 8 = 0) (small : numPages.toNat < 2 ^ 31)
    {events : List FrameEvent} {state : Frames}
    (run : (frames numPages).Run events state) :
    Tracks numPages state.tracker state.held := by
  refine Machine.Run.invariant
    (fun _ state => Tracks numPages state.tracker state.held) ?_ ?_ run
  · intro state started
    rcases started with ⟨constructed, none⟩
    rw [none]
    exact tracks_new whole constructed
  · intro _ before event after _ tracks stepped
    cases event with
    | acquired page =>
        obtain ⟨found, marked, grown⟩ := stepped
        obtain ⟨below, _, _⟩ :=
          tracks.getNextFreePage_ok whole small found
        obtain ⟨tracker, set, still⟩ :=
          tracks.setPageStatus whole below true
        cases set.symm.trans marked
        rw [grown]
        exact still
    | released page =>
        obtain ⟨member, cleared, shrunk⟩ := stepped
        have below : page < numPages := by
          rw [UInt32.lt_iff_toNat_lt]
          exact Finset.mem_range.mp (tracks.below member)
        obtain ⟨tracker, set, still⟩ :=
          tracks.setPageStatus whole below false
        cases set.symm.trans cleared
        rw [shrunk]
        exact still

/-- What the tracker answers while these frames are held. -/
structure FramesSafe (numPages : UInt32) (state : Frames) : Prop where
  lowest : ∀ page, state.tracker.getNextFreePage = .ok page →
    page < numPages ∧ page.toNat ∉ state.held ∧
      ∀ other, other < page → other.toNat ∈ state.held
  exhausted : state.tracker.getNextFreePage = .error .badOptionalAccess ↔
    state.held = Finset.range numPages.toNat
  found : state.held ≠ Finset.range numPages.toNat →
    ∃ page, state.tracker.getNextFreePage = .ok page
  settable : ∀ page < numPages, ∀ val,
    ∃ after, state.tracker.setPageStatus page val = .ok after
  taken : state.tracker.getNumTakenPages =
    .ok (UInt32.ofNat state.held.card)
  free : state.tracker.getNumFreePages =
    .ok (UInt32.ofNat (numPages.toNat - state.held.card))
  status : ∀ page < numPages,
    state.tracker.getPageStatus page =
      .ok (decide (page.toNat ∈ state.held))
  below : state.held ⊆ Finset.range numPages.toNat

/-- After every run: acquiring gives the lowest frame that is not held and only
fails when all are held, and the counts and the status of each frame are those of
the set of held frames. -/
theorem frames_safe {numPages : UInt32} (whole : numPages.toNat % 8 = 0)
    (small : numPages.toNat < 2 ^ 31) {events : List FrameEvent}
    {state : Frames} (run : (frames numPages).Run events state) :
    FramesSafe numPages state := by
  have tracks := tracks_of_run whole small run
  refine ⟨?_, tracks.getNextFreePage_error whole small, ?_, ?_,
    tracks.getNumTakenPages whole small,
    tracks.getNumFreePages whole small, ?_, tracks.below⟩
  · intro page found
    obtain ⟨below, free, least⟩ :=
      tracks.getNextFreePage_ok whole small found
    refine ⟨below, free, fun other earlier => ?_⟩
    exact least _ (UInt32.lt_iff_toNat_lt.mp earlier)
  · intro some
    rcases tracks.getNextFreePage_cases whole small with
      ⟨page, found, _⟩ | ⟨_, all⟩
    · exact ⟨page, found⟩
    · exact absurd all some
  · intro page below val
    obtain ⟨after, marked, _⟩ := tracks.setPageStatus whole below val
    exact ⟨after, marked⟩
  · exact fun page below => tracks.getPageStatus whole below

/-- Eight frames, of which the first was acquired. -/
theorem frames_safe_small :
    ∃ state,
      (frames 8).Run [.acquired 0] state ∧ FramesSafe 8 state := by
  have begun : (frames 8).Run [] ⟨⟨8, ⟨8, 1, [0]⟩⟩, ∅⟩ :=
    .start ⟨rfl, rfl⟩
  have run :
      (frames 8).Run ([] ++ [FrameEvent.acquired 0])
        ⟨⟨8, ⟨8, 1, [1]⟩⟩, insert 0 ∅⟩ :=
    begun.step ⟨rfl, rfl, rfl⟩
  exact ⟨_, run, frames_safe (by decide) (by decide) run⟩

end BitmapTracker

end Lewsql
