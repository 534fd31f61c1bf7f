import Lewsql.Compiler.Lexer
import Lewsql.Interaction.Keeping
import Mathlib.Algebra.Order.Group.Nat

/-!
# Positions

A character stream counts lines and characters as it hands them out.  The column
is set to zero at a newline and never counted up.
-/

namespace Lewsql.Compiler

open Interaction

/-! ## Sequences of reading calls -/

/-- A call that reads from the stream, by itself or through the lexer. -/
inductive Reading where
  | getNextChar
  | peekNextChar
  | isEndOfStream
  | lexer (call : Lexer.Call)
  deriving DecidableEq, Repr

inductive ReadingAnswer where
  | char (c : Option Int8)
  | flag (ended : Bool)
  | lexer (answer : Lexer.Answer)
  deriving DecidableEq, Repr

def Reading.perform : Reading → Lexing ReadingAnswer
  | .getNextChar => return .char (← onStream CharStream.getNextChar)
  | .peekNextChar => return .char (← onStream CharStream.peekNextChar)
  | .isEndOfStream => return .flag (← onStream CharStream.isEndOfStream)
  | .lexer call => return .lexer (← call.perform)

/-- A stream on a text, with any reading calls in any order. -/
def readings (text : List Int8) :
    Machine CharStream (Reading × ReadingAnswer) where
  start self := self = CharStream.new (InputStream.ofText text)
  step before event after :=
    event.1.perform.run before = .ok (event.2, after)

/-- A property of the stream that the three calls it is read with keep. -/
structure KeptByReading (holds : CharStream → Prop) : Prop where
  get : ∀ before, holds before → holds before.getNextChar.2
  peek : ∀ before, holds before → holds before.peekNextChar.2
  ask : ∀ before, holds before → holds before.isEndOfStream.2

section Keeping

variable {holds : CharStream → Prop}

theorem keeps_onStream {Value : Type}
    {member : CharStream → Value × CharStream}
    (kept : ∀ before, holds before → holds (member before).2) :
    Keeps holds (onStream member) := by
  intro before value after ran held
  have same : member before = (value, after) := Except.ok.inj ran
  have later := kept before held
  rw [same] at later
  exact later

theorem keeps_valueOf {Value : Type} (value : Option Value) :
    Keeps holds (valueOf value) := by
  cases value with
  | none => exact keeps_throw _
  | some value => exact keeps_pure value

namespace Lexer

variable (kept : KeptByReading holds)

include kept

theorem keeps_skipWhitespaceLoop (fuel : Nat) :
    Keeps holds (skipWhitespaceLoop fuel) := by
  induction fuel with
  | zero => exact keeps_throw _
  | succ fuel inductionHypothesis =>
      rw [skipWhitespaceLoop]
      apply keeps_bind (keeps_onStream kept.ask)
      intro ended
      split
      · exact keeps_pure ()
      · apply keeps_bind (keeps_onStream kept.peek)
        intro peeked
        refine keeps_bind (keeps_valueOf peeked) ?_
        intro c
        split
        · apply keeps_bind (keeps_onStream kept.get)
          intro _
          exact inductionHypothesis
        · exact keeps_pure ()

theorem keeps_getNextTokenLoop (fuel : Nat) (token : Token) :
    Keeps holds (getNextTokenLoop fuel token) := by
  induction fuel generalizing token with
  | zero => exact keeps_throw _
  | succ fuel inductionHypothesis =>
      rw [getNextTokenLoop]
      apply keeps_bind (keeps_onStream kept.ask)
      intro ended
      split
      · exact keeps_pure token
      · apply keeps_bind (keeps_onStream kept.peek)
        intro peeked
        refine keeps_bind (keeps_valueOf peeked) ?_
        intro c
        split
        · apply keeps_bind (keeps_onStream kept.get)
          intro got
          refine keeps_bind (keeps_valueOf got) ?_
          intro c
          exact inductionHypothesis _
        · exact keeps_pure token

omit kept in
theorem keeps_roundsLeft : Keeps holds roundsLeft := by
  refine keeps_bind keeps_get ?_
  intro self
  exact keeps_pure _

theorem keeps_skipWhitespace : Keeps holds skipWhitespace := by
  refine keeps_bind keeps_roundsLeft ?_
  intro rounds
  exact keeps_skipWhitespaceLoop kept rounds

theorem keeps_hasNextToken : Keeps holds hasNextToken := by
  apply keeps_bind (keeps_skipWhitespace kept)
  intro _
  apply keeps_bind (keeps_onStream kept.ask)
  intro ended
  exact keeps_pure _

theorem keeps_getNextToken : Keeps holds getNextToken := by
  apply keeps_bind (keeps_skipWhitespace kept)
  intro _
  refine keeps_bind keeps_roundsLeft ?_
  intro rounds
  apply keeps_bind (keeps_getNextTokenLoop kept rounds [])
  intro token
  exact keeps_pure _

/-- What the three calls keep, every call of the lexer keeps. -/
theorem keeps_perform (call : Call) : Keeps holds call.perform := by
  cases call with
  | hasNextToken =>
      apply keeps_bind (keeps_hasNextToken kept)
      intro more
      exact keeps_pure _
  | getNextToken =>
      apply keeps_bind (keeps_getNextToken kept)
      intro token
      exact keeps_pure _
  | skipWhitespace =>
      apply keeps_bind (keeps_skipWhitespace kept)
      intro _
      exact keeps_pure _

end Lexer

theorem Reading.keeps (kept : KeptByReading holds) (reading : Reading) :
    Keeps holds reading.perform := by
  cases reading with
  | getNextChar =>
      apply keeps_bind (keeps_onStream kept.get)
      intro c
      exact keeps_pure _
  | peekNextChar =>
      apply keeps_bind (keeps_onStream kept.peek)
      intro c
      exact keeps_pure _
  | isEndOfStream =>
      apply keeps_bind (keeps_onStream kept.ask)
      intro ended
      exact keeps_pure _
  | lexer call =>
      apply keeps_bind (Lexer.keeps_perform kept call)
      intro answer
      exact keeps_pure _

/-- What holds of a new stream and is kept by the three calls holds in every
run. -/
theorem holds_of_run (kept : KeptByReading holds) {text : List Int8}
    (initially : holds (CharStream.new (InputStream.ofText text)))
    {events : List (Reading × ReadingAnswer)} {self : CharStream}
    (run : (readings text).Run events self) : holds self := by
  refine Machine.Run.invariant (fun _ self => holds self) ?_ ?_ run
  · intro state started
    have same : state = CharStream.new (InputStream.ofText text) := started
    rw [same]
    exact initially
  · intro _ before event after _ held stepped
    exact event.1.keeps kept before event.2 after stepped held

end Keeping

/-! ## Positions -/

/-- The number of characters behind the last newline. -/
def columnOf (consumed : List Int8) : Nat :=
  (consumed.reverse.takeWhile fun c => c != newline).length

structure RightPosition (consumed : List Int8)
    (position : CharStreamPosition) : Prop where
  line : position.curLine.toNat = consumed.count newline
  column : position.curCol.toNat = columnOf consumed
  offset : position.curPos.toNat = consumed.length

/-- Nothing was consumed, or a newline last. -/
def AtLineStart (consumed : List Int8) : Prop :=
  consumed = [] ∨ consumed.getLast? = some newline

def countedPosition (consumed : List Int8) : CharStreamPosition where
  curLine := UInt32.ofNat (consumed.count newline)
  curCol := 0
  curPos := UInt32.ofNat consumed.length

/-- A stream that handed out some characters of a text. -/
structure HandedOut (text consumed : List Int8) (stream : CharStream) :
    Prop where
  split : text = consumed ++ stream.stream.remaining
  position : stream.charStreamPosition = countedPosition consumed
  intact : Intact stream.stream

section Positions

variable {text consumed : List Int8} {self : CharStream}
variable {c : Int8} {rest : List Int8}

theorem columnOf_eq_zero_iff :
    columnOf consumed = 0 ↔ AtLineStart consumed := by
  simp only [columnOf, AtLineStart]
  rcases List.eq_nil_or_concat' consumed with
    nothing | ⟨initial, last, split⟩
  · subst nothing
    exact iff_of_true rfl (Or.inl rfl)
  · subst split
    rw [List.reverse_append, List.reverse_singleton,
      List.singleton_append, List.getLast?_concat, List.length_eq_zero_iff]
    by_cases lineEnd : last = newline
    · subst lineEnd
      refine iff_of_true ?_ (Or.inr rfl)
      exact List.takeWhile_cons_of_neg (by simp)
    · rw [List.takeWhile_cons_of_pos (by simpa using lineEnd)]
      refine iff_of_false (List.cons_ne_nil _ _) ?_
      intro either
      rcases either with nothing | newlineLast
      · exact absurd nothing (by simp)
      · exact lineEnd (Option.some.inj newlineLast)

/-- One character more. -/
theorem HandedOut.advanced (handed : HandedOut text consumed self)
    (more : self.stream.remaining = c :: rest) :
    HandedOut text (consumed ++ [c]) (self.advanced c rest) := by
  have sound := CharStream.sound_advanced handed.intact.toSound more
  constructor
  · rw [handed.split, more, List.append_assoc]
    rfl
  · simp only [CharStream.advanced]
    rw [handed.position]
    simp only [countedPosition]
    rw [List.count_append, List.length_append, List.length_singleton,
      UInt32.ofNat_add, UInt32.ofNat_add]
    by_cases lineEnd : c = newline
    · subst lineEnd
      rw [if_pos rfl, if_pos rfl, List.count_singleton_self]
      rfl
    · rw [if_neg lineEnd, if_neg lineEnd, List.count_singleton,
        if_neg (by simpa using lineEnd)]
      simp
  · refine ⟨sound, ?_⟩
    intro other member
    apply handed.intact.plain
    rw [more]
    exact List.mem_cons_of_mem c member

/-- A stream that only set its error bits. -/
theorem HandedOut.ended {stream : InputStream}
    (handed : HandedOut text consumed self)
    (ended : self.stream.remaining = []) (sound : Sound stream)
    (empty : stream.remaining = []) :
    HandedOut text consumed { self with stream := stream } := by
  have split := handed.split
  rw [ended] at split
  refine ⟨?_, handed.position, sound, ?_⟩
  · rw [split, empty]
  · intro c member
    rw [empty] at member
    cases member

/-- The calls of the stream hand out the next characters of the text, and the
position follows. -/
theorem handedOut_kept (text : List Int8) :
    KeptByReading fun self => ∃ consumed, HandedOut text consumed self := by
  constructor
  · intro self ⟨consumed, handed⟩
    cases more : self.stream.remaining with
    | nil =>
        obtain ⟨after, got, _, sound, empty⟩ :=
          handed.intact.toSound.get_of_nil more
        rw [CharStream.getNextChar_of_traitsEof got]
        exact ⟨consumed, handed.ended more sound empty⟩
    | cons c rest =>
        have plain := handed.intact.next_ne more
        rw [CharStream.getNextChar_of_cons handed.intact.toSound more plain]
        exact ⟨consumed ++ [c], handed.advanced more⟩
  · intro self ⟨consumed, handed⟩
    cases more : self.stream.remaining with
    | nil =>
        obtain ⟨after, peeked, _, sound, empty⟩ :=
          handed.intact.toSound.peek_of_nil more
        rw [CharStream.peekNextChar_of_traitsEof peeked]
        exact ⟨consumed, handed.ended more sound empty⟩
    | cons c rest =>
        have plain := handed.intact.next_ne more
        rw [CharStream.peekNextChar_of_cons handed.intact.toSound more plain]
        exact ⟨consumed, handed⟩
  · intro self ⟨consumed, handed⟩
    cases more : self.stream.remaining with
    | nil =>
        obtain ⟨after, peeked, _, sound, empty⟩ :=
          handed.intact.toSound.peek_of_nil more
        rw [CharStream.isEndOfStream_of_traitsEof peeked]
        exact ⟨consumed, handed.ended more sound empty⟩
    | cons c rest =>
        rw [CharStream.isEndOfStream_of_cons handed.intact.toSound more]
        exact ⟨consumed, handed⟩

/-- In every run the position is the counted one. -/
theorem handedOut_of_run (plain : ∀ c ∈ text, c ≠ -1)
    {events : List (Reading × ReadingAnswer)}
    (run : (readings text).Run events self) :
    ∃ consumed, HandedOut text consumed self :=
  holds_of_run (handedOut_kept text) ⟨[], rfl, rfl, intact_ofText plain⟩ run

/-- A counted position has the right line and offset. -/
theorem countedPosition_toNat (short : consumed.length < 2 ^ 32) :
    (countedPosition consumed).curLine.toNat = consumed.count newline ∧
      (countedPosition consumed).curPos.toNat = consumed.length := by
  have lines : consumed.count newline < 2 ^ 32 :=
    Nat.lt_of_le_of_lt List.count_le_length short
  exact
    ⟨UInt32.toNat_ofNat_of_lt' lines, UInt32.toNat_ofNat_of_lt' short⟩

theorem rightPosition_countedPosition_iff
    (short : consumed.length < 2 ^ 32) :
    RightPosition consumed (countedPosition consumed) ↔
      AtLineStart consumed := by
  obtain ⟨line, offset⟩ := countedPosition_toNat short
  rw [← columnOf_eq_zero_iff]
  constructor
  · intro right
    exact right.column.symm
  · intro lineStart
    exact ⟨line, lineStart.symm, offset⟩

end Positions

/-- In every run over a text without the byte `0xFF` the position has the right
line and offset, and the right column exactly when nothing was consumed or a
newline last. -/
theorem position_right_iff {text : List Int8}
    (plain : ∀ c ∈ text, c ≠ -1) (short : text.length < 2 ^ 32)
    {events : List (Reading × ReadingAnswer)} {self : CharStream}
    (run : (readings text).Run events self) :
    ∃ consumed, text = consumed ++ self.stream.remaining ∧
      self.getPosition.curLine.toNat = consumed.count newline ∧
      self.getPosition.curPos.toNat = consumed.length ∧
      (RightPosition consumed self.getPosition ↔ AtLineStart consumed) := by
  obtain ⟨consumed, handed⟩ := handedOut_of_run plain run
  have shorter : consumed.length < 2 ^ 32 := by
    rw [handed.split, List.length_append] at short
    omega
  obtain ⟨line, offset⟩ := countedPosition_toNat shorter
  refine ⟨consumed, handed.split, ?_⟩
  simp only [CharStream.getPosition]
  rw [handed.position]
  exact ⟨line, offset, rightPosition_countedPosition_iff shorter⟩

/-- One newline. -/
theorem position_right_newline :
    ∃ self,
      (readings [10]).Run [(.getNextChar, .char (some 10))] self ∧
        RightPosition [10] self.getPosition := by
  have run :
      (readings [10]).Run
        ([] ++ [(Reading.getNextChar, ReadingAnswer.char (some 10))])
        ⟨⟨1, 0, 1⟩, ⟨[10], [], false, false, false⟩⟩ :=
    .step (.start rfl) rfl
  have plain : ∀ c ∈ ([10] : List Int8), c ≠ -1 := by
    intro c member
    rw [List.mem_singleton.mp member]
    decide
  obtain ⟨consumed, split, _, _, right⟩ :=
    position_right_iff plain (by decide) run
  rw [List.append_nil] at split
  subst split
  exact ⟨_, run, right.mpr (Or.inr rfl)⟩

/-- The column behind one letter is still zero. -/
theorem column_not_counted :
    ∃ self,
      (readings [97]).Run [(.getNextChar, .char (some 97))] self ∧
        self.stream.remaining = [] ∧
        ¬ RightPosition [97] self.getPosition := by
  have run :
      (readings [97]).Run
        ([] ++ [(Reading.getNextChar, ReadingAnswer.char (some 97))])
        ⟨⟨0, 0, 1⟩, ⟨[97], [], false, false, false⟩⟩ :=
    .step (.start rfl) rfl
  refine ⟨_, run, rfl, ?_⟩
  intro right
  exact absurd right.column (by decide)

end Lewsql.Compiler
