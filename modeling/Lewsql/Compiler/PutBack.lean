import Lewsql.Compiler.CharStream

/-!
# Putting a character back

`put_back_char` gives the character back to the stream and leaves the counters of
`get_next_char` as they are, so that the position moves on although the stream
does not.
-/

namespace Lewsql.Compiler

namespace CharStream

/-- The characters still to come and the position are as they were. -/
structure Restored (before after : CharStream) : Prop where
  remaining : after.stream.remaining = before.stream.remaining
  position : after.getPosition = before.getPosition

def takenAndPutBack (self : CharStream) : CharStream :=
  match self.getNextChar with
  | (none, after) => after
  | (some c, after) => after.putBackChar c

def pairs : Nat → CharStream → CharStream
  | 0, self => self
  | count + 1, self => pairs count self.takenAndPutBack

section PutBack

variable {self : CharStream} {c : Int8} {rest : List Int8}

/-- A character that was got stood in front of a good stream. -/
theorem next_of_returned (returned : self.getNextChar.1 = some c) :
    self.stream.good = true ∧ c ≠ -1 ∧
      ∃ rest, self.stream.remaining = c :: rest := by
  by_cases good : self.stream.good = true
  · have sound := InputStream.sound_of_good good
    cases more : self.stream.remaining with
    | nil =>
        have got := InputStream.get_of_nil good more
        rw [getNextChar_of_traitsEof got] at returned
        cases returned
    | cons first rest =>
        by_cases plain : first = -1
        · have got := InputStream.get_of_cons good more
          simp only [getNextChar] at returned
          rw [got, plain] at returned
          cases returned
        · rw [getNextChar_of_cons sound more plain] at returned
          cases returned
          exact ⟨good, plain, rest, rfl⟩
  · have got := InputStream.get_of_bad good
    rw [getNextChar_of_traitsEof got] at returned
    cases returned

/-- The stream takes back the character it just gave. -/
theorem stream_putBackChar (good : self.stream.good = true)
    (more : self.stream.remaining = c :: rest) :
    ((self.advanced c rest).putBackChar c).stream = self.stream := by
  have noEof := InputStream.eofBit_of_good good
  have stillGood :
      ({ (self.advanced c rest).stream with eofBit := false } :
        InputStream).good = true := by
    rw [← noEof]
    exact good
  simp only [putBackChar, InputStream.putback]
  rw [if_pos stillGood]
  simp only [advanced, if_true]
  rw [← noEof, ← more]

theorem getPosition_putBackChar :
    (self.putBackChar c).getPosition = self.getPosition :=
  rfl

theorem curPos_advanced :
    (self.advanced c rest).getPosition.curPos =
      self.getPosition.curPos + 1 :=
  rfl

theorem ne_add_one (offset : UInt32) : offset + 1 ≠ offset := by
  intro same
  exact absurd (UInt32.add_eq_left.mp same) (by decide)

/-- One pair leaves the stream and counts the character. -/
theorem takenAndPutBack_of_cons (good : self.stream.good = true)
    (more : self.stream.remaining = c :: rest) (plain : c ≠ -1) :
    self.takenAndPutBack.stream = self.stream ∧
      self.takenAndPutBack.getPosition.curPos =
        self.getPosition.curPos + 1 := by
  have got :=
    getNextChar_of_cons (InputStream.sound_of_good good) more plain
  simp only [takenAndPutBack]
  rw [got]
  exact ⟨stream_putBackChar good more, rfl⟩

/-- Any number of pairs leaves the stream and counts each of them. -/
theorem pairs_of_cons (good : self.stream.good = true)
    (more : self.stream.remaining = c :: rest) (plain : c ≠ -1)
    (count : Nat) :
    (pairs count self).stream = self.stream ∧
      (pairs count self).getPosition.curPos =
        self.getPosition.curPos + UInt32.ofNat count := by
  induction count generalizing self with
  | zero => exact ⟨rfl, (UInt32.add_zero _).symm⟩
  | succ count inductionHypothesis =>
      obtain ⟨stream, offset⟩ := takenAndPutBack_of_cons good more plain
      obtain ⟨sameStream, counted⟩ :=
        @inductionHypothesis self.takenAndPutBack
          (by rw [stream]; exact good) (by rw [stream]; exact more)
      rw [pairs]
      refine ⟨sameStream.trans stream, counted.trans ?_⟩
      rw [offset, UInt32.ofNat_add, UInt32.add_assoc,
        UInt32.add_comm 1]
      rfl

end PutBack

/-- Putting a character back restores the characters still to come and never
the position: after any number of pairs the stream is as it was, and the absolute
position has moved on by their number. -/
theorem put_back_never_restores {self : CharStream} {c : Int8}
    (returned : self.getNextChar.1 = some c) :
    ¬ Restored self (self.getNextChar.2.putBackChar c) ∧
      (self.getNextChar.2.putBackChar c).stream = self.stream ∧
      ∀ count : Nat,
        (pairs count self).stream = self.stream ∧
          (pairs count self).getPosition.curPos =
            self.getPosition.curPos + UInt32.ofNat count := by
  obtain ⟨good, plain, rest, more⟩ := next_of_returned returned
  have got :=
    getNextChar_of_cons (InputStream.sound_of_good good) more plain
  rw [got]
  refine
    ⟨?_, stream_putBackChar good more, pairs_of_cons good more plain⟩
  intro restored
  have offset := congrArg CharStreamPosition.curPos restored.position
  rw [getPosition_putBackChar, curPos_advanced] at offset
  exact ne_add_one _ offset

/-- One letter. -/
theorem put_back_never_restores_letter :
    (new (InputStream.ofText [97])).getNextChar.1 = some 97 ∧
      ¬ Restored (new (InputStream.ofText [97]))
        ((new (InputStream.ofText [97])).getNextChar.2.putBackChar 97) :=
  have returned :
      (new (InputStream.ofText [97])).getNextChar.1 = some 97 := rfl
  ⟨returned, (put_back_never_restores returned).1⟩

/-- A newline that was put back is still counted. -/
theorem newline_counted_twice :
    (new (InputStream.ofText [10])).getNextChar.1 = some 10 ∧
      ¬ Restored (new (InputStream.ofText [10]))
        ((new (InputStream.ofText [10])).getNextChar.2.putBackChar 10) := by
  refine ⟨rfl, ?_⟩
  intro restored
  have line := congrArg CharStreamPosition.curLine restored.position
  exact absurd line (by decide)

end CharStream

end Lewsql.Compiler
