import Mathlib.Data.List.Basic

/-!
# `CharStream`

A `std::istream` over a string is the characters already taken, the ones still
to come and the three error bits.  `char` is signed on the supported platform, so
a byte is an `Int8`; `get` and `peek` answer with an `int`.
-/

namespace Lewsql.Compiler

/-- `std::istream` with no exceptions enabled.  The characters taken are listed
from the last one back. -/
structure InputStream where
  taken : List Int8
  remaining : List Int8
  eofBit : Bool
  failBit : Bool
  badBit : Bool
  deriving DecidableEq, Repr

/-- `std::char_traits<char>::to_int_type`: the byte as an unsigned value. -/
def toIntType (c : Int8) : Int32 :=
  c.toUInt8.toUInt32.toInt32

def traitsEof : Int32 := -1

namespace InputStream

def ofText (text : List Int8) : InputStream :=
  ⟨[], text, false, false, false⟩

def good (stream : InputStream) : Bool :=
  !stream.eofBit && !stream.failBit && !stream.badBit

def peek (stream : InputStream) : Int32 × InputStream :=
  if stream.good then
    match stream.remaining with
    | [] => (traitsEof, { stream with eofBit := true })
    | c :: _ => (toIntType c, stream)
  else
    (traitsEof, { stream with failBit := true })

def get (stream : InputStream) : Int32 × InputStream :=
  if stream.good then
    match stream.remaining with
    | [] => (traitsEof, { stream with eofBit := true, failBit := true })
    | c :: rest =>
        (toIntType c,
          { stream with taken := c :: stream.taken, remaining := rest })
  else
    (traitsEof, { stream with failBit := true })

/-- `putback`; only the character just taken can be put back. -/
def putback (c : Int8) (stream : InputStream) : InputStream :=
  let stream := { stream with eofBit := false }
  if stream.good then
    match stream.taken with
    | last :: before =>
        if last = c then
          { stream with taken := before, remaining := c :: stream.remaining }
        else
          { stream with badBit := true }
    | [] => { stream with badBit := true }
  else
    { stream with failBit := true }

end InputStream

structure CharStreamPosition where
  curLine : UInt32
  curCol : UInt32
  curPos : UInt32
  deriving DecidableEq, Repr

structure CharStream where
  charStreamPosition : CharStreamPosition
  stream : InputStream
  deriving DecidableEq, Repr

def newline : Int8 := 10

namespace CharStream

def new (stream : InputStream) : CharStream :=
  ⟨⟨0, 0, 0⟩, stream⟩

def getNextChar (self : CharStream) : Option Int8 × CharStream :=
  let (answer, stream) := self.stream.get
  let c := answer.toInt8
  let self := { self with stream := stream }
  if c.toInt32 = traitsEof then
    (none, self)
  else
    let position := self.charStreamPosition
    let position :=
      if c = newline then
        { position with curLine := position.curLine + 1, curCol := 0 }
      else
        position
    let position := { position with curPos := position.curPos + 1 }
    (some c, { self with charStreamPosition := position })

def peekNextChar (self : CharStream) : Option Int8 × CharStream :=
  let (answer, stream) := self.stream.peek
  let c := answer.toInt8
  let self := { self with stream := stream }
  if c.toInt32 = traitsEof then
    (none, self)
  else
    (some c, self)

def putBackChar (c : Int8) (self : CharStream) : CharStream :=
  { self with stream := self.stream.putback c }

/-- `is_end_of_stream`: `peek() && eof()`. -/
def isEndOfStream (self : CharStream) : Bool × CharStream :=
  let (answer, stream) := self.stream.peek
  (answer ≠ 0 && stream.eofBit, { self with stream := stream })

def getPosition (self : CharStream) : CharStreamPosition :=
  self.charStreamPosition

end CharStream

/-! ## Characters across `int` -/

theorem toInt8_toIntType (c : Int8) : (toIntType c).toInt8 = c := by
  apply Int8.toBitVec_inj.mp
  change (c.toBitVec.setWidth 32).signExtend 8 = c.toBitVec
  generalize c.toBitVec = bits
  revert bits
  decide

theorem toInt32_eq_eof (c : Int8) : c.toInt32 = traitsEof ↔ c = -1 := by
  rw [← Int8.toBitVec_inj, ← Int32.toBitVec_inj]
  change c.toBitVec.signExtend 32 = _ ↔ _
  generalize c.toBitVec = bits
  revert bits
  decide

/-! ## What a stream answers -/

namespace InputStream

variable {stream : InputStream} {c : Int8} {rest : List Int8}

theorem peek_of_cons (good : stream.good = true)
    (more : stream.remaining = c :: rest) :
    stream.peek = (toIntType c, stream) := by
  simp only [peek]
  rw [if_pos good, more]

theorem get_of_cons (good : stream.good = true)
    (more : stream.remaining = c :: rest) :
    stream.get =
      (toIntType c,
        { stream with taken := c :: stream.taken, remaining := rest }) := by
  simp only [get]
  rw [if_pos good, more]

theorem peek_of_nil (good : stream.good = true)
    (ended : stream.remaining = []) :
    stream.peek = (traitsEof, { stream with eofBit := true }) := by
  simp only [peek]
  rw [if_pos good]
  split
  · rfl
  · next more =>
      rw [ended] at more
      cases more

theorem get_of_nil (good : stream.good = true)
    (ended : stream.remaining = []) :
    stream.get =
      (traitsEof, { stream with eofBit := true, failBit := true }) := by
  simp only [get]
  rw [if_pos good]
  split
  · rfl
  · next more =>
      rw [ended] at more
      cases more

theorem peek_of_bad (bad : ¬ stream.good = true) :
    stream.peek = (traitsEof, { stream with failBit := true }) := by
  simp only [peek]
  rw [if_neg bad]

theorem get_of_bad (bad : ¬ stream.good = true) :
    stream.get = (traitsEof, { stream with failBit := true }) := by
  simp only [get]
  rw [if_neg bad]

theorem eofBit_of_good (good : stream.good = true) :
    stream.eofBit = false := by
  simp only [InputStream.good] at good
  simp only [Bool.and_eq_true, Bool.not_eq_true'] at good
  exact good.1.1

theorem bad_of_eofBit (eof : stream.eofBit = true) :
    ¬ stream.good = true := by
  intro good
  rw [eofBit_of_good good] at eof
  cases eof

end InputStream

/-! ## Streams that fail only by reaching their end -/

/-- A stream that has not failed for another reason than its end. -/
structure Sound (stream : InputStream) : Prop where
  eof : stream.eofBit = true → stream.remaining = []
  fail : stream.failBit = true → stream.eofBit = true
  bad : stream.badBit = false

/-- A sound stream over a text without the byte `0xFF`. -/
structure Intact (stream : InputStream) : Prop extends Sound stream where
  plain : ∀ c ∈ stream.remaining, c ≠ -1

theorem Intact.next_ne {stream : InputStream} {c : Int8}
    {rest : List Int8} (intact : Intact stream)
    (more : stream.remaining = c :: rest) : c ≠ -1 := by
  apply intact.plain
  rw [more]
  exact List.mem_cons_self

/-- Short of its end nothing has failed. -/
theorem Sound.good_of_noEof {stream : InputStream} (sound : Sound stream)
    (noEof : stream.eofBit = false) : stream.good = true := by
  have noFail : stream.failBit = false := by
    apply eq_false_of_ne_true
    intro set
    have failed := sound.fail set
    rw [noEof] at failed
    cases failed
  simp [InputStream.good, noEof, noFail, sound.bad]

theorem Sound.good_of_cons {stream : InputStream} {c : Int8}
    {rest : List Int8} (sound : Sound stream)
    (more : stream.remaining = c :: rest) : stream.good = true := by
  apply sound.good_of_noEof
  apply eq_false_of_ne_true
  intro set
  have ended := sound.eof set
  rw [more] at ended
  cases ended

theorem InputStream.sound_of_good {stream : InputStream}
    (good : stream.good = true) : Sound stream := by
  have noEof := eofBit_of_good good
  simp only [InputStream.good] at good
  simp only [Bool.and_eq_true, Bool.not_eq_true'] at good
  refine ⟨?_, ?_, good.2⟩
  · intro set
    rw [noEof] at set
    cases set
  · intro set
    rw [good.1.2] at set
    cases set

/-- At its end a sound stream answers with the end. -/
theorem Sound.peek_of_nil {stream : InputStream} (sound : Sound stream)
    (ended : stream.remaining = []) :
    ∃ after, stream.peek = (traitsEof, after) ∧
      after.eofBit = true ∧ Sound after ∧ after.remaining = [] := by
  cases eof : stream.eofBit with
  | false =>
      refine
        ⟨_, InputStream.peek_of_nil (sound.good_of_noEof eof) ended, rfl,
          ⟨fun _ => ended, fun _ => rfl, sound.bad⟩, ended⟩
  | true =>
      refine
        ⟨_, InputStream.peek_of_bad (InputStream.bad_of_eofBit eof), eof,
          ⟨fun _ => ended, fun _ => eof, sound.bad⟩, ended⟩

theorem Sound.get_of_nil {stream : InputStream} (sound : Sound stream)
    (ended : stream.remaining = []) :
    ∃ after, stream.get = (traitsEof, after) ∧
      after.eofBit = true ∧ Sound after ∧ after.remaining = [] := by
  cases eof : stream.eofBit with
  | false =>
      refine
        ⟨_, InputStream.get_of_nil (sound.good_of_noEof eof) ended, rfl,
          ⟨fun _ => ended, fun _ => rfl, sound.bad⟩, ended⟩
  | true =>
      refine
        ⟨_, InputStream.get_of_bad (InputStream.bad_of_eofBit eof), eof,
          ⟨fun _ => ended, fun _ => eof, sound.bad⟩, ended⟩

theorem intact_ofText {text : List Int8} (plain : ∀ c ∈ text, c ≠ -1) :
    Intact (InputStream.ofText text) :=
  ⟨InputStream.sound_of_good rfl, plain⟩

namespace CharStream

variable {self : CharStream} {c : Int8} {rest : List Int8}

private theorem notEof_of_ne (plain : c ≠ -1) :
    ¬ (toIntType c).toInt8.toInt32 = traitsEof := by
  rw [toInt8_toIntType, toInt32_eq_eof]
  exact plain

/-- Where characters remain, the questions change nothing. -/
theorem isEndOfStream_of_cons (sound : Sound self.stream)
    (more : self.stream.remaining = c :: rest) :
    self.isEndOfStream = (false, self) := by
  have good := sound.good_of_cons more
  simp only [isEndOfStream]
  rw [InputStream.peek_of_cons good more]
  simp only [InputStream.eofBit_of_good good, Bool.and_false]

theorem peekNextChar_of_cons (sound : Sound self.stream)
    (more : self.stream.remaining = c :: rest) (plain : c ≠ -1) :
    self.peekNextChar = (some c, self) := by
  simp only [peekNextChar]
  rw [InputStream.peek_of_cons (sound.good_of_cons more) more]
  dsimp only
  rw [if_neg (notEof_of_ne plain), toInt8_toIntType]

/-- The byte `0xFF` is taken for the end. -/
theorem peekNextChar_of_eof (sound : Sound self.stream)
    (more : self.stream.remaining = -1 :: rest) :
    self.peekNextChar = (none, self) := by
  simp only [peekNextChar]
  rw [InputStream.peek_of_cons (sound.good_of_cons more) more]
  rfl

def advanced (self : CharStream) (c : Int8) (rest : List Int8) :
    CharStream where
  charStreamPosition :=
    { curLine :=
        if c = newline then self.charStreamPosition.curLine + 1
        else self.charStreamPosition.curLine
      curCol :=
        if c = newline then 0 else self.charStreamPosition.curCol
      curPos := self.charStreamPosition.curPos + 1 }
  stream :=
    { self.stream with
      taken := c :: self.stream.taken, remaining := rest }

@[simp]
theorem advanced_remaining :
    (self.advanced c rest).stream.remaining = rest :=
  rfl

theorem getNextChar_of_cons (sound : Sound self.stream)
    (more : self.stream.remaining = c :: rest) (plain : c ≠ -1) :
    self.getNextChar = (some c, self.advanced c rest) := by
  simp only [getNextChar]
  rw [InputStream.get_of_cons (sound.good_of_cons more) more]
  dsimp only
  rw [if_neg (notEof_of_ne plain), toInt8_toIntType]
  by_cases lineEnd : c = newline
  · simp only [advanced, if_pos lineEnd]
  · simp only [advanced, if_neg lineEnd]

theorem sound_advanced (sound : Sound self.stream)
    (more : self.stream.remaining = c :: rest) :
    Sound (self.advanced c rest).stream :=
  InputStream.sound_of_good (sound.good_of_cons more)

/-- No character is seen in a stream that has nothing to read. -/
theorem peekNextChar_of_traitsEof {stream : InputStream}
    (peeked : self.stream.peek = (traitsEof, stream)) :
    self.peekNextChar = (none, { self with stream := stream }) := by
  simp only [peekNextChar]
  rw [peeked]
  rfl

theorem getNextChar_of_traitsEof {stream : InputStream}
    (got : self.stream.get = (traitsEof, stream)) :
    self.getNextChar = (none, { self with stream := stream }) := by
  simp only [getNextChar]
  rw [got]
  rfl

theorem isEndOfStream_of_traitsEof {stream : InputStream}
    (peeked : self.stream.peek = (traitsEof, stream)) :
    self.isEndOfStream =
      (stream.eofBit, { self with stream := stream }) := by
  simp only [isEndOfStream]
  rw [peeked]
  rfl

/-- At the end the question sets the error bits and changes nothing else. -/
theorem isEndOfStream_of_nil (sound : Sound self.stream)
    (ended : self.stream.remaining = []) :
    self.isEndOfStream.1 = true ∧
      Sound self.isEndOfStream.2.stream ∧
      self.isEndOfStream.2.stream.remaining = [] := by
  obtain ⟨after, peeked, eof, stillSound, empty⟩ :=
    sound.peek_of_nil ended
  rw [isEndOfStream_of_traitsEof peeked]
  exact ⟨eof, stillSound, empty⟩

end CharStream

end Lewsql.Compiler
