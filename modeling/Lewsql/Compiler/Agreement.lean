import Lewsql.Compiler.Lexer

/-!
# The questions of a character stream

`is_end_of_stream`, `peek_next_char` and `get_next_char` look for the end in
three ways.  They agree unless the next byte is `0xFF`, which as a `char` is the
end-of-file value, or the stream has failed without reaching its end, which
`is_end_of_stream` does not ask for.
-/

namespace Lewsql.Compiler

/-- The stream is at its end, or it is good and a text is without the byte
`0xFF`. -/
def InputStream.ReadsWell (stream : InputStream) (text : List Int8) :
    Prop :=
  stream.eofBit = true ∨ stream.good = true ∧ -1 ∉ text

/-- It reads well with fewer bytes to look at. -/
theorem InputStream.ReadsWell.mono {stream : InputStream}
    {text other : List Int8} (reads : stream.ReadsWell text)
    (more : -1 ∈ other → -1 ∈ text) : stream.ReadsWell other := by
  rcases reads with ended | ⟨good, absent⟩
  · exact Or.inl ended
  · exact Or.inr ⟨good, fun met => absent (more met)⟩

namespace CharStream

/-- The three questions agree about the end and about the next character; to
peek takes nothing, and to get takes that character. -/
structure Agrees (before : CharStream) : Prop where
  peeks :
    before.isEndOfStream.1 = false ↔ before.peekNextChar.1.isSome
  gets :
    before.isEndOfStream.1 = false ↔ before.getNextChar.1.isSome
  keeps :
    before.peekNextChar.2.stream.taken = before.stream.taken ∧
      before.peekNextChar.2.stream.remaining = before.stream.remaining
  next :
    before.isEndOfStream.1 = false →
      ∃ c rest, before.stream.remaining = c :: rest ∧
        before.peekNextChar.1 = some c ∧
        before.getNextChar.1 = some c ∧
        before.getNextChar.2.stream.taken = c :: before.stream.taken ∧
        before.getNextChar.2.stream.remaining = rest

section Questions

variable {self : CharStream} {c : Int8} {rest : List Int8}

theorem agrees_of_cons (good : self.stream.good = true)
    (more : self.stream.remaining = c :: rest) (plain : c ≠ -1) :
    Agrees self := by
  have sound := InputStream.sound_of_good good
  have going := isEndOfStream_of_cons sound more
  have peeked := peekNextChar_of_cons sound more plain
  have got := getNextChar_of_cons sound more plain
  constructor
  · rw [going, peeked]
    exact ⟨fun _ => rfl, fun _ => rfl⟩
  · rw [going, got]
    exact ⟨fun _ => rfl, fun _ => rfl⟩
  · rw [peeked]
    exact ⟨rfl, rfl⟩
  · intro _
    rw [peeked, got]
    exact ⟨c, rest, more, rfl, rfl, rfl, rfl⟩

theorem not_agrees_of_eof (good : self.stream.good = true)
    (more : self.stream.remaining = -1 :: rest) : ¬ Agrees self := by
  have sound := InputStream.sound_of_good good
  intro agrees
  have peeks := agrees.peeks
  rw [isEndOfStream_of_cons sound more, peekNextChar_of_eof sound more]
    at peeks
  exact absurd (peeks.mp rfl) Bool.false_ne_true

/-- Where no character is seen, the questions agree if the stream says that it
is at its end. -/
theorem agrees_iff_of_traitsEof {peeked got : InputStream}
    (peeks : self.stream.peek = (traitsEof, peeked))
    (gets : self.stream.get = (traitsEof, got))
    (keeps : peeked.taken = self.stream.taken ∧
      peeked.remaining = self.stream.remaining) :
    Agrees self ↔ peeked.eofBit = true := by
  have asked := isEndOfStream_of_traitsEof peeks
  have seen := peekNextChar_of_traitsEof peeks
  have read := getNextChar_of_traitsEof gets
  constructor
  · intro agrees
    have same := agrees.peeks
    rw [asked, seen] at same
    apply eq_true_of_ne_false
    intro notEnd
    exact absurd (same.mp notEnd) Bool.false_ne_true
  · intro ended
    have notMore : ¬ self.isEndOfStream.1 = false := by
      rw [asked]
      simp [ended]
    constructor
    · rw [seen]
      exact iff_of_false notMore Bool.false_ne_true
    · rw [read]
      exact iff_of_false notMore Bool.false_ne_true
    · rw [seen]
      exact keeps
    · intro more
      exact absurd more notMore

theorem agrees_iff (self : CharStream) :
    Agrees self ↔
      self.stream.ReadsWell (self.stream.remaining.take 1) := by
  simp only [InputStream.ReadsWell]
  by_cases good : self.stream.good = true
  · have noEof := InputStream.eofBit_of_good good
    cases more : self.stream.remaining with
    | nil =>
        have agrees :=
          (agrees_iff_of_traitsEof
            (InputStream.peek_of_nil good more)
            (InputStream.get_of_nil good more) ⟨rfl, rfl⟩).mpr rfl
        exact iff_of_true agrees (Or.inr ⟨good, List.not_mem_nil⟩)
    | cons c rest =>
        by_cases plain : c = -1
        · subst plain
          refine iff_of_false (not_agrees_of_eof good more) ?_
          intro either
          rcases either with ended | ⟨_, absent⟩
          · rw [noEof] at ended
            cases ended
          · exact absent List.mem_cons_self
        · refine iff_of_true (agrees_of_cons good more plain) ?_
          refine Or.inr ⟨good, ?_⟩
          intro met
          exact plain (List.mem_singleton.mp met).symm
  · have ends :=
      agrees_iff_of_traitsEof (InputStream.peek_of_bad good)
        (InputStream.get_of_bad good) ⟨rfl, rfl⟩
    rw [ends]
    constructor
    · intro ended
      exact Or.inl ended
    · intro either
      rcases either with ended | ⟨wasGood, _⟩
      · exact ended
      · exact absurd wasGood good

end Questions

end CharStream

namespace Lexer

/-- The call returns; so it unwraps no empty optional. -/
def Call.Returns (self : CharStream) (call : Call) : Prop :=
  ∃ answer after, call.perform.run self = .ok (answer, after)

section Returning

variable {self : CharStream}

/-- A stream that is not good says whether it reached its end, and stays as it
is. -/
theorem asked_of_bad (bad : ¬ self.stream.good = true) :
    ∃ after, self.isEndOfStream = (self.stream.eofBit, after) ∧
      ¬ after.stream.good = true ∧
      after.stream.eofBit = self.stream.eofBit := by
  have asked :=
    CharStream.isEndOfStream_of_traitsEof (InputStream.peek_of_bad bad)
  refine
    ⟨{ self with stream := { self.stream with failBit := true } }, asked,
      ?_, rfl⟩
  simp [InputStream.good]

theorem skipWhitespace_of_eof (eof : self.stream.eofBit = true) :
    ∃ after, skipWhitespace.run self = .ok ((), after) ∧
      after.stream.eofBit = true := by
  obtain ⟨after, asked, _, stillEof⟩ :=
    asked_of_bad (InputStream.bad_of_eofBit eof)
  rw [eof] at asked stillEof
  refine ⟨after, ?_, stillEof⟩
  simp [skipWhitespace, skipWhitespaceLoop, asked]
  rfl

theorem returns_of_eof (eof : self.stream.eofBit = true)
    (call : Call) : call.Returns self := by
  obtain ⟨middle, skipped, middleEof⟩ := skipWhitespace_of_eof eof
  obtain ⟨after, asked, _⟩ :=
    asked_of_bad (InputStream.bad_of_eofBit middleEof)
  rw [middleEof] at asked
  cases call with
  | hasNextToken =>
      refine ⟨.flag false, after, ?_⟩
      simp [Call.perform, hasNextToken, skipped, asked]
  | getNextToken =>
      refine ⟨.token (some []), after, ?_⟩
      simp [Call.perform, getNextToken, getNextTokenLoop, skipped, asked]
      rfl
  | skipWhitespace =>
      refine ⟨.none, middle, ?_⟩
      simp [Call.perform, skipped]

/-- A stream that failed before its end gives no character and is not at its
end. -/
theorem skipWhitespace_of_failed (bad : ¬ self.stream.good = true)
    (noEof : self.stream.eofBit = false) :
    skipWhitespace.run self = .error .badOptionalAccess := by
  obtain ⟨middle, asked, stillBad, _⟩ := asked_of_bad bad
  rw [noEof] at asked
  have seen :=
    CharStream.peekNextChar_of_traitsEof (InputStream.peek_of_bad stillBad)
  simp [skipWhitespace, skipWhitespaceLoop, asked, seen]

theorem perform_of_failed (bad : ¬ self.stream.good = true)
    (noEof : self.stream.eofBit = false) (call : Call) :
    call.perform.run self = .error .badOptionalAccess := by
  have failed := skipWhitespace_of_failed bad noEof
  cases call with
  | hasNextToken => simp [Call.perform, hasNextToken, failed]
  | getNextToken => simp [Call.perform, getNextToken, failed]
  | skipWhitespace => simp [Call.perform, failed]

theorem eof_mem_firstRun_of_next {rest : List Int8}
    (next : -1 ∈ rest.take 1) : -1 ∈ firstRun rest := by
  apply eof_mem_firstRun
  cases rest with
  | nil => cases next
  | cons c later =>
      have same : -1 = c := List.mem_singleton.mp next
      subst same
      have plain : ¬ charIsWhitespace (-1) = true := by
        rw [charIsWhitespace_eof]
        exact Bool.false_ne_true
      simp only [unspaced]
      rw [List.dropWhile_cons_of_neg plain]
      exact next

theorem eof_mem_firstRun_of_call {rest : List Int8} (call : Call)
    (met : -1 ∈ call.looksAt rest) : -1 ∈ firstRun rest := by
  cases call with
  | hasNextToken => exact eof_mem_firstRun met
  | getNextToken => exact met
  | skipWhitespace => exact eof_mem_firstRun met

/-- A call either returns or unwraps an empty optional. -/
theorem returns_iff (self : CharStream) (call : Call) :
    call.Returns self ↔
      self.stream.ReadsWell (call.looksAt self.stream.remaining) := by
  simp only [InputStream.ReadsWell]
  have not_returns
      (failed : call.perform.run self = .error .badOptionalAccess) :
      ¬ call.Returns self := by
    intro ⟨answer, after, ran⟩
    rw [failed] at ran
    cases ran
  cases eof : self.stream.eofBit with
  | true => exact iff_of_true (returns_of_eof eof call) (Or.inl rfl)
  | false =>
      by_cases good : self.stream.good = true
      · have outcome :=
          perform_outcome (InputStream.sound_of_good good) call
        constructor
        · intro returns
          refine Or.inr ⟨good, ?_⟩
          intro met
          exact not_returns (outcome.fails met) returns
        · intro either
          rcases either with ended | ⟨_, absent⟩
          · cases ended
          · obtain ⟨after, ran, _⟩ := outcome.returns absent
            exact ⟨_, after, ran⟩
      · refine iff_of_false
          (not_returns (perform_of_failed good eof call)) ?_
        intro either
        rcases either with ended | ⟨wasGood, _⟩
        · cases ended
        · exact good wasGood

end Returning

/-- On every stream the questions agree and all calls of the lexer return exactly
when the stream is at its end, or is good and the byte `0xFF` is not in the first
run of characters that are not whitespace.  The questions by themselves only
need the next byte to be another, and a call the bytes that it looks at. -/
theorem stream_agrees_iff (self : CharStream) :
    ((CharStream.Agrees self ∧ ∀ call : Call, call.Returns self) ↔
        self.stream.ReadsWell (firstRun self.stream.remaining)) ∧
      (CharStream.Agrees self ↔
        self.stream.ReadsWell (self.stream.remaining.take 1)) ∧
      ∀ call : Call,
        call.Returns self ↔
          self.stream.ReadsWell (call.looksAt self.stream.remaining) := by
  have agrees := CharStream.agrees_iff self
  have returns := returns_iff self
  refine ⟨?_, agrees, returns⟩
  constructor
  · intro both
    exact (returns .getNextToken).mp (both.2 .getNextToken)
  · intro reads
    constructor
    · exact agrees.mpr (reads.mono eof_mem_firstRun_of_next)
    · intro call
      exact (returns call).mpr (reads.mono (eof_mem_firstRun_of_call call))

/-- A good stream on the byte `0xFF`. -/
theorem high_byte_not_seen :
    ¬ CharStream.Agrees (CharStream.new (InputStream.ofText [-1])) ∧
      getNextToken.run (CharStream.new (InputStream.ofText [-1])) =
        .error .badOptionalAccess := by
  constructor
  · exact CharStream.not_agrees_of_eof rfl rfl
  · exact
      (getNextToken_outcome (InputStream.sound_of_good rfl)).fails
        (by decide)

end Lexer

end Lewsql.Compiler
