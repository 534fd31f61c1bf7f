import Lewsql.Compiler.CharStream
import Lewsql.Interaction.Machine
import Lewsql.Text.Runs

/-!
# `Lexer`

The lexer owns a `CharStream` and nothing else.  Its loops run on fuel, one unit
for each round; a lexer that would go round more often than there are characters
left, and once more to see the end, runs out of it.  On a text without the byte
`0xFF` no call runs out or unwraps an empty optional, and the calls split the text
into its maximal runs of characters that are not whitespace.
-/

namespace Lewsql.Compiler

open Interaction Text

inductive LexerFailure where
  /-- `std::bad_optional_access`. -/
  | badOptionalAccess
  | outOfFuel
  deriving DecidableEq, Repr

abbrev Lexing := StateT CharStream (Except LexerFailure)

def onStream {Value : Type} (member : CharStream → Value × CharStream) :
    Lexing Value :=
  fun self => .ok (member self)

/-- `std::optional::value`. -/
def valueOf {Value : Type} : Option Value → Lexing Value
  | some value => pure value
  | none => throw .badOptionalAccess

namespace Lexer

abbrev Token := List Int8

/-- `char_is_whitespace`: space, tab, newline and carriage return. -/
def charIsWhitespace (c : Int8) : Bool :=
  c == 32 || c == 9 || c == 10 || c == 13

def skipWhitespaceLoop : Nat → Lexing Unit
  | 0 => throw .outOfFuel
  | fuel + 1 => do
      if ← onStream CharStream.isEndOfStream then
        return ()
      else if charIsWhitespace
          (← valueOf (← onStream CharStream.peekNextChar)) then
        let _ ← onStream CharStream.getNextChar
        skipWhitespaceLoop fuel
      else
        return ()

/-- A round for each character left and one to see the end. -/
def roundsLeft : Lexing Nat := do
  let self ← get
  return self.stream.remaining.length + 1

def skipWhitespace : Lexing Unit := do
  skipWhitespaceLoop (← roundsLeft)

def hasNextToken : Lexing Bool := do
  skipWhitespace
  return !(← onStream CharStream.isEndOfStream)

def getNextTokenLoop : Nat → Token → Lexing Token
  | 0, _ => throw .outOfFuel
  | fuel + 1, token => do
      if ← onStream CharStream.isEndOfStream then
        return token
      else if !charIsWhitespace
          (← valueOf (← onStream CharStream.peekNextChar)) then
        let c ← valueOf (← onStream CharStream.getNextChar)
        getNextTokenLoop fuel (token ++ [c])
      else
        return token

def getNextToken : Lexing (Option Token) := do
  skipWhitespace
  return some (← getNextTokenLoop (← roundsLeft) [])

/-! ## What the loops do -/

section Loops

variable {self : CharStream}

@[simp]
theorem onStream_run {Value : Type}
    (member : CharStream → Value × CharStream) :
    (onStream member).run self = .ok (member self) :=
  rfl

@[simp]
theorem valueOf_run {Value : Type} (value : Value) :
    (valueOf (some value)).run self = .ok (value, self) :=
  rfl

@[simp]
theorem roundsLeft_run :
    roundsLeft.run self =
      .ok (self.stream.remaining.length + 1, self) :=
  rfl

@[simp]
theorem except_ok_bind {Failure First Second : Type} (value : First)
    (next : First → Except Failure Second) :
    (Except.ok value >>= next) = next value :=
  rfl

@[simp]
theorem except_error_bind {Failure First Second : Type}
    (failure : Failure) (next : First → Except Failure Second) :
    (Except.error failure >>= next) = .error failure :=
  rfl

@[simp]
theorem valueOf_none_run {Value : Type} :
    (valueOf (none : Option Value)).run self =
      .error .badOptionalAccess :=
  rfl

/-- A call that leaves an intact stream with these characters to come. -/
def Leaves {Value : Type} (member : Lexing Value) (self : CharStream)
    (value : Value) (rest : List Int8) : Prop :=
  ∃ after, member.run self = .ok (value, after) ∧
    Intact after.stream ∧ after.stream.remaining = rest

/-- A call that unwraps an empty optional when the byte `0xFF` is among the
characters it looks at, and leaves a sound stream otherwise. -/
structure LeavesUnless {Value : Type} (looksAt : List Int8)
    (member : Lexing Value) (before : CharStream) (value : Value)
    (rest : List Int8) : Prop where
  fails : -1 ∈ looksAt → member.run before = .error .badOptionalAccess
  returns : -1 ∉ looksAt →
    ∃ after, member.run before = .ok (value, after) ∧
      Sound after.stream ∧ after.stream.remaining = rest

theorem LeavesUnless.leaves {Value : Type} {looksAt : List Int8}
    {member : Lexing Value} {value : Value} {rest : List Int8}
    (outcome : LeavesUnless looksAt member self value rest)
    (intact : Intact self.stream)
    (seen : looksAt.Sublist self.stream.remaining)
    (left : rest.Sublist self.stream.remaining) :
    Leaves member self value rest := by
  have absent : -1 ∉ looksAt := fun met =>
    intact.plain (-1) (seen.subset met) rfl
  obtain ⟨after, ran, sound, remaining⟩ := outcome.returns absent
  refine ⟨after, ran, ⟨sound, ?_⟩, remaining⟩
  rw [remaining]
  exact fun c member => intact.plain c (left.subset member)

theorem LeavesUnless.map {Value Other : Type} {looksAt : List Int8}
    {member : Lexing Value} {value : Value} {rest : List Int8}
    (outcome : LeavesUnless looksAt member self value rest)
    (change : Value → Other) :
    LeavesUnless looksAt (do return change (← member)) self
      (change value) rest := by
  constructor
  · intro met
    simp [outcome.fails met]
  · intro absent
    obtain ⟨after, ran, left⟩ := outcome.returns absent
    refine ⟨after, ?_, left⟩
    simp [ran]

/-- A call that goes on as another does. -/
theorem LeavesUnless.of_run {Value : Type} {looksAt wider : List Int8}
    {member other : Lexing Value} {later : CharStream} {value : Value}
    {rest : List Int8}
    (outcome : LeavesUnless looksAt other later value rest)
    (round : member.run self = other.run later)
    (same : -1 ∈ wider ↔ -1 ∈ looksAt) :
    LeavesUnless wider member self value rest := by
  constructor
  · intro met
    rw [round]
    exact outcome.fails (same.mp met)
  · intro absent
    rw [round]
    exact outcome.returns fun met => absent (same.mpr met)

theorem charIsWhitespace_eof : charIsWhitespace (-1) = false := by
  decide

theorem ne_eof_of_white {c : Int8} (white : charIsWhitespace c = true) :
    c ≠ -1 := by
  intro same
  rw [same, charIsWhitespace_eof] at white
  cases white

/-- The whitespace in front is skipped, up to a character that is looked at. -/
theorem skipWhitespaceLoop_outcome {fuel : Nat}
    (sound : Sound self.stream)
    (enough : self.stream.remaining.length < fuel) :
    LeavesUnless
      ((self.stream.remaining.dropWhile charIsWhitespace).take 1)
      (skipWhitespaceLoop fuel) self ()
      (self.stream.remaining.dropWhile charIsWhitespace) := by
  induction fuel generalizing self with
  | zero => omega
  | succ fuel inductionHypothesis =>
      cases more : self.stream.remaining with
      | nil =>
          obtain ⟨ended, stillSound, empty⟩ :=
            CharStream.isEndOfStream_of_nil sound more
          constructor
          · intro met
            cases met
          · intro _
            refine ⟨self.isEndOfStream.2, ?_, stillSound, empty⟩
            simp [skipWhitespaceLoop, ended]
            rfl
      | cons c rest =>
          have going := CharStream.isEndOfStream_of_cons sound more
          by_cases white : charIsWhitespace c = true
          · have plain := ne_eof_of_white white
            have peeked := CharStream.peekNextChar_of_cons sound more plain
            have taken := CharStream.getNextChar_of_cons sound more plain
            have fewer : rest.length < fuel := by
              rw [more, List.length_cons] at enough
              omega
            have later :=
              inductionHypothesis (CharStream.sound_advanced sound more)
                fewer
            have round :
                (skipWhitespaceLoop (fuel + 1)).run self =
                  (skipWhitespaceLoop fuel).run
                    (self.advanced c rest) := by
              simp [skipWhitespaceLoop, going, peeked, taken, white]
            rw [List.dropWhile_cons_of_pos white]
            exact later.of_run round Iff.rfl
          · rw [List.dropWhile_cons_of_neg white]
            constructor
            · intro met
              have same : -1 = c := List.mem_singleton.mp met
              subst same
              have peeked := CharStream.peekNextChar_of_eof sound more
              simp [skipWhitespaceLoop, going, peeked]
            · intro absent
              have plain : c ≠ -1 := fun same =>
                absent (same ▸ List.mem_cons_self)
              have peeked :=
                CharStream.peekNextChar_of_cons sound more plain
              refine ⟨self, ?_, sound, more⟩
              simp [skipWhitespaceLoop, going, peeked, white]
              rfl

/-- The characters up to the next whitespace are taken. -/
theorem getNextTokenLoop_outcome {fuel : Nat} {token : Token}
    (sound : Sound self.stream)
    (enough : self.stream.remaining.length < fuel) :
    LeavesUnless
      (self.stream.remaining.takeWhile fun c => !charIsWhitespace c)
      (getNextTokenLoop fuel token) self
      (token ++
        self.stream.remaining.takeWhile fun c => !charIsWhitespace c)
      (self.stream.remaining.dropWhile fun c => !charIsWhitespace c) := by
  induction fuel generalizing self token with
  | zero => omega
  | succ fuel inductionHypothesis =>
      cases more : self.stream.remaining with
      | nil =>
          obtain ⟨ended, stillSound, empty⟩ :=
            CharStream.isEndOfStream_of_nil sound more
          constructor
          · intro met
            cases met
          · intro _
            refine ⟨self.isEndOfStream.2, ?_, stillSound, empty⟩
            simp [getNextTokenLoop, ended]
            rfl
      | cons c rest =>
          have going := CharStream.isEndOfStream_of_cons sound more
          by_cases white : charIsWhitespace c = true
          · have plain := ne_eof_of_white white
            have peeked := CharStream.peekNextChar_of_cons sound more plain
            rw [List.takeWhile_cons_of_neg (by simp [white]),
              List.dropWhile_cons_of_neg (by simp [white])]
            constructor
            · intro met
              cases met
            · intro _
              refine ⟨self, ?_, sound, more⟩
              simp [getNextTokenLoop, going, peeked, white]
              rfl
          · rw [List.takeWhile_cons_of_pos (by simp [white]),
              List.dropWhile_cons_of_pos (by simp [white])]
            by_cases plain : c = -1
            · subst plain
              have peeked := CharStream.peekNextChar_of_eof sound more
              constructor
              · intro _
                simp [getNextTokenLoop, going, peeked]
              · intro absent
                exact absurd List.mem_cons_self absent
            · have peeked :=
                CharStream.peekNextChar_of_cons sound more plain
              have taken := CharStream.getNextChar_of_cons sound more plain
              have fewer : rest.length < fuel := by
                rw [more, List.length_cons] at enough
                omega
              have later :=
                @inductionHypothesis _ (token ++ [c])
                  (CharStream.sound_advanced sound more) fewer
              rw [List.append_assoc] at later
              have round :
                  (getNextTokenLoop (fuel + 1) token).run self =
                    (getNextTokenLoop fuel (token ++ [c])).run
                      (self.advanced c rest) := by
                simp [getNextTokenLoop, going, peeked, taken, white]
              have same :
                  -1 ∈ c :: rest.takeWhile (fun c => !charIsWhitespace c) ↔
                    -1 ∈ rest.takeWhile fun c => !charIsWhitespace c := by
                rw [List.mem_cons]
                exact or_iff_right (Ne.symm plain)
              exact later.of_run round same

end Loops

/-! ## Calls -/

inductive Call where
  | hasNextToken
  | getNextToken
  | skipWhitespace
  deriving DecidableEq, Repr

inductive Answer where
  | flag (more : Bool)
  | token (token : Option Token)
  | none
  deriving DecidableEq, Repr

def Call.perform : Call → Lexing Answer
  | .hasNextToken => return .flag (← Lexer.hasNextToken)
  | .getNextToken => return .token (← Lexer.getNextToken)
  | .skipWhitespace => do
      Lexer.skipWhitespace
      return .none

/-- What is left after the whitespace in front. -/
def unspaced (rest : List Int8) : List Int8 :=
  rest.dropWhile charIsWhitespace

/-- The first run of what is left, empty at the end. -/
def firstRun (rest : List Int8) : Token :=
  (unspaced rest).takeWhile fun c => !charIsWhitespace c

def Call.answer (rest : List Int8) : Call → Answer
  | .hasNextToken => .flag !(unspaced rest).isEmpty
  | .getNextToken => .token (some (firstRun rest))
  | .skipWhitespace => .none

def Call.left (rest : List Int8) : Call → List Int8
  | .hasNextToken => unspaced rest
  | .getNextToken =>
      (unspaced rest).dropWhile fun c => !charIsWhitespace c
  | .skipWhitespace => unspaced rest

/-- The characters that can end a call, by being the byte `0xFF`. -/
def Call.looksAt (rest : List Int8) : Call → List Int8
  | .hasNextToken => (unspaced rest).take 1
  | .getNextToken => firstRun rest
  | .skipWhitespace => (unspaced rest).take 1

section Calls

variable {self : CharStream} {rest : List Int8}

theorem unspaced_sublist (rest : List Int8) :
    (unspaced rest).Sublist rest :=
  List.dropWhile_sublist charIsWhitespace

theorem firstRun_sublist (rest : List Int8) :
    (firstRun rest).Sublist rest :=
  (List.takeWhile_sublist _).trans (unspaced_sublist rest)

theorem Call.looksAt_sublist (rest : List Int8) (call : Call) :
    (call.looksAt rest).Sublist rest := by
  cases call with
  | hasNextToken =>
      exact (List.take_sublist 1 _).trans (unspaced_sublist rest)
  | getNextToken => exact firstRun_sublist rest
  | skipWhitespace =>
      exact (List.take_sublist 1 _).trans (unspaced_sublist rest)

theorem Call.left_sublist (rest : List Int8) (call : Call) :
    (call.left rest).Sublist rest := by
  cases call with
  | hasNextToken => exact unspaced_sublist rest
  | getNextToken =>
      exact (List.dropWhile_sublist _).trans (unspaced_sublist rest)
  | skipWhitespace => exact unspaced_sublist rest

/-- The byte `0xFF` is no whitespace. -/
theorem eof_mem_firstRun (first : -1 ∈ (unspaced rest).take 1) :
    -1 ∈ firstRun rest := by
  simp only [firstRun]
  cases more : unspaced rest with
  | nil =>
      rw [more] at first
      cases first
  | cons c later =>
      rw [more] at first
      have same : -1 = c := List.mem_singleton.mp first
      subst same
      rw [List.takeWhile_cons_of_pos (by rw [charIsWhitespace_eof]; rfl)]
      exact List.mem_cons_self

theorem skipWhitespace_outcome (sound : Sound self.stream) :
    LeavesUnless ((unspaced self.stream.remaining).take 1)
      skipWhitespace self () (unspaced self.stream.remaining) := by
  have outcome :=
    skipWhitespaceLoop_outcome sound
      (Nat.lt_succ_self self.stream.remaining.length)
  have round :
      skipWhitespace.run self =
        (skipWhitespaceLoop (self.stream.remaining.length + 1)).run
          self := by
    simp [skipWhitespace]
  exact outcome.of_run round Iff.rfl

theorem hasNextToken_outcome (sound : Sound self.stream) :
    LeavesUnless ((unspaced self.stream.remaining).take 1)
      hasNextToken self (!(unspaced self.stream.remaining).isEmpty)
      (unspaced self.stream.remaining) := by
  constructor
  · intro met
    have failed := (skipWhitespace_outcome sound).fails met
    simp [hasNextToken, failed]
  · intro absent
    obtain ⟨middle, skipped, stillSound, left⟩ :=
      (skipWhitespace_outcome sound).returns absent
    cases more : middle.stream.remaining with
    | nil =>
        obtain ⟨ended, endSound, empty⟩ :=
          CharStream.isEndOfStream_of_nil stillSound more
        refine ⟨middle.isEndOfStream.2, ?_, endSound, ?_⟩
        · rw [← left, more]
          simp [hasNextToken, skipped, ended]
        · rw [empty, ← left, more]
    | cons c rest =>
        have going := CharStream.isEndOfStream_of_cons stillSound more
        refine ⟨middle, ?_, stillSound, left⟩
        rw [← left, more]
        simp [hasNextToken, skipped, going]

theorem getNextToken_outcome (sound : Sound self.stream) :
    LeavesUnless (firstRun self.stream.remaining) getNextToken self
      (some (firstRun self.stream.remaining))
      ((unspaced self.stream.remaining).dropWhile fun c =>
        !charIsWhitespace c) := by
  have skips := skipWhitespace_outcome sound
  by_cases first : -1 ∈ (unspaced self.stream.remaining).take 1
  · have failed := skips.fails first
    constructor
    · intro _
      simp [getNextToken, failed]
    · intro absent
      exact absurd (eof_mem_firstRun first) absent
  · obtain ⟨middle, skipped, stillSound, left⟩ := skips.returns first
    have outcome :=
      @getNextTokenLoop_outcome middle _ [] stillSound
        (Nat.lt_succ_self middle.stream.remaining.length)
    rw [left, List.nil_append] at outcome
    constructor
    · intro met
      have failed := outcome.fails met
      simp [getNextToken, skipped, left, failed]
    · intro absent
      obtain ⟨after, ran, endSound, empty⟩ := outcome.returns absent
      refine ⟨after, ?_, endSound, empty⟩
      simp [getNextToken, skipped, left, ran, firstRun]

/-- Every call that does not meet the byte `0xFF` returns, with an answer and a
rest that depend on what is left alone. -/
theorem perform_outcome (sound : Sound self.stream) (call : Call) :
    LeavesUnless (call.looksAt self.stream.remaining) call.perform self
      (call.answer self.stream.remaining)
      (call.left self.stream.remaining) := by
  cases call with
  | hasNextToken => exact (hasNextToken_outcome sound).map Answer.flag
  | getNextToken => exact (getNextToken_outcome sound).map Answer.token
  | skipWhitespace =>
      exact (skipWhitespace_outcome sound).map fun _ => Answer.none

theorem hasNextToken_leaves (intact : Intact self.stream) :
    Leaves hasNextToken self (!(unspaced self.stream.remaining).isEmpty)
      (unspaced self.stream.remaining) :=
  (hasNextToken_outcome intact.toSound).leaves intact
    (Call.hasNextToken.looksAt_sublist _)
    (Call.hasNextToken.left_sublist _)

theorem getNextToken_leaves (intact : Intact self.stream) :
    Leaves getNextToken self (some (firstRun self.stream.remaining))
      ((unspaced self.stream.remaining).dropWhile fun c =>
        !charIsWhitespace c) :=
  (getNextToken_outcome intact.toSound).leaves intact
    (Call.getNextToken.looksAt_sublist _)
    (Call.getNextToken.left_sublist _)

theorem perform_leaves (intact : Intact self.stream) (call : Call) :
    Leaves call.perform self (call.answer self.stream.remaining)
      (call.left self.stream.remaining) :=
  (perform_outcome intact.toSound call).leaves intact
    (call.looksAt_sublist _) (call.left_sublist _)

end Calls

/-! ## Sequences of calls -/

/-- A lexer on a text, with any calls in any order. -/
def calls (text : List Int8) : Machine CharStream (Call × Answer) where
  start self := self = CharStream.new (InputStream.ofText text)
  step before event after :=
    event.1.perform.run before = .ok (event.2, after)

def returned (events : List (Call × Answer)) : List Token :=
  events.filterMap fun event =>
    match event.2 with
    | .token (some (c :: token)) => some (c :: token)
    | _ => none

def readTokens : Nat → Lexing (List Token)
  | 0 => throw .outOfFuel
  | fuel + 1 => do
      if ← hasNextToken then
        let token ← valueOf (← getNextToken)
        return token :: (← readTokens fuel)
      else
        return []

/-- A call takes whitespace, and `get_next_token` also the whole run that it
returns. -/
def Call.Takes (before after : List Int8) : Call → Answer → Prop
  | .hasNextToken, .flag _ =>
      ∃ spaces, before = spaces ++ after ∧
        ∀ c ∈ spaces, charIsWhitespace c = true
  | .skipWhitespace, .none =>
      ∃ spaces, before = spaces ++ after ∧
        ∀ c ∈ spaces, charIsWhitespace c = true
  | .getNextToken, .token (some token) =>
      ∃ spaces, before = spaces ++ token ++ after ∧
        (∀ c ∈ spaces, charIsWhitespace c = true) ∧
        (∀ c ∈ token, charIsWhitespace c = false) ∧
        (∀ c ∈ after.head?, charIsWhitespace c = true) ∧
        (token = [] → after = [])
  | _, _ => False

section Sequences

theorem unspaced_spaces (rest : List Int8) :
    ∃ spaces, rest = spaces ++ unspaced rest ∧
      ∀ c ∈ spaces, charIsWhitespace c = true := by
  refine ⟨rest.takeWhile charIsWhitespace, ?_, ?_⟩
  · exact (List.takeWhile_append_dropWhile).symm
  · exact fun c member => List.mem_takeWhile_imp member

theorem Call.takes (rest : List Int8) (call : Call) :
    call.Takes rest (call.left rest) (call.answer rest) := by
  obtain ⟨spaces, split, white⟩ := unspaced_spaces rest
  cases call with
  | hasNextToken => exact ⟨spaces, split, white⟩
  | skipWhitespace => exact ⟨spaces, split, white⟩
  | getNextToken =>
      refine ⟨spaces, ?_, white, ?_, ?_, ?_⟩
      · rw [List.append_assoc]
        exact split.trans
          (congrArg (spaces ++ ·) List.takeWhile_append_dropWhile.symm)
      · intro c member
        simpa using List.mem_takeWhile_imp member
      · intro c member
        obtain ⟨later, more⟩ := List.head?_eq_some_iff.mp member
        simpa using of_dropWhile_eq_cons more
      · intro empty
        cases more : unspaced rest with
        | nil =>
            change (unspaced rest).dropWhile _ = []
            rw [more]
            rfl
        | cons c later =>
            have plain := of_dropWhile_eq_cons more
            simp only [firstRun] at empty
            rw [more, List.takeWhile_cons_of_pos (by simp [plain])]
              at empty
            cases empty

/-- The runs of what is left, after a call that may return the first. -/
theorem Call.returned_append_runs (rest : List Int8) (call : Call) :
    returned [(call, call.answer rest)] ++
        maximalRuns charIsWhitespace (call.left rest) =
      maximalRuns charIsWhitespace rest := by
  cases call with
  | hasNextToken => exact maximalRuns_dropWhile rest
  | skipWhitespace => exact maximalRuns_dropWhile rest
  | getNextToken =>
      rw [← maximalRuns_dropWhile rest]
      change
        returned [(_, .token (some (firstRun rest)))] ++
            maximalRuns charIsWhitespace
              ((unspaced rest).dropWhile fun c => !charIsWhitespace c) =
          maximalRuns charIsWhitespace (unspaced rest)
      simp only [firstRun]
      cases more : unspaced rest with
      | nil => rfl
      | cons c later =>
          have plain := of_dropWhile_eq_cons more
          rw [maximalRuns_cons plain,
            List.takeWhile_cons_of_pos (by simp [plain])]
          rfl

theorem readTokens_leaves {self : CharStream} {fuel : Nat}
    (intact : Intact self.stream)
    (enough : self.stream.remaining.length < fuel) :
    Leaves (readTokens fuel) self
      (maximalRuns charIsWhitespace self.stream.remaining) [] := by
  induction fuel generalizing self with
  | zero => omega
  | succ fuel inductionHypothesis =>
      obtain ⟨middle, asked, middleIntact, left⟩ :=
        hasNextToken_leaves intact
      rw [← maximalRuns_dropWhile]
      change
        Leaves _ _ (maximalRuns _ (unspaced self.stream.remaining)) _
      cases more : unspaced self.stream.remaining with
      | nil =>
          rw [more] at asked left
          refine ⟨middle, ?_, middleIntact, left⟩
          simp [readTokens, asked]
          rfl
      | cons c rest =>
          rw [more] at asked left
          have plain := of_dropWhile_eq_cons more
          have same : unspaced (c :: rest) = c :: rest :=
            List.dropWhile_cons_of_neg (by simp [plain])
          obtain ⟨later, got, laterIntact, laterLeft⟩ :=
            getNextToken_leaves middleIntact
          rw [left] at got laterLeft
          rw [same] at laterLeft
          have fewer : later.stream.remaining.length < fuel := by
            rw [laterLeft, List.dropWhile_cons_of_pos (by simp [plain])]
            have dropped :=
              (List.dropWhile_sublist
                (fun c => !charIsWhitespace c) (l := rest)).length_le
            have skipped : (c :: rest).length ≤
                self.stream.remaining.length := by
              rw [← more]
              exact (List.dropWhile_sublist _).length_le
            rw [List.length_cons] at skipped
            omega
          obtain ⟨after, ran, afterIntact, ended⟩ :=
            inductionHypothesis laterIntact fewer
          refine ⟨after, ?_, afterIntact, ended⟩
          rw [laterLeft] at ran
          rw [maximalRuns_cons plain]
          simp only [firstRun, same] at got
          simp [readTokens, asked, got, ran]

/-- In every run the lexer stays intact, and the tokens returned are the first
runs of the text. -/
theorem calls_split {text : List Int8} (plain : ∀ c ∈ text, c ≠ -1)
    {events : List (Call × Answer)} {self : CharStream}
    (run : (calls text).Run events self) :
    Intact self.stream ∧
      returned events ++
          maximalRuns charIsWhitespace self.stream.remaining =
        maximalRuns charIsWhitespace text := by
  refine Machine.Run.invariant
    (fun events self => Intact self.stream ∧
      returned events ++
          maximalRuns charIsWhitespace self.stream.remaining =
        maximalRuns charIsWhitespace text)
    ?_ ?_ run
  · intro _ equal
    rcases equal with rfl
    exact ⟨intact_ofText plain, rfl⟩
  · intro events before event after _ inductionHypothesis stepped
    obtain ⟨intact, split⟩ := inductionHypothesis
    obtain ⟨left, ran, stillIntact, remaining⟩ :=
      perform_leaves intact event.1
    have same := Except.ok.inj (ran.symm.trans stepped)
    obtain ⟨answered, reached⟩ := Prod.mk.inj same
    subst reached
    refine ⟨stillIntact, ?_⟩
    have eventEq :
        event = (event.1, event.1.answer before.stream.remaining) :=
      Prod.ext rfl answered.symm
    rw [remaining, eventEq]
    simp only [returned]
    rw [List.filterMap_append, List.append_assoc, ← split]
    exact congrArg _ (event.1.returned_append_runs _)

end Sequences

/-- On every text without the byte `0xFF` and after any calls: the non-empty
tokens returned so far are the first runs of the text; every call returns, takes
nothing but whitespace and the run it returns; `has_next_token` tells whether a
run has not been returned yet; and reading on returns all the others. -/
theorem lexer_splits_text {text : List Int8} (plain : ∀ c ∈ text, c ≠ -1)
    {events : List (Call × Answer)} {self : CharStream}
    (run : (calls text).Run events self) :
    returned events <+: maximalRuns charIsWhitespace text ∧
      (∀ call : Call, ∃ answer after,
        call.perform.run self = .ok (answer, after) ∧
          call.Takes self.stream.remaining after.stream.remaining
            answer) ∧
      (∃ after, hasNextToken.run self =
        .ok (decide
          (returned events ≠ maximalRuns charIsWhitespace text), after)) ∧
      ∃ fuel tokens after,
        (readTokens fuel).run self = .ok (tokens, after) ∧
          returned events ++ tokens = maximalRuns charIsWhitespace text := by
  obtain ⟨intact, split⟩ := calls_split plain run
  refine ⟨⟨_, split⟩, ?_, ?_, ?_⟩
  · intro call
    obtain ⟨after, ran, _, left⟩ := perform_leaves intact call
    refine ⟨_, after, ran, ?_⟩
    rw [left]
    exact call.takes _
  · obtain ⟨after, ran, _, _⟩ := hasNextToken_leaves intact
    refine ⟨after, ran.trans ?_⟩
    have same :
        (!(unspaced self.stream.remaining).isEmpty) =
          decide (returned events ≠ maximalRuns charIsWhitespace text) := by
      rw [← split, Bool.eq_iff_iff, decide_eq_true_iff, Bool.not_eq_true',
        List.isEmpty_eq_false_iff, ne_eq, ne_eq,
        List.self_eq_append_right, maximalRuns_eq_nil_iff]
      rfl
    rw [same]
  · obtain ⟨after, ran, _, _⟩ :=
      readTokens_leaves intact
        (Nat.lt_succ_self self.stream.remaining.length)
    exact ⟨_, _, after, ran, split⟩

/-- The text `" a b"` after one `get_next_token`. -/
theorem lexer_splits_text_small :
    ∃ self,
      (calls [32, 97, 32, 98]).Run
          [(.getNextToken, .token (some [97]))] self ∧
        returned [(.getNextToken, .token (some [97]))] <+:
          maximalRuns charIsWhitespace [32, 97, 32, 98] := by
  have run :
      (calls [32, 97, 32, 98]).Run
        ([] ++ [(Call.getNextToken, Answer.token (some [97]))])
        ⟨⟨0, 0, 2⟩, ⟨[97, 32], [32, 98], false, false, false⟩⟩ :=
    .step (.start rfl) rfl
  have plain : ∀ c ∈ ([32, 97, 32, 98] : List Int8), c ≠ -1 := by
    intro c member
    simp only [List.mem_cons, List.not_mem_nil, or_false] at member
    rcases member with rfl | rfl | rfl | rfl <;> decide
  exact ⟨_, run, (lexer_splits_text plain run).1⟩

end Lexer

end Lewsql.Compiler
