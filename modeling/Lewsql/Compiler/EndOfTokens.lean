import Lewsql.Compiler.Lexer

/-!
# The end of the tokens

`get_next_token` declares an optional, and returns the string that it has collected
in every case.  So the optional is engaged at the end of the text as well, with an
empty token in it, and a client has to ask `has_next_token`.
-/

namespace Lewsql.Compiler.Lexer

open Interaction Text

def getNextTokens : Nat → Lexing (List (Option Token))
  | 0 => return []
  | times + 1 => do
      let token ← getNextToken
      return token :: (← getNextTokens times)

/-- The optional of `get_next_token` is engaged when `has_next_token` says so,
with a word in it; once only whitespace is left it is empty, every time. -/
structure SignalsEnd (before : CharStream) : Prop where
  engaged : ∃ more token asked got,
    hasNextToken.run before = .ok (more, asked) ∧
      getNextToken.run before = .ok (token, got) ∧
      (token.isSome ↔ more = true)
  word : ∀ token got, getNextToken.run before = .ok (some token, got) →
    token ≠ [] ∧ ∀ c ∈ token, charIsWhitespace c = false
  ended : (∀ c ∈ before.stream.remaining, charIsWhitespace c = true) →
    ∀ times, ∃ after,
      (getNextTokens times).run before =
        .ok (List.replicate times none, after)

def WordLeft (self : CharStream) : Prop :=
  ∃ c ∈ self.stream.remaining, charIsWhitespace c = false

/-- Every `get_next_token` of a run is made where its optional signals the
end. -/
def AlwaysSignals (text : List Int8) (events : List (Call × Answer)) :
    Prop :=
  ∀ earlier answer before,
    earlier ++ [(Call.getNextToken, answer)] <+: events →
      (calls text).Run earlier before → SignalsEnd before

def tokensAsked (events : List (Call × Answer)) : Nat :=
  events.countP fun event => event.1 = .getNextToken

section Ends

variable {self : CharStream} {rest : List Int8}

theorem unspaced_eq_nil_iff :
    unspaced rest = [] ↔ ∀ c ∈ rest, charIsWhitespace c = true :=
  List.dropWhile_eq_nil_iff

theorem wordLeft_iff :
    WordLeft self ↔ unspaced self.stream.remaining ≠ [] := by
  rw [ne_eq, unspaced_eq_nil_iff]
  simp [WordLeft]

theorem firstRun_eq_nil_iff : firstRun rest = [] ↔ unspaced rest = [] := by
  simp only [firstRun]
  cases more : unspaced rest with
  | nil => simp
  | cons c later =>
      have plain := of_dropWhile_eq_cons more
      rw [List.takeWhile_cons_of_pos (by simp [plain])]
      simp

/-- Where only whitespace is left, every call returns an empty token. -/
theorem getNextTokens_of_white (intact : Intact self.stream)
    (white : ∀ c ∈ self.stream.remaining, charIsWhitespace c = true)
    (times : Nat) :
    ∃ after,
      (getNextTokens times).run self =
        .ok (List.replicate times (some []), after) := by
  induction times generalizing self with
  | zero => exact ⟨self, rfl⟩
  | succ times inductionHypothesis =>
      have nothing := unspaced_eq_nil_iff.mpr white
      obtain ⟨middle, got, stillIntact, left⟩ := getNextToken_leaves intact
      rw [firstRun_eq_nil_iff.mpr nothing] at got
      rw [nothing] at left
      have stillWhite :
          ∀ c ∈ middle.stream.remaining, charIsWhitespace c = true := by
        rw [left]
        exact fun c member => absurd member List.not_mem_nil
      obtain ⟨after, ran⟩ := inductionHypothesis stillIntact stillWhite
      refine ⟨after, ?_⟩
      simp [getNextTokens, got, ran, List.replicate_succ]

theorem signalsEnd_iff (intact : Intact self.stream) :
    SignalsEnd self ↔ WordLeft self := by
  obtain ⟨asked, has, _, _⟩ := hasNextToken_leaves intact
  obtain ⟨got, ran, _, _⟩ := getNextToken_leaves intact
  rw [wordLeft_iff]
  constructor
  · intro signals nothing
    obtain ⟨more, token, _, _, hasMore, hasToken, same⟩ := signals.engaged
    rw [has, nothing] at hasMore
    rw [ran] at hasToken
    cases hasMore
    cases hasToken
    exact absurd (same.mp rfl) Bool.false_ne_true
  · intro more
    refine ⟨⟨_, _, asked, got, has, ran, ?_⟩, ?_, ?_⟩
    · simpa using more
    · intro token after returned
      rw [ran] at returned
      cases returned
      refine ⟨fun empty => more (firstRun_eq_nil_iff.mp empty), ?_⟩
      intro c member
      simpa using List.mem_takeWhile_imp member
    · intro white
      exact absurd (unspaced_eq_nil_iff.mpr white) more

/-- A call of `get_next_token` takes the first run, and the other calls take
none. -/
theorem Call.runs_left (rest : List Int8) (call : Call) :
    maximalRuns charIsWhitespace (call.left rest) =
      (maximalRuns charIsWhitespace rest).drop
        (if call = .getNextToken then 1 else 0) := by
  have split := call.returned_append_runs rest
  cases call with
  | hasNextToken => exact split
  | skipWhitespace => exact split
  | getNextToken =>
      rw [← split, if_pos rfl]
      simp only [Call.answer]
      cases word : firstRun rest with
      | cons c token => rfl
      | nil =>
          have nothing := firstRun_eq_nil_iff.mp word
          have left : Call.getNextToken.left rest = [] := by
            simp only [Call.left]
            rw [nothing]
            rfl
          rw [left]
          rfl

end Ends

section Sequences

variable {text : List Int8} {self : CharStream}
variable {events : List (Call × Answer)}

theorem tokensAsked_append (event : Call × Answer) :
    tokensAsked (events ++ [event]) =
      tokensAsked events + if event.1 = .getNextToken then 1 else 0 := by
  simp only [tokensAsked]
  rw [List.countP_append, List.countP_singleton]
  simp

/-- The runs that are left are those behind as many as were asked for. -/
theorem runs_left_of_run (plain : ∀ c ∈ text, c ≠ -1)
    (run : (calls text).Run events self) :
    maximalRuns charIsWhitespace self.stream.remaining =
      (maximalRuns charIsWhitespace text).drop (tokensAsked events) := by
  refine Machine.Run.invariant
    (fun events self =>
      maximalRuns charIsWhitespace self.stream.remaining =
        (maximalRuns charIsWhitespace text).drop (tokensAsked events))
    ?_ ?_ run
  · intro _ equal
    rcases equal with rfl
    rfl
  · intro events before event after earlier inductionHypothesis stepped
    obtain ⟨_, ran, _, remaining⟩ :=
      perform_leaves (calls_split plain earlier).1 event.1
    have reached := (Prod.mk.inj (Except.ok.inj (ran.symm.trans stepped))).2
    rw [← reached, remaining, Call.runs_left, inductionHypothesis,
      List.drop_drop, tokensAsked_append]

theorem wordLeft_iff_of_run (plain : ∀ c ∈ text, c ≠ -1)
    (run : (calls text).Run events self) :
    WordLeft self ↔
      tokensAsked events < (maximalRuns charIsWhitespace text).length := by
  have left := runs_left_of_run plain run
  rw [wordLeft_iff, ne_eq]
  change ¬ self.stream.remaining.dropWhile charIsWhitespace = [] ↔ _
  rw [← maximalRuns_eq_nil_iff, left, List.drop_eq_nil_iff, Nat.not_le]

theorem alwaysSignals_append_iff (event : Call × Answer) :
    AlwaysSignals text (events ++ [event]) ↔
      AlwaysSignals text events ∧
        (event.1 = .getNextToken →
          ∀ before, (calls text).Run events before →
            SignalsEnd before) := by
  constructor
  · intro always
    constructor
    · intro earlier answer before initial
      exact always earlier answer before
        (initial.trans (List.prefix_append _ _))
    · intro asks before
      obtain ⟨call, answer⟩ := event
      cases asks
      exact always events answer before (List.prefix_refl _)
  · intro both earlier answer before initial
    rcases List.prefix_concat_iff.mp initial with whole | proper
    · obtain ⟨same, last⟩ := List.append_inj' whole rfl
      rw [same]
      exact both.2 (congrArg Prod.fst (List.cons.inj last).1.symm) before
    · exact both.1 earlier answer before proper

theorem alwaysSignals_iff (plain : ∀ c ∈ text, c ≠ -1)
    (run : (calls text).Run events self) :
    AlwaysSignals text events ↔
      tokensAsked events ≤ (maximalRuns charIsWhitespace text).length := by
  induction run with
  | start _ =>
      refine iff_of_true ?_ (Nat.zero_le _)
      intro earlier answer before initial
      exact absurd (List.prefix_nil.mp initial) (by simp)
  | @step events before after event earlier _ inductionHypothesis =>
      rw [alwaysSignals_append_iff, inductionHypothesis,
        tokensAsked_append]
      have signals (state : CharStream)
          (reached : (calls text).Run events state) :
          SignalsEnd state ↔
            tokensAsked events <
              (maximalRuns charIsWhitespace text).length :=
        (signalsEnd_iff (calls_split plain reached).1).trans
          (wordLeft_iff_of_run plain reached)
      by_cases asks : event.1 = .getNextToken
      · rw [if_pos asks]
        constructor
        · intro both
          exact (signals before earlier).mp (both.2 asks before earlier)
        · intro enough
          refine ⟨Nat.le_of_lt enough, ?_⟩
          intro _ state reached
          exact (signals state reached).mpr enough
      · rw [if_neg asks]
        exact and_iff_left fun asked => absurd asked asks

end Sequences

/-- On every text without the byte `0xFF` and after any calls, the optional of
`get_next_token` signals the end exactly when a character that is not whitespace
is left, that is when fewer tokens were asked for than the text has runs.  So a
run signals the end in all its calls when it asks for no more than these. -/
theorem optional_signals_end_iff {text : List Int8}
    (plain : ∀ c ∈ text, c ≠ -1) {events : List (Call × Answer)}
    {self : CharStream} (run : (calls text).Run events self) :
    (SignalsEnd self ↔ WordLeft self) ∧
      (WordLeft self ↔
        tokensAsked events <
          (maximalRuns charIsWhitespace text).length) ∧
      (AlwaysSignals text events ↔
        tokensAsked events ≤
          (maximalRuns charIsWhitespace text).length) :=
  ⟨signalsEnd_iff (calls_split plain run).1, wordLeft_iff_of_run plain run,
    alwaysSignals_iff plain run⟩

/-- The text `"a "` before any call. -/
theorem optional_signals_end_iff_letter :
    SignalsEnd (CharStream.new (InputStream.ofText [97, 32])) := by
  have plain : ∀ c ∈ ([97, 32] : List Int8), c ≠ -1 := by
    intro c member
    simp only [List.mem_cons, List.not_mem_nil, or_false] at member
    rcases member with rfl | rfl <;> decide
  have begun :
      (calls [97, 32]).Run []
        (CharStream.new (InputStream.ofText [97, 32])) :=
    .start rfl
  exact (optional_signals_end_iff plain begun).1.mpr ⟨97, by decide, rfl⟩

/-- On the empty text there is no next token, and `get_next_token` returns one all
the same, every time. -/
theorem empty_token_at_end :
    ∃ self : CharStream,
      (calls []).Run [] self ∧ ¬ SignalsEnd self ∧
        (∃ after, hasNextToken.run self = .ok (false, after)) ∧
        ∀ times, ∃ after,
          (getNextTokens times).run self =
            .ok (List.replicate times (some []), after) := by
  have intact : Intact (InputStream.ofText []) :=
    intact_ofText fun c member => absurd member List.not_mem_nil
  refine ⟨CharStream.new (InputStream.ofText []), .start rfl, ?_,
    ⟨_, rfl⟩, ?_⟩
  · intro signals
    obtain ⟨c, member, _⟩ := (signalsEnd_iff intact).mp signals
    exact absurd member List.not_mem_nil
  · intro times
    exact getNextTokens_of_white intact
      (fun c member => absurd member List.not_mem_nil) times

end Lewsql.Compiler.Lexer
