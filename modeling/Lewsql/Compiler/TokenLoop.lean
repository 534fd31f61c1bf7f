import Lewsql.Compiler.Lexer
import Lewsql.Text.Spelling

/-!
# Clients that read every token

A client asks `has_next_token` and takes `get_next_token().value()` until there is
none, and does something with each token that may stop it.  On every text this is
the same as visiting the maximal runs of the text in order, up to the first one
with the byte `0xFF`, where the lexer throws.
-/

namespace Lewsql.Compiler.Lexer

open Text

/-- Why a client does not get to the end. -/
inductive Stop (Reason : Type) where
  | lexer (failure : LexerFailure)
  | client (reason : Reason)
  deriving DecidableEq, Repr

abbrev Reading (Reason : Type) :=
  StateT CharStream (Except (Stop Reason))

section Loop

variable {Client Reason Value : Type}

def lexing (member : Lexing Value) : Reading Reason Value :=
  fun self => (member.run self).mapError .lexer

def visiting (visit : Token → Client → Except Reason Client)
    (token : Token) (client : Client) : Except (Stop Reason) Client :=
  (visit token client).mapError .client

/-- `while (lexer.has_next_token())` with `lexer.get_next_token().value()` at the
start of its body. -/
def eachToken (visit : Token → Client → Except Reason Client) :
    Nat → Client → Reading Reason Client
  | 0, _ => throw (.lexer .outOfFuel)
  | fuel + 1, client => do
      if ← lexing hasNextToken then
        let token ← lexing do valueOf (← getNextToken)
        let next ← StateT.lift (visiting visit token client)
        eachToken visit fuel next
      else
        return client

/-- The loop on a new lexer, with a round for each byte and one more. -/
def forEachToken (visit : Token → Client → Except Reason Client)
    (client : Client) (text : List Int8) : Except (Stop Reason) Client :=
  (eachToken visit (text.length + 1) client).run'
    (CharStream.new (InputStream.ofText text))

/-- The runs are visited, up to the first one with the byte `0xFF`. -/
def visitRun (visit : Token → Client → Except Reason Client)
    (client : Client) (run : Token) : Except (Stop Reason) Client :=
  if -1 ∈ run then throw (.lexer .badOptionalAccess)
  else visiting visit run client

/-- The loop ends as the visits do, with nothing left to read. -/
def EndsAs (member : Reading Reason Client) (self : CharStream) :
    Except (Stop Reason) Client → Prop
  | .ok client => ∃ after, member.run self = .ok (client, after) ∧
      Sound after.stream ∧ after.stream.remaining = []
  | .error stop => member.run self = .error stop

variable {self middle : CharStream} {member : Lexing Value} {value : Value}
variable {visit : Token → Client → Except Reason Client} {client : Client}

theorem lexing_run_ok (ran : member.run self = .ok (value, middle)) :
    (lexing member : Reading Reason Value).run self =
      .ok (value, middle) := by
  have same :
      (lexing member : Reading Reason Value).run self =
        (member.run self).mapError .lexer :=
    rfl
  rw [same, ran]
  rfl

theorem lexing_run_error {failure : LexerFailure}
    (failed : member.run self = .error failure) :
    (lexing member : Reading Reason Value).run self =
      .error (.lexer failure) := by
  have same :
      (lexing member : Reading Reason Value).run self =
        (member.run self).mapError .lexer :=
    rfl
  rw [same, failed]
  rfl

theorem EndsAs.of_run {first second : Reading Reason Client}
    {later : CharStream} {outcome : Except (Stop Reason) Client}
    (ends : EndsAs second later outcome)
    (round : first.run self = second.run later) :
    EndsAs first self outcome := by
  cases outcome with
  | ok final =>
      obtain ⟨after, ran, left⟩ := ends
      exact ⟨after, round.trans ran, left⟩
  | error stop => exact round.trans ends

theorem eachToken_of_no_more {fuel : Nat}
    (asked : hasNextToken.run self = .ok (false, middle)) :
    (eachToken visit (fuel + 1) client).run self = .ok (client, middle) := by
  have ran : (lexing hasNextToken : Reading Reason Bool).run self = _ :=
    lexing_run_ok asked
  simp [eachToken, ran]
  rfl

theorem eachToken_of_error {fuel : Nat} {failure : LexerFailure}
    (failed : hasNextToken.run self = .error failure) :
    (eachToken visit (fuel + 1) client).run self =
      .error (.lexer failure) := by
  have ran : (lexing hasNextToken : Reading Reason Bool).run self = _ :=
    lexing_run_error failed
  simp [eachToken, ran]

/-- A round in which the lexer returns a token. -/
theorem eachToken_of_token {fuel : Nat} {token : Token}
    {later : CharStream}
    (asked : hasNextToken.run self = .ok (true, middle))
    (got : getNextToken.run middle = .ok (some token, later)) :
    (eachToken visit (fuel + 1) client).run self =
      (visiting visit token client >>= fun next =>
        (eachToken visit fuel next).run later) := by
  have ran : (lexing hasNextToken : Reading Reason Bool).run self = _ :=
    lexing_run_ok asked
  have took :
      (lexing (do valueOf (← getNextToken)) : Reading Reason Token).run
          middle =
        .ok (token, later) := by
    apply lexing_run_ok
    simp [got]
  simp [eachToken, ran, took]

/-- A round in which the lexer throws. -/
theorem eachToken_of_token_error {fuel : Nat} {failure : LexerFailure}
    (asked : hasNextToken.run self = .ok (true, middle))
    (failed : getNextToken.run middle = .error failure) :
    (eachToken visit (fuel + 1) client).run self =
      .error (.lexer failure) := by
  have ran : (lexing hasNextToken : Reading Reason Bool).run self = _ :=
    lexing_run_ok asked
  have took :
      (lexing (do valueOf (← getNextToken)) : Reading Reason Token).run
          middle =
        .error (.lexer failure) := by
    apply lexing_run_error
    simp [failed]
  simp [eachToken, ran, took]

/-- What a call of `get_next_token` leaves is shorter, when there is a token. -/
theorem length_left_lt {rest more : List Int8} {c : Int8}
    (next : unspaced rest = c :: more) :
    ((c :: more).dropWhile fun other => !charIsWhitespace other).length <
      rest.length := by
  have plain := of_dropWhile_eq_cons next
  have dropped :=
    (List.dropWhile_sublist
      (fun other => !charIsWhitespace other) (l := more)).length_le
  have skipped := (unspaced_sublist rest).length_le
  rw [next, List.length_cons] at skipped
  rw [List.dropWhile_cons_of_pos (by simp [plain])]
  omega

/-- The loop on a sound stream visits the runs that are left. -/
theorem eachToken_ends {fuel : Nat} (sound : Sound self.stream)
    (enough : self.stream.remaining.length < fuel) :
    EndsAs (eachToken visit fuel client) self
      ((maximalRuns charIsWhitespace self.stream.remaining).foldlM
        (visitRun visit) client) := by
  induction fuel generalizing self client with
  | zero => omega
  | succ fuel inductionHypothesis =>
      have asks := hasNextToken_outcome sound
      rw [← maximalRuns_dropWhile]
      change
        EndsAs _ _
          ((maximalRuns _ (unspaced self.stream.remaining)).foldlM _ _)
      cases more : unspaced self.stream.remaining with
      | nil =>
          rw [more] at asks
          obtain ⟨after, asked, left⟩ := asks.returns List.not_mem_nil
          rw [maximalRuns_nil]
          exact ⟨after, eachToken_of_no_more asked, left⟩
      | cons c rest =>
          have plain := of_dropWhile_eq_cons more
          have same : unspaced (c :: rest) = c :: rest :=
            List.dropWhile_cons_of_neg (by simp [plain])
          rw [more] at asks
          rw [maximalRuns_cons plain, List.foldlM_cons]
          by_cases first : -1 ∈ (c :: rest).take 1
          · -- The run starts with the byte that is taken for the end.
            have met : -1 ∈ firstRun (c :: rest) :=
              eof_mem_firstRun (same.symm ▸ first)
            simp only [firstRun, same] at met
            simp only [visitRun]
            rw [if_pos met]
            exact eachToken_of_error (asks.fails first)
          · obtain ⟨middle, asked, middleSound, left⟩ := asks.returns first
            have takes := getNextToken_outcome middleSound
            rw [left] at takes
            simp only [firstRun, same] at takes
            simp only [visitRun]
            by_cases met :
                -1 ∈ (c :: rest).takeWhile
                  fun other => !charIsWhitespace other
            · rw [if_pos met]
              exact eachToken_of_token_error asked (takes.fails met)
            · rw [if_neg met]
              obtain ⟨later, got, laterSound, laterLeft⟩ :=
                takes.returns met
              have round := @eachToken_of_token _ _ _ _ visit client fuel
                _ _ asked got
              cases visited :
                  visiting visit
                    ((c :: rest).takeWhile
                      fun other => !charIsWhitespace other) client with
              | error stop =>
                  rw [visited] at round
                  exact round
              | ok next =>
                  rw [visited] at round
                  have fewer : later.stream.remaining.length < fuel := by
                    have shorter := length_left_lt more
                    rw [laterLeft]
                    omega
                  have ends := @inductionHypothesis _ next laterSound fewer
                  rw [laterLeft] at ends
                  exact ends.of_run round

end Loop

section Client

variable {Client Reason : Type}
variable {visit : Token → Client → Except Reason Client} {client : Client}

/-- The loop visits the runs up to the first one with the byte `0xFF`. -/
theorem forEachToken_eq (text : List Int8) :
    forEachToken visit client text =
      (maximalRuns charIsWhitespace text).foldlM (visitRun visit)
        client := by
  have ends :=
    @eachToken_ends _ _ (CharStream.new (InputStream.ofText text)) visit
      client _ (InputStream.sound_of_good rfl)
      (Nat.lt_succ_self text.length)
  change EndsAs _ _
    ((maximalRuns charIsWhitespace text).foldlM _ _) at ends
  simp only [forEachToken]
  cases outcome :
      (maximalRuns charIsWhitespace text).foldlM (visitRun visit)
        client with
  | ok final =>
      rw [outcome] at ends
      obtain ⟨after, ran, _⟩ := ends
      rw [StateT.run'_eq, ran]
      rfl
  | error stop =>
      rw [outcome] at ends
      rw [StateT.run'_eq, ends]
      rfl

/-- The runs in front of the first one with the byte `0xFF`. -/
def runsSeen (text : List Int8) : List Token :=
  (maximalRuns charIsWhitespace text).takeWhile fun run =>
    !decide (-1 ∈ run)

theorem foldlM_visitRun (runs : List Token) :
    runs.foldlM (visitRun visit) client =
      ((runs.takeWhile fun run => !decide (-1 ∈ run)).foldlM
          (fun client run => visiting visit run client) client >>=
        fun final =>
          if ∃ run ∈ runs, -1 ∈ run then
            throw (.lexer .badOptionalAccess)
          else pure final) := by
  induction runs generalizing client with
  | nil => rfl
  | cons run runs inductionHypothesis =>
      rw [List.foldlM_cons, visitRun]
      by_cases met : -1 ∈ run
      · have some : ∃ other ∈ run :: runs, -1 ∈ other :=
          ⟨run, List.mem_cons_self, met⟩
        rw [if_pos met, List.takeWhile_cons_of_neg (by simp [met])]
        simp only [if_pos some]
        rfl
      · have same : (∃ other ∈ run :: runs, -1 ∈ other) ↔
            ∃ other ∈ runs, -1 ∈ other := by
          simp [met]
        rw [if_neg met, List.takeWhile_cons_of_pos (by simp [met]),
          List.foldlM_cons]
        simp only [inductionHypothesis, same, bind_assoc]

/-- On every text, whatever the client does with a token: the loop ends, and it
visits the maximal runs of the text in order, up to the first one with the byte
`0xFF`.  If the client was not stopped by then, the lexer throws when there is such
a run, and else the client has got to the end. -/
theorem clients_visit_runs (text : List Int8) :
    forEachToken visit client text =
      ((runsSeen text).foldlM
          (fun client run => visiting visit run client) client >>=
        fun final =>
          if -1 ∈ text then throw (.lexer .badOptionalAccess)
          else pure final) := by
  have met :
      -1 ∈ text ↔ ∃ run ∈ maximalRuns charIsWhitespace text, -1 ∈ run :=
    mem_iff_of_plain charIsWhitespace_eof
  rw [forEachToken_eq, foldlM_visitRun]
  simp only [met, runsSeen]

end Client

/-! ## Reading back -/

def collectTokens (text : List Int8) :
    Except (Stop Empty) (List Token) :=
  forEachToken (fun token tokens => .ok (tokens ++ [token])) [] text

/-- What the lexer can return: a token that is not empty, without whitespace and
without the byte `0xFF`. -/
def IsToken (token : Token) : Prop :=
  token ≠ [] ∧ (∀ c ∈ token, charIsWhitespace c = false) ∧ -1 ∉ token

theorem foldlM_collect (runs tokens : List Token) :
    runs.foldlM
        (@visitRun _ Empty fun token tokens => .ok (tokens ++ [token]))
        tokens =
      if ∃ run ∈ runs, -1 ∈ run then .error (.lexer .badOptionalAccess)
      else .ok (tokens ++ runs) := by
  induction runs generalizing tokens with
  | nil => simp [pure, Except.pure]
  | cons run runs inductionHypothesis =>
      rw [List.foldlM_cons, visitRun]
      by_cases met : -1 ∈ run
      · have some : ∃ other ∈ run :: runs, -1 ∈ other :=
          ⟨run, List.mem_cons_self, met⟩
        rw [if_pos met, if_pos some]
        rfl
      · have same : (∃ other ∈ run :: runs, -1 ∈ other) ↔
            ∃ other ∈ runs, -1 ∈ other := by
          simp [met]
        rw [if_neg met]
        change List.foldlM _ (tokens ++ [run]) runs = _
        rw [inductionHypothesis, List.append_assoc]
        simp only [same, List.singleton_append]

theorem collectTokens_eq_ok_iff {text : List Int8} {tokens : List Token} :
    collectTokens text = .ok tokens ↔
      -1 ∉ text ∧ maximalRuns charIsWhitespace text = tokens := by
  rw [collectTokens, forEachToken_eq, foldlM_collect, List.nil_append,
    mem_iff_of_plain charIsWhitespace_eof]
  split
  · rename_i met
    exact iff_of_false (fun same => nomatch same)
      fun both => both.1 met
  · rename_i absent
    rw [Except.ok.injEq]
    exact (and_iff_right absent).symm

/-- A text is read as some tokens exactly if it spells them, with whitespace in
front, between any two and possibly at the end, and without the byte `0xFF`.  So
what is printed with a space behind each token is read back exactly if every one
of them is a token. -/
theorem tokens_round_trip :
    (∀ text tokens, collectTokens text = .ok tokens ↔
      -1 ∉ text ∧ ∃ lead parts, text = lead ++ spelled parts ∧
        (∀ c ∈ lead, charIsWhitespace c = true) ∧
        Spells charIsWhitespace parts ∧
        parts.map Prod.fst = tokens) ∧
      ∀ tokens, collectTokens (spaced 32 tokens) = .ok tokens ↔
        ∀ token ∈ tokens, IsToken token := by
  constructor
  · intro text tokens
    rw [collectTokens_eq_ok_iff, maximalRuns_eq_iff]
  · intro tokens
    rw [collectTokens_eq_ok_iff, maximalRuns_spaced_iff (by decide)]
    have met :
        -1 ∈ spaced 32 tokens ↔ ∃ token ∈ tokens, -1 ∈ token := by
      simp [spaced, spelled]
    rw [met]
    constructor
    · intro both token member
      obtain ⟨some, plain⟩ := both.2 token member
      exact ⟨some, plain, fun eof => both.1 ⟨token, member, eof⟩⟩
    · intro all
      constructor
      · intro exists_token
        obtain ⟨token, member, eof⟩ := exists_token
        exact (all token member).2.2 eof
      · intro token member
        exact ⟨(all token member).1, (all token member).2.1⟩

end Lewsql.Compiler.Lexer
