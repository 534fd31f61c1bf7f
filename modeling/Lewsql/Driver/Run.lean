import Lewsql.Compiler.TokenLoop

/-!
# `run.cpp`

The driver tests the lexer.  A test case compares the tokens of an input with what
is expected, one by one, and their number at the end.
-/

namespace Lewsql.Driver

open Compiler Lexer Text

inductive TestFailure where
  /-- A failed `assert`. -/
  | assertion
  /-- `expected_tokens[index]` behind the last one. -/
  | outOfRange
  deriving DecidableEq, Repr

/-- `assert(token == expected_tokens[index]); index++;` -/
def compareToken (expectedTokens : List Token) (token : Token)
    (index : Nat) : Except TestFailure Nat :=
  match expectedTokens[index]? with
  | some expected =>
      if token = expected then .ok (index + 1) else .error .assertion
  | none => .error .outOfRange

def comparesTokens (input : List Int8) (expectedTokens : List Token) :
    Except (Stop TestFailure) Unit := do
  let index ← forEachToken (compareToken expectedTokens) 0 input
  if index = expectedTokens.length then return ()
  else throw (.client .assertion)

def hasNoTokens (input : List Int8) : Except (Stop TestFailure) Unit := do
  let more ← (lexing hasNextToken).run' (CharStream.new (.ofText input))
  if more then throw (.client .assertion) else return ()

/-- The characters of a string literal, all of them ASCII. -/
def chars (literal : String) : List Int8 :=
  literal.toList.map fun c => c.toNat.toInt8

/-! ## `test_lexer` -/

/-- Basic tokenization of words. -/
def testCase1 : Except (Stop TestFailure) Unit :=
  comparesTokens (chars "test this message")
    [chars "test", chars "this", chars "message"]

/-- Empty input. -/
def testCase2 : Except (Stop TestFailure) Unit :=
  hasNoTokens (chars "")

/-- Input with only whitespace. -/
def testCase3 : Except (Stop TestFailure) Unit :=
  hasNoTokens (chars "     ")

/-- Input with mixed whitespace. -/
def testCase4 : Except (Stop TestFailure) Unit :=
  comparesTokens (chars "   test   this\tmessage  ")
    [chars "test", chars "this", chars "message"]

/-- Punctuation handling. -/
def testCase5 : Except (Stop TestFailure) Unit :=
  comparesTokens (chars "hello, world! test.")
    [chars "hello,", chars ",", chars "world!", chars "!", chars "test.",
      chars "."]

/-- Numeric input. -/
def testCase6 : Except (Stop TestFailure) Unit :=
  comparesTokens (chars "123 456 789")
    [chars "123", chars "456", chars "789"]

/-- Special characters. -/
def testCase7 : Except (Stop TestFailure) Unit :=
  comparesTokens (chars "@ # $ % ^ & * ()")
    [chars "@", chars "#", chars "$", chars "%", chars "^", chars "&",
      chars "*", chars "(", chars ")"]

/-- Alphanumeric mixed input. -/
def testCase8 : Except (Stop TestFailure) Unit :=
  comparesTokens (chars "test123 abc456 def789")
    [chars "test123", chars "abc456", chars "def789"]

def testLexer : Except (Stop TestFailure) Unit := do
  testCase1
  testCase2
  testCase3
  testCase4
  testCase5
  testCase6
  testCase7
  testCase8

/-! ## What a test case decides -/

/-- How the runs of an input compare with what is expected. -/
def compared : List Token → List Token → Except (Stop TestFailure) Unit
  | [], [] => .ok ()
  | [], _ :: _ => .error (.client .assertion)
  | run :: _, [] =>
      if -1 ∈ run then .error (.lexer .badOptionalAccess)
      else .error (.client .outOfRange)
  | run :: runs, expected :: rest =>
      if -1 ∈ run then .error (.lexer .badOptionalAccess)
      else if run = expected then compared runs rest
      else .error (.client .assertion)

section Comparing

variable {seen expected runs : List Token}

theorem compareToken_of_seen {token : Token} :
    compareToken (seen ++ expected) token seen.length =
      match expected with
      | [] => .error .outOfRange
      | next :: _ =>
          if token = next then .ok (seen.length + 1)
          else .error .assertion := by
  simp only [compareToken]
  rw [List.getElem?_append_right (Nat.le_refl _), Nat.sub_self]
  cases expected <;> rfl

theorem foldlM_compareToken :
    (runs.foldlM (visitRun (compareToken (seen ++ expected)))
          seen.length >>= fun index =>
        if index = (seen ++ expected).length then .ok ()
        else .error (.client .assertion)) =
      compared runs expected := by
  induction runs generalizing seen expected with
  | nil =>
      rw [List.foldlM_nil]
      change (if _ then _ else _) = _
      rw [List.length_append]
      cases expected with
      | nil => exact if_pos rfl
      | cons next rest =>
          rw [List.length_cons]
          exact if_neg (by omega)
  | cons run runs inductionHypothesis =>
      rw [List.foldlM_cons, visitRun]
      by_cases met : -1 ∈ run
      · rw [if_pos met]
        cases expected with
        | nil => exact (if_pos met).symm
        | cons next rest => exact (if_pos met).symm
      · rw [if_neg met, visiting, compareToken_of_seen]
        cases expected with
        | nil => exact (if_neg met).symm
        | cons next rest =>
            simp only [compared]
            rw [if_neg met]
            by_cases same : run = next
            · have later :=
                @inductionHypothesis (seen ++ [next]) rest
              rw [List.append_assoc, List.length_append] at later
              rw [if_pos same, if_pos same]
              exact later
            · rw [if_neg same, if_neg same]
              rfl

theorem comparesTokens_eq (input : List Int8) (expected : List Token) :
    comparesTokens input expected =
      compared (maximalRuns charIsWhitespace input) expected := by
  rw [comparesTokens, forEachToken_eq]
  exact @foldlM_compareToken [] expected _

end Comparing

/-- None of the runs has the byte `0xFF`. -/
def Plain (runs : List Token) : Prop :=
  ∀ run ∈ runs, -1 ∉ run

/-- Behind the same tokens there is another one, and up to there no byte
`0xFF`. -/
def Differ (runs expected : List Token) : Prop :=
  ∃ before run next, before ++ [run] <+: runs ∧
    before ++ [next] <+: expected ∧ run ≠ next ∧ Plain (before ++ [run])

section Outcomes

variable {run next : Token} {before expected runs rest : List Token}

theorem plain_cons : Plain (run :: runs) ↔ -1 ∉ run ∧ Plain runs :=
  List.forall_mem_cons

theorem compared_eq_ok_iff :
    compared runs expected = .ok () ↔ runs = expected ∧ Plain runs := by
  induction runs generalizing expected with
  | nil =>
      cases expected with
      | nil => simp [compared, Plain]
      | cons next rest => simp [compared]
  | cons run runs inductionHypothesis =>
      cases expected with
      | nil => by_cases met : -1 ∈ run <;> simp [compared, met]
      | cons next rest =>
          rw [compared, plain_cons, List.cons.injEq]
          by_cases met : -1 ∈ run
          · simp [met]
          · rw [if_neg met]
            by_cases same : run = next
            · rw [if_pos same, inductionHypothesis]
              subst same
              simp [met]
            · simp [same]

/-- The lexer throws when all before a run with the byte `0xFF` was expected. -/
theorem compared_throws_iff {failure : LexerFailure} :
    compared runs expected = .error (.lexer failure) ↔
      failure = .badOptionalAccess ∧ ∃ before run rest,
        runs = before ++ run :: rest ∧ before <+: expected ∧
          Plain before ∧ -1 ∈ run := by
  induction runs generalizing expected with
  | nil => cases expected <;> simp [compared]
  | cons first runs inductionHypothesis =>
      by_cases met : -1 ∈ first
      · have throws :
            compared (first :: runs) expected =
              .error (.lexer .badOptionalAccess) := by
          cases expected <;> simp [compared, met]
        rw [throws]
        constructor
        · intro same
          cases same
          exact ⟨rfl, [], first, runs, rfl, List.nil_prefix,
            fun run member => absurd member List.not_mem_nil, met⟩
        · intro both
          rw [both.1]
      · have later (before rest : List Token) (run : Token)
            (split : first :: runs = before ++ run :: rest)
            (eof : -1 ∈ run) :
            ∃ tail, before = first :: tail ∧
              runs = tail ++ run :: rest := by
          cases before with
          | nil =>
              have same := (List.cons.inj split).1
              exact absurd (same ▸ eof) met
          | cons head tail =>
              have same := List.cons.inj split
              exact ⟨tail, by rw [same.1], same.2⟩
        cases expected with
        | nil =>
            simp only [compared]
            rw [if_neg met]
            constructor
            · intro same
              cases same
            · intro both
              obtain ⟨_, before, run, rest, split, initial, _, eof⟩ := both
              obtain ⟨tail, same, _⟩ := later before rest run split eof
              rw [same] at initial
              exact absurd (List.prefix_nil.mp initial)
                (List.cons_ne_nil _ _)
        | cons next wanted =>
            simp only [compared]
            rw [if_neg met]
            by_cases same : first = next
            · rw [if_pos same, inductionHypothesis]
              subst same
              apply and_congr_right
              intro _
              constructor
              · intro found
                obtain ⟨before, run, rest, split, initial, plain, eof⟩ :=
                  found
                refine ⟨first :: before, run, rest, ?_, ?_, ?_, eof⟩
                · rw [split, List.cons_append]
                · exact List.cons_prefix_cons.mpr ⟨rfl, initial⟩
                · exact plain_cons.mpr ⟨met, plain⟩
              · intro found
                obtain ⟨before, run, rest, split, initial, plain, eof⟩ :=
                  found
                obtain ⟨tail, front, behind⟩ :=
                  later before rest run split eof
                subst front
                exact ⟨tail, run, rest, behind,
                  (List.cons_prefix_cons.mp initial).2,
                  (plain_cons.mp plain).2, eof⟩
            · rw [if_neg same]
              constructor
              · intro equal
                cases equal
              · intro both
                obtain ⟨_, before, run, rest, split, initial, _, eof⟩ :=
                  both
                obtain ⟨tail, front, _⟩ := later before rest run split eof
                rw [front] at initial
                exact absurd (List.cons_prefix_cons.mp initial).1 same

/-- The case looks behind what is expected when the input has all of it, and
another run. -/
theorem compared_outOfRange_iff :
    compared runs expected = .error (.client .outOfRange) ↔
      ∃ run rest, runs = expected ++ run :: rest ∧
        Plain expected ∧ -1 ∉ run := by
  induction runs generalizing expected with
  | nil => cases expected <;> simp [compared]
  | cons first runs inductionHypothesis =>
      cases expected with
      | nil => by_cases met : -1 ∈ first <;> simp [compared, met, Plain]
      | cons next rest =>
          simp only [compared, List.cons_append, plain_cons,
            List.cons.injEq]
          by_cases met : -1 ∈ first
          · rw [if_pos met]
            refine iff_of_false (fun same => nomatch same) ?_
            intro found
            obtain ⟨_, _, ⟨same, _⟩, plain, _⟩ := found
            exact plain.1 (same ▸ met)
          · rw [if_neg met]
            by_cases same : first = next
            · rw [if_pos same, inductionHypothesis]
              subst same
              simp [met]
            · simp [same]

theorem differ_cons {first : Token} :
    Differ (first :: runs) (next :: rest) ↔
      -1 ∉ first ∧ (first = next → Differ runs rest) := by
  constructor
  · intro differ
    obtain ⟨before, run, wanted, front, wantedFront, other, plain⟩ := differ
    cases before with
    | nil =>
        have same := (List.cons_prefix_cons.mp front).1
        have wantedSame := (List.cons_prefix_cons.mp wantedFront).1
        subst same
        subst wantedSame
        exact ⟨(plain_cons.mp plain).1, fun equal => absurd equal other⟩
    | cons head tail =>
        obtain ⟨same, later⟩ := List.cons_prefix_cons.mp front
        obtain ⟨_, wantedLater⟩ := List.cons_prefix_cons.mp wantedFront
        obtain ⟨firstPlain, laterPlain⟩ := plain_cons.mp plain
        exact ⟨same ▸ firstPlain, fun _ =>
          ⟨tail, run, wanted, later, wantedLater, other, laterPlain⟩⟩
  · intro both
    obtain ⟨firstPlain, later⟩ := both
    by_cases same : first = next
    · obtain ⟨tail, run, wanted, front, wantedFront, other, plain⟩ :=
        later same
      exact ⟨first :: tail, run, wanted,
        List.cons_prefix_cons.mpr ⟨rfl, front⟩,
        List.cons_prefix_cons.mpr ⟨same, wantedFront⟩, other,
        plain_cons.mpr ⟨firstPlain, plain⟩⟩
    · exact ⟨[], first, next, List.cons_prefix_cons.mpr ⟨rfl, List.nil_prefix⟩,
        List.cons_prefix_cons.mpr ⟨rfl, List.nil_prefix⟩, same,
        List.forall_mem_singleton.mpr firstPlain⟩

theorem not_differ_nil_left : ¬ Differ [] expected := by
  intro differ
  obtain ⟨before, run, _, front, _⟩ := differ
  exact List.append_ne_nil_of_right_ne_nil before (List.cons_ne_nil run [])
    (List.prefix_nil.mp front)

theorem not_differ_nil_right : ¬ Differ runs [] := by
  intro differ
  obtain ⟨before, _, next, _, front, _⟩ := differ
  exact List.append_ne_nil_of_right_ne_nil before (List.cons_ne_nil next [])
    (List.prefix_nil.mp front)

/-- The assertion fails when the input ends too early, or at the first run that
differs. -/
theorem compared_assertion_iff :
    compared runs expected = .error (.client .assertion) ↔
      (Plain runs ∧ runs <+: expected ∧ runs ≠ expected) ∨
        Differ runs expected := by
  induction runs generalizing expected with
  | nil =>
      cases expected <;> simp [compared, Plain, not_differ_nil_left]
  | cons first runs inductionHypothesis =>
      cases expected with
      | nil =>
          by_cases met : -1 ∈ first <;>
            simp [compared, met, not_differ_nil_right]
      | cons next rest =>
          rw [differ_cons, plain_cons, List.cons_prefix_cons, ne_eq,
            List.cons.injEq]
          simp only [compared]
          by_cases met : -1 ∈ first
          · simp [met]
          · rw [if_neg met]
            by_cases same : first = next
            · rw [if_pos same, inductionHypothesis]
              subst same
              simp [met]
            · simp [met, same]

end Outcomes

/-- On every input with all expected tokens, a test case passes exactly if these
are the runs of the input, none of which has the byte `0xFF`; it looks behind the
expected tokens exactly if the input has all of them and another one; the lexer
throws exactly if it gets to the byte `0xFF` behind expected tokens; and the
assertion fails exactly if the input ends too early, or otherwise at the first
token that differs. -/
theorem comparesTokens_outcomes (input : List Int8)
    (expected : List Token) :
    (comparesTokens input expected = .ok () ↔
        maximalRuns charIsWhitespace input = expected ∧ -1 ∉ input) ∧
      (comparesTokens input expected = .error (.client .outOfRange) ↔
        ∃ run rest,
          maximalRuns charIsWhitespace input = expected ++ run :: rest ∧
            Plain expected ∧ -1 ∉ run) ∧
      (∀ failure,
        comparesTokens input expected = .error (.lexer failure) ↔
          failure = .badOptionalAccess ∧ ∃ before run rest,
            maximalRuns charIsWhitespace input = before ++ run :: rest ∧
              before <+: expected ∧ Plain before ∧ -1 ∈ run) ∧
      (comparesTokens input expected = .error (.client .assertion) ↔
        (-1 ∉ input ∧ maximalRuns charIsWhitespace input <+: expected ∧
            maximalRuns charIsWhitespace input ≠ expected) ∨
          Differ (maximalRuns charIsWhitespace input) expected) := by
  have plain :
      Plain (maximalRuns charIsWhitespace input) ↔ -1 ∉ input := by
    rw [mem_iff_of_plain charIsWhitespace_eof]
    simp [Plain]
  rw [comparesTokens_eq, compared_eq_ok_iff, compared_outOfRange_iff,
    compared_assertion_iff, plain]
  exact ⟨Iff.rfl, Iff.rfl, fun _ => compared_throws_iff, Iff.rfl⟩

theorem hasNoTokens_eq (input : List Int8) :
    hasNoTokens input =
      match unspaced input with
      | [] => .ok ()
      | c :: _ =>
          if c = -1 then .error (.lexer .badOptionalAccess)
          else .error (.client .assertion) := by
  have asks :=
    @hasNextToken_outcome (CharStream.new (InputStream.ofText input))
      (InputStream.sound_of_good rfl)
  change LeavesUnless ((unspaced input).take 1) hasNextToken _
    (!(unspaced input).isEmpty) (unspaced input) at asks
  cases more : unspaced input with
  | nil =>
      rw [more] at asks
      obtain ⟨after, asked, _⟩ := asks.returns List.not_mem_nil
      have ran :
          (lexing hasNextToken : Reading TestFailure Bool).run _ = _ :=
        lexing_run_ok asked
      simp only [hasNoTokens]
      rw [StateT.run'_eq, ran]
      rfl
  | cons c rest =>
      rw [more] at asks
      by_cases eof : c = -1
      · subst eof
        have failed := asks.fails List.mem_cons_self
        have ran :
            (lexing hasNextToken : Reading TestFailure Bool).run _ = _ :=
          lexing_run_error failed
        simp only [hasNoTokens]
        rw [StateT.run'_eq, ran]
        rfl
      · have absent : -1 ∉ (c :: rest).take 1 := fun member =>
          eof (List.mem_singleton.mp member).symm
        obtain ⟨after, asked, _⟩ := asks.returns absent
        have ran :
            (lexing hasNextToken : Reading TestFailure Bool).run _ = _ :=
          lexing_run_ok asked
        simp only [hasNoTokens]
        rw [StateT.run'_eq, ran, if_neg eof]
        rfl

/-- The lexer does not take punctuation apart.  The fifth case and the seventh
expect that it does, so the driver always stops in the fifth; the other cases
would pass. -/
theorem testLexer_stops :
    testLexer = .error (.client .assertion) ∧
      testCase6 = .ok () ∧
      testCase7 = .error (.client .assertion) ∧
      testCase8 = .ok () := by
  have first : testCase1 = .ok () := by
    rw [testCase1, comparesTokens_eq]
    decide
  have second : testCase2 = .ok () := by
    rw [testCase2, hasNoTokens_eq]
    decide
  have third : testCase3 = .ok () := by
    rw [testCase3, hasNoTokens_eq]
    decide
  have fourth : testCase4 = .ok () := by
    rw [testCase4, comparesTokens_eq]
    decide
  have fifth : testCase5 = .error (.client .assertion) := by
    rw [testCase5, comparesTokens_eq]
    decide
  have stops : testLexer = .error (.client .assertion) := by
    simp only [testLexer]
    rw [first, second, third, fourth, fifth]
    rfl
  have sixth : testCase6 = .ok () := by
    rw [testCase6, comparesTokens_eq]
    decide
  have seventh : testCase7 = .error (.client .assertion) := by
    rw [testCase7, comparesTokens_eq]
    decide
  have eighth : testCase8 = .ok () := by
    rw [testCase8, comparesTokens_eq]
    decide
  exact ⟨stops, sixth, seventh, eighth⟩

end Lewsql.Driver
