import Lewsql.Text.Runs

/-!
# Spelling words

A text spells some words when it consists of separators, and of the words with
separators between them.  These words are the maximal runs of the text, and every
text spells its maximal runs.
-/

namespace Text

variable {α : Type} (separator : α → Bool)

/-- Words, each with the separators behind it: only the last one may be without. -/
def Spells : List (List α × List α) → Prop
  | [] => True
  | (word, gap) :: rest =>
      word ≠ [] ∧ (∀ c ∈ word, separator c = false) ∧
        (∀ c ∈ gap, separator c = true) ∧ (rest ≠ [] → gap ≠ []) ∧
        Spells rest

def spelled (parts : List (List α × List α)) : List α :=
  parts.flatMap fun part => part.1 ++ part.2

variable {separator}

/-- A text without separators is a run by itself, unless it is empty. -/
theorem maximalRuns_of_plain {word : List α}
    (plain : ∀ c ∈ word, separator c = false) :
    maximalRuns separator word = if word.isEmpty then [] else [word] := by
  simp only [maximalRuns]
  rw [List.splitOnP_eq_singleton plain]
  cases word <;> rfl

theorem maximalRuns_separators_append {gap rest : List α}
    (separates : ∀ c ∈ gap, separator c = true) :
    maximalRuns separator (gap ++ rest) = maximalRuns separator rest := by
  induction gap with
  | nil => rfl
  | cons c gap inductionHypothesis =>
      rw [List.cons_append,
        maximalRuns_cons_separator (separates c List.mem_cons_self)]
      exact inductionHypothesis fun other member =>
        separates other (List.mem_cons_of_mem _ member)

/-- The words that a text spells are its runs. -/
theorem maximalRuns_spelled {parts : List (List α × List α)}
    (spells : Spells separator parts) :
    maximalRuns separator (spelled parts) = parts.map Prod.fst := by
  induction parts with
  | nil => exact maximalRuns_nil
  | cons part rest inductionHypothesis =>
      obtain ⟨word, gap⟩ := part
      obtain ⟨some, plain, separates, between, later⟩ := spells
      have tail := inductionHypothesis later
      have notEmpty : word.isEmpty = false :=
        List.isEmpty_eq_false_iff.mpr some
      have split :
          spelled ((word, gap) :: rest) = word ++ (gap ++ spelled rest) := by
        simp only [spelled]
        rw [List.flatMap_cons, List.append_assoc]
      rw [split, List.map_cons]
      cases gap with
      | nil =>
          have last : rest = [] := by
            by_contra more
            exact between more rfl
          subst last
          have none : spelled ([] : List (List α × List α)) = [] := rfl
          rw [none, List.append_nil, List.append_nil,
            maximalRuns_of_plain plain, notEmpty]
          rfl
      | cons c gap =>
          rw [List.cons_append,
            maximalRuns_append_cons plain
              (separates c List.mem_cons_self),
            maximalRuns_separators_append fun other member =>
              separates other (List.mem_cons_of_mem _ member),
            tail, notEmpty]
          rfl

/-- Every text is some separators in front of what it spells. -/
theorem exists_spelling (separator : α → Bool) (text : List α) :
    ∃ lead parts, text = lead ++ spelled parts ∧
      (∀ c ∈ lead, separator c = true) ∧ Spells separator parts := by
  have noSeparator : ∀ c ∈ ([] : List α), separator c = true := by
    simp
  induction text with
  | nil => exact ⟨[], [], rfl, noSeparator, True.intro⟩
  | cons c text inductionHypothesis =>
      obtain ⟨lead, parts, split, separates, spells⟩ := inductionHypothesis
      subst split
      by_cases first : separator c = true
      · have more : ∀ other ∈ c :: lead, separator other = true :=
          List.forall_mem_cons.mpr ⟨first, separates⟩
        exact ⟨c :: lead, parts, rfl, more, spells⟩
      · have plain : separator c = false := Bool.eq_false_iff.mpr first
        have alone : ∀ other ∈ [c], separator other = false :=
          List.forall_mem_singleton.mpr plain
        cases lead with
        | cons next lead =>
            -- The character is a word by itself.
            refine ⟨[], ([c], next :: lead) :: parts, rfl,
              noSeparator, ?_⟩
            exact ⟨List.cons_ne_nil _ _, alone, separates,
              fun _ => List.cons_ne_nil _ _, spells⟩
        | nil =>
            cases parts with
            | nil =>
                refine ⟨[], [([c], [])], rfl, noSeparator, ?_⟩
                exact ⟨List.cons_ne_nil _ _, alone, noSeparator,
                  fun more => absurd rfl more, True.intro⟩
            | cons part parts =>
                -- The character is the first one of the next word.
                obtain ⟨word, gap⟩ := part
                obtain ⟨_, wordPlain, gapSeparates, between, later⟩ := spells
                refine ⟨[], (c :: word, gap) :: parts, ?_, noSeparator, ?_⟩
                · simp only [spelled, List.flatMap_cons, List.nil_append,
                    List.cons_append]
                · exact ⟨List.cons_ne_nil _ _,
                    List.forall_mem_cons.mpr ⟨plain, wordPlain⟩,
                    gapSeparates, between, later⟩

/-- A text has some runs exactly if it spells them. -/
theorem maximalRuns_eq_iff {text : List α} {words : List (List α)} :
    maximalRuns separator text = words ↔
      ∃ lead parts, text = lead ++ spelled parts ∧
        (∀ c ∈ lead, separator c = true) ∧ Spells separator parts ∧
        parts.map Prod.fst = words := by
  constructor
  · intro runs
    obtain ⟨lead, parts, split, separates, spells⟩ :=
      exists_spelling separator text
    refine ⟨lead, parts, split, separates, spells, ?_⟩
    rw [← runs, split, maximalRuns_separators_append separates,
      maximalRuns_spelled spells]
  · intro spelling
    obtain ⟨lead, parts, split, separates, spells, same⟩ := spelling
    rw [split, maximalRuns_separators_append separates,
      maximalRuns_spelled spells, same]

theorem exists_maximalRuns (text : List α) :
    ∃ lead parts, text = lead ++ spelled parts ∧
      (∀ c ∈ lead, separator c = true) ∧ Spells separator parts ∧
      parts.map Prod.fst = maximalRuns separator text :=
  maximalRuns_eq_iff.mp rfl

/-- A word of a spelling. -/
theorem Spells.word {parts : List (List α × List α)}
    (spells : Spells separator parts) {part : List α × List α}
    (member : part ∈ parts) :
    part.1 ≠ [] ∧ (∀ c ∈ part.1, separator c = false) ∧
      ∀ c ∈ part.2, separator c = true := by
  induction parts with
  | nil => cases member
  | cons head rest inductionHypothesis =>
      obtain ⟨some, plain, separates, _, later⟩ := spells
      rcases List.mem_cons.mp member with rfl | behind
      · exact ⟨some, plain, separates⟩
      · exact inductionHypothesis later behind

/-- A run is not empty and has no separators. -/
theorem maximalRuns_run {text run : List α}
    (member : run ∈ maximalRuns separator text) :
    run ≠ [] ∧ ∀ c ∈ run, separator c = false := by
  obtain ⟨_, parts, _, _, spells, same⟩ :=
    @exists_maximalRuns _ separator text
  rw [← same] at member
  obtain ⟨part, partMember, rfl⟩ := List.mem_map.mp member
  obtain ⟨some, plain, _⟩ := spells.word partMember
  exact ⟨some, plain⟩

/-- What is no separator is in one of the runs. -/
theorem mem_iff_of_plain {text : List α} {c : α}
    (plain : separator c = false) :
    c ∈ text ↔ ∃ run ∈ maximalRuns separator text, c ∈ run := by
  obtain ⟨lead, parts, split, separates, spells, same⟩ :=
    @exists_maximalRuns _ separator text
  have not_separator (separated : separator c = true) : False := by
    rw [plain] at separated
    cases separated
  rw [← same]
  constructor
  · intro member
    rw [split] at member
    rcases List.mem_append.mp member with front | behind
    · exact absurd (separates c front) not_separator
    · obtain ⟨part, partMember, inside⟩ := List.mem_flatMap.mp behind
      rcases List.mem_append.mp inside with word | gap
      · exact ⟨part.1, List.mem_map_of_mem partMember, word⟩
      · exact absurd ((spells.word partMember).2.2 c gap) not_separator
  · intro exists_run
    obtain ⟨run, runMember, inside⟩ := exists_run
    obtain ⟨part, partMember, rfl⟩ := List.mem_map.mp runMember
    rw [split]
    apply List.mem_append_right
    exact List.mem_flatMap.mpr
      ⟨part, partMember, List.mem_append_left _ inside⟩

def spaced (space : α) (words : List (List α)) : List α :=
  spelled (words.map fun word => (word, [space]))

theorem spells_spaced_iff {space : α} {words : List (List α)}
    (separates : separator space = true) :
    Spells separator (words.map fun word => (word, [space])) ↔
      ∀ word ∈ words, word ≠ [] ∧ ∀ c ∈ word, separator c = false := by
  have single : ∀ c ∈ [space], separator c = true :=
    List.forall_mem_singleton.mpr separates
  induction words with
  | nil => simp [Spells]
  | cons word words inductionHypothesis =>
      rw [List.map_cons, List.forall_mem_cons]
      constructor
      · intro spells
        obtain ⟨some, plain, _, _, later⟩ := spells
        exact ⟨⟨some, plain⟩, inductionHypothesis.mp later⟩
      · intro both
        obtain ⟨⟨some, plain⟩, later⟩ := both
        exact ⟨some, plain, single, fun _ => List.cons_ne_nil _ _,
          inductionHypothesis.mpr later⟩

/-- Words are read back from between separators exactly if they are words. -/
theorem maximalRuns_spaced_iff {space : α} {words : List (List α)}
    (separates : separator space = true) :
    maximalRuns separator (spaced space words) = words ↔
      ∀ word ∈ words, word ≠ [] ∧ ∀ c ∈ word, separator c = false := by
  constructor
  · intro runs word member
    rw [← runs] at member
    exact maximalRuns_run member
  · intro words
    have spells := (spells_spaced_iff separates).mpr words
    simp only [spaced]
    rw [maximalRuns_spelled spells, List.map_map]
    exact List.map_id _

end Text
