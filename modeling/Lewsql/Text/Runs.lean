import Mathlib.Data.List.TakeWhile

/-!
# Maximal runs between separators

The runs of a text are the non-empty pieces between its separators.  Skipping
separators keeps the runs, and a text that starts with another character is its
first run followed by the runs of the rest.
-/

namespace Text

variable {α : Type}

/-- Dropping stops at a character that is not dropped. -/
theorem of_dropWhile_eq_cons {drops : α → Bool} {text rest : List α} {c : α}
    (more : text.dropWhile drops = c :: rest) : drops c = false := by
  have stopped := List.head?_dropWhile_not drops text
  rw [more] at stopped
  exact stopped

variable (separator : α → Bool)

/-- The maximal runs of characters other than separators, in order. -/
def maximalRuns (text : List α) : List (List α) :=
  (text.splitOnP separator).filter fun run => !run.isEmpty

variable {separator}

@[simp]
theorem maximalRuns_nil : maximalRuns separator [] = [] := by
  simp [maximalRuns]

/-- A run between the start and a separator. -/
theorem maximalRuns_append_cons {word rest : List α} {c : α}
    (plain : ∀ other ∈ word, separator other = false)
    (separates : separator c = true) :
    maximalRuns separator (word ++ c :: rest) =
      (if word.isEmpty then [] else [word]) ++ maximalRuns separator rest := by
  simp only [maximalRuns]
  rw [List.splitOnP_append_cons _ _ separates,
    List.splitOnP_eq_singleton plain, List.filter_append]
  cases word <;> simp

theorem maximalRuns_cons_separator {rest : List α} {c : α}
    (separates : separator c = true) :
    maximalRuns separator (c :: rest) = maximalRuns separator rest := by
  have noWord : ∀ other ∈ ([] : List α), separator other = false := by
    simp
  exact maximalRuns_append_cons noWord separates

/-- Separators in front do not matter. -/
theorem maximalRuns_dropWhile (text : List α) :
    maximalRuns separator (text.dropWhile separator) =
      maximalRuns separator text := by
  induction text with
  | nil => rfl
  | cons c rest inductionHypothesis =>
      by_cases separates : separator c = true
      · rw [List.dropWhile_cons_of_pos separates, inductionHypothesis,
          maximalRuns_cons_separator separates]
      · rw [List.dropWhile_cons_of_neg separates]

/-- The first run of a text that starts with no separator. -/
theorem maximalRuns_cons {rest : List α} {c : α}
    (plain : separator c = false) :
    maximalRuns separator (c :: rest) =
      (c :: rest).takeWhile (fun other => !separator other) ::
        maximalRuns separator
          ((c :: rest).dropWhile fun other => !separator other) := by
  have whole :=
    List.takeWhile_append_dropWhile
      (p := fun other => !separator other) (l := c :: rest)
  have inWord : ∀ other ∈
      (c :: rest).takeWhile fun other => !separator other,
      separator other = false := by
    intro other member
    simpa using List.mem_takeWhile_imp member
  have nonempty :
      ((c :: rest).takeWhile fun other => !separator other).isEmpty =
        false := by
    rw [List.takeWhile_cons_of_pos (by simp [plain])]
    rfl
  cases after : (c :: rest).dropWhile fun other => !separator other with
  | nil =>
      rw [after, List.append_nil] at whole
      rw [whole] at inWord
      rw [whole, maximalRuns_nil]
      simp only [maximalRuns]
      rw [List.splitOnP_eq_singleton inWord]
      rfl
  | cons next later =>
      have separates : separator next = true := by
        simpa using of_dropWhile_eq_cons after
      rw [after] at whole
      conv => lhs; rw [← whole]
      rw [maximalRuns_append_cons inWord separates, nonempty,
        maximalRuns_cons_separator separates]
      rfl

/-- A text has no runs when it is all separators. -/
theorem maximalRuns_eq_nil_iff {text : List α} :
    maximalRuns separator text = [] ↔ text.dropWhile separator = [] := by
  rw [← maximalRuns_dropWhile]
  cases after : text.dropWhile separator with
  | nil => simp
  | cons c rest =>
      rw [maximalRuns_cons (of_dropWhile_eq_cons after)]
      simp

end Text
