import Mathlib.Data.List.Basic
import Mathlib.Logic.Function.Basic

/-!
# Owners of tokens

Every owner is responsible for at most one token.  The tokens that are out are
owned in order when each of them has exactly one owner and nothing else is owned.
Acquiring, transferring and giving back a token keep that order.
-/

namespace Interaction

variable {Owner Token : Type}

/-- Each token has exactly one owner, and only these tokens are owned. -/
structure OwnedInOrder (owned : Owner → Option Token)
    (tokens : List Token) : Prop where
  nodup : tokens.Nodup
  mem_iff : ∀ token, token ∈ tokens ↔ ∃ owner, owned owner = some token
  sole : ∀ owner other token,
    owned owner = some token → owned other = some token → owner = other

namespace OwnedInOrder

variable {owned : Owner → Option Token} {tokens : List Token}
variable {owner other : Owner} {token : Token}

theorem nobody :
    OwnedInOrder (fun _ : Owner => none) ([] : List Token) where
  nodup := List.nodup_nil
  mem_iff := by simp
  sole := by simp

/-- Nothing is out when nobody owns anything. -/
theorem eq_nil (order : OwnedInOrder owned tokens)
    (free : ∀ owner, owned owner = none) : tokens = [] := by
  apply List.eq_nil_iff_forall_not_mem.mpr
  intro token member
  obtain ⟨owner, owns⟩ := (order.mem_iff token).mp member
  rw [free owner] at owns
  cases owns

variable [DecidableEq Owner]

/-- What is owned after one owner changed. -/
theorem update_eq_some_iff {held : Option Token} {keeper : Owner} :
    Function.update owned owner held keeper = some token ↔
      (keeper = owner ∧ held = some token) ∨
        (keeper ≠ owner ∧ owned keeper = some token) := by
  by_cases same : keeper = owner
  · simp [same]
  · simp [same]

/-- A new token for an owner that has none. -/
theorem acquire (order : OwnedInOrder owned tokens)
    (fresh : token ∉ tokens) (idle : owned owner = none) :
    OwnedInOrder (Function.update owned owner (some token))
      (token :: tokens) where
  nodup := List.nodup_cons.mpr ⟨fresh, order.nodup⟩
  mem_iff := by
    intro sought
    simp only [List.mem_cons, order.mem_iff, update_eq_some_iff]
    constructor
    · intro out
      rcases out with rfl | ⟨keeper, owns⟩
      · exact ⟨owner, .inl ⟨rfl, rfl⟩⟩
      · refine ⟨keeper, .inr ⟨?_, owns⟩⟩
        intro same
        rw [same, idle] at owns
        cases owns
    · intro held
      rcases held with ⟨keeper, ⟨_, same⟩ | ⟨_, owns⟩⟩
      · exact .inl (Option.some.inj same).symm
      · exact .inr ⟨keeper, owns⟩
  sole := by
    intro first second sought ownsFirst ownsSecond
    rw [update_eq_some_iff] at ownsFirst ownsSecond
    rcases ownsFirst with ⟨isFirst, same⟩ | ⟨_, ownsFirst⟩
    · cases same
      rcases ownsSecond with ⟨isSecond, _⟩ | ⟨_, ownsSecond⟩
      · rw [isFirst, isSecond]
      · exact (fresh ((order.mem_iff _).mpr ⟨second, ownsSecond⟩)).elim
    · rcases ownsSecond with ⟨_, same⟩ | ⟨_, ownsSecond⟩
      · cases same
        exact (fresh ((order.mem_iff _).mpr ⟨first, ownsFirst⟩)).elim
      · exact order.sole _ _ _ ownsFirst ownsSecond

/-- A token that is out is not given to a second owner. -/
theorem not_acquire (order : OwnedInOrder owned tokens)
    (idle : owned owner = none) :
    ¬ OwnedInOrder (Function.update owned owner (some token)) tokens := by
  intro after
  have owns : Function.update owned owner (some token) owner = some token :=
    Function.update_self _ _ _
  obtain ⟨keeper, keeps⟩ :=
    (order.mem_iff token).mp ((after.mem_iff token).mpr ⟨owner, owns⟩)
  have apart : keeper ≠ owner := by
    intro same
    rw [same, idle] at keeps
    cases keeps
  have still :
      Function.update owned owner (some token) keeper = some token :=
    update_eq_some_iff.mpr (.inr ⟨apart, keeps⟩)
  exact apart (after.sole _ _ _ still owns)

/-- When two owners change and the tokens stay, the tokens of the two are left
with the one that still owns something. -/
theorem left_with {held : Option Token} {keeper : Owner}
    (order : OwnedInOrder owned tokens)
    (after :
      OwnedInOrder
        (Function.update (Function.update owned other none) owner held)
        tokens)
    (owns : owned keeper = some token)
    (changed : keeper = owner ∨ keeper = other) : held = some token := by
  have member : token ∈ tokens := (order.mem_iff token).mpr ⟨keeper, owns⟩
  obtain ⟨now, ownsNow⟩ := (after.mem_iff token).mp member
  rw [update_eq_some_iff, update_eq_some_iff] at ownsNow
  rcases ownsNow with ⟨_, same⟩ | ⟨apart, ⟨_, impossible⟩ | ⟨other, old⟩⟩
  · exact same
  · cases impossible
  · have same := order.sole _ _ _ old owns
    rcases changed with rfl | rfl
    · exact absurd same apart
    · exact absurd same other

variable [DecidableEq Token]

/-- An owner gives its token back. -/
theorem release (order : OwnedInOrder owned tokens)
    (owns : owned owner = some token) :
    OwnedInOrder (Function.update owned owner none)
      (tokens.erase token) where
  nodup := order.nodup.erase token
  mem_iff := by
    intro sought
    simp only [order.nodup.mem_erase_iff, order.mem_iff,
      update_eq_some_iff]
    constructor
    · intro out
      rcases out with ⟨different, keeper, ownsSought⟩
      refine ⟨keeper, .inr ⟨?_, ownsSought⟩⟩
      intro same
      rw [same, owns] at ownsSought
      exact different (Option.some.inj ownsSought).symm
    · intro held
      rcases held with ⟨keeper, ⟨_, impossible⟩ | ⟨apart, ownsSought⟩⟩
      · cases impossible
      · refine ⟨?_, keeper, ownsSought⟩
        intro same
        rw [same] at ownsSought
        exact apart (order.sole _ _ _ ownsSought owns)
  sole := by
    intro first second sought ownsFirst ownsSecond
    rw [update_eq_some_iff] at ownsFirst ownsSecond
    rcases ownsFirst with ⟨_, impossible⟩ | ⟨_, ownsFirst⟩
    · cases impossible
    · rcases ownsSecond with ⟨_, impossible⟩ | ⟨_, ownsSecond⟩
      · cases impossible
      · exact order.sole _ _ _ ownsFirst ownsSecond

/-- An owner passes its token to one that has none. -/
theorem transfer (order : OwnedInOrder owned tokens)
    (owns : owned owner = some token) (idle : owned other = none) :
    OwnedInOrder
      (Function.update (Function.update owned owner none) other
        (some token))
      tokens := by
  have member : token ∈ tokens := (order.mem_iff token).mpr ⟨owner, owns⟩
  have apart : other ≠ owner := by
    intro same
    rw [same, owns] at idle
    cases idle
  have stillIdle : Function.update owned owner none other = none := by
    rw [Function.update_of_ne apart]
    exact idle
  have passed :=
    (order.release owns).acquire
      (fun still => (order.nodup.mem_erase_iff.mp still).1 rfl) stillIdle
  refine ⟨order.nodup, ?_, passed.sole⟩
  intro sought
  rw [← passed.mem_iff, List.mem_cons, order.nodup.mem_erase_iff]
  by_cases same : sought = token
  · simp [same, member]
  · simp [same]

end OwnedInOrder

end Interaction
