import Mathlib.Data.List.Nodup

/-!
# Chains of pointers

The nodes on the way from a node to an end marker, and the walk that looks for
the last of them.
-/

namespace Bytes

variable {Node : Type}

/-- The nodes from a node on, as far as the end marker. -/
inductive Chain (next : Node → Node) (stop : Node) :
    Node → List Node → Prop
  | ends : Chain next stop stop []
  | node {node : Node} {rest : List Node} :
      node ≠ stop →
      Chain next stop (next node) rest →
      Chain next stop node (node :: rest)

/-- Follow pointers to the node that points at the end marker, in at most so
many steps. -/
def walk [DecidableEq Node] (next : Node → Node) (stop : Node) :
    Nat → Node → Option Node
  | 0, _ => none
  | fuel + 1, node =>
      if next node = stop then some node
      else walk next stop fuel (next node)

namespace Chain

variable {next : Node → Node} {stop node other : Node}
variable {nodes rest : List Node}

theorem unique (left : Chain next stop node nodes)
    (right : Chain next stop node rest) : nodes = rest := by
  induction left generalizing rest with
  | ends =>
      cases right with
      | ends => rfl
      | node different _ => exact absurd rfl different
  | node different _ inductionHypothesis =>
      cases right with
      | ends => exact absurd rfl different
      | node _ later => rw [inductionHypothesis later]

/-- From a node of a chain on there is a shorter chain. -/
theorem exists_of_mem (chain : Chain next stop node nodes)
    (member : other ∈ nodes) :
    ∃ rest, Chain next stop other rest ∧ rest.length ≤ nodes.length := by
  induction chain with
  | ends => cases member
  | @node head tail different later inductionHypothesis =>
      rcases List.mem_cons.mp member with same | inTail
      · subst same
        exact ⟨_, .node different later, Nat.le_refl _⟩
      · obtain ⟨rest, chain, shorter⟩ := inductionHypothesis inTail
        exact ⟨rest, chain, Nat.le_succ_of_le shorter⟩

/-- A chain that ends meets no node twice. -/
theorem nodup (chain : Chain next stop node nodes) : nodes.Nodup := by
  induction chain with
  | ends => exact List.nodup_nil
  | @node head tail different later inductionHypothesis =>
      refine List.nodup_cons.mpr ⟨?_, inductionHypothesis⟩
      intro member
      obtain ⟨rest, again, shorter⟩ := later.exists_of_mem member
      have same := again.unique (.node different later)
      rw [same, List.length_cons] at shorter
      omega

theorem eq_stop_iff (chain : Chain next stop node nodes) :
    node = stop ↔ nodes = [] := by
  cases chain with
  | ends => exact ⟨fun _ => rfl, fun _ => rfl⟩
  | node different later =>
      constructor
      · intro ends
        exact absurd ends different
      · intro nothing
        exact absurd nothing (List.cons_ne_nil _ _)

/-- The end marker is no node of a chain. -/
theorem stop_not_mem (chain : Chain next stop node nodes) :
    stop ∉ nodes := by
  induction chain with
  | ends => exact List.not_mem_nil
  | node different _ inductionHypothesis =>
      intro member
      rcases List.mem_cons.mp member with same | inTail
      · exact different same.symm
      · exact inductionHypothesis inTail

/-- A chain goes by the pointers of its nodes only. -/
theorem congr {changed : Node → Node}
    (chain : Chain next stop node nodes)
    (same : ∀ member ∈ nodes, changed member = next member) :
    Chain changed stop node nodes := by
  induction chain with
  | ends => exact .ends
  | @node head tail different later inductionHypothesis =>
      have rest :=
        inductionHypothesis fun member inTail =>
          same member (List.mem_cons_of_mem head inTail)
      rw [← same head List.mem_cons_self] at rest
      exact .node different rest

/-- A chain to a node and the chain from there on. -/
theorem append (left : Chain next other node nodes)
    (right : Chain next stop other rest) (apart : stop ∉ nodes) :
    Chain next stop node (nodes ++ rest) := by
  induction left with
  | ends => exact right
  | @node head tail different later inductionHypothesis =>
      have notHead : head ≠ stop := fun same =>
        apart (same ▸ List.mem_cons_self)
      have notTail : stop ∉ tail := fun member =>
        apart (List.mem_cons_of_mem head member)
      exact .node notHead (inductionHypothesis notTail)

/-- A chain goes to its last node, which points at the end marker. -/
theorem to_last {last : Node}
    (chain : Chain next stop node (nodes ++ [last])) :
    Chain next last node nodes ∧ last ≠ stop ∧ next last = stop := by
  induction nodes generalizing node with
  | nil =>
      cases chain with
      | node different later =>
          cases later with
          | ends => exact ⟨.ends, different, rfl⟩
  | cons head tail inductionHypothesis =>
      have distinct := chain.nodup
      cases chain with
      | node different later =>
          obtain ⟨inner, notStop, ends⟩ := inductionHypothesis later
          have notLast : head ≠ last := by
            intro same
            refine (List.nodup_cons.mp distinct).1 ?_
            rw [same]
            exact List.mem_append_right tail List.mem_cons_self
          exact ⟨.node notLast inner, notStop, ends⟩

/-- A chain whose last node is made to point at a node that ends the list. -/
theorem concat {changed : Node → Node} {last : Node}
    (chain : Chain next stop node (nodes ++ [last]))
    (kept : ∀ member ∈ nodes, changed member = next member)
    (linked : changed last = other) (notStop : other ≠ stop)
    (ends : changed other = stop) :
    Chain changed stop node (nodes ++ [last] ++ [other]) := by
  obtain ⟨inner, lastNotStop, _⟩ := chain.to_last
  have final : Chain changed stop last [last, other] := by
    refine .node lastNotStop ?_
    rw [linked]
    refine .node notStop ?_
    rw [ends]
    exact .ends
  have apart : stop ∉ nodes := fun member =>
    chain.stop_not_mem (List.mem_append_left [last] member)
  rw [List.append_assoc]
  exact (inner.congr kept).append final apart

/-- Along a chain the walk finds its last node. -/
theorem walk_eq_last [DecidableEq Node] {fuel : Nat} {last : Node}
    (chain : Chain next stop node (nodes ++ [last]))
    (enough : nodes.length < fuel) :
    walk next stop fuel node = some last := by
  induction nodes generalizing node fuel with
  | nil =>
      cases chain with
      | node different later =>
          cases fuel with
          | zero => exact absurd enough (Nat.not_lt_zero 0)
          | succ fuel =>
              have ends : next last = stop := by
                cases later with
                | ends => rfl
              rw [walk, if_pos ends]
  | cons head tail inductionHypothesis =>
      cases chain with
      | node different later =>
          cases fuel with
          | zero => exact absurd enough (Nat.not_lt_zero _)
          | succ fuel =>
              have more : next head ≠ stop := by
                intro ends
                have nothing := later.eq_stop_iff.mp ends
                exact absurd nothing (by simp)
              rw [walk, if_neg more]
              exact inductionHypothesis later (Nat.lt_of_succ_lt_succ enough)

/-- Along a chain the walk finds an end. -/
theorem walk_isSome [DecidableEq Node]
    (chain : Chain next stop node nodes) (more : node ≠ stop) :
    (walk next stop nodes.length node).isSome := by
  rcases List.eq_nil_or_concat nodes with nothing | ⟨initial, last, same⟩
  · exact absurd (chain.eq_stop_iff.mpr nothing) more
  · rw [List.concat_eq_append] at same
    subst same
    rw [chain.walk_eq_last (by simp)]
    rfl

end Chain

end Bytes
