import Enclosure.Proofs.Parse.Nesting
import Mathlib.Data.Set.Card

/-!
# Counting syntax errors

A syntax error of a tree is known by the way to its node, so that no two nodes are taken for one,
however much they are alike. The errors of a tree are its root, if that is one, and those of the
trees below it. The loop over the stack therefore counts every error of every tree on the stack
once, also a node that is of the kind `ERROR` and was inserted as well.
-/

set_option autoImplicit false

namespace Enclosure

namespace RawNode

/-- The ways to the syntax errors of a tree. -/
def errorWays (root : RawNode) : Set (List Nat) :=
  {way | ∃ n, root.at? way = some n ∧ (n.kind = "ERROR" ∨ n.missing = true)}

/-- The ways to the syntax errors of several trees, each with the number of the tree in front. -/
def errorWaysAll (trees : List RawNode) : Set (List Nat) :=
  {way | ∃ i rest n, way = i :: rest ∧ trees[i]? = some n ∧ rest ∈ n.errorWays}

/-- A node is an error by its kind or because it is missing. -/
theorem isError_iff {n : RawNode} : n.isError = true ↔ n.kind = "ERROR" ∨ n.missing = true := by
  rw [isError, Bool.or_eq_true, beq_iff_eq]

/-- The empty way leads to an error exactly when the node itself is one. -/
theorem nil_mem_errorWays_iff {n : RawNode} : [] ∈ n.errorWays ↔ n.isError = true := by
  rw [isError_iff]
  constructor
  · rintro ⟨m, hm, herror⟩
    cases hm
    exact herror
  · intro herror
    exact ⟨n, rfl, herror⟩

/-- A way leads to an error exactly when the rest of it does from the child that it starts with. -/
theorem cons_mem_errorWays_iff {n : RawNode} {i : Nat} {rest : List Nat} :
    i :: rest ∈ n.errorWays ↔ ∃ c, n.children[i]? = some c ∧ rest ∈ c.errorWays := by
  constructor
  · rintro ⟨m, hm, herror⟩
    obtain ⟨c, hc, hat⟩ := Option.bind_eq_some_iff.mp hm
    exact ⟨c, hc, m, hat, herror⟩
  · rintro ⟨c, hc, m, hat, herror⟩
    exact ⟨m, Option.bind_eq_some_iff.mpr ⟨c, hc, hat⟩, herror⟩

/-- A way leads to an error among trees exactly when the rest of it does in the tree that it starts
with. -/
theorem mem_errorWaysAll_iff {trees : List RawNode} {way : List Nat} :
    way ∈ errorWaysAll trees ↔
      ∃ i rest n, way = i :: rest ∧ trees[i]? = some n ∧ rest ∈ n.errorWays := Iff.rfl

/-- The errors of a tree are its root, if that is one, and those of the trees below it. -/
theorem errorWays_eq (n : RawNode) :
    n.errorWays = (if n.isError then {[]} else ∅) ∪ errorWaysAll n.children := by
  ext way
  rw [Set.mem_union, mem_errorWaysAll_iff]
  cases way with
  | nil =>
    rw [nil_mem_errorWays_iff]
    by_cases h : n.isError = true <;> simp [h]
  | cons i rest =>
    rw [cons_mem_errorWays_iff]
    by_cases h : n.isError = true <;> simp [h]

/-- There are as many ways to errors as below a node, and one more if it is an error itself. -/
theorem encard_errorWays (n : RawNode) :
    n.errorWays.encard = (if n.isError then 1 else 0) + (errorWaysAll n.children).encard := by
  have hapart : Disjoint (if n.isError then {[]} else ∅ : Set (List Nat))
      (errorWaysAll n.children) := by
    rw [Set.disjoint_left]
    intro way hroot hbelow
    obtain ⟨i, rest, _, rfl, -, -⟩ := mem_errorWaysAll_iff.mp hbelow
    by_cases h : n.isError = true <;> simp [h] at hroot
  rw [errorWays_eq, Set.encard_union_eq hapart]
  by_cases h : n.isError = true <;> simp [h]

/-- The ways to errors among trees are those in the first tree and those among the others. -/
theorem errorWaysAll_cons (n : RawNode) (trees : List RawNode) :
    errorWaysAll (n :: trees) =
      List.cons 0 '' n.errorWays ∪ List.modifyHead (· + 1) '' errorWaysAll trees := by
  ext way
  rw [Set.mem_union, Set.mem_image, Set.mem_image, mem_errorWaysAll_iff]
  constructor
  · rintro ⟨i, rest, m, rfl, hm, herror⟩
    cases i with
    | zero =>
      cases hm
      exact Or.inl ⟨rest, herror, rfl⟩
    | succ i => exact Or.inr ⟨i :: rest, ⟨i, rest, m, rfl, hm, herror⟩, rfl⟩
  · rintro (⟨rest, herror, rfl⟩ | ⟨way, ⟨i, rest, m, rfl, hm, herror⟩, rfl⟩)
    · exact ⟨0, rest, n, rfl, rfl, herror⟩
    · exact ⟨i + 1, rest, m, rfl, hm, herror⟩

/-- Different ways stay different when they start one tree later. -/
theorem modifyHead_succ_injective :
    Function.Injective (List.modifyHead (· + 1) : List Nat → List Nat) := by
  intro way other h
  cases way <;> cases other <;> simp_all

/-- The ways to errors in the first tree and among the others add up. -/
theorem encard_errorWaysAll_cons (n : RawNode) (trees : List RawNode) :
    (errorWaysAll (n :: trees)).encard = n.errorWays.encard + (errorWaysAll trees).encard := by
  have hapart : Disjoint (List.cons 0 '' n.errorWays)
      (List.modifyHead (· + 1) '' errorWaysAll trees) := by
    -- the errors of the first tree have another number in front than all others
    rw [Set.disjoint_left]
    rintro way ⟨rest, -, rfl⟩ ⟨other, hother, heq⟩
    obtain ⟨i, _, _, rfl, -, -⟩ := mem_errorWaysAll_iff.mp hother
    simp at heq
  rw [errorWaysAll_cons, Set.encard_union_eq hapart,
    Function.Injective.encard_image List.cons_injective,
    modifyHead_succ_injective.encard_image]

/-- There are no ways to errors among no trees. -/
@[simp] theorem errorWaysAll_nil : errorWaysAll [] = ∅ := by
  rw [Set.eq_empty_iff_forall_notMem]
  rintro way ⟨i, rest, n, -, hn, -⟩
  cases hn

/-- The ways to errors among two lists of trees add up. -/
theorem encard_errorWaysAll_append (trees others : List RawNode) :
    (errorWaysAll (trees ++ others)).encard =
      (errorWaysAll trees).encard + (errorWaysAll others).encard := by
  induction trees with
  | nil => rw [List.nil_append, errorWaysAll_nil, Set.encard_empty, zero_add]
  | cons n trees ih =>
    rw [List.cons_append, encard_errorWaysAll_cons, encard_errorWaysAll_cons, ih, add_assoc]

/-- A step of the loop counts the first tree's root and leaves the errors below it to be counted. -/
theorem encard_errorWaysAll_step (n : RawNode) (stack : List RawNode) :
    (errorWaysAll (n :: stack)).encard =
      (if n.isError then 1 else 0) + (errorWaysAll (n.children ++ stack)).encard := by
  rw [encard_errorWaysAll_cons, encard_errorWays, encard_errorWaysAll_append, add_assoc]

/-- The loop counts every error of the trees on the stack once. -/
theorem countErrorsFrom_eq (count : Nat) (stack : List RawNode) :
    (countErrorsFrom count stack : ℕ∞) = count + (errorWaysAll stack).encard := by
  fun_induction countErrorsFrom count stack with
  | case1 count => rw [errorWaysAll_nil, Set.encard_empty, add_zero]
  | case2 count n stack ih =>
    rw [dite_eq_ite] at ih
    rw [ih, encard_errorWaysAll_step]
    by_cases h : n.isError = true
    · rw [if_pos h, if_pos h, Nat.cast_add, Nat.cast_one, add_assoc]
    · rw [if_neg h, if_neg h, zero_add]

/-- As many errors are counted as there are ways to errors. -/
theorem errorCount_eq_encard (root : RawNode) :
    (root.errorCount : ℕ∞) = root.errorWays.encard := by
  rw [errorCount, countErrorsFrom_eq, encard_errorWaysAll_cons, errorWaysAll_nil,
    Set.encard_empty, add_zero, Nat.cast_zero, zero_add]

end RawNode

end Enclosure
