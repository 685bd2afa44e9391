import Mathlib.Data.Nat.Bitwise

/-!
# Folds through a binary hash tree

The nodes of a perfect tree are addressed by level and index, the root at level
zero.  An opening lists the siblings from a node up to the root, each with the
side it stands on; folding a node through its opening recomputes the root.  A
path is lifted to a taller tree by appending empty subtrees, and a root is
lifted by folding it through the same ones.
-/

namespace LogosRln.MerkleFold

variable {Node : Type*} (hash : Node → Node → Node)

/-- One level up.  The flag says that the current node is a right child. -/
def ascend (current : Node) (sibling : Node × Bool) : Node :=
  if sibling.2 then hash sibling.1 current else hash current sibling.1

/-- The root a node recomputes through a path, its nearest sibling first. -/
def fold (start : Node) (path : List (Node × Bool)) : Node :=
  path.foldl (ascend hash) start

@[simp]
theorem fold_nil (start : Node) : fold hash start [] = start := rfl

@[simp]
theorem fold_cons (start : Node) (sibling : Node × Bool) (path : List (Node × Bool)) :
    fold hash start (sibling :: path) = fold hash (ascend hash start sibling) path := rfl

theorem fold_append (start : Node) (lower upper : List (Node × Bool)) :
    fold hash start (lower ++ upper) = fold hash (fold hash start lower) upper :=
  List.foldl_append

/-! ## Openings -/

/-- Every inner node is the hash of its two children. -/
def Consistent (depth : ℕ) (node : ℕ → ℕ → Node) : Prop :=
  ∀ level < depth, ∀ index < 2 ^ level,
    node level index = hash (node (level + 1) (2 * index)) (node (level + 1) (2 * index + 1))

/-- The siblings from a node up to the root. -/
def opening (node : ℕ → ℕ → Node) : ℕ → ℕ → List (Node × Bool)
  | 0, _ => []
  | level + 1, index =>
      (node (level + 1) (index ^^^ 1), index % 2 == 1) :: opening node level (index / 2)

theorem length_opening (node : ℕ → ℕ → Node) (level index : ℕ) :
    (opening node level index).length = level := by
  induction level generalizing index with
  | zero => rfl
  | succ level ih => simp [opening, ih]

variable {hash}

/-- A node and its sibling hash to their parent, whichever side the node is on. -/
theorem ascend_sibling {node : ℕ → ℕ → Node} {level index : ℕ}
    (hparent : node level (index / 2) =
      hash (node (level + 1) (2 * (index / 2))) (node (level + 1) (2 * (index / 2) + 1))) :
    ascend hash (node (level + 1) index) (node (level + 1) (index ^^^ 1), index % 2 == 1) =
      node level (index / 2) := by
  rw [hparent]
  cases Nat.even_or_odd index with
  | inl heven =>
      have hmod : index % 2 = 0 := Nat.even_iff.mp heven
      have hleft : 2 * (index / 2) = index := Nat.two_mul_div_two_of_even heven
      simp [ascend, hmod, hleft, Nat.xor_one_of_even heven]
  | inr hodd =>
      have hmod : index % 2 = 1 := Nat.odd_iff.mp hodd
      have hright : 2 * (index / 2) + 1 = index := Nat.two_mul_div_two_add_one_of_odd hodd
      have hleft : 2 * (index / 2) = index - 1 := by omega
      simp [ascend, hmod, hright, Nat.xor_one_of_odd hodd, ← hleft]

/-- Every node of a consistent tree folds to the root through its opening. -/
theorem fold_opening {depth : ℕ} {node : ℕ → ℕ → Node} (hconsistent : Consistent hash depth node)
    {level index : ℕ} (hlevel : level ≤ depth) (hindex : index < 2 ^ level) :
    fold hash (node level index) (opening node level index) = node 0 0 := by
  induction level generalizing index with
  | zero =>
      have hzero : index = 0 := by simpa using hindex
      rw [hzero, opening, fold_nil]
  | succ level ih =>
      have hhalf : index / 2 < 2 ^ level := by
        rw [pow_succ] at hindex
        omega
      have hparent := hconsistent level (by omega) (index / 2) hhalf
      rw [opening, fold_cons, ascend_sibling hparent]
      exact ih (by omega) hhalf

/-! ## Lifting to a taller tree -/

variable (hash)

/-- The root of an empty subtree of the given height. -/
def emptyRoot (zero : Node) : ℕ → Node
  | 0 => zero
  | height + 1 => hash (emptyRoot zero height) (emptyRoot zero height)

/-- The empty right siblings that take a tree of one depth up to another. -/
def padding (zero : Node) (depth height : ℕ) : List (Node × Bool) :=
  (List.range' depth (height - depth)).map fun level => (emptyRoot hash zero level, false)

theorem length_padding (zero : Node) (depth height : ℕ) :
    (padding hash zero depth height).length = height - depth := by
  simp [padding]

end LogosRln.MerkleFold
