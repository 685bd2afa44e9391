import LogosRln.Core.MerkleFold
import LogosRln.RegistryId

/-!
# The depth bridge

A registry's tree may be shallower than the circuit.  The path it answers is
padded with the siblings of empty subtrees, and every root it reports is folded
through the same siblings, so that the two still agree at the circuit's depth.
-/

namespace LogosRln.Proofs

open RegistryId MerkleFold

/-- The circuit's fixed Merkle depth. -/
def rlnTreeDepth : ℕ := 10

/-- The circuit's field: the hash of its trees and its 32-byte little-endian
coding. -/
structure FieldCoding (Fr : Type) where
  fromU64 : UInt64 → Fr
  hashPair : Fr → Fr → Fr
  serialize : Fr → Bytes32
  deserialize : Bytes32 → Except String Fr

/-- A serialized element is read back as it was. -/
def FieldCoding.RoundTrips {Fr : Type} (field : FieldCoding Fr) : Prop :=
  ∀ value, field.deserialize (field.serialize value) = .ok value

variable {Fr : Type} (field : FieldCoding Fr)

/-- The root of an all-empty subtree, by height; height zero is the zero leaf. -/
def zeroLadder : ℕ → Fr :=
  emptyRoot field.hashPair (field.fromU64 0)

def frToHex (value : Fr) : String :=
  bytesToHex (field.serialize value).toList

def frFromHex (hex : String) : Option Fr :=
  (hexToBytes32 hex).bind fun bytes => (field.deserialize bytes).toOption

/-- Append the empty-subtree siblings; a path at the circuit's depth or beyond
is left alone. -/
def padPath (elements : List String) (indices : List UInt8) (depth : ℕ) :
    List String × List UInt8 :=
  let heights := List.range' depth (rlnTreeDepth - depth)
  (elements ++ heights.map fun height => frToHex field (zeroLadder field height),
    indices ++ heights.map fun _ => 0)

/-- Fold a root up to the circuit's depth.  A root that is not a field element
passes through unchanged. -/
def foldRoot (rootHex : String) (depth : ℕ) : String :=
  match frFromHex field rootHex with
  | none => rootHex
  | some root =>
      frToHex field ((List.range' depth (rlnTreeDepth - depth)).foldl
        (fun root height => field.hashPair root (zeroLadder field height)) root)

/-- What the circuit folds: the leaf through each sibling in turn, on the left
where the index is zero. -/
def foldThrough (leaf : Fr) (elements : List String) (indices : List UInt8) : Option Fr :=
  (elements.zip indices).foldlM (fun node (hex, isRight) => do
    let sibling ← frFromHex field hex
    return if isRight = 0 then field.hashPair node sibling else field.hashPair sibling node) leaf

/-! ## Lengths and coding -/

theorem length_padPath_elements (elements : List String) (indices : List UInt8) (depth : ℕ) :
    (padPath field elements indices depth).1.length = elements.length + (rlnTreeDepth - depth) := by
  simp [padPath]

theorem length_padPath_indices (elements : List String) (indices : List UInt8) (depth : ℕ) :
    (padPath field elements indices depth).2.length = indices.length + (rlnTreeDepth - depth) := by
  simp [padPath]

/-- A printed field element is 32-byte hex. -/
@[simp]
theorem hexToBytes32_frToHex (value : Fr) :
    hexToBytes32 (frToHex field value) = some (field.serialize value) := by
  simp [frToHex]

variable {field}

theorem frFromHex_frToHex (hroundTrips : field.RoundTrips) (value : Fr) :
    frFromHex field (frToHex field value) = some value := by
  simp [frFromHex, hroundTrips value, Except.toOption]

/-! ## Padding and folding agree -/

/-- A path of field elements as the texts and indices the circuit is handed. -/
def pathTexts (field : FieldCoding Fr) (path : List (Fr × Bool)) : List String × List UInt8 :=
  (path.map fun sibling => frToHex field sibling.1, path.map fun sibling => sibling.2.toUInt8)

theorem toUInt8_eq_zero_iff (flag : Bool) : flag.toUInt8 = 0 ↔ flag = false := by
  cases flag <;> decide

/-- The circuit folds such texts as the path they spell. -/
theorem foldThrough_pathTexts (hroundTrips : field.RoundTrips) (leaf : Fr)
    (path : List (Fr × Bool)) :
    foldThrough field leaf (pathTexts field path).1 (pathTexts field path).2 =
      some (fold field.hashPair leaf path) := by
  induction path generalizing leaf with
  | nil => rfl
  | cons sibling path ih =>
      have hstep : foldThrough field leaf (pathTexts field (sibling :: path)).1
          (pathTexts field (sibling :: path)).2 =
          foldThrough field (ascend field.hashPair leaf sibling) (pathTexts field path).1
            (pathTexts field path).2 := by
        obtain ⟨value, isRight⟩ := sibling
        cases isRight <;>
          simp [foldThrough, pathTexts, frFromHex_frToHex hroundTrips, ascend, toUInt8_eq_zero_iff]
      rw [hstep, ih, fold_cons]

/-- Padding appends the library's padding. -/
theorem padPath_pathTexts (path : List (Fr × Bool)) (depth : ℕ) :
    padPath field (pathTexts field path).1 (pathTexts field path).2 depth =
      pathTexts field
        (path ++ padding field.hashPair (field.fromU64 0) depth rlnTreeDepth) := by
  have hleft : false.toUInt8 = 0 := rfl
  simp [padPath, pathTexts, padding, zeroLadder, Function.comp_def, hleft]

/-- A root is folded through the library's padding. -/
theorem foldRoot_frToHex (hroundTrips : field.RoundTrips) (root : Fr) (depth : ℕ) :
    foldRoot field (frToHex field root) depth =
      frToHex field (fold field.hashPair root
        (padding field.hashPair (field.fromU64 0) depth rlnTreeDepth)) := by
  simp only [foldRoot, frFromHex_frToHex hroundTrips, fold, padding, List.foldl_map, ascend,
    zeroLadder, Bool.false_eq_true, if_false]

/-- A leaf folded through a padded path lands on the folded root of the path it
was padded from. -/
theorem foldThrough_padPath (hroundTrips : field.RoundTrips) (leaf : Fr)
    (path : List (Fr × Bool)) (depth : ℕ) :
    let padded := padPath field (pathTexts field path).1 (pathTexts field path).2 depth
    (foldThrough field leaf padded.1 padded.2).map (frToHex field) =
      some (foldRoot field (frToHex field (fold field.hashPair leaf path)) depth) := by
  simp only [padPath_pathTexts, foldThrough_pathTexts hroundTrips, Option.map_some,
    foldRoot_frToHex hroundTrips, fold_append]

end LogosRln.Proofs
