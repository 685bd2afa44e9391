import LogosRln.Proofs.PathCache

/-!
# Registry trees

The registry keeps its whole tree in one shard of the tree's main account: the
header, each level's default hash, and a sparse map of nodes.  A Merkle proof
and the valid roots are read from one fetch of it.  The offsets, the header's
parser and the sparse map's reader belong to a layout crate of its own and stay
parameters.
-/

namespace LogosRln.Registry

open RegistryId Json

/-- The tree's header, as far as this crate reads it. -/
structure TreeMain where
  treeDepth : UInt8
  currentRoot : Bytes32
  rootHistory : List Bytes32
  nextIndex : UInt64

/-- The layout of the tree shard.  The header comes first, then the default
hashes, then the nodes. -/
structure TreeLayout where
  treeDepth : ℕ
  headerSize : ℕ
  offsetDepth : ℕ
  offsetRoot : ℕ
  offsetCachedNodes : ℕ
  offsetTreeData : ℕ
  parse : Bytes → TreeMain
  readSparseNode : Bytes → ℕ → ℕ → Bytes32 → Bytes32

inductive RlnError where
  | dataTooShort
  | invalidConfig
  | invalidLeafIndex
  | serializationError
  deriving DecidableEq

structure RlnMerkleProof where
  leaf : Bytes32
  root : Bytes32
  leafIndex : UInt64
  depth : ℕ
  pathElements : List Bytes32
  pathIndices : List UInt8

/-- 32 bytes of the shard's fixed part. -/
def readBytes32 (data : Bytes) (start : ℕ) : Bytes32 :=
  List.Vector.ofFn fun i : Fin 32 => data.getD (start + i) 0

variable (layout : TreeLayout)

def treeDepthOf (data : Bytes) : Except RlnError UInt8 :=
  if data.length < layout.headerSize then .error .dataTooShort
  else .ok (layout.parse data).treeDepth

/-- The current root first, then the recorded ones. -/
def validRoots (data : Bytes) : Except RlnError (List Bytes32) :=
  if data.length < layout.headerSize then .error .dataTooShort
  else
    let header := layout.parse data
    .ok (header.currentRoot ::
      header.rootHistory.filter fun entry => entry ≠ List.Vector.replicate 32 0)

/-- A node of the shard; an unset one reads as its level's default. -/
def fetchNode (data : Bytes) (level : ℕ) (nodeIndex : UInt64) : Bytes32 :=
  layout.readSparseNode (data.drop layout.offsetTreeData) level nodeIndex.toNat
    (readBytes32 data (layout.offsetCachedNodes + level * 32))

/-- The loop over the levels, from the leaf up to the root's children. -/
def siblings (fetch : ℕ → UInt64 → Bytes32) : ℕ → UInt64 → List (Bytes32 × UInt8)
  | 0, _ => []
  | level + 1, currentIndex =>
      (fetch (level + 1) (currentIndex ^^^ 1), (currentIndex % 2).toUInt8) ::
        siblings fetch level (currentIndex / 2)

def buildMerkleProof (mainData : Bytes) (leafIndex : UInt64) : Except RlnError RlnMerkleProof :=
  if mainData.length < layout.offsetTreeData then .error .dataTooShort
  else
    let depth := (mainData.getD layout.offsetDepth 0).toNat
    if depth = 0 ∨ layout.treeDepth < depth then .error .dataTooShort
    else if depth ≠ layout.treeDepth then .error .invalidConfig
    else if 2 ^ depth ≤ leafIndex.toNat then .error .invalidLeafIndex
    else
      let path := siblings (fetchNode layout mainData) depth leafIndex
      .ok {
        leaf := fetchNode layout mainData depth leafIndex
        root := readBytes32 mainData layout.offsetRoot
        leafIndex, depth
        pathElements := path.map Prod.fst
        pathIndices := path.map Prod.snd }

/-! ## Replies -/

def hexText (bytes : Bytes32) : Value :=
  .str (bytesToHex bytes.toList)

def rootsToJsonArray (roots : List Bytes32) : Value :=
  .array (roots.map hexText)

def RlnMerkleProof.toJson (proof : RlnMerkleProof) : Value :=
  .object
    [("depth", .uint (UInt64.ofNat proof.depth)), ("leaf", hexText proof.leaf),
      ("leaf_index", .uint proof.leafIndex),
      ("path_elements", .array (proof.pathElements.map hexText)),
      ("path_indices", .array (proof.pathIndices.map fun index => .uint index.toUInt64)),
      ("root", hexText proof.root)]

def merkleProofsExec (mainData : Bytes) (leafIndices : List UInt64) :
    Except RlnError (List RlnMerkleProof) :=
  leafIndices.mapM (buildMerkleProof layout mainData)

def proofsWithRootsJson (serde : Serde) (proofs : List RlnMerkleProof) (rootsArray : Value) :
    String :=
  serde.toString (.array (proofs.map fun proof => proof.toJson.set "valid_roots" rootsArray))

/-- `get_valid_roots` over the shard that was read; every failure is the empty
text. -/
def getValidRootsImpl (serde : Serde) (shard : Option Bytes) : String :=
  match shard with
  | none => ""
  | some mainData =>
      match validRoots layout mainData, treeDepthOf layout mainData with
      | .ok roots, .ok depth =>
          serde.toString (.object
            [("depth", .uint depth.toUInt64), ("valid_roots", rootsToJsonArray roots)])
      | _, _ => ""

/-- A requested leaf index; `truncate` is the cast of a number that is not an
unsigned 64-bit integer. -/
def requestedIndex (truncate : String → UInt64) : Value → Option UInt64
  | .uint index => some index
  | .number text => some (truncate text)
  | _ => none

/-- `get_merkle_proofs` over the shard that was read. -/
def getMerkleProofsImpl (serde : Serde) (truncate : String → UInt64) (shard : Option Bytes)
    (leafIndicesJson : String) : String :=
  match serde.fromStr leafIndicesJson with
  | .error _ => ""
  | .ok indices =>
      match indices.asArray with
      | none => ""
      | some [] => "[]"
      | some items =>
          match items.mapM (requestedIndex truncate) with
          | none => ""
          | some leafIndices =>
              match shard with
              | none => ""
              | some mainData =>
                  match validRoots layout mainData, merkleProofsExec layout mainData leafIndices with
                  | .ok roots, .ok proofs =>
                      proofsWithRootsJson serde proofs (rootsToJsonArray roots)
                  | _, _ => ""

end LogosRln.Registry
