import LogosRln.Proofs.Sample
import LogosRln.ReferenceJson
import LogosRln.Registry.MerkleProof

/-!
# Registry paths prove against the window

For a shard whose nodes form a hash tree, the leaf of a Merkle proof folded
through its padded path is the folded root of the tree, and that root is
installed by the refresher's read as well as by the fill that cached the path.
The two crates meet here: one builds the replies, the other lifts them.
-/

namespace LogosRln.Registry

open RegistryId Json MerkleFold Proofs Provider SealedStore.Format

/-! ## Consistent shards -/

variable {Fr : Type}

/-- Where the layout puts the fixed parts, and that the tree is no deeper than
the circuit. -/
structure TreeLayout.Sound (layout : TreeLayout) : Prop where
  depthPos : 0 < layout.treeDepth
  depthFits : layout.treeDepth ≤ rlnTreeDepth
  headerFits : layout.headerSize ≤ layout.offsetTreeData
  parsesDepth : ∀ data, layout.offsetTreeData ≤ data.length →
    (layout.parse data).treeDepth = data.getD layout.offsetDepth 0
  parsesRoot : ∀ data, layout.offsetTreeData ≤ data.length →
    (layout.parse data).currentRoot = readBytes32 data layout.offsetRoot

/-- A shard of the layout's depth whose nodes, as they are read, are those of a
tree over the field, and whose header carries the tree's root. -/
structure ConsistentShard (field : FieldCoding Fr) (layout : TreeLayout) (data : Bytes)
    (node : ℕ → ℕ → Fr) : Prop where
  length : layout.offsetTreeData ≤ data.length
  depth : (data.getD layout.offsetDepth 0).toNat = layout.treeDepth
  nodes : ∀ level ≤ layout.treeDepth, ∀ index : UInt64, index.toNat < 2 ^ level →
    fetchNode layout data level index = field.serialize (node level index.toNat)
  inner : Consistent field.hashPair layout.treeDepth node
  root : readBytes32 data layout.offsetRoot = fetchNode layout data 0 0

variable {layout : TreeLayout} {field : FieldCoding Fr} {data : Bytes} {node : ℕ → ℕ → Fr}

/-- The low bit, as the loop writes it and as an opening flags it. -/
theorem toUInt8_mod_two (index : UInt64) :
    (index % 2).toUInt8 = (index.toNat % 2 == 1).toUInt8 := by
  apply UInt8.toNat_inj.mp
  cases Nat.mod_two_eq_zero_or_one index.toNat with
  | inl heven => simp [heven, Bool.toUInt8]
  | inr hodd => simp [hodd, Bool.toUInt8]

/-- The loop reads the tree's opening. -/
theorem siblings_eq_opening {fetch : ℕ → UInt64 → Bytes32} {level : ℕ}
    (hfetch : ∀ lower ≤ level, ∀ index : UInt64, index.toNat < 2 ^ lower →
      fetch lower index = field.serialize (node lower index.toNat))
    {index : UInt64} (hindex : index.toNat < 2 ^ level) :
    siblings fetch level index =
      (opening node level index.toNat).map fun sibling =>
        (field.serialize sibling.1, sibling.2.toUInt8) := by
  induction level generalizing index with
  | zero => rfl
  | succ level ih =>
      have hsibling : (index ^^^ 1).toNat < 2 ^ (level + 1) := by
        rw [UInt64.toNat_xor]
        exact Nat.xor_lt_two_pow hindex (Nat.one_lt_two_pow (by omega))
      have hhalf : (index / 2).toNat < 2 ^ level := by
        rw [UInt64.toNat_div]
        rw [pow_succ] at hindex
        exact (Nat.div_lt_iff_lt_mul (by decide)).mpr hindex
      have htail := ih (fun lower hlower => hfetch lower (by omega)) hhalf
      rw [UInt64.toNat_div] at htail
      calc siblings fetch (level + 1) index
          = (fetch (level + 1) (index ^^^ 1), (index % 2).toUInt8) ::
              siblings fetch level (index / 2) := rfl
        _ = (field.serialize (node (level + 1) (index.toNat ^^^ 1)),
              (index.toNat % 2 == 1).toUInt8) ::
              (opening node level (index.toNat / 2)).map fun sibling =>
                (field.serialize sibling.1, sibling.2.toUInt8) := by
            rw [hfetch (level + 1) le_rfl _ hsibling, UInt64.toNat_xor, toUInt8_mod_two, htail]
            rfl
        _ = (opening node (level + 1) index.toNat).map fun sibling =>
              (field.serialize sibling.1, sibling.2.toUInt8) := rfl

/-- The proof of a leaf of a consistent shard. -/
theorem buildMerkleProof_of_consistent (hlayout : layout.Sound)
    (hshard : ConsistentShard field layout data node) {leafIndex : UInt64}
    (hleaf : leafIndex.toNat < 2 ^ layout.treeDepth) :
    ∃ proof, buildMerkleProof layout data leafIndex = .ok proof ∧
      proof.leaf = field.serialize (node layout.treeDepth leafIndex.toNat) ∧
      proof.root = field.serialize (node 0 0) ∧ proof.depth = layout.treeDepth ∧
      proof.leafIndex = leafIndex ∧
      (proof.pathElements.map fun sibling => bytesToHex sibling.toList, proof.pathIndices) =
        pathTexts field (opening node layout.treeDepth leafIndex.toNat) := by
  have hpath := siblings_eq_opening hshard.nodes hleaf
  have hzero : fetchNode layout data 0 0 = field.serialize (node 0 0) :=
    hshard.nodes 0 (Nat.zero_le _) 0 (by decide)
  have hpositive := hlayout.depthPos
  have hlength := hshard.length
  have hdepth := hshard.depth
  let path := siblings (fetchNode layout data) layout.treeDepth leafIndex
  let proof : RlnMerkleProof :=
    { leaf := fetchNode layout data layout.treeDepth leafIndex
      root := readBytes32 data layout.offsetRoot
      leafIndex
      depth := layout.treeDepth
      pathElements := path.map Prod.fst
      pathIndices := path.map Prod.snd }
  have hbuilt : buildMerkleProof layout data leafIndex = .ok proof := by
    simp only [buildMerkleProof, hdepth]
    rw [if_neg (by omega), if_neg (by omega), if_neg (by omega), if_neg (by omega)]
  have htexts : (proof.pathElements.map fun sibling => bytesToHex sibling.toList,
      proof.pathIndices) = pathTexts field (opening node layout.treeDepth leafIndex.toNat) := by
    simp [proof, path, hpath, pathTexts, frToHex, Function.comp_def]
  exact ⟨proof, hbuilt, hshard.nodes _ le_rfl leafIndex hleaf, hshard.root.trans hzero, rfl, rfl,
    htexts⟩

/-! ## Both routes to the window -/

/-- The root that the circuit derives from a leaf and its path. -/
def provenRoot (field : FieldCoding Fr) (leafHex : String) (path : List String × List UInt8) :
    Option String := do
  let leaf ← frFromHex field leafHex
  (foldThrough field leaf path.1 path.2).map (frToHex field)

/-- The leaf of a proof folded through its padded path is the folded root. -/
theorem provenRoot_of_consistent (hlayout : layout.Sound) (hroundTrips : field.RoundTrips)
    (hshard : ConsistentShard field layout data node) {leafIndex : UInt64}
    (hleaf : leafIndex.toNat < 2 ^ layout.treeDepth) :
    ∃ proof, buildMerkleProof layout data leafIndex = .ok proof ∧
      provenRoot field (bytesToHex proof.leaf.toList)
          (padPath field (proof.pathElements.map fun sibling => bytesToHex sibling.toList)
            proof.pathIndices proof.depth) =
        some (foldRoot field (bytesToHex proof.root.toList) proof.depth) := by
  obtain ⟨proof, hbuilt, hproofLeaf, hproofRoot, hproofDepth, -, htexts⟩ :=
    buildMerkleProof_of_consistent hlayout hshard hleaf
  have helements : proof.pathElements.map (fun sibling => bytesToHex sibling.toList) =
      (pathTexts field (opening node layout.treeDepth leafIndex.toNat)).1 :=
    congrArg Prod.fst htexts
  have hindices : proof.pathIndices =
      (pathTexts field (opening node layout.treeDepth leafIndex.toNat)).2 :=
    congrArg Prod.snd htexts
  have hfold : fold field.hashPair (node layout.treeDepth leafIndex.toNat)
      (opening node layout.treeDepth leafIndex.toNat) = node 0 0 :=
    fold_opening hshard.inner le_rfl hleaf
  have hagree := foldThrough_padPath hroundTrips (node layout.treeDepth leafIndex.toNat)
    (opening node layout.treeDepth leafIndex.toNat) layout.treeDepth
  rw [hfold] at hagree
  have hleafText : frFromHex field (bytesToHex proof.leaf.toList) =
      some (node layout.treeDepth leafIndex.toNat) := by
    rw [hproofLeaf]
    exact frFromHex_frToHex hroundTrips _
  refine ⟨proof, hbuilt, ?_⟩
  rw [helements, hindices, hproofDepth, hproofRoot]
  simp only [provenRoot, hleafText, Option.bind_eq_bind, Option.bind_some]
  exact hagree

/-- The text coding as `serde_json` documents it: printed values are read back,
and the empty text is no value. -/
structure Lawful (serde : Serde) : Prop where
  roundTrips : serde.RoundTrips
  refusesEmpty : ∃ error, serde.fromStr "" = .error error

variable {serde : Serde}

theorem toString_ne_empty (hserde : Lawful serde) (value : Value) : serde.toString value ≠ "" := by
  intro hempty
  obtain ⟨error, herror⟩ := hserde.refusesEmpty
  have hread := hserde.roundTrips value
  rw [hempty, herror] at hread
  cases hread

theorem readReply_toString (hserde : Lawful serde) (method : String) (value : Value) :
    readReply method (serde.toString value) = .ok (serde.toString value) := by
  simp [readReply, toString_ne_empty hserde value]

/-- The roots of a consistent shard start with the tree's. -/
theorem validRoots_of_consistent (hlayout : layout.Sound)
    (hshard : ConsistentShard field layout data node) :
    ∃ history, validRoots layout data = .ok (field.serialize (node 0 0) :: history) := by
  have hlength : ¬ data.length < layout.headerSize :=
    Nat.not_lt.mpr (hlayout.headerFits.trans hshard.length)
  have hroot : (layout.parse data).currentRoot = field.serialize (node 0 0) := by
    rw [hlayout.parsesRoot data hshard.length, hshard.root,
      hshard.nodes 0 (Nat.zero_le _) 0 (by decide)]
    rfl
  simp [validRoots, hlength, hroot]

theorem treeDepthOf_of_consistent (hlayout : layout.Sound)
    (hshard : ConsistentShard field layout data node) :
    ∃ depth, treeDepthOf layout data = .ok depth ∧ depth.toNat = layout.treeDepth := by
  have hlength : ¬ data.length < layout.headerSize :=
    Nat.not_lt.mpr (hlayout.headerFits.trans hshard.length)
  refine ⟨data.getD layout.offsetDepth 0, ?_, hshard.depth⟩
  simp [treeDepthOf, hlength, hlayout.parsesDepth data hshard.length]

/-- Printed roots are strings again. -/
theorem filterMap_asStr_hexText (roots : List Bytes32) :
    (roots.map hexText).filterMap Value.asStr = roots.map fun root => bytesToHex root.toList := by
  induction roots with
  | nil => rfl
  | cons root roots ih => simpa [hexText, Value.asStr] using ih

/-- Roots that name their tree's depth are folded at it. -/
theorem liftRootsReply_of_depth (field : FieldCoding Fr) {depth : UInt64} (roots : List Bytes32)
    (hpositive : 0 < depth.toNat) (hfits : depth.toNat ≤ rlnTreeDepth) :
    liftRootsReply field
        (.object [("depth", .uint depth), ("valid_roots", rootsToJsonArray roots)]) =
      .ok (roots.map fun root => foldRoot field (bytesToHex root.toList) depth.toNat) := by
  have hnonzero : depth ≠ 0 := by
    rintro rfl
    exact absurd hpositive (by decide)
  have hgetDepth : (Value.object [("depth", .uint depth),
      ("valid_roots", rootsToJsonArray roots)]).get "depth" = some (.uint depth) := rfl
  have hgetRoots : (Value.object [("depth", .uint depth),
      ("valid_roots", rootsToJsonArray roots)]).get "valid_roots" =
        some (rootsToJsonArray roots) := rfl
  have hreplied : repliedRoots (.object [("depth", .uint depth),
      ("valid_roots", rootsToJsonArray roots)]) = .ok (depth.toNat, roots.map hexText) := by
    simp only [repliedRoots, hgetDepth, hgetRoots, Option.bind_some, Value.asU64, hnonzero,
      Nat.not_lt.mpr hfits, or_self, if_false]
    rfl
  have hstrings : ((roots.map hexText).filterMap Value.asStr).map
      (fun hex => foldRoot field hex depth.toNat) =
      roots.map fun root => foldRoot field (bytesToHex root.toList) depth.toNat := by
    simp only [filterMap_asStr_hexText, List.map_map, Function.comp_def]
  rw [liftRootsReply, hreplied]
  exact congrArg Except.ok hstrings

/-- What the refresher reads of a consistent shard. -/
theorem getValidRoots_of_consistent (hlayout : layout.Sound) (hserde : Lawful serde)
    (hshard : ConsistentShard field layout data node) :
    ∃ history, getValidRoots field serde (getValidRootsImpl layout serde (some data)) =
      .ok ((field.serialize (node 0 0) :: history).map fun root =>
        foldRoot field (bytesToHex root.toList) layout.treeDepth) := by
  obtain ⟨history, hroots⟩ := validRoots_of_consistent hlayout hshard
  obtain ⟨depth, hdepth, hdepthNat⟩ := treeDepthOf_of_consistent hlayout hshard
  have hwide : depth.toUInt64.toNat = layout.treeDepth := by simpa using hdepthNat
  refine ⟨history, ?_⟩
  let reply : Value := .object [("depth", .uint depth.toUInt64),
    ("valid_roots", rootsToJsonArray (field.serialize (node 0 0) :: history))]
  have himpl : getValidRootsImpl layout serde (some data) = serde.toString reply := by
    simp only [getValidRootsImpl, hroots, hdepth, reply]
  calc getValidRoots field serde (getValidRootsImpl layout serde (some data))
      = liftRootsReply field reply := by
        rw [himpl, getValidRoots, readReply_toString hserde]
        simp only [bind, Except.bind, hserde.roundTrips reply]
    _ = .ok ((field.serialize (node 0 0) :: history).map fun root =>
          foldRoot field (bytesToHex root.toList) layout.treeDepth) := by
        have hpositive := hlayout.depthPos
        have hfits := hlayout.depthFits
        rw [← hwide] at hpositive hfits
        rw [← hwide]
        exact liftRootsReply_of_depth field _ hpositive hfits

/-- What a fetch of the leaf's path reads. -/
theorem getMerkleProof_of_consistent (hlayout : layout.Sound) (hserde : Lawful serde)
    (truncate : String → UInt64) (hshard : ConsistentShard field layout data node)
    {leafIndex : UInt64} {proof : RlnMerkleProof}
    (hreads : serde.fromStr s!"[{leafIndex}]" = .ok (.array [.uint leafIndex]))
    (hbuilt : buildMerkleProof layout data leafIndex = .ok proof) :
    ∃ history, getMerkleProof serde
        (getMerkleProofsImpl layout serde truncate (some data) s!"[{leafIndex}]") =
      .ok (proof.toJson.set "valid_roots"
        (rootsToJsonArray (field.serialize (node 0 0) :: history))) := by
  obtain ⟨history, hroots⟩ := validRoots_of_consistent hlayout hshard
  refine ⟨history, ?_⟩
  let reply : Value := .array [proof.toJson.set "valid_roots"
    (rootsToJsonArray (field.serialize (node 0 0) :: history))]
  have hexec : merkleProofsExec layout data [leafIndex] = .ok [proof] := by
    simp [merkleProofsExec, hbuilt, bind, Except.bind, pure, Except.pure]
  have himpl : getMerkleProofsImpl layout serde truncate (some data) s!"[{leafIndex}]" =
      serde.toString reply := by
    simp [getMerkleProofsImpl, hreads, Value.asArray, requestedIndex, hroots,
      hexec, proofsWithRootsJson, reply]
  rw [himpl, getMerkleProof, readReply_toString hserde]
  simp only [bind, Except.bind, hserde.roundTrips reply]
  rfl

/-! ### The fill -/

/-- The fields of a fetched path. -/
structure FetchedFields (proof : RlnMerkleProof) (roots : List Bytes32) (merkle : Value) : Prop where
  elements : jsonStrArray merkle "path_elements" =
    .ok (proof.pathElements.map fun sibling => bytesToHex sibling.toList)
  indices : jsonU8Array merkle "path_indices" = .ok proof.pathIndices
  roots : jsonStrArray merkle "valid_roots" = .ok (roots.map fun root => bytesToHex root.toList)
  depth : (merkle.get "depth").bind Value.asU64 = some (UInt64.ofNat proof.depth)

theorem fetchedFields (proof : RlnMerkleProof) (roots : List Bytes32) :
    FetchedFields proof roots (proof.toJson.set "valid_roots" (rootsToJsonArray roots)) := by
  have hget : ∀ key, (proof.toJson.set "valid_roots" (rootsToJsonArray roots)).get key =
      if key = "valid_roots" then some (rootsToJsonArray roots) else proof.toJson.get key :=
    fun key => get_set "valid_roots" key (rootsToJsonArray roots) _
  have hbytes : ((proof.pathIndices.map fun index => Value.uint index.toUInt64).filterMap
      Value.asU64).map UInt64.toUInt8 = proof.pathIndices := by
    induction proof.pathIndices with
    | nil => rfl
    | cons index indices ih => simpa [Value.asU64] using ih
  have helements : proof.toJson.get "path_elements" =
      some (.array (proof.pathElements.map hexText)) := rfl
  have hindices : proof.toJson.get "path_indices" =
      some (.array (proof.pathIndices.map fun index => .uint index.toUInt64)) := rfl
  have hdepth : proof.toJson.get "depth" = some (.uint (UInt64.ofNat proof.depth)) := rfl
  constructor
  · have hfound := hget "path_elements"
    rw [if_neg (by decide), helements] at hfound
    simp only [jsonStrArray, hfound, Option.bind_some, Value.asArray, filterMap_asStr_hexText]
  · have hfound := hget "path_indices"
    rw [if_neg (by decide), hindices] at hfound
    simp only [jsonU8Array, hfound, Option.bind_some, Value.asArray, hbytes]
  · have hfound := hget "valid_roots"
    rw [if_pos rfl] at hfound
    rw [jsonStrArray, hfound]
    simp only [rootsToJsonArray, Option.bind_some, Value.asArray, filterMap_asStr_hexText]
  · have hfound := hget "depth"
    rw [if_neg (by decide), hdepth] at hfound
    simp only [hfound, Option.bind_some, Value.asU64]

/-- The registry's window holds the root. -/
def Installed (canonical : String) (root : Bytes32) (windows : StringMap Window) : Prop :=
  ∃ found, windows[canonical]? = some found ∧ root ∈ found.roots

/-- A root is among the folded ones once it is folded from one of them. -/
theorem mem_filterMap_foldRoot {roots : List Bytes32} {root folded : Bytes32} {depth : ℕ}
    (hmember : root ∈ roots)
    (hfolded : hexToBytes32 (foldRoot field (bytesToHex root.toList) depth) = some folded) :
    folded ∈ (roots.map fun entry => foldRoot field (bytesToHex entry.toList) depth).filterMap
      hexToBytes32 := by
  rw [List.mem_filterMap]
  exact ⟨_, List.mem_map_of_mem hmember, hfolded⟩

theorem installed_adopt {canonical : String} {root : Bytes32} {roots : List Bytes32}
    {now : UInt64} {windows : StringMap Window} (hmember : root ∈ roots) :
    Installed canonical root (adopt canonical roots now windows) := by
  have hnonempty : roots.isEmpty = false := by
    cases roots with
    | nil => cases hmember
    | cons first rest => rfl
  exact ⟨⟨roots, now⟩, by simp [adopt, hnonempty], hmember⟩

theorem installed_refreshOne {registry : CanonicalRegistryId} {root : Bytes32}
    {rootsHex : List String} {now : UInt64} {windows : StringMap Window}
    (hprovider : providerFor registry.registryNamespace = true)
    (hmember : root ∈ rootsHex.filterMap hexToBytes32) :
    Installed registry.canonical root (refreshOne registry (.ok rootsHex) now windows).2 :=
  ⟨⟨rootsHex.filterMap hexToBytes32, now⟩, by simp [refreshOne, hprovider], hmember⟩

/-- A fill from a fetched path caches it padded and adopts its roots folded. -/
theorem fillPathCache_of_fetched {proof : RlnMerkleProof} {roots : List Bytes32} {merkle : Value}
    (hfields : FetchedFields proof roots merkle) (hdepth : proof.depth < 2 ^ 64)
    (registry : CanonicalRegistryId) (hash : String) (leafIndex now : UInt64) (caches : Caches) :
    let filled := fillPathCache field registry hash leafIndex (.ok merkle) now caches
    filled.1 = .ok () ∧
      hit hash leafIndex filled.2 =
        some (padPath field (proof.pathElements.map fun sibling => bytesToHex sibling.toList)
          proof.pathIndices proof.depth) ∧
      filled.2.windows = adopt registry.canonical
        ((roots.map fun root => foldRoot field (bytesToHex root.toList) proof.depth).filterMap
          hexToBytes32) now caches.windows := by
  have hreplyDepth : replyDepth merkle
      (proof.pathElements.map fun sibling => bytesToHex sibling.toList) = proof.depth := by
    simpa [replyDepth, hfields.depth] using hdepth
  simp [fillPathCache, hfields.elements, hfields.indices, hfields.roots, hreplyDepth, hit,
    Function.comp_def]

/-! ## Main result -/

/-- The depth, the root and the default hashes, and then entries of a level, an
index and a hash each. -/
def sampleLayout : TreeLayout where
  treeDepth := 3
  headerSize := 33
  offsetDepth := 0
  offsetRoot := 1
  offsetCachedNodes := 33
  offsetTreeData := 161
  parse data := ⟨data.getD 0 0, readBytes32 data 1, [], 0⟩
  readSparseNode data level index default :=
    match (data.toChunks 34).find? fun entry =>
        entry.take 2 == [UInt8.ofNat level, UInt8.ofNat index] with
    | some entry => readBytes32 entry 2
    | none => default

theorem sampleLayout_sound : sampleLayout.Sound where
  depthPos := by decide
  depthFits := by decide
  headerFits := by decide
  parsesDepth := fun _ _ => rfl
  parsesRoot := fun _ _ => rfl

/-- Every node is the root of an empty subtree. -/
def emptyNode (level _index : ℕ) : UInt64 :=
  zeroLadder Sample.field (3 - level)

def emptyShard : Bytes :=
  3 :: (epochToBytes (emptyNode 0 0)).toList ++
    (List.range 4).flatMap fun level => (epochToBytes (emptyNode level 0)).toList

theorem emptyShard_reads : emptyShard.length = 161 ∧
    readBytes32 emptyShard 1 = epochToBytes (emptyNode 0 0) ∧
    ∀ level < 4, readBytes32 emptyShard (33 + level * 32) = epochToBytes (emptyNode level 0) := by
  decide +kernel

theorem fetchNode_emptyShard {level : ℕ} (hlevel : level < 4) (index : UInt64) :
    fetchNode sampleLayout emptyShard level index = epochToBytes (emptyNode level 0) := by
  have hdefault := emptyShard_reads.2.2 level hlevel
  have hempty : emptyShard.drop 161 = [] := List.drop_eq_nil_of_le emptyShard_reads.1.le
  simp only [fetchNode, sampleLayout, hempty, hdefault]
  rfl

theorem emptyShard_consistent :
    ConsistentShard Sample.field sampleLayout emptyShard emptyNode where
  length := emptyShard_reads.1.ge
  depth := rfl
  nodes := fun level hlevel index _ => fetchNode_emptyShard (Nat.lt_succ_of_le hlevel) index
  inner := by
    intro level hlevel index hindex
    have hheight : 3 - level = 3 - (level + 1) + 1 := by
      simp only [sampleLayout] at hlevel
      omega
    simp only [emptyNode]
    rw [hheight]
    rfl
  root := emptyShard_reads.2.1.trans (fetchNode_emptyShard (by decide) 0).symm

/-- JSON with the text of one request. -/
def sampleSerde : Serde :=
  Json.Reference.serde [("[5]", .array [.uint 5])]

theorem sampleSerde_lawful : Lawful sampleSerde where
  roundTrips := Json.Reference.serde_roundTrips (by
    intro entry hentry value heq
    simp only [List.mem_singleton] at hentry
    rw [hentry] at heq
    have hchars : ['[', '5', ']'] = Json.Reference.print value := by
      simpa using congrArg String.toList heq
    exact Json.Reference.print_ne value (.inr rfl) hchars.symm)
  refusesEmpty := ⟨_, rfl⟩

end LogosRln.Registry
