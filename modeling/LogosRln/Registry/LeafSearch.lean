import LogosRln.Registry.RegistryPaths

/-!
# Finding a member's leaf

The tree is the only place a member's index lives, so it is searched for the
member's leaf, newest slot first.  The search and the proof builder read one
shard through the same offsets: what the one finds the other can prove.
-/

namespace LogosRln.Registry

open RegistryId Proofs

/-! ## Bounds-checked reads -/

/-- An index past the end of a slice panics. -/
inductive Panic where
  | outOfBounds
  deriving DecidableEq

def byteAt (data : Bytes) (offset : ℕ) : Except Panic UInt8 :=
  match data[offset]? with
  | some byte => .ok byte
  | none => .error .outOfBounds

def slice (data : Bytes) (start stop : ℕ) : Except Panic Bytes :=
  if start ≤ stop ∧ stop ≤ data.length then .ok ((data.drop start).take (stop - start))
  else .error .outOfBounds

/-! ## The search -/

variable (layout : TreeLayout)

/-- The header's parser, on at least a header. -/
def parseHeader (data : Bytes) : Except Panic TreeMain :=
  if data.length < layout.headerSize then .error .outOfBounds else .ok (layout.parse data)

/-- `(0..next).rev().find(…)`. -/
def findDown (test : ℕ → Bool) : ℕ → Option ℕ
  | 0 => none
  | next + 1 => if test next then some next else findDown test next

def findLeafIndex (mainData : Bytes) (leaf : Bytes32) : Except Panic (Option UInt64) := do
  if mainData.length < layout.offsetTreeData then return none
  let depth ← byteAt mainData layout.offsetDepth
  if depth.toNat ≠ layout.treeDepth then return none
  let header ← parseHeader layout mainData
  let next := min header.nextIndex.toNat (2 ^ layout.treeDepth)
  let default ← slice mainData (layout.offsetCachedNodes + layout.treeDepth * 32)
    (layout.offsetCachedNodes + (layout.treeDepth + 1) * 32)
  match toArray 32 default with
  | none => return none
  | some default =>
      let nodes ← slice mainData layout.offsetTreeData mainData.length
      return (findDown
        (fun index => layout.readSparseNode nodes layout.treeDepth index default = leaf)
        next).map UInt64.ofNat

/-! ## The layout -/

/-- The fixed part of a shard precedes its nodes, and its indices are 64-bit. -/
structure TreeLayout.Ordered (layout : TreeLayout) : Prop where
  depthPos : 0 < layout.treeDepth
  depthFits : layout.treeDepth < 64
  header : layout.headerSize ≤ layout.offsetTreeData
  depth : layout.offsetDepth < layout.offsetTreeData
  root : layout.offsetRoot + 32 ≤ layout.offsetTreeData
  defaults : layout.offsetCachedNodes + (layout.treeDepth + 1) * 32 ≤ layout.offsetTreeData

/-- A shard that is long enough and of the layout's depth. -/
def Searchable (data : Bytes) : Prop :=
  layout.offsetTreeData ≤ data.length ∧ (data.getD layout.offsetDepth 0).toNat = layout.treeDepth

/-- The first slot the search does not look at. -/
def searchBound (data : Bytes) : ℕ :=
  min (layout.parse data).nextIndex.toNat (2 ^ layout.treeDepth)

variable {layout}

theorem byteAt_eq {data : Bytes} {offset : ℕ} (hinside : offset < data.length) :
    byteAt data offset = .ok (data.getD offset 0) := by
  simp [byteAt, hinside]

theorem slice_eq {data : Bytes} {start stop : ℕ} (hordered : start ≤ stop)
    (hinside : stop ≤ data.length) :
    slice data start stop = .ok ((data.drop start).take (stop - start)) := by
  simp [slice, hordered, hinside]

/-- Thirty-two bytes inside the fixed part are read the same by both readers. -/
theorem toArray_slice {data : Bytes} {start : ℕ} (hinside : start + 32 ≤ data.length) :
    toArray 32 ((data.drop start).take 32) = some (readBytes32 data start) := by
  have hlength : ((data.drop start).take 32).length = 32 := by
    simp
    omega
  rw [toArray, dif_pos hlength]
  congr 1
  apply List.Vector.ext
  intro index
  have hbelow : start + index < data.length := by
    have := index.isLt
    omega
  rw [readBytes32, List.Vector.get_ofFn]
  change ((data.drop start).take 32).get (Fin.cast hlength.symm index) = _
  simp [List.getElem?_eq_getElem hbelow]

/-! ## The search finds the newest match -/

theorem findDown_eq_some {test : ℕ → Bool} {next found : ℕ} :
    findDown test next = some found ↔
      found < next ∧ test found = true ∧
        ∀ later, found < later → later < next → test later = false := by
  induction next with
  | zero => simp [findDown]
  | succ next ih =>
      cases htest : test next with
      | true =>
          simp only [findDown, htest, if_true, Option.some.injEq]
          constructor
          · rintro rfl
            exact ⟨Nat.lt_succ_self _, htest, fun later habove hbelow => by omega⟩
          · rintro ⟨hbelow, -, hlater⟩
            by_contra hother
            have hfalse := hlater next (by omega) (Nat.lt_succ_self _)
            rw [htest] at hfalse
            cases hfalse
      | false =>
          simp only [findDown, htest, Bool.false_eq_true, if_false]
          rw [ih]
          constructor
          · rintro ⟨hbelow, hmatch, hlater⟩
            refine ⟨by omega, hmatch, fun later habove hnext => ?_⟩
            rcases Nat.lt_succ_iff_lt_or_eq.mp hnext with hlt | rfl
            · exact hlater later habove hlt
            · exact htest
          · rintro ⟨hbelow, hmatch, hlater⟩
            have hne : found ≠ next := by
              rintro rfl
              rw [htest] at hmatch
              cases hmatch
            exact ⟨by omega, hmatch, fun later habove hnext => hlater later habove (by omega)⟩

theorem findDown_eq_none {test : ℕ → Bool} {next : ℕ} :
    findDown test next = none ↔ ∀ index < next, test index = false := by
  induction next with
  | zero => simp [findDown]
  | succ next ih =>
      cases htest : test next with
      | true =>
          simp only [findDown, htest, if_true, reduceCtorEq, false_iff]
          intro hnone
          have hfalse := hnone next (Nat.lt_succ_self _)
          rw [htest] at hfalse
          cases hfalse
      | false =>
          simp only [findDown, htest, Bool.false_eq_true, if_false]
          rw [ih]
          constructor
          · intro hnone index hindex
            rcases Nat.lt_succ_iff_lt_or_eq.mp hindex with hlt | rfl
            · exact hnone index hlt
            · exact htest
          · intro hnone index hindex
            exact hnone index (by omega)

/-- What the search tests at a slot. -/
def matchesAt (layout : TreeLayout) (data : Bytes) (leaf : Bytes32) (index : ℕ) : Bool :=
  layout.readSparseNode (data.drop layout.offsetTreeData) layout.treeDepth index
    (readBytes32 data (layout.offsetCachedNodes + layout.treeDepth * 32)) = leaf

/-- The search tests the node that the proof builder fetches. -/
theorem matchesAt_toNat {data : Bytes} {leaf : Bytes32} {index : UInt64} :
    matchesAt layout data leaf index.toNat = true ↔
      fetchNode layout data layout.treeDepth index = leaf := by
  simp [matchesAt, fetchNode]

/-- A shard of the layout is searched down from the bound; another is not. -/
theorem findLeafIndex_of_searchable (hlayout : layout.Ordered) {data : Bytes} {leaf : Bytes32}
    (hshard : Searchable layout data) :
    findLeafIndex layout data leaf =
      .ok ((findDown (matchesAt layout data leaf) (searchBound layout data)).map UInt64.ofNat) := by
  obtain ⟨hlength, hdepth⟩ := hshard
  have hdefaults := hlayout.defaults
  have hspan : layout.offsetCachedNodes + (layout.treeDepth + 1) * 32 =
      layout.offsetCachedNodes + layout.treeDepth * 32 + 32 := by
    omega
  have hdefault : slice data (layout.offsetCachedNodes + layout.treeDepth * 32)
      (layout.offsetCachedNodes + (layout.treeDepth + 1) * 32) =
      .ok ((data.drop (layout.offsetCachedNodes + layout.treeDepth * 32)).take 32) := by
    rw [slice_eq (by omega) (by omega)]
    congr 2
    omega
  have hnodes : slice data layout.offsetTreeData data.length =
      .ok (data.drop layout.offsetTreeData) := by
    rw [slice_eq hlength le_rfl, List.take_of_length_le (by simp)]
  have hheader : parseHeader layout data = .ok (layout.parse data) := by
    rw [parseHeader, if_neg (Nat.not_lt.mpr (hlayout.header.trans hlength))]
  simp only [findLeafIndex, if_neg (Nat.not_lt.mpr hlength), bind, Except.bind, pure, Except.pure,
    byteAt_eq (lt_of_lt_of_le hlayout.depth hlength), hdepth, ne_eq, not_true_eq_false, if_false,
    hheader, hdefault, hnodes, toArray_slice (show layout.offsetCachedNodes +
      layout.treeDepth * 32 + 32 ≤ data.length by omega)]
  rfl

theorem findLeafIndex_of_not_searchable (hlayout : layout.Ordered) {data : Bytes} {leaf : Bytes32}
    (hshard : ¬ Searchable layout data) : findLeafIndex layout data leaf = .ok none := by
  by_cases hshort : data.length < layout.offsetTreeData
  · simp only [findLeafIndex, if_pos hshort, pure, Except.pure]
  · have hlength : layout.offsetTreeData ≤ data.length := Nat.not_lt.mp hshort
    have hdepth : (data.getD layout.offsetDepth 0).toNat ≠ layout.treeDepth :=
      fun hsame => hshard ⟨hlength, hsame⟩
    simp only [findLeafIndex, if_neg hshort, bind, Except.bind, pure, Except.pure,
      byteAt_eq (lt_of_lt_of_le hlayout.depth hlength), ne_eq, hdepth, not_false_eq_true, if_true]

theorem searchBound_le (data : Bytes) : searchBound layout data ≤ 2 ^ layout.treeDepth :=
  Nat.min_le_right _ _

theorem searchBound_lt (hlayout : layout.Ordered) (data : Bytes) :
    searchBound layout data < 2 ^ 64 :=
  (searchBound_le data).trans_lt (Nat.pow_lt_pow_right (by decide) hlayout.depthFits)

/-- The newest slot below the bound whose node is the leaf. -/
structure NewestMatch (layout : TreeLayout) (data : Bytes) (leaf : Bytes32) (index : UInt64) :
    Prop where
  below : index.toNat < searchBound layout data
  node : fetchNode layout data layout.treeDepth index = leaf
  newest : ∀ later : UInt64, index.toNat < later.toNat → later.toNat < searchBound layout data →
    fetchNode layout data layout.treeDepth later ≠ leaf

/-- A slot below the bound, as the search counts it and as the proof names it. -/
theorem newestMatch_iff (hlayout : layout.Ordered) {data : Bytes} {leaf : Bytes32}
    {index : UInt64} :
    (findDown (matchesAt layout data leaf) (searchBound layout data)).map UInt64.ofNat =
        some index ↔
      NewestMatch layout data leaf index := by
  have hbound := searchBound_lt hlayout data
  have hround : ∀ slot, slot < searchBound layout data → (UInt64.ofNat slot).toNat = slot :=
    fun slot hslot => UInt64.toNat_ofNat_of_lt' (hslot.trans hbound)
  constructor
  · intro hmap
    obtain ⟨slot, hslot, hindex⟩ := Option.map_eq_some_iff.mp hmap
    obtain ⟨hbelow, hmatch, hlater⟩ := findDown_eq_some.mp hslot
    have hnat : index.toNat = slot := by
      rw [← hindex]
      exact hround slot hbelow
    refine ⟨by omega, matchesAt_toNat.mp (by rwa [hnat]), fun later habove hnext hnode => ?_⟩
    have hfalse := hlater later.toNat (by omega) hnext
    rw [matchesAt_toNat.mpr hnode] at hfalse
    cases hfalse
  · rintro ⟨hbelow, hnode, hnewest⟩
    have hfound : findDown (matchesAt layout data leaf) (searchBound layout data) =
        some index.toNat := by
      apply findDown_eq_some.mpr
      refine ⟨hbelow, matchesAt_toNat.mpr hnode, fun later habove hnext => ?_⟩
      apply Bool.eq_false_iff.mpr
      intro hmatch
      have hlater := hround later hnext
      rw [← hlater] at hmatch habove hnext
      exact hnewest _ habove hnext (matchesAt_toNat.mp hmatch)
    rw [hfound, Option.map_some, UInt64.ofNat_toNat]

/-- A slot of a searchable shard has a proof, and its leaf is the node. -/
theorem buildMerkleProof_of_searchable (hlayout : layout.Ordered) {data : Bytes}
    (hshard : Searchable layout data) {index : UInt64}
    (hindex : index.toNat < 2 ^ layout.treeDepth) :
    ∃ proof, buildMerkleProof layout data index = .ok proof ∧
      proof.leaf = fetchNode layout data layout.treeDepth index ∧ proof.leafIndex = index := by
  obtain ⟨hlength, hdepth⟩ := hshard
  have hpositive := hlayout.depthPos
  let path := siblings (fetchNode layout data) layout.treeDepth index
  have hbuilt : buildMerkleProof layout data index = .ok {
      leaf := fetchNode layout data layout.treeDepth index
      root := readBytes32 data layout.offsetRoot
      leafIndex := index
      depth := layout.treeDepth
      pathElements := path.map Prod.fst
      pathIndices := path.map Prod.snd } := by
    simp only [buildMerkleProof, hdepth]
    rw [if_neg (by omega), if_neg (by omega), if_neg (by omega), if_neg (by omega)]
  exact ⟨_, hbuilt, rfl, rfl⟩

/-- The search answers the newest slot below the bound that holds the leaf, and
that slot's proof is built with the leaf; it answers nothing when there is no
such slot or the shard is short or of another depth, and it never panics. -/
theorem findLeafIndex_spec (layout : TreeLayout) (hlayout : layout.Ordered) (data : Bytes)
    (leaf : Bytes32) :
    ∃ found, findLeafIndex layout data leaf = .ok found ∧
      (∀ index, found = some index ↔
        Searchable layout data ∧ NewestMatch layout data leaf index) ∧
      (found = none ↔ ¬ Searchable layout data ∨
        ∀ index : UInt64, index.toNat < searchBound layout data →
          fetchNode layout data layout.treeDepth index ≠ leaf) ∧
      ∀ index, found = some index → ∃ proof,
        buildMerkleProof layout data index = .ok proof ∧ proof.leaf = leaf ∧
          proof.leafIndex = index := by
  by_cases hshard : Searchable layout data
  · refine ⟨_, findLeafIndex_of_searchable hlayout hshard, fun index => ?_, ?_,
      fun index hindex => ?_⟩
    · rw [newestMatch_iff hlayout]
      exact ⟨fun hnewest => ⟨hshard, hnewest⟩, fun hboth => hboth.2⟩
    · rw [Option.map_eq_none_iff, findDown_eq_none]
      constructor
      · intro hnone
        right
        intro index hindex hnode
        have hfalse := hnone index.toNat hindex
        rw [matchesAt_toNat.mpr hnode] at hfalse
        cases hfalse
      · rintro (hother | hnone) index hindex
        · exact absurd hshard hother
        · apply Bool.eq_false_iff.mpr
          intro hmatch
          have hround : (UInt64.ofNat index).toNat = index :=
            UInt64.toNat_ofNat_of_lt' (hindex.trans (searchBound_lt hlayout data))
          rw [← hround] at hmatch hindex
          exact hnone _ hindex (matchesAt_toNat.mp hmatch)
    · have hnewest := (newestMatch_iff hlayout).mp hindex
      obtain ⟨proof, hbuilt, hleaf, hproofIndex⟩ := buildMerkleProof_of_searchable hlayout hshard
        (hnewest.below.trans_le (searchBound_le data))
      exact ⟨proof, hbuilt, hleaf.trans hnewest.node, hproofIndex⟩
  · refine ⟨none, findLeafIndex_of_not_searchable hlayout hshard, fun index => ?_, ?_, ?_⟩
    · simp [hshard]
    · simp [hshard]
    · intro index hindex
      cases hindex

/-- The sample layout with two slots taken. -/
def grownLayout : TreeLayout :=
  { sampleLayout with parse := fun data => { sampleLayout.parse data with nextIndex := 2 } }

theorem grownLayout_ordered : grownLayout.Ordered where
  depthPos := by decide
  depthFits := by decide
  header := by decide
  depth := by decide
  root := by decide
  defaults := by decide

/-- Two slots hold the same leaf; the later one is found, and has a proof. -/
theorem findLeafIndex_spec_grown :
    ∃ proof, findLeafIndex grownLayout emptyShard (epochToBytes (emptyNode 3 0)) = .ok (some 1) ∧
      buildMerkleProof grownLayout emptyShard 1 = .ok proof ∧
      proof.leaf = epochToBytes (emptyNode 3 0) := by
  obtain ⟨found, hfound, hsome, -, hproof⟩ := findLeafIndex_spec grownLayout grownLayout_ordered
    emptyShard (epochToBytes (emptyNode 3 0))
  have hnode : fetchNode grownLayout emptyShard grownLayout.treeDepth 1 =
      epochToBytes (emptyNode 3 0) := fetchNode_emptyShard (by decide) 1
  have hindex : found = some 1 := by
    apply (hsome 1).mpr
    refine ⟨⟨emptyShard_reads.1.ge, rfl⟩, by decide, hnode, fun later habove hbelow => ?_⟩
    exact absurd (Nat.lt_of_lt_of_le hbelow (by decide : _ ≤ 2))
      (Nat.not_lt.mpr (Nat.succ_le_of_lt habove))
  obtain ⟨proof, hbuilt, hleaf, -⟩ := hproof 1 hindex
  exact ⟨proof, hindex ▸ hfound, hbuilt, hleaf⟩

end LogosRln.Registry
