import LogosRln.Core.Run
import LogosRln.Proofs.Generation
import LogosRln.Proofs.Sample

/-!
# Malformed Merkle replies

A slot is persisted before the prover looks at the path, so a path the prover
refuses costs a slot.  The fill checks nothing but that both arrays are there;
the path it caches is one the prover takes exactly when the reply is well
formed, and a run whose fills all answer to well-formed replies spends every
slot on a witness that passes the prover's checks.
-/

namespace LogosRln.Proofs.PathReplies

open RegistryId Json Run SealedStore SealedStore.Format Selection
open SealedStore.Files (WriteOutcome)

variable {Fr Proof : Type}

/-! ## Paths the prover takes -/

/-- Both lists at the circuit's depth, every sibling 32-byte hex. -/
structure UsablePath (path : List String × List UInt8) : Prop where
  elements : path.1.length = rlnTreeDepth
  hex : ∀ sibling ∈ path.1, (hexToBytes32 sibling).isSome
  indices : path.2.length = rlnTreeDepth

/-- The bit a number stands for. -/
def directionBit : Value → Option UInt8
  | .uint bit => if bit ≤ 1 then some bit.toUInt8 else none
  | _ => none

def replyItems (merkle : Value) (key : String) : Option (List Value) :=
  (merkle.get key).bind Value.asArray

/-- The indices are the reply's bits, the padding's zeros after them. -/
def FollowsBits (merkle : Value) (indices : List UInt8) : Prop :=
  ∃ items bits, replyItems merkle "path_indices" = some items ∧
    items.map directionBit = bits.map some ∧
    indices = bits ++ List.replicate (rlnTreeDepth - bits.length) 0

/-- A fill refuses the reply, or caches a path the prover takes that goes the
way the reply says. -/
def RefusesOrCaches (field : FieldCoding Fr) (registry : CanonicalRegistryId) (hash : String)
    (leafIndex : UInt64) (reply : Except ApiError Value) (now : UInt64) (caches : Caches) : Prop :=
  let filled := fillPathCache field registry hash leafIndex reply now caches
  (∃ error, filled.1 = .error error) ∨
    ∃ merkle path, reply = .ok merkle ∧ hit hash leafIndex filled.2 = some path ∧
      UsablePath path ∧ FollowsBits merkle path.2

/-- The reply lacks an array, or its strings are 32-byte hex, as many as the
depth it is read at but at most the circuit's, and its indices are as many bits. -/
def WellFormedReply (merkle : Value) : Prop :=
  ∀ elements items, jsonStrArray merkle "path_elements" = .ok elements →
    replyItems merkle "path_indices" = some items →
    let depth := min (replyDepth merkle elements) rlnTreeDepth
    elements.length = depth ∧ (∀ sibling ∈ elements, (hexToBytes32 sibling).isSome) ∧
      items.length = depth ∧ ∀ item ∈ items, (directionBit item).isSome

/-! ## The fill -/

section Fill

variable {field : FieldCoding Fr} {registry : CanonicalRegistryId} {hash : String}
  {leafIndex now : UInt64} {reply : Except ApiError Value} {caches : Caches}

/-- The indices as the fill decodes them. -/
def decodedIndices (items : List Value) : List UInt8 :=
  (items.filterMap Value.asU64).map UInt64.toUInt8

theorem jsonU8Array_eq_ok_iff {merkle : Value} {key : String} {indices : List UInt8} :
    jsonU8Array merkle key = .ok indices ↔
      ∃ items, replyItems merkle key = some items ∧ indices = decodedIndices items := by
  cases hitems : replyItems merkle key with
  | none =>
      simp only [replyItems] at hitems
      simp [jsonU8Array, hitems]
  | some items =>
      simp only [replyItems] at hitems
      simp [jsonU8Array, hitems, decodedIndices, eq_comm]

/-- A refused fill changes nothing. -/
theorem fillPathCache_refused {error : ApiError}
    (hrefused : (fillPathCache field registry hash leafIndex reply now caches).1 = .error error) :
    (fillPathCache field registry hash leafIndex reply now caches).2 = caches := by
  unfold fillPathCache at hrefused ⊢
  cases reply with
  | error refusal => rfl
  | ok merkle =>
      cases helements : jsonStrArray merkle "path_elements" with
      | error refusal => simp [helements]
      | ok elements =>
          cases hindices : jsonU8Array merkle "path_indices" with
          | error refusal => simp [helements, hindices]
          | ok indices => simp [helements, hindices] at hrefused

/-- What an accepted fill caches. -/
theorem fillPathCache_ok
    (hok : (fillPathCache field registry hash leafIndex reply now caches).1 = .ok ()) :
    ∃ merkle elements items, reply = .ok merkle ∧
      jsonStrArray merkle "path_elements" = .ok elements ∧
      replyItems merkle "path_indices" = some items ∧
      (fillPathCache field registry hash leafIndex reply now caches).2.paths =
        caches.paths.insert hash
          ⟨(padPath field elements (decodedIndices items) (replyDepth merkle elements)).1,
            (padPath field elements (decodedIndices items) (replyDepth merkle elements)).2,
            leafIndex⟩ := by
  unfold fillPathCache at hok ⊢
  cases reply with
  | error refusal => simp at hok
  | ok merkle =>
      cases helements : jsonStrArray merkle "path_elements" with
      | error refusal => simp [helements] at hok
      | ok elements =>
          cases hindices : jsonU8Array merkle "path_indices" with
          | error refusal => simp [helements, hindices] at hok
          | ok indices =>
              obtain ⟨items, hitems, rfl⟩ := jsonU8Array_eq_ok_iff.mp hindices
              exact ⟨merkle, elements, items, rfl, helements, hitems, by simp [helements, hindices]⟩

/-- A reply with both arrays is accepted, and its padded path is hit. -/
theorem fillPathCache_accepts {merkle : Value} {elements : List String} {items : List Value}
    (helements : jsonStrArray merkle "path_elements" = .ok elements)
    (hitems : replyItems merkle "path_indices" = some items) :
    let filled := fillPathCache field registry hash leafIndex (.ok merkle) now caches
    filled.1 = .ok () ∧ hit hash leafIndex filled.2 =
      some (padPath field elements (decodedIndices items) (replyDepth merkle elements)) := by
  have hindices : jsonU8Array merkle "path_indices" = .ok (decodedIndices items) :=
    jsonU8Array_eq_ok_iff.mpr ⟨items, hitems, rfl⟩
  simp [fillPathCache, hit, helements, hindices]

end Fill

/-! ## When a padded path is usable -/

section Padded

variable (field : FieldCoding Fr) (elements : List String)

theorem forall_hex_padPath_iff (indices : List UInt8) (depth : ℕ) :
    (∀ sibling ∈ (padPath field elements indices depth).1, (hexToBytes32 sibling).isSome) ↔
      ∀ sibling ∈ elements, (hexToBytes32 sibling).isSome := by
  simp only [padPath, List.mem_append, List.mem_map, or_imp, forall_and, forall_exists_index,
    and_imp, forall_apply_eq_imp_iff₂, hexToBytes32_frToHex, Option.isSome_some, implies_true,
    and_true]

/-- Padding completes the lists that are as long as the depth, the circuit's at
most. -/
theorem usablePath_padPath_iff (indices : List UInt8) (depth : ℕ) :
    UsablePath (padPath field elements indices depth) ↔
      elements.length = min depth rlnTreeDepth ∧
        (∀ sibling ∈ elements, (hexToBytes32 sibling).isSome) ∧
        indices.length = min depth rlnTreeDepth := by
  have helements := length_padPath_elements field elements indices depth
  have hindices := length_padPath_indices field elements indices depth
  constructor
  · intro husable
    have hlengths := helements.symm.trans husable.elements
    have hindexLengths := hindices.symm.trans husable.indices
    exact ⟨by omega, (forall_hex_padPath_iff field elements indices depth).mp husable.hex,
      by omega⟩
  · rintro ⟨hlength, hhex, hindexLength⟩
    exact ⟨by omega, (forall_hex_padPath_iff field elements indices depth).mpr hhex, by omega⟩

end Padded

/-- Bits are decoded as themselves. -/
theorem decodedIndices_of_bits {items : List Value} {bits : List UInt8}
    (hbits : items.map directionBit = bits.map some) : decodedIndices items = bits := by
  induction items generalizing bits with
  | nil =>
      have hempty : bits = [] := by simpa using hbits.symm
      rw [hempty]
      rfl
  | cons item items ih =>
      cases bits with
      | nil => simp at hbits
      | cons bit bits =>
          simp only [List.map_cons, List.cons.injEq] at hbits
          obtain ⟨hbit, hrest⟩ := hbits
          have htail := ih hrest
          simp only [decodedIndices] at htail ⊢
          cases item with
          | uint number =>
              simp only [directionBit, Option.ite_none_right_eq_some, Option.some.injEq] at hbit
              simp [Value.asU64, hbit.2, htail]
          | _ => simp [directionBit] at hbit

theorem exists_bits_iff {items : List Value} :
    (∃ bits : List UInt8, items.map directionBit = bits.map some) ↔
      ∀ item ∈ items, (directionBit item).isSome := by
  constructor
  · rintro ⟨bits, hbits⟩ item hitem
    have hmember : directionBit item ∈ bits.map some := hbits ▸ List.mem_map_of_mem hitem
    obtain ⟨bit, -, hbit⟩ := List.mem_map.mp hmember
    simp [← hbit]
  · intro hall
    induction items with
    | nil => exact ⟨[], rfl⟩
    | cons item items ih =>
        obtain ⟨bits, hbits⟩ := ih fun other hother => hall other (by simp [hother])
        obtain ⟨bit, hbit⟩ := Option.isSome_iff_exists.mp (hall item (by simp))
        exact ⟨bit :: bits, by simp [hbits, hbit]⟩

/-- A padded path is usable and follows the reply exactly when the reply's
elements and items fit its depth. -/
theorem usable_and_follows_iff (field : FieldCoding Fr) (merkle : Value) (elements : List String)
    (items : List Value) (depth : ℕ) (hitems : replyItems merkle "path_indices" = some items) :
    UsablePath (padPath field elements (decodedIndices items) depth) ∧
        FollowsBits merkle (padPath field elements (decodedIndices items) depth).2 ↔
      elements.length = min depth rlnTreeDepth ∧
        (∀ sibling ∈ elements, (hexToBytes32 sibling).isSome) ∧
        items.length = min depth rlnTreeDepth ∧ ∀ item ∈ items, (directionBit item).isSome := by
  have hlengths : ∀ bits : List UInt8, items.map directionBit = bits.map some →
      items.length = bits.length := by
    intro bits hbits
    simpa using congrArg List.length hbits
  constructor
  · rintro ⟨husable, items', bits, hitems', hbits, -⟩
    cases hitems.symm.trans hitems'
    obtain ⟨helements, hhex, hindices⟩ :=
      (usablePath_padPath_iff field elements _ depth).mp husable
    rw [decodedIndices_of_bits hbits, ← hlengths bits hbits] at hindices
    exact ⟨helements, hhex, hindices, exists_bits_iff.mp ⟨bits, hbits⟩⟩
  · rintro ⟨helements, hhex, hlength, hall⟩
    obtain ⟨bits, hbits⟩ := exists_bits_iff.mpr hall
    have hdecoded := decodedIndices_of_bits hbits
    have hbitsLength := hlengths bits hbits
    refine ⟨(usablePath_padPath_iff field elements _ depth).mpr ⟨helements, hhex, ?_⟩,
      items, bits, hitems, hbits, ?_⟩
    · rw [hdecoded]
      omega
    · have hpadding : rlnTreeDepth - bits.length = rlnTreeDepth - depth := by omega
      simp [padPath, hdecoded, hpadding]

/-- A fill behaves exactly on the well-formed replies. -/
theorem refusesOrCaches_iff (field : FieldCoding Fr) (registry : CanonicalRegistryId)
    (hash : String) (leafIndex : UInt64) (reply : Except ApiError Value) (now : UInt64)
    (caches : Caches) :
    RefusesOrCaches field registry hash leafIndex reply now caches ↔
      ∀ merkle, reply = .ok merkle → WellFormedReply merkle := by
  constructor
  · rintro hfill merkle rfl elements items helements hitems
    obtain ⟨hok, hhit⟩ := @fillPathCache_accepts _ field registry hash leafIndex now caches
      _ _ _ helements hitems
    rcases hfill with ⟨error, herror⟩ | ⟨merkle, path, hreply, hpath, husable, hfollows⟩
    · cases hok.symm.trans herror
    · cases hreply
      cases hhit.symm.trans hpath
      exact (usable_and_follows_iff field merkle elements items _ hitems).mp ⟨husable, hfollows⟩
  · intro hwellFormed
    cases hfilled : (fillPathCache field registry hash leafIndex reply now caches).1 with
    | error error => exact .inl ⟨error, hfilled⟩
    | ok _ =>
        obtain ⟨merkle, elements, items, rfl, helements, hitems, -⟩ := fillPathCache_ok hfilled
        obtain ⟨-, hhit⟩ := @fillPathCache_accepts _ field registry hash leafIndex now
          caches _ _ _ helements hitems
        obtain ⟨husable, hfollows⟩ := (usable_and_follows_iff field merkle elements items _
          hitems).mpr (hwellFormed merkle rfl elements items helements hitems)
        exact .inr ⟨merkle, _, rfl, hhit, husable, hfollows⟩

/-- A reply without siblings that declares a depth of nine. -/
def hollowReply : Value :=
  .object [("depth", .uint 9), ("path_elements", .array []), ("path_indices", .array [])]

/-- It is cached as a path of one sibling. -/
theorem hollow_path_cached :
    ¬ ∀ registry hash leafIndex reply now caches,
      RefusesOrCaches Sample.field registry hash leafIndex reply now caches := by
  intro hall
  have hwellFormed := (refusesOrCaches_iff Sample.field ⟨"logos", "1", "", "logos:1:"⟩ "ab" 0
    (.ok hollowReply) 0 {}).mp (hall _ _ _ _ _ _) hollowReply rfl
  have hlength := (hwellFormed [] [] rfl rfl).1
  simp [replyDepth, hollowReply, Value.get, Value.asU64, rlnTreeDepth] at hlength

/-! ## Runs -/

/-- The length and hex checks of `generate`. -/
structure PassesChecks (material : WitnessMaterial) : Prop where
  path : checkPath material = .ok ()
  secret : ∃ bytes, decodeHex32 material.identitySecretHashHex "identity_secret_hash" = .ok bytes
  siblings : ∀ hex ∈ material.pathElementsHex, ∃ bytes, decodeHex32 hex "path_element" = .ok bytes

/-- The secret as a registration writes it, 32 bytes of hex. -/
def HexSecret (prepared : Prepared) : Prop :=
  (hexToBytes32 prepared.credential.identitySecretHash).isSome

/-- Every fill answers to a well-formed reply, whichever thread makes it, and
the credential a generation unseals is one a registration wrote. -/
def Admissible (libs : Libraries) (node : GenerateNode) : GenerateInput → Prop
  | .refreshPath _ _ _ reply _ => ∀ merkle, reply = .ok merkle → WellFormedReply merkle
  | .advance i moment => ∀ prepared merkle, node.generations[i]? = some (.fetching prepared) →
      moment.merkleProof = .ok merkle → WellFormedReply merkle
  | .generateProof args now => ∀ prepared,
      prepare libs node.config node.cursors args now node.world.store = .ok prepared →
        HexSecret prepared
  | _ => True

def CachedUsable (caches : Caches) : Prop :=
  ∀ (hash : String) (cached : CachedPath), caches.paths[hash]? = some cached →
    UsablePath (cached.pathElementsHex, cached.pathIndices)

/-- What a generation holds is fit for the prover. -/
def HoldsUsable : Generation → Prop
  | .fetching prepared => HexSecret prepared
  | .rehitting prepared => HexSecret prepared
  | .reserving prepared path => HexSecret prepared ∧ UsablePath path
  | .answered _ => True

structure AllUsable (node : GenerateNode) : Prop where
  cached : CachedUsable node.caches
  held : ∀ generation ∈ node.generations, HoldsUsable generation

theorem decodeHex32_of_isSome {hex : String} (label : String)
    (hhex : (hexToBytes32 hex).isSome) : ∃ bytes, decodeHex32 hex label = .ok bytes := by
  obtain ⟨bytes, hbytes⟩ := Option.isSome_iff_exists.mp hhex
  exact ⟨bytes, by simp [decodeHex32, hbytes]⟩

/-- A usable path makes a witness that passes, whatever slot it is for. -/
theorem passesChecks_material {prepared : Prepared} {path : List String × List UInt8}
    (hsecret : HexSecret prepared) (husable : UsablePath path) (messageId : UInt64) :
    PassesChecks (prepared.material path messageId) where
  path := by simp [checkPath, Prepared.material, husable.elements, husable.indices]
  secret := decodeHex32_of_isSome _ hsecret
  siblings := fun hex hmember => decodeHex32_of_isSome _ (husable.hex hex hmember)

theorem usablePath_of_hit {caches : Caches} {hash : String} {leafIndex : UInt64}
    {path : List String × List UInt8} (hcached : CachedUsable caches)
    (hhit : hit hash leafIndex caches = some path) : UsablePath path := by
  simp only [hit, Option.bind_eq_bind, Option.bind_eq_some_iff] at hhit
  obtain ⟨cached, hentry, hleaf⟩ := hhit
  split_ifs at hleaf
  cases hleaf
  exact hcached hash cached hentry

/-- A fill from a well-formed reply leaves usable paths only. -/
theorem cachedUsable_fill {field : FieldCoding Fr} {registry : CanonicalRegistryId}
    {hash : String} {leafIndex now : UInt64} {reply : Except ApiError Value} {caches : Caches}
    (hcached : CachedUsable caches)
    (hwellFormed : ∀ merkle, reply = .ok merkle → WellFormedReply merkle) :
    CachedUsable (fillPathCache field registry hash leafIndex reply now caches).2 := by
  cases hfilled : (fillPathCache field registry hash leafIndex reply now caches).1 with
  | error error =>
      rw [fillPathCache_refused hfilled]
      exact hcached
  | ok _ =>
      obtain ⟨merkle, elements, items, rfl, helements, hitems, hpaths⟩ := fillPathCache_ok hfilled
      obtain ⟨husable, -⟩ := (usable_and_follows_iff field merkle elements items _ hitems).mpr
        (hwellFormed merkle rfl elements items helements hitems)
      intro other cached hentry
      rw [hpaths, Std.ExtTreeMap.getElem?_insert] at hentry
      split at hentry
      · cases hentry
        exact husable
      · exact hcached other cached hentry

/-- A slot is spent on the material of its own generation. -/
theorem material_of_spent {zk : Zerokit Fr Proof} {libs : Libraries} {prepared : Prepared}
    {path : List String × List UInt8} {write : WriteOutcome} {world : World}
    {material : WitnessMaterial}
    (hspent : (reserveAndProve zk libs prepared path write world).spent = some material) :
    ∃ messageId, material = prepared.material path messageId := by
  simp only [reserveAndProve] at hspent
  split at hspent
  · exact ⟨_, (Option.some.inj hspent).symm⟩
  · cases hspent
  · cases hspent

/-- On a path of another length the slot is spent for nothing. -/
theorem spent_on_unusable {zk : Zerokit Fr Proof} {libs : Libraries} {prepared : Prepared}
    {path : List String × List UInt8} {write : WriteOutcome} {world : World}
    {material : WitnessMaterial}
    (hspent : (reserveAndProve zk libs prepared path write world).spent = some material)
    (hlengths : path.1.length ≠ path.2.length ∨ path.1.length ≠ rlnTreeDepth) :
    ∃ message, (reserveAndProve zk libs prepared path write world).result =
      .error ⟨.invalidArgument, message⟩ := by
  have hrefused : ∀ messageId, ∃ message,
      checkPath (prepared.material path messageId) = .error (.badInput message) := by
    intro messageId
    by_cases hpair : path.1.length = path.2.length
    · have hdepth : path.2.length ≠ rlnTreeDepth := by simpa [hpair] using hlengths
      simp [checkPath, Prepared.material, hpair, hdepth]
    · simp [checkPath, Prepared.material, hpair]
  unfold reserveAndProve at hspent ⊢
  rcases hstep : SealedStore.step libs world (.reserve prepared.reserveArgs write) with
    ⟨world', answer⟩
  rw [hstep] at hspent
  cases answer with
  | reserved result =>
      cases result with
      | error error => cases hspent
      | ok messageId =>
          obtain ⟨message, hmessage⟩ := hrefused messageId
          exact ⟨message, by simp [prove, generate, hmessage, bind, Except.bind, proofError]⟩
  | _ => cases hspent

theorem holdsUsable_enter {prepared : Except ApiError Prepared} {caches : Caches}
    (hcached : CachedUsable caches)
    (hsecret : ∀ settled, prepared = .ok settled → HexSecret settled) :
    HoldsUsable (enter prepared caches) := by
  cases prepared with
  | error error => trivial
  | ok settled =>
      cases hhit : hit settled.hash settled.leafIndex caches with
      | none => simpa [enter, hhit, HoldsUsable] using hsecret settled rfl
      | some path =>
          simpa [enter, hhit, HoldsUsable] using
            ⟨hsecret settled rfl, usablePath_of_hit hcached hhit⟩

/-- One section of a generation keeps what is cached and what it holds usable. -/
theorem usable_advance (zk : Zerokit Fr Proof) (libs : Libraries) {moment : GenerateMoment}
    {world : World} {caches : Caches} {generation : Generation} (hcached : CachedUsable caches)
    (hholds : HoldsUsable generation)
    (hwellFormed : ∀ prepared merkle, generation = .fetching prepared →
      moment.merkleProof = .ok merkle → WellFormedReply merkle) :
    let next := generation.advance zk libs moment world caches
    CachedUsable next.caches ∧ HoldsUsable next.generation ∧
      ∀ material, next.spent = some material → PassesChecks material := by
  cases generation with
  | fetching prepared =>
      have hfilled := @cachedUsable_fill _ zk.toFieldCoding prepared.registry prepared.hash
        prepared.leafIndex moment.fetchedAt moment.merkleProof caches hcached
        fun merkle => hwellFormed prepared merkle rfl
      simp only [Generation.advance]
      rcases hresult : fillPathCache zk.toFieldCoding prepared.registry prepared.hash
        prepared.leafIndex moment.merkleProof moment.fetchedAt caches with ⟨result, filled⟩
      rw [hresult] at hfilled
      cases result with
      | error error => exact ⟨hfilled, trivial, by simp⟩
      | ok _ => exact ⟨hfilled, hholds, by simp⟩
  | rehitting prepared =>
      simp only [Generation.advance]
      cases hhit : hit prepared.hash prepared.leafIndex caches with
      | none => exact ⟨hcached, trivial, by simp⟩
      | some path => exact ⟨hcached, ⟨hholds, usablePath_of_hit hcached hhit⟩, by simp⟩
  | reserving prepared path =>
      refine ⟨hcached, trivial, fun material hspent => ?_⟩
      obtain ⟨messageId, rfl⟩ := material_of_spent hspent
      exact passesChecks_material hholds.1 hholds.2 messageId
  | answered result => exact ⟨hcached, trivial, by simp [Generation.advance]⟩

theorem allUsable_step (zk : Zerokit Fr Proof) (libs : Libraries) {node : GenerateNode}
    {input : GenerateInput} (husable : AllUsable node) (hinput : Admissible libs node input) :
    AllUsable (node.step zk libs input).1 ∧
      ∀ material, (node.step zk libs input).2 = some material → PassesChecks material := by
  cases input with
  | configure config => exact ⟨⟨husable.cached, husable.held⟩, by simp [GenerateNode.step]⟩
  | storeCall op => exact ⟨⟨husable.cached, husable.held⟩, by simp [GenerateNode.step]⟩
  | refreshPath registry hash leafIndex reply now =>
      exact ⟨⟨cachedUsable_fill husable.cached hinput, husable.held⟩, by simp [GenerateNode.step]⟩
  | generateProof args now =>
      refine ⟨⟨husable.cached, fun generation hmember => ?_⟩, by simp [GenerateNode.step]⟩
      simp only [GenerateNode.step, List.mem_append, List.mem_singleton] at hmember
      cases hmember with
      | inl hold => exact husable.held generation hold
      | inr hnew =>
          rw [hnew]
          exact holdsUsable_enter husable.cached hinput
  | advance i moment =>
      cases hgeneration : node.generations[i]? with
      | none => simpa [GenerateNode.step, hgeneration] using husable
      | some generation =>
          obtain ⟨hcached, hholds, hspent⟩ := @usable_advance _ _ zk libs moment
            node.world node.caches generation husable.cached
            (husable.held generation (List.mem_of_getElem? hgeneration))
            fun prepared merkle hfetching => hinput prepared merkle (hfetching ▸ hgeneration)
          simp only [GenerateNode.step, hgeneration]
          refine ⟨⟨hcached, fun other hmember => ?_⟩, hspent⟩
          cases List.mem_or_eq_of_mem_set hmember with
          | inl hold => exact husable.held other hold
          | inr hnew => exact hnew ▸ hholds

/-- A fill refuses or caches a usable path exactly on the well-formed replies,
and in every run from an empty cache whose fills answer to such replies each
slot is spent on a witness that passes the prover's length and hex checks. -/
theorem malformed_reply_spends_no_slot (zk : Zerokit Fr Proof) (libs : Libraries) :
    (∀ registry hash leafIndex reply now caches,
      RefusesOrCaches zk.toFieldCoding registry hash leafIndex reply now caches ↔
        ∀ merkle, reply = .ok merkle → WellFormedReply merkle) ∧
    ∀ (node : GenerateNode) (inputs : List GenerateInput), node.caches.paths = ∅ →
      node.generations = [] → Guarded (GenerateNode.step zk libs) (Admissible libs) node inputs →
        ∀ event ∈ trace (GenerateNode.step zk libs) node inputs, ∀ material,
          event.output = some material → PassesChecks material := by
  refine ⟨refusesOrCaches_iff zk.toFieldCoding, fun node inputs hpaths hgenerations hguard => ?_⟩
  have hinitial : AllUsable node := by
    refine ⟨fun hash cached hentry => ?_, fun generation hmember => ?_⟩
    · simp [hpaths] at hentry
    · simp [hgenerations] at hmember
  exact @trace_forall _ _ _ (GenerateNode.step zk libs) (Admissible libs) AllUsable
    (fun event => ∀ material, event.output = some material → PassesChecks material)
    (fun node input husable hinput => (allUsable_step zk libs husable hinput).1)
    (fun node input husable hinput => (allUsable_step zk libs husable hinput).2)
    node inputs hinitial hguard

end LogosRln.Proofs.PathReplies
