import LogosRln.Core.Run
import LogosRln.Proofs.Handlers
import LogosRln.Proofs.Sample
import LogosRln.ReferenceJson
import LogosRln.SealedStore.Reference

/-!
# Wire shapes of a generated proof

A reply of `generate_proof` can be presented as it is, as the decomposed fields
with or without the external nullifier, or as the canonical bytes alone, each
without an epoch or with it in either coding.  All of them are read as one
proof, which a verifier that lists its root and knows its epoch accepts once
and calls a duplicate ever after.
-/

namespace LogosRln.Proofs.WireShapes

open RegistryId Json Run RateLimit Lifecycle SealedStore SealedStore.Format Selection
open Callers (providerOf)

variable {Fr Proof : Type} {zk : Zerokit Fr Proof}

/-! ## The circuit library's promises -/

/-- The length of a serialized single-mode proof. -/
def canonicalLen : ℕ := 289

/-- A proof carries the `x` and the external nullifier of its witness, is
accepted for them under a listed root, and is read back from its bytes, which
start with the Groth16 proof. -/
structure Lawful (zk : Zerokit Fr Proof) : Prop where
  roundTrips : zk.toFieldCoding.RoundTrips
  builds : ∀ witness built, zk.buildWitness witness = .ok built →
    built.x = witness.x ∧ built.externalNullifier = witness.externalNullifier
  carries : ∀ witness rln, zk.generateProof witness = .ok rln →
    rln.values.x = witness.x ∧ rln.values.externalNullifier = witness.externalNullifier
  accepts : ∀ witness rln roots, zk.generateProof witness = .ok rln → rln.values.root ∈ roots →
    zk.verifyWithRoots rln witness.x roots = .ok true
  readsBack : ∀ rln bytes, zk.serializeRln rln = .ok bytes → zk.deserializeRln bytes = .ok rln
  length : ∀ rln bytes, zk.serializeRln rln = .ok bytes → rln.values.y.isSome →
    bytes.length = canonicalLen
  startsWithProof : ∀ rln bytes, zk.serializeRln rln = .ok bytes → rln.values.y.isSome →
    zk.deserializeProof (bytes.take groth16Len) = .ok rln.proof

/-! ## The shapes -/

/-- `returned` is the reply itself, `decomposed` its proof fields alone,
`derived` those without the external nullifier, `canonical` the canonical bytes
as the proof. -/
inductive Form where
  | returned
  | decomposed
  | derived
  | canonical
  deriving DecidableEq

inductive EpochCoding where
  | absent
  | hex
  | index
  deriving DecidableEq

/-- The named field of the reply, under the same or another name. -/
def copied (out : Value) (source : String) (target : String) : List (String × Value) :=
  ((out.get source).map fun value => (target, value)).toList

def epochField (out : Value) : EpochCoding → List (String × Value)
  | .absent => []
  | .hex => copied out "epoch" "epoch"
  | .index => copied out "epoch_index" "epoch"

def formFields (out : Value) : Form → List (String × Value)
  | .returned =>
      match out with
      | .object fields => fields.filter (·.1 ≠ "epoch")
      | _ => []
  | .decomposed =>
      ["external_nullifier", "nullifier", "proof", "root", "share_x", "share_y"].flatMap
        fun key => copied out key key
  | .derived =>
      ["nullifier", "proof", "root", "share_x", "share_y"].flatMap fun key => copied out key key
  | .canonical => copied out "proof_canonical" "proof"

/-- The object a consumer presents. -/
def wireShape (out : Value) (form : Form) (coding : EpochCoding) : Value :=
  .object (epochField out coding ++ formFields out form)

/-- The epoch a shape carries. -/
def carriedEpoch (epoch : UInt64) : EpochCoding → Option UInt64
  | .absent => none
  | .hex => some epoch
  | .index => some epoch

/-! ## The reply's fields -/

/-- The reply in full. -/
theorem generateReply_eq {rlp : RateLimitProof} {epoch : UInt64} (hepoch : rlp.epoch = some epoch)
    (prepared : Prepared) (messageId : UInt64) :
    generateReply rlp prepared messageId = .object
      [("epoch", .str (bytesToHex (epochToBytes epoch).toList)),
        ("epoch_index", .uint prepared.freshness.epoch),
        ("external_nullifier", .str (bytesToHex rlp.externalNullifier.toList)),
        ("membership_hash", .str prepared.hash), ("message_id", .uint messageId),
        ("nullifier", .str (bytesToHex rlp.nullifier.toList)),
        ("proof", .str (bytesToHex (rlp.canonical.take groth16Len))),
        ("proof_canonical", .str rlp.canonicalHex),
        ("root", .str (bytesToHex rlp.root.toList)),
        ("share_x", .str (bytesToHex rlp.shareX.toList)),
        ("share_y", .str (bytesToHex rlp.shareY.toList))] := by
  simp only [generateReply, RateLimitProof.toJson, hepoch, Value.set, setField, String.reduceEq,
    String.reduceLT, if_true, if_false]

/-- The reply itself is one of the shapes. -/
theorem wireShape_returned_hex {rlp : RateLimitProof} {epoch : UInt64}
    (hepoch : rlp.epoch = some epoch) (prepared : Prepared) (messageId : UInt64) :
    wireShape (generateReply rlp prepared messageId) .returned .hex =
      generateReply rlp prepared messageId := by
  rw [generateReply_eq hepoch]
  rfl

/-- What a shape says of the proof and of its public values: `proof` are the
bytes it carries, `listed` whether it names its public values. -/
structure Says (wire : Value) (rlp : RateLimitProof) (carried : Option UInt64) (form : Form) :
    Prop where
  proof : (wire.get "proof").bind Value.asStr = some (bytesToHex
    (if form = .canonical then rlp.canonical else rlp.canonical.take groth16Len))
  fields : form ≠ .canonical →
    (wire.get "root").bind Value.asStr = some (bytesToHex rlp.root.toList) ∧
    (wire.get "share_x").bind Value.asStr = some (bytesToHex rlp.shareX.toList) ∧
    (wire.get "share_y").bind Value.asStr = some (bytesToHex rlp.shareY.toList) ∧
    (wire.get "nullifier").bind Value.asStr = some (bytesToHex rlp.nullifier.toList) ∧
    (wire.get "external_nullifier").bind Value.asStr =
      some (bytesToHex rlp.externalNullifier.toList)
  epoch : wireEpoch wire = .ok carried

section Reply

variable {rlp : RateLimitProof} {prepared : Prepared} {messageId : UInt64}

/-- The external nullifier is derived for the shape that leaves it out. -/
theorem derivesExternalNullifier_wireShape
    (hepoch : rlp.epoch = some prepared.freshness.epoch) (form : Form) (coding : EpochCoding) :
    derivesExternalNullifier (wireShape (generateReply rlp prepared messageId) form coding) =
      decide (form = .derived) := by
  rw [generateReply_eq hepoch]
  cases form <;> cases coding <;> rfl

/-- With the derived one put in, that shape is the decomposed one. -/
theorem completeProof_wireShape (hepoch : rlp.epoch = some prepared.freshness.epoch)
    (hbound : rlp.externalNullifier =
      expectedExternalNullifier zk prepared.freshness.epoch prepared.rlnIdentifier)
    (form : Form) (coding : EpochCoding) :
    completeProof zk prepared.freshness.epoch prepared.rlnIdentifier
        (wireShape (generateReply rlp prepared messageId) form coding) =
      wireShape (generateReply rlp prepared messageId)
        (if form = .derived then .decomposed else form) coding := by
  have hderives := @derivesExternalNullifier_wireShape rlp prepared messageId hepoch form coding
  cases form with
  | derived =>
      rw [completeProof, if_pos (by simpa using hderives), ← hbound, generateReply_eq hepoch]
      cases coding <;> simp only [wireShape, epochField, formFields, copied, Value.get,
        List.flatMap_cons, List.flatMap_nil, List.find?_cons, String.reduceBEq, Option.map_some,
        Option.toList_some, List.cons_append, List.nil_append, Value.set, setField,
        String.reduceEq, String.reduceLT, if_true, if_false]
  | _ => rw [completeProof, if_neg (by simp [hderives]), if_neg (by decide)]

/-- The shapes that name every public value, and the canonical one, say what the
proof is. -/
theorem holds_wireShape (hepoch : rlp.epoch = some prepared.freshness.epoch) {form : Form}
    (hform : form ≠ .derived) (coding : EpochCoding) :
    Says (wireShape (generateReply rlp prepared messageId) form coding) rlp
      (carriedEpoch prepared.freshness.epoch coding) form := by
  have hwireEpoch : wireEpoch (wireShape (generateReply rlp prepared messageId) form coding) =
      .ok (carriedEpoch prepared.freshness.epoch coding) := by
    rw [generateReply_eq hepoch]
    cases coding with
    | absent => cases form <;> rfl
    | index => rfl
    | hex =>
        have hget : (wireShape (.object
            [("epoch", Value.str (bytesToHex (epochToBytes prepared.freshness.epoch).toList)),
              ("epoch_index", .uint prepared.freshness.epoch),
              ("external_nullifier", .str (bytesToHex rlp.externalNullifier.toList)),
              ("membership_hash", .str prepared.hash), ("message_id", .uint messageId),
              ("nullifier", .str (bytesToHex rlp.nullifier.toList)),
              ("proof", .str (bytesToHex (rlp.canonical.take groth16Len))),
              ("proof_canonical", .str rlp.canonicalHex),
              ("root", .str (bytesToHex rlp.root.toList)),
              ("share_x", .str (bytesToHex rlp.shareX.toList)),
              ("share_y", .str (bytesToHex rlp.shareY.toList))]) form .hex).get "epoch" =
            some (.str (bytesToHex (epochToBytes prepared.freshness.epoch).toList)) := rfl
        simp [wireEpoch, hget, Value.asU64, Value.asStr, epochFromBytes_epochToBytes, carriedEpoch]
  constructor
  · rw [generateReply_eq hepoch]
    cases form <;> cases coding <;> rfl
  · intro hlisted
    rw [generateReply_eq hepoch]
    cases form <;> cases coding <;>
      first | exact ⟨rfl, rfl, rfl, rfl, rfl⟩ | exact absurd rfl hform | exact absurd rfl hlisted
  · exact hwireEpoch

end Reply

/-! ## Reading a shape -/

/-- The proof is the bundle of these parts, whatever epoch it carries. -/
structure Bundles (zk : Zerokit Fr Proof) (rln : RlnProof Fr Proof) (rlp : RateLimitProof) :
    Prop where
  canonical : zk.serializeRln rln = .ok rlp.canonical
  root : rlp.root = zk.serialize rln.values.root
  externalNullifier : rlp.externalNullifier = zk.serialize rln.values.externalNullifier
  shareX : rlp.shareX = zk.serialize rln.values.x
  shareY : ∃ y, rln.values.y = some y ∧ rlp.shareY = zk.serialize y
  nullifier : ∃ nullifier, rln.values.nullifier = some nullifier ∧
    rlp.nullifier = zk.serialize nullifier

theorem bundles_of_fromParts {rln : RlnProof Fr Proof} {rlp : RateLimitProof}
    (hparts : RateLimitProof.fromParts zk rln = .ok rlp) : Bundles zk rln rlp := by
  unfold RateLimitProof.fromParts at hparts
  cases hy : rln.values.y with
  | none => simp [hy] at hparts
  | some y =>
      cases hnullifier : rln.values.nullifier with
      | none => simp [hy, hnullifier] at hparts
      | some nullifier =>
          cases hserialized : zk.serializeRln rln with
          | error error => simp [hy, hnullifier, hserialized, bind, Except.bind, Except.mapError]
              at hparts
          | ok canonical =>
              simp only [hy, hnullifier, hserialized, bind, Except.bind, Except.mapError, pure,
                Except.pure, Except.ok.injEq] at hparts
              subst hparts
              exact ⟨hserialized, rfl, rfl, rfl, ⟨y, hy, rfl⟩, ⟨nullifier, hnullifier, rfl⟩⟩

theorem fromParts_of_bundles {rln : RlnProof Fr Proof} {rlp : RateLimitProof}
    (hbundles : Bundles zk rln rlp) :
    RateLimitProof.fromParts zk rln = .ok { rlp with epoch := none } := by
  obtain ⟨y, hy, hshareY⟩ := hbundles.shareY
  obtain ⟨nullifier, hnullifier, hrlpNullifier⟩ := hbundles.nullifier
  simp [RateLimitProof.fromParts, hy, hnullifier, hbundles.canonical, bind, Except.bind,
    Except.mapError, pure, Except.pure, ← hbundles.root, ← hbundles.externalNullifier,
    ← hbundles.shareX, ← hshareY, ← hrlpNullifier]

theorem parseCanonical_of_bundles (hlawful : Lawful zk) {rln : RlnProof Fr Proof}
    {rlp : RateLimitProof} (hbundles : Bundles zk rln rlp) :
    parseCanonical zk rlp.canonical = .ok rln := by
  obtain ⟨y, hy, -⟩ := hbundles.shareY
  simp [parseCanonical, hlawful.readsBack rln _ hbundles.canonical, hy]

/-- A printed field element is read back. -/
theorem wireField_of_serialized (hlawful : Lawful zk) {wire : Value} {key : String} {value : Fr}
    {bytes : Bytes32} (hbytes : bytes = zk.serialize value)
    (hfield : (wire.get key).bind Value.asStr = some (bytesToHex bytes.toList)) :
    wireField zk wire key = .ok value := by
  simp [wireField, hfield, hexToFr, decodeHex32, hbytes, hlawful.roundTrips value, bind,
    Except.bind, Except.mapError]

/-- Every shape is read as the proof, with the epoch it carries. -/
theorem fromJson_of_shape (hlawful : Lawful zk) {rln : RlnProof Fr Proof} {rlp : RateLimitProof}
    (hbundles : Bundles zk rln rlp) {wire : Value} {carried : Option UInt64} {form : Form}
    (hshape : Says wire rlp carried form) :
    RateLimitProof.fromJson zk wire = .ok { rlp with epoch := carried } := by
  obtain ⟨y, hy, hshareY⟩ := hbundles.shareY
  obtain ⟨nullifier, hnullifier, hrlpNullifier⟩ := hbundles.nullifier
  have hlength : rlp.canonical.length = canonicalLen :=
    hlawful.length rln _ hbundles.canonical (by simp [hy])
  have hproof := hshape.proof
  have hcanonical : ∃ bytes, wireProofBytes wire = .ok bytes ∧
      wireCanonical zk wire bytes = .ok rlp.canonical := by
    by_cases hform : form = .canonical
    · rw [if_pos hform] at hproof
      refine ⟨rlp.canonical, by simp [wireProofBytes, hproof], ?_⟩
      rw [wireCanonical, if_neg]
      rw [hlength]
      decide
    · rw [if_neg hform] at hproof
      obtain ⟨hroot, hx, hyField, hnullifierField, hbound⟩ := hshape.fields hform
      refine ⟨rlp.canonical.take groth16Len, by simp [wireProofBytes, hproof], ?_⟩
      have htake : (rlp.canonical.take groth16Len).length = groth16Len := by
        rw [List.length_take, hlength]
        rfl
      have hrebuilt : ({
          proof := rln.proof
          values := {
            root := rln.values.root
            externalNullifier := rln.values.externalNullifier
            x := rln.values.x
            y := some y
            nullifier := some nullifier } } : RlnProof Fr Proof) = rln := by
        rw [← hy, ← hnullifier]
      rw [wireCanonical, if_pos htake,
        hlawful.startsWithProof rln _ hbundles.canonical (by simp [hy]),
        wireField_of_serialized hlawful hshareY hyField,
        wireField_of_serialized hlawful hbundles.root hroot,
        wireField_of_serialized hlawful hrlpNullifier hnullifierField,
        wireField_of_serialized hlawful hbundles.shareX hx,
        wireField_of_serialized hlawful hbundles.externalNullifier hbound]
      simp only [bind, Except.bind, Except.mapError, hrebuilt, hbundles.canonical]
  obtain ⟨bytes, hbytes, hcanonical⟩ := hcanonical
  simp only [RateLimitProof.fromJson, hbytes, hcanonical, hshape.epoch, bind, Except.bind,
    parseCanonical_of_bundles hlawful hbundles, fromParts_of_bundles hbundles, pure, Except.pure]

/-- On its own a bare proof without the external nullifier cannot be rebuilt. -/
theorem fromJson_derived (hlawful : Lawful zk) {rln : RlnProof Fr Proof} {rlp : RateLimitProof}
    {prepared : Prepared} {messageId : UInt64} (hbundles : Bundles zk rln rlp)
    (hepoch : rlp.epoch = some prepared.freshness.epoch) (coding : EpochCoding) :
    RateLimitProof.fromJson zk (wireShape (generateReply rlp prepared messageId) .derived coding) =
      .error (.badInput "external_nullifier: expected 32-byte hex alongside a bare proof") := by
  obtain ⟨y, hy, hshareY⟩ := hbundles.shareY
  obtain ⟨nullifier, hnullifier, hrlpNullifier⟩ := hbundles.nullifier
  have htake : (rlp.canonical.take groth16Len).length = groth16Len := by
    rw [List.length_take, hlawful.length rln _ hbundles.canonical (by simp [hy])]
    rfl
  let wire := wireShape (generateReply rlp prepared messageId) .derived coding
  have hbytes : wireProofBytes wire = .ok (rlp.canonical.take groth16Len) := by
    have hproof : (wire.get "proof").bind Value.asStr =
        some (bytesToHex (rlp.canonical.take groth16Len)) := by
      simp only [wire]
      rw [generateReply_eq hepoch]
      cases coding <;> rfl
    simp [wireProofBytes, hproof]
  have hlisted : (wire.get "share_y").bind Value.asStr = some (bytesToHex rlp.shareY.toList) ∧
      (wire.get "root").bind Value.asStr = some (bytesToHex rlp.root.toList) ∧
      (wire.get "nullifier").bind Value.asStr = some (bytesToHex rlp.nullifier.toList) ∧
      (wire.get "share_x").bind Value.asStr = some (bytesToHex rlp.shareX.toList) ∧
      (wire.get "external_nullifier").bind Value.asStr = none := by
    simp only [wire]
    rw [generateReply_eq hepoch]
    cases coding <;> exact ⟨rfl, rfl, rfl, rfl, rfl⟩
  obtain ⟨hyField, hroot, hnullifierField, hx, habsent⟩ := hlisted
  have hrefused : wireCanonical zk wire (rlp.canonical.take groth16Len) =
      .error (.badInput "external_nullifier: expected 32-byte hex alongside a bare proof") := by
    rw [wireCanonical, if_pos htake,
      hlawful.startsWithProof rln _ hbundles.canonical (by simp [hy]),
      wireField_of_serialized hlawful hshareY hyField,
      wireField_of_serialized hlawful hbundles.root hroot,
      wireField_of_serialized hlawful hrlpNullifier hnullifierField,
      wireField_of_serialized hlawful hbundles.shareX hx]
    simp only [wireField, habsent, bind, Except.bind, Except.mapError]
    rfl
  show RateLimitProof.fromJson zk wire = _
  simp only [RateLimitProof.fromJson, hbytes, hrefused, bind, Except.bind]

/-- A verifier reads every shape as the proof. -/
theorem fromJson_completeProof (hlawful : Lawful zk) {rln : RlnProof Fr Proof}
    {rlp : RateLimitProof} {prepared : Prepared} {messageId : UInt64}
    (hbundles : Bundles zk rln rlp)
    (hbound : rlp.externalNullifier =
      expectedExternalNullifier zk prepared.freshness.epoch prepared.rlnIdentifier)
    (hepoch : rlp.epoch = some prepared.freshness.epoch) (form : Form) (coding : EpochCoding) :
    RateLimitProof.fromJson zk
        (completeProof zk prepared.freshness.epoch prepared.rlnIdentifier
          (wireShape (generateReply rlp prepared messageId) form coding)) =
      .ok { rlp with epoch := carriedEpoch prepared.freshness.epoch coding } := by
  rw [completeProof_wireShape hepoch hbound]
  apply fromJson_of_shape hlawful hbundles
  apply holds_wireShape hepoch
  split
  · decide
  · assumption

/-! ## What a generation answers with -/

/-- The values a proof carries are those of the message it was made for. -/
structure MadeFor (zk : Zerokit Fr Proof) (rln : RlnProof Fr Proof) (signal : Bytes)
    (epoch : UInt64) (rlnIdentifier : Bytes32) : Prop where
  externalNullifier : rln.values.externalNullifier = externalNullifier zk epoch rlnIdentifier
  accepted : ∀ roots, rln.values.root ∈ roots →
    zk.verifyWithRoots rln (signalToX zk signal) roots = .ok true

theorem generate_eq_ok (hlawful : Lawful zk) {material : WitnessMaterial} {signal : Bytes}
    {epoch : UInt64} {rlnIdentifier : Bytes32} {rlp : RateLimitProof}
    (hgenerated : generate zk material signal epoch rlnIdentifier = .ok rlp) :
    ∃ rln, MadeFor zk rln signal epoch rlnIdentifier ∧ Bundles zk rln rlp ∧
      rlp.epoch = some epoch := by
  unfold generate at hgenerated
  obtain ⟨-, -, hgenerated⟩ := bind_eq_ok_iff.mp hgenerated
  obtain ⟨secretBytes, -, hgenerated⟩ := bind_eq_ok_iff.mp hgenerated
  obtain ⟨identitySecret, -, hgenerated⟩ := bind_eq_ok_iff.mp hgenerated
  obtain ⟨pathElements, -, hgenerated⟩ := bind_eq_ok_iff.mp hgenerated
  obtain ⟨witness, hbuilt, hgenerated⟩ := bind_eq_ok_iff.mp hgenerated
  obtain ⟨rln, hproved, hgenerated⟩ := bind_eq_ok_iff.mp hgenerated
  obtain ⟨bundled, hparts, hgenerated⟩ := bind_eq_ok_iff.mp hgenerated
  obtain ⟨hx, hnullifier⟩ := hlawful.builds _ _ (mapError_eq_ok_iff.mp hbuilt)
  have hproof := mapError_eq_ok_iff.mp hproved
  have hcarried := hlawful.carries _ _ hproof
  have hbundles := bundles_of_fromParts hparts
  cases hgenerated
  refine ⟨rln, ⟨hcarried.2.trans hnullifier, fun roots hroot => ?_⟩, ?_, rfl⟩
  · have haccepted := hlawful.accepts _ _ roots hproof hroot
    rwa [hx] at haccepted
  · exact ⟨hbundles.canonical, hbundles.root, hbundles.externalNullifier, hbundles.shareX,
      hbundles.shareY, hbundles.nullifier⟩

/-- The scope, epoch and signal a generation worked with. -/
structure Settles (config : Option ModuleConfig) (args : GenerateArgs) (now : UInt64)
    (prepared : Prepared) : Prop where
  scope : parseScope args.registryIdRaw args.rlnIdentifierHex =
    .ok (prepared.registry, prepared.rlnIdentifier, prepared.rlnIdHex)
  provider : providerOf prepared.registry = .ok ()
  fresh : freshEpochFor config prepared.registry.canonical args.timestamp now =
    .ok prepared.freshness
  signal : parseSignal args.signalHex = .ok prepared.signal

theorem settles_of_prepare {libs : Libraries} {config : Option ModuleConfig} {cursors : Cursors}
    {args : GenerateArgs} {now : UInt64} {store : Option Store} {prepared : Prepared}
    (hprepared : prepare libs config cursors args now store = .ok prepared) :
    Settles config args now prepared := by
  unfold prepare at hprepared
  obtain ⟨⟨registry, rlnIdentifier, rlnIdHex⟩, hscope, hprepared⟩ := bind_eq_ok_iff.mp hprepared
  obtain ⟨⟨⟩, hprovider, hprepared⟩ := bind_eq_ok_iff.mp hprepared
  obtain ⟨freshness, hfresh, hprepared⟩ := bind_eq_ok_iff.mp hprepared
  obtain ⟨signal, hsignal, hprepared⟩ := bind_eq_ok_iff.mp hprepared
  cases store with
  | none => cases hprepared
  | some store =>
      obtain ⟨hash, -, hprepared⟩ := bind_eq_ok_iff.mp hprepared
      cases hrecord : store.membership hash with
      | none => simp [hrecord] at hprepared
      | some record =>
          cases hleaf : record.cache.leafIndex with
          | none => simp [hrecord, hleaf] at hprepared
          | some leafIndex =>
              simp only [hrecord, hleaf] at hprepared
              obtain ⟨credential, -, hprepared⟩ := bind_eq_ok_iff.mp hprepared
              cases hprepared
              exact ⟨hscope, hprovider, hfresh, hsignal⟩

theorem freshEpochFor_eq_ok {config : Option ModuleConfig} {canonical timestamp : String}
    {now : UInt64} {freshness : Freshness}
    (hfresh : freshEpochFor config canonical timestamp now = .ok freshness) :
    epochOfTimestamp timestamp freshness.size = .ok freshness.epoch := by
  unfold freshEpochFor at hfresh
  obtain ⟨⟨size, gap⟩, -, hfresh⟩ := bind_eq_ok_iff.mp hfresh
  obtain ⟨epoch, hepoch, hfresh⟩ := bind_eq_ok_iff.mp hfresh
  simp only at hfresh
  split at hfresh
  · cases hfresh
  · cases hfresh
    exact hepoch

theorem generate_of_prove {prepared : Prepared} {path : List String × List UInt8}
    {messageId : UInt64} {out : Value} (hproved : prove zk prepared path messageId = .ok out) :
    ∃ rlp, generate zk (prepared.material path messageId) prepared.signal
        prepared.freshness.epoch prepared.rlnIdentifier = .ok rlp ∧
      out = generateReply rlp prepared messageId := by
  unfold prove at hproved
  split at hproved
  · cases hproved
  · next rlp hrlp =>
      cases hproved
      exact ⟨rlp, hrlp, rfl⟩

/-- What the last part answers with was proved over a reserved slot. -/
theorem prove_of_reserveAndProve {libs : Libraries} {prepared : Prepared}
    {path : List String × List UInt8} {write : SealedStore.Files.WriteOutcome} {world : World}
    {out : Value}
    (hspent : (reserveAndProve zk libs prepared path write world).result = .ok out) :
    ∃ messageId, prove zk prepared path messageId = .ok out := by
  unfold reserveAndProve at hspent
  split at hspent
  · exact ⟨_, hspent⟩
  · cases hspent
  · cases hspent

/-- A successful generation proved over a path and a reserved slot. -/
theorem generateProof_eq_ok {libs : Libraries} {config : Option ModuleConfig} {cursors : Cursors}
    {args : GenerateArgs} {moment : GenerateMoment} {world : World} {caches : Caches} {out : Value}
    (hgenerated : (generateProof zk libs config cursors args moment world caches).1 = .ok out) :
    ∃ prepared path messageId rlp,
      prepare libs config cursors args moment.now world.store = .ok prepared ∧
      generate zk (prepared.material path messageId) prepared.signal prepared.freshness.epoch
        prepared.rlnIdentifier = .ok rlp ∧
      out = generateReply rlp prepared messageId := by
  unfold generateProof at hgenerated
  cases hprepared : prepare libs config cursors args moment.now world.store with
  | error error => simp [hprepared] at hgenerated
  | ok prepared =>
      rcases hserved : servePath zk prepared moment caches with ⟨path, caches'⟩
      cases path with
      | error error => simp [hprepared, hserved] at hgenerated
      | ok path =>
          simp only [hprepared, hserved] at hgenerated
          obtain ⟨messageId, hproved⟩ := prove_of_reserveAndProve hgenerated
          obtain ⟨rlp, hrlp, hout⟩ := generate_of_prove hproved
          exact ⟨prepared, path, messageId, rlp, rfl, hrlp, hout⟩

/-! ## Presenting a shape -/

/-- One presentation: the shape, and what the verifier knows at that moment. -/
structure Presentation where
  form : Form
  coding : EpochCoding
  config : Option ModuleConfig
  windows : StringMap Window
  clocks : Clocks

/-- The shape's text validated against the log, for the scope, signal and
timestamp of the generation. -/
def presentTo (zk : Zerokit Fr Proof) (serde : Serde) (args : GenerateArgs) (out : Value)
    (log : NullifierLog) (presentation : Presentation) :
    NullifierLog × Except ApiError VerdictReply :=
  (validateProof zk serde
    { registryIdRaw := args.registryIdRaw
      rlnIdentifierHex := args.rlnIdentifierHex
      signalHex := args.signalHex
      timestamp := args.timestamp
      proofJson := serde.toString (wireShape out presentation.form presentation.coding) }
    presentation.clocks
    { config := presentation.config, windows := presentation.windows, log }).swap

/-- The verifier divides time as the prover did, its clock's window holds the
epoch, and its fresh root window lists the root. -/
def Presentation.Heard (registry : CanonicalRegistryId) (freshness : Freshness) (root : Bytes32)
    (presentation : Presentation) : Prop :=
  ∃ gap roots,
    epochParamsFor presentation.config registry.canonical = .ok (freshness.size, gap) ∧
    epochInWindow freshness.epoch (currentEpoch presentation.clocks.now freshness.size) gap ∧
    window registry.canonical presentation.clocks.windowNow presentation.windows = some roots ∧
    root ∈ roots

/-- The reply to a presentation; a derived external nullifier is named. -/
def verdictReply (rlp : RateLimitProof) (presentation : Presentation) (verdict : Verdict) :
    VerdictReply where
  externalNullifier :=
    if presentation.form = .derived then some (bytesToHex rlp.externalNullifier.toList) else none
  verdict := verdict

/-- Accepted once, a duplicate from then on. -/
def acceptedOnce (rlp : RateLimitProof) :
    List Presentation → List (Except ApiError VerdictReply)
  | [] => []
  | first :: later =>
      .ok (verdictReply rlp first .valid) ::
        later.map fun presentation => .ok (verdictReply rlp presentation .duplicate)

theorem verify_of_madeFor (hlawful : Lawful zk) {rln : RlnProof Fr Proof} {rlp : RateLimitProof}
    {signal : Bytes} {epoch : UInt64} {rlnIdentifier : Bytes32}
    (hmade : MadeFor zk rln signal epoch rlnIdentifier) (hbundles : Bundles zk rln rlp)
    {carried : Option UInt64} {roots : List Bytes32} (hroot : rlp.root ∈ roots) :
    verify zk { rlp with epoch := carried } signal roots = .ok true := by
  have hlisted : rln.values.root ∈ roots.filterMap fun root => (zk.deserialize root).toOption := by
    rw [List.mem_filterMap]
    refine ⟨rlp.root, hroot, ?_⟩
    rw [hbundles.root, hlawful.roundTrips rln.values.root]
    rfl
  have hreadable : (roots.filterMap fun root => (zk.deserialize root).toOption).isEmpty = false := by
    simpa using List.ne_nil_of_mem hlisted
  simp [verify, parseCanonical_of_bundles hlawful hbundles, hreadable,
    hmade.accepted _ hlisted, bind, Except.bind, pure, Except.pure]

section Validation

variable {serde : Serde} {config : Option ModuleConfig} {args : GenerateArgs} {now : UInt64}
  {prepared : Prepared} {rln : RlnProof Fr Proof} {rlp : RateLimitProof} {messageId : UInt64}

/-- A shape as the verifier reads it. -/
def presentedAs (prepared : Prepared) (rlp : RateLimitProof) (presentation : Presentation)
    (gap : UInt64) : Presented where
  registry := prepared.registry
  rlnIdentifier := prepared.rlnIdentifier
  expectedEpoch := prepared.freshness.epoch
  nowEpoch := currentEpoch presentation.clocks.now prepared.freshness.size
  gap := gap
  signal := prepared.signal
  derived := decide (presentation.form = .derived)
  rlp := { rlp with epoch := carriedEpoch prepared.freshness.epoch presentation.coding }

/-- Every check before the log is passed. -/
theorem presentTo_eq_judge (hlawful : Lawful zk) (hserde : serde.RoundTrips)
    (hsettles : Settles config args now prepared) (hbundles : Bundles zk rln rlp)
    (hmade : MadeFor zk rln prepared.signal prepared.freshness.epoch prepared.rlnIdentifier)
    (hepoch : rlp.epoch = some prepared.freshness.epoch) {presentation : Presentation}
    (hheard : presentation.Heard prepared.registry prepared.freshness rlp.root) :
    ∃ gap, saturatingSub (currentEpoch presentation.clocks.now prepared.freshness.size) gap ≤
        prepared.freshness.epoch ∧
      ∀ log, presentTo zk serde args (generateReply rlp prepared messageId) log presentation =
        (judge zk (presentedAs prepared rlp presentation gap) log).swap := by
  obtain ⟨gap, roots, hparams, hwindow, hroots, hroot⟩ := hheard
  have hbound : rlp.externalNullifier =
      expectedExternalNullifier zk prepared.freshness.epoch prepared.rlnIdentifier := by
    rw [hbundles.externalNullifier, hmade.externalNullifier]
    rfl
  have hread := @fromJson_completeProof _ _ zk hlawful rln rlp prepared messageId hbundles hbound
    hepoch presentation.form presentation.coding
  have hpresent : present zk serde presentation.config
      { registryIdRaw := args.registryIdRaw, rlnIdentifierHex := args.rlnIdentifierHex
        signalHex := args.signalHex, timestamp := args.timestamp
        proofJson := serde.toString (wireShape (generateReply rlp prepared messageId)
          presentation.form presentation.coding) } presentation.clocks.now =
      .ok (presentedAs prepared rlp presentation gap) := by
    simp only [present, hsettles.scope, hsettles.provider, hparams,
      freshEpochFor_eq_ok hsettles.fresh, hsettles.signal, hserde _, hread,
      derivesExternalNullifier_wireShape hepoch, bind, Except.bind, pure, Except.pure, presentedAs]
  have hcarried : (carriedEpoch prepared.freshness.epoch presentation.coding).all
      (· == prepared.freshness.epoch) := by
    cases presentation.coding <;> simp [carriedEpoch]
  have hscreen : screen zk (presentedAs prepared rlp presentation gap) presentation.windows
      presentation.clocks.windowNow = .passed := by
    have hbinding : epochBindingHolds zk
        (carriedEpoch prepared.freshness.epoch presentation.coding) rlp.externalNullifier
        prepared.rlnIdentifier prepared.freshness.epoch
        (currentEpoch presentation.clocks.now prepared.freshness.size) gap = true := by
      simp [epochBindingHolds, hwindow, hcarried, hbound]
    simp only [screen, presentedAs, hbinding, Bool.not_true, Bool.false_eq_true, if_false, hroots,
      not_true_eq_false, hroot, verify_of_madeFor hlawful hmade hbundles hroot]
  refine ⟨gap, ?_, fun log => ?_⟩
  · simp only [epochInWindow, Bool.and_eq_true, decide_eq_true_eq] at hwindow
    exact hwindow.1
  · simp only [presentTo, validateProof, hpresent, hscreen]

/-- On a log without the nullifier the proof is valid, and is logged. -/
theorem judge_fresh {presentation : Presentation} {gap : UInt64} {log : NullifierLog}
    (hunseen : log prepared.freshness.epoch rlp.nullifier = none) :
    ∃ log', judge zk (presentedAs prepared rlp presentation gap) log =
        (.ok (verdictReply rlp presentation .valid), log') ∧
      log' prepared.freshness.epoch rlp.nullifier = some (rlp.shareX, rlp.shareY) := by
  let floor := saturatingSub (currentEpoch presentation.clocks.now prepared.freshness.size) gap
  have habsent : retain floor log prepared.freshness.epoch rlp.nullifier = none := by
    simp [retain, hunseen]
  refine ⟨recordShares prepared.freshness.epoch rlp.nullifier (rlp.shareX, rlp.shareY)
    (retain floor log), ?_, ?_⟩
  · simp only [judge, presentedAs, recordVerified, floor, habsent, decide_eq_true_eq]
    rfl
  · simp [recordShares]

/-- On a log that holds it the proof is a duplicate, and stays logged. -/
theorem judge_duplicate {presentation : Presentation} {gap : UInt64} {log : NullifierLog}
    (hfloor : saturatingSub (currentEpoch presentation.clocks.now prepared.freshness.size) gap ≤
      prepared.freshness.epoch)
    (hlogged : log prepared.freshness.epoch rlp.nullifier = some (rlp.shareX, rlp.shareY)) :
    ∃ log', judge zk (presentedAs prepared rlp presentation gap) log =
        (.ok (verdictReply rlp presentation .duplicate), log') ∧
      log' prepared.freshness.epoch rlp.nullifier = some (rlp.shareX, rlp.shareY) := by
  have hkept : retain (saturatingSub
      (currentEpoch presentation.clocks.now prepared.freshness.size) gap) log
      prepared.freshness.epoch rlp.nullifier = some (rlp.shareX, rlp.shareY) := by
    simp [retain, hfloor, hlogged]
  refine ⟨_, ?_, hkept⟩
  simp only [judge, presentedAs, recordVerified, hkept, if_true, decide_eq_true_eq]
  rfl

/-- Once logged, every later presentation is a duplicate. -/
theorem outputs_of_logged (hlawful : Lawful zk) (hserde : serde.RoundTrips)
    (hsettles : Settles config args now prepared) (hbundles : Bundles zk rln rlp)
    (hmade : MadeFor zk rln prepared.signal prepared.freshness.epoch prepared.rlnIdentifier)
    (hepoch : rlp.epoch = some prepared.freshness.epoch) (presentations : List Presentation)
    (hheard : ∀ presentation ∈ presentations,
      presentation.Heard prepared.registry prepared.freshness rlp.root) {log : NullifierLog}
    (hlogged : log prepared.freshness.epoch rlp.nullifier = some (rlp.shareX, rlp.shareY)) :
    (trace (presentTo zk serde args (generateReply rlp prepared messageId)) log
        presentations).map Event.output =
      presentations.map fun presentation => .ok (verdictReply rlp presentation .duplicate) := by
  induction presentations generalizing log with
  | nil => rfl
  | cons presentation later ih =>
      obtain ⟨gap, hfloor, hjudged⟩ := @presentTo_eq_judge _ _ zk serde config args now prepared rln
        rlp messageId hlawful hserde hsettles hbundles hmade hepoch presentation
        (hheard presentation List.mem_cons_self)
      obtain ⟨log', hverdict, hkept⟩ := @judge_duplicate _ _ zk prepared rlp presentation gap log
        hfloor hlogged
      have hlater := ih
        (fun other hother => hheard other (List.mem_cons_of_mem _ hother)) hkept
      simp only [trace, List.map_cons, hjudged, hverdict, Prod.swap_prod_mk]
      rw [hlater]

end Validation

/-- A successful generation is read back from every shape with the same
canonical bytes and public values (the external nullifier put in where it was
left out), is accepted once in whichever shape it comes first, and is a
duplicate in every shape from then on. -/
theorem generated_proof_accepted_once (zk : Zerokit Fr Proof) (serde : Serde) (libs : Libraries)
    (hlawful : Lawful zk) (hserde : serde.RoundTrips) (config : Option ModuleConfig)
    (cursors : Cursors) (args : GenerateArgs) (moment : GenerateMoment) (world : World)
    (caches : Caches) (out : Value)
    (hgenerated : (generateProof zk libs config cursors args moment world caches).1 = .ok out) :
    ∃ registry rlnIdentifier rlnIdHex freshness rlp,
      parseScope args.registryIdRaw args.rlnIdentifierHex =
          .ok (registry, rlnIdentifier, rlnIdHex) ∧
      freshEpochFor config registry.canonical args.timestamp moment.now = .ok freshness ∧
      wireShape out .returned .hex = out ∧
      (∀ form coding, form ≠ .derived →
        RateLimitProof.fromJson zk (wireShape out form coding) =
          .ok { rlp with epoch := carriedEpoch freshness.epoch coding }) ∧
      (∀ coding, RateLimitProof.fromJson zk
          (completeProof zk freshness.epoch rlnIdentifier (wireShape out .derived coding)) =
        .ok { rlp with epoch := carriedEpoch freshness.epoch coding }) ∧
      ∀ presentations : List Presentation,
        (∀ presentation ∈ presentations, presentation.Heard registry freshness rlp.root) →
        (trace (presentTo zk serde args out) (fun _ _ => none) presentations).map Event.output =
          acceptedOnce rlp presentations := by
  obtain ⟨prepared, path, messageId, rlp, hprepared, hproved, rfl⟩ := generateProof_eq_ok hgenerated
  obtain ⟨rln, hmade, hbundles, hepoch⟩ := generate_eq_ok hlawful hproved
  have hsettles := settles_of_prepare hprepared
  have hbound : rlp.externalNullifier =
      expectedExternalNullifier zk prepared.freshness.epoch prepared.rlnIdentifier := by
    rw [hbundles.externalNullifier, hmade.externalNullifier]
    rfl
  refine ⟨prepared.registry, prepared.rlnIdentifier, prepared.rlnIdHex, prepared.freshness, rlp,
    hsettles.scope, hsettles.fresh, wireShape_returned_hex hepoch prepared messageId,
    fun form coding hform => ?_, fun coding => ?_, fun presentations hheard => ?_⟩
  · exact fromJson_of_shape hlawful hbundles (holds_wireShape hepoch hform coding)
  · exact fromJson_completeProof hlawful hbundles hbound hepoch .derived coding
  · cases presentations with
    | nil => rfl
    | cons first later =>
        obtain ⟨gap, -, hjudged⟩ := @presentTo_eq_judge _ _ zk serde config args moment.now prepared
          rln rlp messageId hlawful hserde hsettles hbundles hmade hepoch first
          (hheard first List.mem_cons_self)
        obtain ⟨log, hverdict, hlogged⟩ := @judge_fresh _ _ zk prepared rlp first gap
          (fun _ _ => none) rfl
        have hlater := @outputs_of_logged _ _ zk serde config args moment.now prepared rln rlp
          messageId hlawful hserde hsettles hbundles hmade hepoch later
          (fun other hother => hheard other (List.mem_cons_of_mem _ hother)) log hlogged
        simp only [trace, List.map_cons, hjudged, hverdict, Prod.swap_prod_mk, acceptedOnce]
        rw [hlater]

/-! ### A generation on concrete inputs -/

def sampleHex (first : String) : String := first ++ String.ofList (List.replicate 62 '0')

def sampleRegistry : String := "logos:1:" ++ String.ofList (List.replicate 64 '7')

def sampleCredential : StoredCredential := ⟨sampleHex "09", sampleHex "05", sampleRegistry⟩

/-- Libraries that know one credential and seal without tags. -/
def sampleLibs : Libraries where
  toPrimitives :=
    { Reference.libraries.toPrimitives with
      hmacSha256 := fun _ _ => List.Vector.replicate 32 0
      encrypt := fun _ _ _ msg => some msg
      decrypt := fun _ _ _ ct => some ct }
  credentialToVec _ := .ok [1]
  credentialFromSlice plaintext :=
    if plaintext = [1] then .ok sampleCredential else .error "not the credential"
  sealedLength _ := 0
  allocationsLength _ := 0
  cacheLength _ := 0

def sampleEntry : SealedEntry where
  identity := ⟨sampleRegistry, sampleHex "aa", sampleHex "09", 0⟩
  nonce := bytesToHex (List.replicate 24 3)
  ct := "01"

/-- An unlocked store with one active membership. -/
def sampleStore : Store :=
  publish { Reference.provisionedInner with
    sealedStore := some { SealedFile.provision Reference.params "" "" with
      credentials := (∅ : StringMap SealedEntry).insert "ab" sampleEntry }
    sections := (∅ : StringMap AllocationState).insert "ab" {}
    cache := (∅ : StringMap CacheState).insert "ab"
      { state := .active, leafIndex := some 1, rateLimit := some 10 } }

def sampleCaches : Caches where
  paths := (∅ : StringMap CachedPath).insert "ab"
    ⟨List.replicate 10 (sampleHex "03"), List.replicate 10 0, 1⟩

def sampleArgs : GenerateArgs where
  registryIdRaw := sampleRegistry
  rlnIdentifierHex := sampleHex "aa"
  signalHex := "0102"
  timestamp := "1000"

def sampleMoment : GenerateMoment where
  now := 1010
  merkleProof := .error uninitialized
  fetchedAt := 1010
  write := .ok

def sampleConfig : Option ModuleConfig := some { epochSizeSec := 100, maxEpochGap := 1 }

def sampleGenerated : Except ApiError Value :=
  (generateProof Sample.zerokit sampleLibs sampleConfig (fun _ => none) sampleArgs sampleMoment
    ⟨{}, some sampleStore⟩ sampleCaches).1

theorem sampleGenerated_ok : ∃ out, sampleGenerated = .ok out := by
  have hsuccess : sampleGenerated.toBool = true := by decide +kernel
  cases hgenerated : sampleGenerated with
  | error error =>
      rw [hgenerated] at hsuccess
      cases hsuccess
  | ok out => exact ⟨out, rfl⟩

/-- The stand-in keeps the library's promises. -/
theorem lawful_sample : Lawful Sample.zerokit where
  roundTrips := Sample.roundTrips
  builds witness built hbuilt := by
    simp only [Sample.zerokit] at hbuilt
    split at hbuilt
    · cases hbuilt
      exact ⟨rfl, rfl⟩
    · cases hbuilt
  carries witness rln hproved := by
    cases hproved
    exact ⟨rfl, rfl⟩
  accepts witness rln roots hproved hroot := by
    cases hproved
    have hx : (Sample.provedValues witness).x = witness.x := rfl
    simp only [Sample.zerokit, hroot, hx, ne_eq, not_true_eq_false, if_false]
  readsBack rln bytes hserialized := Sample.deserializeRln_serializeRln hserialized
  length rln bytes hserialized _ := by
    obtain ⟨y, nullifier, hy, hnullifier, rfl⟩ := Sample.serializeRln_eq_ok hserialized
    have hproof : rln.proof.toList.length = 128 := List.Vector.toList_length _
    simp [canonicalLen, hproof]
  startsWithProof rln bytes hserialized _ := by
    obtain ⟨y, nullifier, hy, hnullifier, rfl⟩ := Sample.serializeRln_eq_ok hserialized
    rw [List.take_left' (List.Vector.toList_length _)]
    exact Sample.readProof_toList rln.proof

/-- Read on its own, the shape without the external nullifier is refused. -/
theorem derived_shape_unread :
    ∃ out, sampleGenerated = .ok out ∧
      (RateLimitProof.fromJson Sample.zerokit (wireShape out .decomposed .hex)).toBool = true ∧
      RateLimitProof.fromJson Sample.zerokit (wireShape out .derived .hex) =
        .error (.badInput
          "external_nullifier: expected 32-byte hex alongside a bare proof") := by
  obtain ⟨out, hgenerated⟩ := sampleGenerated_ok
  obtain ⟨prepared, path, messageId, rlp, -, hproved, rfl⟩ := generateProof_eq_ok hgenerated
  obtain ⟨rln, -, hbundles, hepoch⟩ := generate_eq_ok lawful_sample hproved
  refine ⟨_, hgenerated, ?_, ?_⟩
  · rw [fromJson_of_shape lawful_sample hbundles
      (@holds_wireShape rlp prepared messageId hepoch .decomposed (by decide) .hex)]
    rfl
  · exact fromJson_derived lawful_sample hbundles hepoch .hex

theorem generated_proof_accepted_once_sample :
    ∃ out rlp presentations, sampleGenerated = .ok out ∧
      presentations.map Presentation.form = [.derived, .returned, .decomposed, .canonical] ∧
      (trace (presentTo Sample.zerokit (Json.Reference.serde []) sampleArgs out)
        (fun _ _ => none) presentations).map Event.output = acceptedOnce rlp presentations := by
  obtain ⟨out, hgenerated⟩ := sampleGenerated_ok
  obtain ⟨registry, rlnIdentifier, rlnIdHex, freshness, rlp, -, hfresh, -, -, -, haccepted⟩ :=
    generated_proof_accepted_once Sample.zerokit (Json.Reference.serde []) sampleLibs lawful_sample
      (Json.Reference.serde_roundTrips (by simp)) sampleConfig (fun _ => none) sampleArgs
      sampleMoment ⟨{}, some sampleStore⟩ sampleCaches out hgenerated
  have hparams : epochParamsFor sampleConfig registry.canonical = .ok (100, 1) := by
    simp [epochParamsFor, sampleConfig]
  have hfreshness : freshness = ⟨10, 100, 1, 10⟩ := by
    have hepoch : epochOfTimestamp sampleArgs.timestamp 100 = .ok 10 := by decide +kernel
    have hnow : currentEpoch sampleMoment.now 100 = 10 := by decide
    have hwindow : epochInWindow 10 10 1 = true := by decide
    simp only [freshEpochFor, hparams, hepoch, hnow, hwindow, bind, Except.bind] at hfresh
    cases hfresh
    rfl
  let presentations : List Presentation :=
    ([.derived, .returned, .decomposed, .canonical] : List Form).map fun form =>
      { form, coding := .index, config := sampleConfig
        windows := (∅ : StringMap Window).insert registry.canonical ⟨[rlp.root], 1020⟩
        clocks := ⟨1020, 1020⟩ }
  refine ⟨out, rlp, presentations, hgenerated, rfl, haccepted presentations ?_⟩
  intro presentation hmember
  obtain ⟨form, -, rfl⟩ := List.mem_map.mp hmember
  subst hfreshness
  have hwindow : epochInWindow 10 (currentEpoch 1020 100) 1 = true := by decide
  refine ⟨1, [rlp.root], hparams, hwindow, ?_, List.mem_singleton_self _⟩
  simp [window, saturatingSub, staleAfterSecs]

end LogosRln.Proofs.WireShapes
