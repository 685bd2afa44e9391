import LogosRln.Callers.RegistryOptions
import LogosRln.Callers.Threads
import LogosRln.Proofs.NullifierLog
import LogosRln.Proofs.PathCache
import LogosRln.Proofs.Prover
import LogosRln.SealedStore.Machine
import LogosRln.SealedStore.Records
import LogosRln.Selection

/-!
# Generating and validating proofs

The bodies of `generate_proof` and `validate_proof`.  Generation fetches its
Merkle path before it reserves a slot, and reserves before it proves; validation
reads only local state and judges a proof that passed every check against the
nullifier log.
-/

namespace LogosRln.Proofs

open RegistryId Json RateLimit Lifecycle SealedStore SealedStore.Format Selection
open SealedStore.Files (WriteOutcome Disk)
open Callers (parseRegistry providerOf parseU64 invalidArgument)

/-! ## Epochs -/

structure EpochOverride where
  epochSizeSec : Option UInt64
  maxEpochGap : Option UInt64

/-- What `start` configured. -/
structure ModuleConfig where
  epochSizeSec : UInt64
  maxEpochGap : UInt64
  overrides : StringMap EpochOverride := ∅

def notConfigured : ApiError :=
  ⟨.notReady, "start() has not configured epoch_size_sec; rate limiting is not ready"⟩

/-- `(epoch_size_sec, max_epoch_gap)` of a registry. -/
def epochParamsFor (config : Option ModuleConfig) (registryCanonical : String) :
    Except ApiError (UInt64 × UInt64) :=
  match config with
  | none => .error notConfigured
  | some config =>
      let override := config.overrides[registryCanonical]?
      .ok ((override.bind EpochOverride.epochSizeSec).getD config.epochSizeSec,
        (override.bind EpochOverride.maxEpochGap).getD config.maxEpochGap)

def epochOfTimestamp (timestamp : String) (epochSizeSec : UInt64) : Except ApiError UInt64 :=
  match parseU64 (String.ofList (trim timestamp.toList)) with
  | some seconds => .ok (currentEpoch seconds epochSizeSec)
  | none => .error (invalidArgument "timestamp must be a Unix-seconds integer")

/-- One reading of a registry's clock: the caller's epoch and what it was
checked against. -/
structure Freshness where
  epoch : UInt64
  size : UInt64
  gap : UInt64
  nowEpoch : UInt64

def outsideWindow : ApiError :=
  invalidArgument "timestamp is outside the acceptable epoch window (now ± max_epoch_gap)"

def freshEpochFor (config : Option ModuleConfig) (registryCanonical timestamp : String)
    (now : UInt64) : Except ApiError Freshness := do
  let (size, gap) ← epochParamsFor config registryCanonical
  let epoch ← epochOfTimestamp timestamp size
  let nowEpoch := currentEpoch now size
  if !epochInWindow epoch nowEpoch gap then .error outsideWindow
  else return { epoch, size, gap, nowEpoch }

/-- A scope with the identifier's bytes and its normalized spelling. -/
def parseScope (registryIdRaw rlnIdentifierHex : String) :
    Except ApiError (CanonicalRegistryId × Bytes32 × String) := do
  let registry ← parseRegistry registryIdRaw
  match hexToBytes32 rlnIdentifierHex with
  | none => .error (invalidArgument "rln_identifier must be 32-byte hex")
  | some bytes => return (registry, bytes, bytesToHex bytes.toList)

def parseSignal (signalHex : String) : Except ApiError Bytes :=
  match hexToVec signalHex with
  | some signal => .ok signal
  | none => .error (invalidArgument "signal must be hex")

def proofError : ProofError → ApiError
  | .badInput message => ⟨.invalidArgument, message⟩
  | .engine message => ⟨.transient, message⟩

/-! ## `generate_proof` -/

structure GenerateArgs where
  registryIdRaw : String
  rlnIdentifierHex : String
  signalHex : String
  timestamp : String

/-- What a generation has settled before it needs a path. -/
structure Prepared where
  registry : CanonicalRegistryId
  rlnIdentifier : Bytes32
  rlnIdHex : String
  freshness : Freshness
  signal : Bytes
  hash : String
  leafIndex : UInt64
  rateLimit : UInt64
  credential : StoredCredential

/-- Everything up to the path: scope, epoch, membership and credential. -/
def prepare (libs : Libraries) (config : Option ModuleConfig) (cursors : Cursors)
    (args : GenerateArgs) (now : UInt64) (store : Option Store) : Except ApiError Prepared := do
  let (registry, rlnIdentifier, rlnIdHex) ← parseScope args.registryIdRaw args.rlnIdentifierHex
  providerOf registry
  let freshness ← freshEpochFor config registry.canonical args.timestamp now
  let signal ← parseSignal args.signalHex
  match store with
  | none => .error uninitialized
  | some store =>
      let hash ← generateProofHash (recordsFor registry.canonical store.records)
        registry.canonical rlnIdHex cursors
      match store.membership hash with
      | none => .error ⟨.unknownMembership, "selected membership vanished"⟩
      | some record =>
          match record.cache.leafIndex with
          | none =>
              .error ⟨.unknownMembership, "the selected membership carries no leaf_index"⟩
          | some leafIndex => do
              let credential ← unsealCredential libs hash store
              return {
                registry, rlnIdentifier, rlnIdHex, freshness, signal, hash, leafIndex
                rateLimit := record.cache.rateLimit.getD 0
                credential }

/-- The slot a generation asks for. -/
def Prepared.reserveArgs (prepared : Prepared) : ReserveArgs where
  hash := prepared.hash
  rlnIdentifierHex := prepared.rlnIdHex
  epoch := prepared.freshness.epoch
  retainFloor := saturatingSub prepared.freshness.nowEpoch prepared.freshness.gap
  rateLimit := prepared.rateLimit
  epochSizeSec := prepared.freshness.size

/-- The witness material of a reserved slot. -/
def Prepared.material (prepared : Prepared) (path : List String × List UInt8)
    (messageId : UInt64) : WitnessMaterial where
  identitySecretHashHex := prepared.credential.identitySecretHash
  rateLimit := prepared.rateLimit
  messageId := messageId
  pathElementsHex := path.1
  pathIndices := path.2

variable {Fr Proof : Type}

/-- The reply: the proof, the spent slot and what it was spent on. -/
def generateReply (rlp : RateLimitProof) (prepared : Prepared) (messageId : UInt64) : Value :=
  rlp.toJson
    |>.set "message_id" (.uint messageId)
    |>.set "epoch_index" (.uint prepared.freshness.epoch)
    |>.set "membership_hash" (.str prepared.hash)
    |>.set "proof_canonical" (.str rlp.canonicalHex)

/-- The proof over a reserved slot. -/
def prove (zk : Zerokit Fr Proof) (prepared : Prepared) (path : List String × List UInt8)
    (messageId : UInt64) : Except ApiError Value :=
  match generate zk (prepared.material path messageId) prepared.signal prepared.freshness.epoch
      prepared.rlnIdentifier with
  | .error error => .error (proofError error)
  | .ok rlp => .ok (generateReply rlp prepared messageId)

def pathVanished : ApiError := .internal "path cache: fetched path vanished before use"

/-- What the environment supplies to one generation: the clock, the registry's
answer to an on-demand fetch, the clock after it, and the ledger write. -/
structure GenerateMoment where
  now : UInt64
  merkleProof : Except ApiError Value
  fetchedAt : UInt64
  write : WriteOutcome

/-- The path of a generation, from the cache or fetched into it. -/
def servePath (zk : Zerokit Fr Proof) (prepared : Prepared) (moment : GenerateMoment)
    (caches : Caches) : Except ApiError (List String × List UInt8) × Caches :=
  match hit prepared.hash prepared.leafIndex caches with
  | some path => (.ok path, caches)
  | none =>
      match fillPathCache zk.toFieldCoding prepared.registry prepared.hash prepared.leafIndex
          moment.merkleProof moment.fetchedAt caches with
      | (.error error, caches) => (.error error, caches)
      | (.ok (), caches) =>
          match hit prepared.hash prepared.leafIndex caches with
          | some path => (.ok path, caches)
          | none => (.error pathVanished, caches)

/-- What the last part of a generation answers, the store it leaves, and the
material of the witness it spent a slot on. -/
structure Spending where
  result : Except ApiError Value
  world : World
  spent : Option WitnessMaterial := none

/-- Reserve a slot durably, then prove. -/
def reserveAndProve (zk : Zerokit Fr Proof) (libs : Libraries) (prepared : Prepared)
    (path : List String × List UInt8) (write : WriteOutcome) (world : World) : Spending :=
  match step libs world (.reserve prepared.reserveArgs write) with
  | (world, .reserved (.ok messageId)) =>
      ⟨prove zk prepared path messageId, world, some (prepared.material path messageId)⟩
  | (world, .reserved (.error error)) => ⟨.error error, world, none⟩
  | (world, _) => ⟨.error uninitialized, world, none⟩

/-- A whole generation with nothing in between. -/
def generateProof (zk : Zerokit Fr Proof) (libs : Libraries) (config : Option ModuleConfig)
    (cursors : Cursors) (args : GenerateArgs) (moment : GenerateMoment) (world : World)
    (caches : Caches) : Except ApiError Value × World × Caches :=
  match prepare libs config cursors args moment.now world.store with
  | .error error => (.error error, world, caches)
  | .ok prepared =>
      match servePath zk prepared moment caches with
      | (.error error, caches) => (.error error, world, caches)
      | (.ok path, caches) =>
          let spending := reserveAndProve zk libs prepared path moment.write world
          (spending.result, spending.world, caches)

/-! ## `validate_proof` -/

inductive Verdict where
  | valid
  | duplicate
  | invalid
  | rateLimitViolation
  deriving DecidableEq

def Verdict.wire : Verdict → String
  | .valid => "valid"
  | .duplicate => "duplicate"
  | .invalid => "invalid"
  | .rateLimitViolation => "rate_limit_violation"

/-- `externalNullifier` is present when it was derived for the caller. -/
structure VerdictReply where
  externalNullifier : Option String := none
  recoveredSecret : Option String := none
  verdict : Verdict
  deriving DecidableEq

structure ValidateArgs where
  registryIdRaw : String
  rlnIdentifierHex : String
  signalHex : String
  timestamp : String
  proofJson : String

/-- The local state a validation reads; it writes the log only. -/
structure Verifier where
  config : Option ModuleConfig
  windows : StringMap Window
  log : NullifierLog

/-- The clock at the freshness gate and at the root window. -/
structure Clocks where
  now : UInt64
  windowNow : UInt64

/-- Whether a proof is bound to the epoch of the message's timestamp. -/
def epochBindingHolds (zk : Zerokit Fr Proof) (carried : Option UInt64) (bound : Bytes32)
    (rlnIdentifier : Bytes32) (expectedEpoch nowEpoch gap : UInt64) : Bool :=
  epochInWindow expectedEpoch nowEpoch gap &&
    carried.all (· == expectedEpoch) &&
    expectedExternalNullifier zk expectedEpoch rlnIdentifier == bound

/-- Whether the external nullifier was left out beside a root. -/
def derivesExternalNullifier (proof : Value) : Bool :=
  (proof.get "root").isSome && (proof.get "external_nullifier").isNone

/-- The proof as it is read: a left-out external nullifier is put in. -/
def completeProof (zk : Zerokit Fr Proof) (expectedEpoch : UInt64) (rlnIdentifier : Bytes32)
    (proof : Value) : Value :=
  if derivesExternalNullifier proof then
    proof.set "external_nullifier"
      (.str (bytesToHex (expectedExternalNullifier zk expectedEpoch rlnIdentifier).toList))
  else proof

/-- What a validation knows before it looks at any state but the configuration. -/
structure Presented where
  registry : CanonicalRegistryId
  rlnIdentifier : Bytes32
  expectedEpoch : UInt64
  nowEpoch : UInt64
  gap : UInt64
  signal : Bytes
  derived : Bool
  rlp : RateLimitProof

def present (zk : Zerokit Fr Proof) (serde : Serde) (config : Option ModuleConfig)
    (args : ValidateArgs) (now : UInt64) : Except ApiError Presented := do
  let (registry, rlnIdentifier, _) ← parseScope args.registryIdRaw args.rlnIdentifierHex
  providerOf registry
  let (size, gap) ← epochParamsFor config registry.canonical
  let expectedEpoch ← epochOfTimestamp args.timestamp size
  let signal ← parseSignal args.signalHex
  match serde.fromStr args.proofJson with
  | .error error => .error (invalidArgument s!"proof_json: {error}")
  | .ok proof =>
      match RateLimitProof.fromJson zk (completeProof zk expectedEpoch rlnIdentifier proof) with
      | .error error => .error (proofError error)
      | .ok rlp =>
          return {
            registry, rlnIdentifier, expectedEpoch
            nowEpoch := currentEpoch now size
            gap, signal
            derived := derivesExternalNullifier proof
            rlp }

/-- What the checks before the log answer: a verdict, or that the proof passed. -/
inductive Screening where
  | refused (error : ApiError)
  | invalid
  | passed
  deriving DecidableEq

/-- Binding, root window and verification, in this order. -/
def screen (zk : Zerokit Fr Proof) (presented : Presented) (windows : StringMap Window)
    (windowNow : UInt64) : Screening :=
  if !epochBindingHolds zk presented.rlp.epoch presented.rlp.externalNullifier
      presented.rlnIdentifier presented.expectedEpoch presented.nowEpoch presented.gap then
    .invalid
  else
    match window presented.registry.canonical windowNow windows with
    | none => .refused ⟨.notReady, "valid-root window not warm yet; retry"⟩
    | some roots =>
        if presented.rlp.root ∉ roots then .invalid
        else
          match verify zk presented.rlp presented.signal roots with
          | .error error => .refused (proofError error)
          | .ok false => .invalid
          | .ok true => .passed

/-- The log's judgement of a proof that passed. -/
def judge (zk : Zerokit Fr Proof) (presented : Presented) (log : NullifierLog) :
    Except ApiError VerdictReply × NullifierLog :=
  let rlp := presented.rlp
  let derived :=
    if presented.derived then some (bytesToHex rlp.externalNullifier.toList) else none
  match recordVerified presented.expectedEpoch rlp.nullifier rlp.shareX rlp.shareY
      (saturatingSub presented.nowEpoch presented.gap) log with
  | (.fresh, log) => (.ok { externalNullifier := derived, verdict := .valid }, log)
  | (.duplicate, log) => (.ok { externalNullifier := derived, verdict := .duplicate }, log)
  | (.collision prior, log) =>
      match recoverIdentitySecretHex zk prior (rlp.shareX, rlp.shareY) with
      | .error error => (.error (proofError error), log)
      | .ok secret =>
          (.ok { externalNullifier := derived, recoveredSecret := some secret,
                 verdict := .rateLimitViolation }, log)

def validateProof (zk : Zerokit Fr Proof) (serde : Serde) (args : ValidateArgs) (clocks : Clocks)
    (verifier : Verifier) : Except ApiError VerdictReply × NullifierLog :=
  match present zk serde verifier.config args clocks.now with
  | .error error => (.error error, verifier.log)
  | .ok presented =>
      match screen zk presented verifier.windows clocks.windowNow with
      | .refused error => (.error error, verifier.log)
      | .invalid => (.ok { verdict := .invalid }, verifier.log)
      | .passed => judge zk presented verifier.log

end LogosRln.Proofs
