import LogosRln.Registry.Base58
import LogosRln.Registry.CheckRegister
import LogosRln.Registry.HexCodec
import LogosRln.Registry.LeafSearch

/-!
# Chain reads

What the registry module knows of the chain it reads through its wallet, one
account at a time.  An account's data is sharded by the program that owns it;
an empty reply is a failed read, and a failed read is kept apart from a shard
that is not there.  The layout crate, the digest and the circuit's field stay
parameters.
-/

namespace LogosRln.Registry.Chain

open RegistryId Json Proofs

/-- The wallet's `get_account_public` at one moment: the reply for an account. -/
abbrev AccountReads := String → String

def hexToBytes32 (hex : String) : Option Bytes32 :=
  (HexCodec.hexToBytes hex (some 32)).bind (toArray 32)

/-! ## Shards -/

inductive FetchOutcome where
  | present (data : Bytes)
  | absent
  | error
  deriving DecidableEq

def asObject : Value → Option (List (String × Value))
  | .object fields => some fields
  | _ => none

/-- One entry of the `shards` object. -/
def readShard (entry : String × Value) : Option (Bytes32 × Bytes) := do
  let program ← hexToBytes32 entry.1
  let text ← entry.2.asStr
  let data ← HexCodec.hexToBytes text none
  return (program, data)

/-- Every shard of an account, or nothing when the read failed. -/
def fetchShards (serde : Serde) (read : AccountReads) (accountIdHex : String) :
    Option (List (Bytes32 × Bytes)) :=
  let json := read accountIdHex
  if json = "" then none
  else do
    let doc ← (serde.fromStr json).toOption
    let fields ← asObject doc
    let shards ← ((Value.object fields).get "shards").bind asObject
    shards.mapM readShard

def fetchShardTriState (serde : Serde) (read : AccountReads) (accountIdHex : String)
    (program : Bytes32) : FetchOutcome :=
  match fetchShards serde read accountIdHex with
  | none => .error
  | some shards =>
      match shards.find? fun shard => shard.1 = program with
      | some (_, data) => if data ≠ [] then .present data else .absent
      | none => .absent

/-- `fetch_shard_quiet` and `fetch_shard`, which differ in what they log. -/
def fetchShard (serde : Serde) (read : AccountReads) (accountIdHex : String)
    (program : Bytes32) : Option Bytes :=
  match fetchShardTriState serde read accountIdHex program with
  | .present data => some data
  | .absent => none
  | .error => none

/-! ### Reading what was encoded -/

@[simp]
theorem hexToBytes_bytesToHex (data : Bytes) :
    HexCodec.hexToBytes (HexCodec.bytesToHex data) none = some data := by
  rw [HexCodec.hexToBytes_none_eq, HexCodec.bytesToHex_eq, hexToVec_bytesToHex]

theorem hexToBytes_some (hex : String) (length : ℕ) :
    HexCodec.hexToBytes hex (some length) =
      (HexCodec.hexToBytes hex none).bind fun out =>
        if out.length ≠ length then none else some out := by
  simp only [HexCodec.hexToBytes]
  split
  · rfl
  · cases (HexCodec.chunksExact ((HexCodec.stripHexPrefix hex.toList).flatMap
        String.utf8EncodeChar)).mapM HexCodec.decodePair <;> rfl

@[simp]
theorem hexToBytes32_bytesToHex (data : Bytes32) :
    hexToBytes32 (HexCodec.bytesToHex data.toList) = some data := by
  rw [hexToBytes32, hexToBytes_some, hexToBytes_bytesToHex]
  simp

@[simp]
theorem readShard_encoded (program : Bytes32) (data : Bytes) :
    readShard (HexCodec.bytesToHex program.toList, .str (HexCodec.bytesToHex data)) =
      some (program, data) := by
  simp [readShard, Value.asStr]

/-- The account was read and holds no state of the program. -/
def ReadAsAbsent (serde : Serde) (read : AccountReads) (accountIdHex : String)
    (program : Bytes32) : Prop :=
  ∃ shards, fetchShards serde read accountIdHex = some shards ∧
    ∀ data, (shards.find? fun shard => shard.1 = program) = some (program, data) → data = []

theorem fetchShardTriState_eq_absent_iff (serde : Serde) (read : AccountReads)
    (accountIdHex : String) (program : Bytes32) :
    fetchShardTriState serde read accountIdHex program = .absent ↔
      ReadAsAbsent serde read accountIdHex program := by
  simp only [fetchShardTriState, ReadAsAbsent]
  cases hshards : fetchShards serde read accountIdHex with
  | none => simp
  | some shards =>
      cases hfound : shards.find? fun shard => shard.1 = program with
      | none => simp [hfound]
      | some shard =>
          obtain ⟨owner, data⟩ := shard
          obtain rfl : owner = program := by simpa using List.find?_some hfound
          simp [hfound]

/-! ## The layout crate -/

/-- A membership account, as far as this crate reads it. -/
structure MembershipAccount where
  idCommitment : Bytes32
  rateLimit : UInt64
  gracePeriodStartTimestampMs : UInt64
  gracePeriodDurationSec : UInt32

/-- The claims of a `Register` instruction. -/
structure RegisterInstruction where
  treeId : Bytes32
  idCommitment : Bytes32
  rateLimit : UInt64
  merkleProgramId : Bytes32
  nowMs : UInt64
  pricePerUnit : ℕ
  activeDurationSec : UInt32
  gracePeriodDurationSec : UInt32

/-- `rln_layouts`, with the digest that derives addresses. -/
structure Layouts extends TreeLayout where
  limits : RegisterLimits
  configStateSize : ℕ
  membershipStateSize : ℕ
  labelSeed : String → Bytes32
  combineSeeds : List Bytes32 → Bytes32
  sha256 : Bytes → Bytes32
  clock50AccountId : Bytes32
  clockProgramAccountId : Bytes32
  decodeMembershipState : Bytes → Option MembershipAccount
  borshRegister : RegisterInstruction → Option Bytes
  secsToMillis : UInt32 → UInt64
  isExpired : UInt64 → UInt64 → UInt64 → Bool
  isInGracePeriod : UInt64 → UInt64 → UInt64 → Bool

def configOffsetMerkleProgramId : ℕ := 0
def configOffsetTreeId : ℕ := 32
def configOffsetPricePerUnit : ℕ := 64
def configOffsetTreasuryAccountId : ℕ := 80
def configOffsetActiveDuration : ℕ := 136
def configOffsetGraceDuration : ℕ := 140

/-- `from_le_bytes` of the config's bytes; callers have checked its size. -/
def configNumber (configData : Bytes) (offset width : ℕ) : ℕ :=
  Nat.ofDigits 256 (((configData.drop offset).take width).map UInt8.toNat)

def configFieldU32 (configData : Bytes) (offset : ℕ) : UInt32 :=
  UInt32.ofNat (configNumber configData offset 4)

def configFieldU128 (configData : Bytes) (offset : ℕ) : ℕ := configNumber configData offset 16

/-- `b"/LEE/v0.2/AccountId/PDA/"` and eight zero bytes. -/
def pdaPrefix : Bytes := utf8 "/LEE/v0.2/AccountId/PDA/" ++ List.replicate 8 0

def derivePda (layouts : Layouts) (programId pdaSeed : Bytes32) : Bytes32 :=
  layouts.sha256 (pdaPrefix ++ programId.toList ++ pdaSeed.toList)

/-! ## The registry's config -/

structure RlnConfigContext where
  configData : Bytes
  registrationProgram : Bytes32
  merkleProgram : Bytes32
  deriving DecidableEq

structure RegistryProblem where
  status : String
  detail : String

/-- A chain of the embedded table, with the config accounts on it. -/
structure Network where
  reference : String
  sequencer : String
  configAccounts : List String

/-- `to_ascii_lowercase`. -/
def asciiLower (text : String) : String := String.ofList (text.toList.map Char.toLower)

def trimmed (text : String) : String := String.ofList (trim text.toList)

def networkOfConfig (networks : List Network) (configHex : String) : Option Network :=
  networks.find? fun network => network.configAccounts.any fun account =>
    (Base58.decode32 account).any fun bytes =>
      HexCodec.bytesToHex bytes.toList = asciiLower (trimmed configHex)

def networkConflict (networks : List Network) (bound : Option String) (configHex : String) :
    Option String := do
  let bound ← bound
  let listed ← networkOfConfig networks configHex
  if listed.reference ≠ bound then
    some (s!"config account {configHex} is on network {listed.reference}, " ++
      s!"but this wallet is bound to {bound}")
  else none

/-- `wallet::account_id_from_base58`. -/
def accountIdFromBase58 (id : String) : String :=
  match Base58.decode32 (trimmed id) with
  | some bytes => HexCodec.bytesToHex bytes.toList
  | none => ""

def resolveAccountId (id : String) : String :=
  let stripped := String.ofList (HexCodec.stripHexPrefix id.toList)
  if stripped.utf8ByteSize = 64 then stripped else accountIdFromBase58 id

def nativeTokenProgram : Bytes32 := List.Vector.replicate 32 0

section Reads

variable (serde : Serde) (layouts : Layouts) (networks : List Network)

/-- The one place a config account is admitted. -/
def configContext (bound : Option String) (read : AccountReads) (configAccountId : String) :
    Except RegistryProblem RlnConfigContext :=
  let configHex := resolveAccountId configAccountId
  if configHex = "" then
    .error ⟨"invalid", s!"'{configAccountId}' is not an account id"⟩
  else
    match networkConflict networks bound configHex with
    | some reason => .error ⟨"network_conflict", reason⟩
    | none =>
        match fetchShards serde read configHex with
        | none =>
            .error ⟨"unreachable", s!"could not read config account {configHex} from the sequencer"⟩
        | some shards =>
            match shards.filter fun shard => shard.1 ≠ nativeTokenProgram ∧ shard.2 ≠ [] with
            | [] =>
                .error ⟨"not_deployed", s!"config account {configHex} holds no program state on " ++
                  "this chain — the registry is not deployed here (the network may have been reset)"⟩
            | _ :: _ :: _ =>
                .error ⟨"unexpected_layout",
                  s!"config account {configHex} holds more than one program shard"⟩
            | [(registrationProgram, configData)] =>
                if configData.length ≠ layouts.configStateSize then
                  .error ⟨"wrong_generation", s!"config shard is {configData.length} bytes, " ++
                    s!"expected {layouts.configStateSize} — this is a config from a different " ++
                    "program generation, not a short read"⟩
                else
                  .ok ⟨configData, registrationProgram,
                    readBytes32 configData configOffsetMerkleProgramId⟩

def resolveConfigContext (bound : Option String) (read : AccountReads)
    (configAccountId : String) : Option RlnConfigContext :=
  (configContext serde layouts networks bound read configAccountId).toOption

/-- The registry of a config account that holds one program's shard. -/
theorem resolveConfigContext_of_shard {bound : Option String} {read : AccountReads}
    {configAccountId : String} {program : Bytes32} {data : Bytes}
    (hresolved : resolveAccountId configAccountId ≠ "")
    (hconflict : networkConflict networks bound (resolveAccountId configAccountId) = none)
    (hshards : fetchShards serde read (resolveAccountId configAccountId) = some [(program, data)])
    (hprogram : program ≠ nativeTokenProgram) (hdata : data ≠ [])
    (hsize : data.length = layouts.configStateSize) :
    resolveConfigContext serde layouts networks bound read configAccountId =
      some ⟨data, program, readBytes32 data configOffsetMerkleProgramId⟩ := by
  simp [resolveConfigContext, configContext, hresolved, hconflict, hshards, hprogram, hdata, hsize,
    Except.toOption]

def treeMainAccountId (configData : Bytes) (registrationProgram : Bytes32) :
    Except RlnError Bytes32 :=
  if configData.length ≠ layouts.configStateSize then .error .invalidConfig
  else
    .ok (derivePda layouts registrationProgram
      (layouts.combineSeeds [layouts.labelSeed "main", readBytes32 configData configOffsetTreeId]))

structure RlnRegisterPlan where
  configAccountId : Bytes32
  treeMainAccountId : Bytes32
  treasuryAccountId : Bytes32
  membershipAccountId : Bytes32
  treeId : Bytes32
  merkleProgramId : Bytes32
  nextLeafIndex : UInt64
  pricePerUnit : ℕ
  activeDurationSec : UInt32
  gracePeriodDurationSec : UInt32
  deriving DecidableEq

def registerPlan (configData treeMainData : Bytes) (registrationProgram idCommitment : Bytes32) :
    Except RlnError RlnRegisterPlan :=
  if configData.length ≠ layouts.configStateSize then .error .invalidConfig
  else if treeMainData.length < layouts.headerSize then .error .dataTooShort
  else
    let treeId := readBytes32 configData configOffsetTreeId
    let derived (seeds : List Bytes32) :=
      derivePda layouts registrationProgram (layouts.combineSeeds seeds)
    .ok {
      configAccountId := derived [layouts.labelSeed "config", treeId]
      treeMainAccountId := derived [layouts.labelSeed "main", treeId]
      treasuryAccountId := readBytes32 configData configOffsetTreasuryAccountId
      membershipAccountId := derived [layouts.labelSeed "membership", treeId, idCommitment]
      treeId
      merkleProgramId := readBytes32 configData configOffsetMerkleProgramId
      nextLeafIndex := (layouts.parse treeMainData).nextIndex
      pricePerUnit := configFieldU128 configData configOffsetPricePerUnit
      activeDurationSec := configFieldU32 configData configOffsetActiveDuration
      gracePeriodDurationSec := configFieldU32 configData configOffsetGraceDuration }

/-- The tree's merkle shard. -/
def fetchTreeShard (read : AccountReads) (ctx : RlnConfigContext) : Option Bytes := do
  let main ← (treeMainAccountId layouts ctx.configData ctx.registrationProgram).toOption
  fetchShard serde read (HexCodec.bytesToHex main.toList) ctx.merkleProgram

def deriveRegisterPlan (read : AccountReads) (ctx : RlnConfigContext) (idCommitment : Bytes32) :
    Option RlnRegisterPlan := do
  let treeMainData ← fetchTreeShard serde layouts read ctx
  (registerPlan layouts ctx.configData treeMainData ctx.registrationProgram idCommitment).toOption

/-- The timestamp in `CLOCK_50`, the second little-endian number of its shard. -/
def decodeClockTimestampMs (accountData : Bytes) : Except RlnError UInt64 :=
  if accountData.length < 16 then .error .dataTooShort
  else .ok (configFieldU64 accountData 8)

def chainNowMs (read : AccountReads) : Option UInt64 := do
  let data ← fetchShard serde read (HexCodec.bytesToHex layouts.clock50AccountId.toList)
    layouts.clockProgramAccountId
  (decodeClockTimestampMs data).toOption

def decodeMembership (accountData : Bytes) : Except RlnError MembershipAccount :=
  if accountData.length < layouts.membershipStateSize then .error .dataTooShort
  else
    match layouts.decodeMembershipState (accountData.take layouts.membershipStateSize) with
    | some membership => .ok membership
    | none => .error .serializationError

def registrationLeaf {Fr : Type} (field : FieldCoding Fr) (idCommitment : Bytes32)
    (rateLimit : UInt64) : Option Bytes32 :=
  match field.deserialize idCommitment with
  | .error _ => none
  | .ok id => some (field.serialize (field.hashPair id (field.fromU64 rateLimit)))

/-- The leaf of a membership that exists, looked up in the tree; the search
indexes the shard and may panic. -/
def membershipLeafIndex {Fr : Type} (field : FieldCoding Fr) (read : AccountReads)
    (ctx : RlnConfigContext) (membership : MembershipAccount) : Except Panic (Option UInt64) :=
  match fetchTreeShard serde layouts read ctx with
  | none => .ok none
  | some tree =>
      match registrationLeaf field membership.idCommitment membership.rateLimit with
      | none => .ok none
      | some leaf => findLeafIndex layouts.toTreeLayout tree leaf

def membershipStatus (graceStartMs : UInt64) (graceDurationSec : UInt32) (nowMs : UInt64) :
    String :=
  let graceMs := layouts.secsToMillis graceDurationSec
  if layouts.isExpired graceStartMs graceMs nowMs then "expired"
  else if layouts.isInGracePeriod graceStartMs graceMs nowMs then "grace_period"
  else "active"

end Reads

end LogosRln.Registry.Chain
