import LogosRln.Registry.MembershipReply
import LogosRln.ReferenceJson

/-!
# A small executable chain

Concrete calls need a concrete chain: a registry with one tree, whose accounts
the wallet answers by a text each.  The layouts keep the shape of the real ones,
with the address of an account read off the last of its seeds.  It makes no
claim of strength.
-/

namespace LogosRln.Registry.ChainSample

open RegistryId Json Proofs Chain

def filled (byte : UInt8) : Bytes32 := List.Vector.replicate 32 byte

def hex (bytes : Bytes32) : String := HexCodec.bytesToHex bytes.toList

def registrationProgram : Bytes32 := filled 2
def merkleProgram : Bytes32 := filled 3
def treeId : Bytes32 := filled 4
def configAccount : Bytes32 := filled 5
def payer : Bytes32 := filled 6
def clockAccount : Bytes32 := filled 7
def clockProgram : Bytes32 := filled 8

/-- The commitment of the member, the field element one. -/
def commitment : Bytes32 := readBytes32 [1] 0

def layouts : Layouts where
  toTreeLayout := sampleLayout
  limits := ⟨1, 100, 3⟩
  configStateSize := 144
  membershipStateSize := 52
  labelSeed label := readBytes32 (utf8 label) 0
  combineSeeds seeds := seeds.getLastD (filled 0)
  sha256 data := (toArray 32 (data.drop (data.length - 32))).getD (filled 0)
  clock50AccountId := clockAccount
  clockProgramAccountId := clockProgram
  decodeMembershipState data := some ⟨readBytes32 data 0, configFieldU64 data 32,
    configFieldU64 data 40, configFieldU32 data 48⟩
  borshRegister register := some (register.treeId.toList ++ register.idCommitment.toList)
  secsToMillis seconds := seconds.toUInt64 * 1000
  isExpired graceStart grace now := graceStart + grace ≤ now
  isInGracePeriod graceStart grace now := graceStart ≤ now ∧ now < graceStart + grace

/-- A config with room for rate limits of 255 in all and a price of zero. -/
def configData : Bytes :=
  merkleProgram.toList ++ treeId.toList ++ List.replicate 56 0 ++ [255] ++ List.replicate 23 0

/-- An account with one shard. -/
def account (program : Bytes32) (data : Bytes) : Value :=
  .object [("nonce", .str "0"),
    ("shards", .object [(hex program, .str (HexCodec.bytesToHex data))])]

def noShards : Value := .object [("nonce", .str "0"), ("shards", .object [])]

/-- The wallet's replies, and a fee quote, by their texts. -/
def serde : Serde :=
  Json.Reference.serde [
    ("[config]", account registrationProgram configData),
    ("[tree]", account merkleProgram emptyShard),
    ("[clock]", account clockProgram (List.replicate 8 0 ++ [100] ++ List.replicate 7 0)),
    ("[none]", noShards),
    ("[fees]", .object [("next_base_fee_exec_ceiling", .uint 1),
      ("next_base_fee_stor_ceiling", .uint 1)])]

theorem serde_lawful : Lawful serde where
  roundTrips := Json.Reference.serde_roundTrips (by
    intro entry hentry value heq
    have hhead : (Json.Reference.print value).head? = some '[' := by
      rw [← String.toList_ofList (l := Json.Reference.print value), ← heq]
      simp only [List.mem_cons, List.not_mem_nil, or_false] at hentry
      rcases hentry with rfl | rfl | rfl | rfl | rfl <;> simp
    exact Json.Reference.print_ne value (.inr hhead) rfl)
  refusesEmpty := ⟨_, rfl⟩

def lez : Module UInt64 where
  serde := serde
  layouts := layouts
  field := Sample.field
  networks := []

/-- A wallet that answers every read with one text. -/
def always (text : String) : AccountReads := fun _ => text

theorem fetchShards_account {text accountHex : String} {program : Bytes32} {data : Bytes}
    (hread : serde.fromStr text = .ok (account program data)) (htext : text ≠ "") :
    fetchShards serde (always text) accountHex = some [(program, data)] := by
  have hshard : readShard (hex program, .str (HexCodec.bytesToHex data)) = some (program, data) :=
    readShard_encoded program data
  simp [fetchShards, always, htext, hread, Except.toOption, account, asObject, Value.get, hshard]

theorem fetchShard_account {text accountHex : String} {program : Bytes32} {data : Bytes}
    (hread : serde.fromStr text = .ok (account program data)) (htext : text ≠ "")
    (hdata : data ≠ []) : fetchShard serde (always text) accountHex program = some data := by
  simp [fetchShard, fetchShardTriState, fetchShards_account hread htext, hdata]

theorem fetchShard_none {accountHex : String} {program : Bytes32} :
    fetchShard serde (always "[none]") accountHex program = none := by
  have hread : fetchShards serde (always "[none]") accountHex = some [] := by
    simp [fetchShards, always, serde, Json.Reference.serde, Except.toOption, noShards, asObject,
      Value.get]
  simp [fetchShard, fetchShardTriState, hread]

theorem resolveConfigContext_sample :
    resolveConfigContext serde layouts [] none (always "[config]") (hex configAccount) =
      some ⟨configData, registrationProgram, merkleProgram⟩ := by
  have hmerkle : readBytes32 configData configOffsetMerkleProgramId = merkleProgram := by
    decide +kernel
  rw [← hmerkle]
  exact resolveConfigContext_of_shard serde layouts [] (by decide +kernel) rfl
    (fetchShards_account (by simp [serde, Json.Reference.serde]) (by decide)) (by decide)
    (by decide +kernel) (by decide +kernel)

theorem derivePda_sample (program seed : Bytes32) : derivePda layouts program seed = seed := by
  have hlength : (pdaPrefix ++ program.toList ++ seed.toList).length - 32 =
      (pdaPrefix ++ program.toList).length := by simp
  simp only [derivePda, layouts]
  rw [hlength, List.drop_left]
  simp

theorem deriveRegisterPlan_sample :
    deriveRegisterPlan serde layouts (always "[tree]")
        ⟨configData, registrationProgram, merkleProgram⟩ commitment = some {
      configAccountId := treeId
      treeMainAccountId := treeId
      treasuryAccountId := filled 0
      membershipAccountId := commitment
      treeId
      merkleProgramId := merkleProgram
      nextLeafIndex := 0
      pricePerUnit := 0
      activeDurationSec := 0
      gracePeriodDurationSec := 0 } := by
  have hshard : ∀ accountHex, fetchShard serde (always "[tree]") accountHex merkleProgram =
      some emptyShard := fun accountHex => fetchShard_account
      (by simp [serde, Json.Reference.serde]) (by decide) (by decide)
  have hsize : configData.length = layouts.configStateSize ∧
      ¬ emptyShard.length < layouts.headerSize := by decide +kernel
  have hfields : readBytes32 configData configOffsetTreeId = treeId ∧
      readBytes32 configData configOffsetTreasuryAccountId = filled 0 ∧
      readBytes32 configData configOffsetMerkleProgramId = merkleProgram := by decide +kernel
  have hnumbers : configFieldU128 configData configOffsetPricePerUnit = 0 ∧
      configFieldU32 configData configOffsetActiveDuration = 0 ∧
      configFieldU32 configData configOffsetGraceDuration = 0 := by decide +kernel
  have hpair : ∀ first second : Bytes32, layouts.combineSeeds [first, second] = second :=
    fun _ _ => rfl
  have htriple : ∀ first second third : Bytes32,
      layouts.combineSeeds [first, second, third] = third := fun _ _ _ => rfl
  have hnext : (layouts.parse emptyShard).nextIndex = 0 := rfl
  simp only [deriveRegisterPlan, fetchTreeShard, treeMainAccountId, hsize, ne_eq, not_true_eq_false,
    if_false, Except.toOption, Option.bind_eq_bind, Option.bind_some, hshard, registerPlan,
    derivePda_sample, hpair, htriple, hfields, hnumbers, hnext]

theorem chainNowMs_sample : chainNowMs serde layouts (always "[clock]") = some 100 := by
  have hshard : ∀ accountHex, fetchShard serde (always "[clock]") accountHex clockProgram =
      some (List.replicate 8 0 ++ [100] ++ List.replicate 7 0) := fun accountHex =>
    fetchShard_account
      (by simp [serde, Json.Reference.serde]) (by decide) (by decide)
  simp only [chainNowMs, layouts, hshard, Option.bind_eq_bind, Option.bind_some]
  decide

end LogosRln.Registry.ChainSample
