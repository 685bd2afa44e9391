import LogosRln.CanonicalIds
import LogosRln.Core.LeaseTable
import LogosRln.Registry.ChainSample

/-!
# Registering a member

`register_member` places itself on the chain, checks that the registration can
succeed, takes the membership's in-flight slot, and sends.  The slot keeps the
reply for the callers after it and is emptied when nothing was sent.
-/

namespace LogosRln.Registry.Chain

open RegistryId Json Proofs LeaseTable

/-! ## Sending through the wallet -/

structure Mention where
  accountHex : String
  signs : Bool
  shardProgramHex : String

/-- What the wallet library answers to a transaction: an error code, or a result. -/
inductive FfiReply where
  | code (rc : UInt32)
  | result (success : Bool) (txHash : String)
  deriving DecidableEq

/-- The wallet took the transaction. -/
def FfiReply.accepted : FfiReply → Bool
  | .code _ => false
  | .result success _ => success

/-- What the library is called with. -/
structure SendArguments where
  mentions : List (Bytes32 × Bool × Bytes32)
  instruction : Bytes
  program : Bytes32
  payer : Option Bytes32

def readMention (mention : Mention) : Option (Bytes32 × Bool × Bytes32) := do
  let account ← hexToBytes32 mention.accountHex
  let shard ← hexToBytes32 mention.shardProgramHex
  return (account, mention.signs, shard)

/-- An empty payer is the signer itself. -/
def readPayer (payerAccountIdHex : String) : Option (Option Bytes32) :=
  if trim payerAccountIdHex.toList = [] then some none
  else (hexToBytes32 payerAccountIdHex).map some

/-- The arguments, unless one of them is rejected. -/
def sendArguments (mentions : List Mention) (instruction : Bytes)
    (programHex payerAccountIdHex : String) : Option SendArguments := do
  let mentions ← mentions.mapM readMention
  let program ← hexToBytes32 programHex
  let payer ← readPayer payerAccountIdHex
  return ⟨mentions, instruction, program, payer⟩

def FfiReply.toJson : FfiReply → Value
  | .code rc => .object [("error", .str s!"wallet_ffi error {rc}"), ("success", .bool false),
      ("tx_hash", .str "")]
  | .result success txHash => .object [("error", .str ""), ("success", .bool success),
      ("tx_hash", .str txHash)]

/-- The wallet at a send: not ready, or what it answers. -/
abbrev Wallet := Option (SendArguments → FfiReply)

def sendGenericPublicTransaction (serde : Serde) (wallet : Wallet) (mentions : List Mention)
    (instruction : Bytes) (programHex payerAccountIdHex : String) : String :=
  match sendArguments mentions instruction programHex payerAccountIdHex with
  | none => ""
  | some arguments =>
      match wallet with
      | none => ""
      | some send => serde.toString (send arguments).toJson

/-- `None` is a transaction that failed. -/
def sendGenericTx (serde : Serde) (wallet : Wallet) (mentions : List Mention)
    (instruction : Bytes) (programHex payerHex : String) : Option String :=
  let sendResult := sendGenericPublicTransaction serde wallet mentions instruction programHex
    payerHex
  if sendResult = "" then none else some sendResult

/-- The `tx_hash` of a send reply. -/
def txHashOf (serde : Serde) (sendResult : String) : String :=
  ((serde.fromStr sendResult).toOption.bind fun reply =>
    (reply.get "tx_hash").bind Value.asStr).getD ""

/-! ## Before the slot -/

def gasLimit : ℕ := 10000000
def registerDataAllowance : ℕ := 100000

/-- `u128::saturating_add` and `u128::saturating_mul`. -/
def saturate128 (number : ℕ) : ℕ := min number (2 ^ 128 - 1)

/-- A fee ceiling of the quote. -/
def ceiling (quote : Option Value) (key : String) : Option ℕ :=
  (quote.bind fun fields => (fields.get key).bind Value.asU64).map UInt64.toNat

section Calls

variable {Fr : Type} (lez : Module Fr)

def preflightRegister (feeState : String) (balance : Option ℕ) (ctx : RlnConfigContext)
    (plan : RlnRegisterPlan) (idCommitment : Bytes32) (rateLimit : UInt64) (payerHex : String) :
    Except String Unit := do
  checkRegister lez.layouts.limits ctx.configData plan.nextLeafIndex idCommitment rateLimit
  let quote := (lez.serde.fromStr feeState).toOption
  match ceiling quote "next_base_fee_exec_ceiling", ceiling quote "next_base_fee_stor_ceiling" with
  | some exec, some stor =>
      match balance with
      | none => return ()
      | some balance =>
          let price := saturate128 (plan.pricePerUnit * rateLimit.toNat)
          let reserve := saturate128 (saturate128 (gasLimit * exec) +
            saturate128 (registerDataAllowance * stor))
          let needed := saturate128 (price + reserve)
          if balance < needed then
            .error (s!"insufficient_balance: payer {payerHex} holds {balance}, a registration " ++
              s!"needs {needed} ({price} price + {reserve} fee reserve at the next block's base " ++
              "fee ceiling)")
          else return ()
  | _, _ => return ()

/-- Without a balance the price is not checked. -/
theorem preflightRegister_unpriced (feeState : String) {ctx : RlnConfigContext}
    {plan : RlnRegisterPlan} {idCommitment : Bytes32} {rateLimit : UInt64} {payerHex : String}
    (hcheck : checkRegister lez.layouts.limits ctx.configData plan.nextLeafIndex idCommitment
      rateLimit = .ok ()) :
    preflightRegister lez feeState none ctx plan idCommitment rateLimit payerHex = .ok () := by
  simp only [preflightRegister, hcheck, bind, Except.bind]
  split <;> rfl

structure RegisterArgs where
  configAccountId : String
  payerAccountId : String
  idCommitmentHex : String
  /-- The wire's `i64`, cast. -/
  rateLimit : UInt64

/-- What a call reads before it looks at the slot, in its order. -/
structure RegisterReads where
  bound : Option String := none
  config : AccountReads
  walletPayer : String
  plan : AccountReads
  membership : AccountReads
  tree : AccountReads
  feeState : String
  balance : Option ℕ

/-- A call placed on the chain. -/
structure Located where
  ctx : RlnConfigContext
  plan : RlnRegisterPlan
  idCommitment : Bytes32
  rateLimit : UInt64
  payerHex : String
  deriving DecidableEq

def Located.regKey (located : Located) : String :=
  HexCodec.bytesToHex located.plan.membershipAccountId.toList

/-- The membership, if its account can be read. -/
def landed (read : AccountReads) (ctx : RlnConfigContext) (membershipHex : String) :
    Option MembershipAccount := do
  let data ← fetchShard lez.serde read membershipHex ctx.registrationProgram
  (decodeMembership lez.layouts data).toOption

/-- Up to the idempotency check: an answer, or where the call is. -/
def locate (args : RegisterArgs) (reads : RegisterReads) : Except Panic String ⊕ Located :=
  match hexToBytes32 args.idCommitmentHex with
  | none => .inl (.ok "")
  | some idCommitment =>
      match resolveConfigContext lez.serde lez.layouts lez.networks reads.bound reads.config
          args.configAccountId with
      | none => .inl (.ok "")
      | some ctx =>
          let payerHex := if trim args.payerAccountId.toList = [] then reads.walletPayer
            else resolveAccountId args.payerAccountId
          if payerHex = "" then .inl (.ok "")
          else
            match deriveRegisterPlan lez.serde lez.layouts reads.plan ctx idCommitment with
            | none => .inl (.ok "")
            | some plan =>
                let located := ⟨ctx, plan, idCommitment, args.rateLimit, payerHex⟩
                match landed lez reads.membership ctx located.regKey with
                | none => .inr located
                | some membership =>
                    match membershipLeafIndex lez.serde lez.layouts lez.field reads.tree ctx
                        membership with
                    | .error panic => .inl (.error panic)
                    | .ok none => .inl (.ok "")
                    | .ok (some leaf) => .inl (.ok (lez.serde.toString
                        (.object [("already_registered", .bool true), ("leaf_index", asI64 leaf)])))

/-- A call with readable arguments for a membership that is not there, paid by the
wallet's own payer. -/
theorem locate_of_reads {args : RegisterArgs} {reads : RegisterReads} {idCommitment : Bytes32}
    {ctx : RlnConfigContext} {plan : RlnRegisterPlan}
    (hid : hexToBytes32 args.idCommitmentHex = some idCommitment)
    (hctx : resolveConfigContext lez.serde lez.layouts lez.networks reads.bound reads.config
      args.configAccountId = some ctx)
    (hown : trim args.payerAccountId.toList = []) (hpayer : reads.walletPayer ≠ "")
    (hplan : deriveRegisterPlan lez.serde lez.layouts reads.plan ctx idCommitment = some plan)
    (habsent : fetchShard lez.serde reads.membership
      (HexCodec.bytesToHex plan.membershipAccountId.toList) ctx.registrationProgram = none) :
    locate lez args reads =
      .inr ⟨ctx, plan, idCommitment, args.rateLimit, reads.walletPayer⟩ := by
  delta locate
  simp only [hid, hctx, hown, if_true, hpayer, if_false, hplan, Located.regKey, landed, habsent,
    Option.bind_eq_bind, Option.bind_none]

def Located.preflight (reads : RegisterReads) (located : Located) : Except String Unit :=
  preflightRegister lez reads.feeState reads.balance located.ctx located.plan located.idCommitment
    located.rateLimit located.payerHex

def refusal (why : String) : Value := .object [("error", .str why)]

/-- The reply a slot holds until its submission has one. -/
def Located.placeholder (located : Located) : String :=
  lez.serde.toString
    (.object [("leaf_index", asI64 located.plan.nextLeafIndex), ("pending", .bool true)])

def pendingReply (plan : RlnRegisterPlan) (sendResult : String) : Value :=
  .object [("leaf_index", asI64 plan.nextLeafIndex), ("pending", .bool true),
    ("tx_result", .str sendResult)]

/-! ## The slot -/

def regInFlightTtl : ℕ := 300

/-- The in-flight registrations: a reply and when it was stored, by membership. -/
abbrev RegInFlightMap := Table String String

/-- `reg_in_flight`: every access drops what has expired. -/
def regInFlight (now : ℕ) (slots : RegInFlightMap) : RegInFlightMap :=
  retain regInFlightTtl now slots

/-- The prior reply, or the slot for this call. -/
def takeSlot (now : ℕ) (located : Located) (slots : RegInFlightMap) :
    Option String × RegInFlightMap :=
  let slots := regInFlight now slots
  match slots located.regKey with
  | some entry => (some entry.1, slots)
  | none => (none, store located.regKey (located.placeholder lez) now slots)

/-! ## The submission -/

def nativeHex : String := HexCodec.bytesToHex nativeTokenProgram.toList

/-- The accounts of a `Register`, in the guest's order. -/
def registerMentions (layouts : Layouts) (ctx : RlnConfigContext) (plan : RlnRegisterPlan)
    (payerBytes : Bytes32) : List Mention :=
  let mention (account : Bytes32) (signs : Bool) (shard : String) : Mention :=
    ⟨HexCodec.bytesToHex account.toList, signs, shard⟩
  let registrationHex := HexCodec.bytesToHex ctx.registrationProgram.toList
  [mention plan.configAccountId false registrationHex,
    mention plan.treeMainAccountId false (HexCodec.bytesToHex ctx.merkleProgram.toList),
    mention payerBytes true nativeHex,
    mention plan.treasuryAccountId false nativeHex,
    mention layouts.clock50AccountId false
      (HexCodec.bytesToHex layouts.clockProgramAccountId.toList),
    mention plan.membershipAccountId false registrationHex]

def registerBuildInstruction (layouts : Layouts) (plan : RlnRegisterPlan) (idCommitment : Bytes32)
    (rateLimit nowMs : UInt64) : Except RlnError Bytes :=
  match layouts.borshRegister {
      treeId := plan.treeId
      idCommitment
      rateLimit
      merkleProgramId := plan.merkleProgramId
      nowMs
      pricePerUnit := plan.pricePerUnit
      activeDurationSec := plan.activeDurationSec
      gracePeriodDurationSec := plan.gracePeriodDurationSec } with
  | some bytes => .ok bytes
  | none => .error .serializationError

/-- What a submission meets: the clock account, the fee payer and the wallet. -/
structure Submitting where
  clock : AccountReads
  feePayerHex : String
  wallet : Wallet

/-- `submit_register`: the claims are read last, just before sending. -/
def submitRegister (submitting : Submitting) (located : Located) : Option String := do
  let nowMs ← chainNowMs lez.serde lez.layouts submitting.clock
  let instruction ← (registerBuildInstruction lez.layouts located.plan located.idCommitment
    located.rateLimit nowMs).toOption
  let payerBytes ← hexToBytes32 located.payerHex
  sendGenericTx lez.serde submitting.wallet
    (registerMentions lez.layouts located.ctx located.plan payerBytes) instruction
    (HexCodec.bytesToHex located.ctx.registrationProgram.toList) submitting.feePayerHex

structure RegisterWatch where
  configAccountId : String
  payerHex : String
  idCommitment : Bytes32
  rateLimit : UInt64
  regKey : String
  txHash : String
  deriving DecidableEq

/-- What the call does with its slot once the send is over: the reply, the slots
and the watcher it starts. -/
def settle (now : ℕ) (args : RegisterArgs) (sent : Option String) (located : Located)
    (slots : RegInFlightMap) : String × RegInFlightMap × Option RegisterWatch :=
  match sent with
  | none => ("", remove located.regKey (regInFlight now slots), none)
  | some sendResult =>
      let reply := lez.serde.toString (pendingReply located.plan sendResult)
      (reply, store located.regKey reply now (regInFlight now slots),
        some ⟨args.configAccountId, located.payerHex, located.idCommitment, located.rateLimit,
          located.regKey, txHashOf lez.serde sendResult⟩)

/-- `register_member`; `meanwhile` is what the other calls and watchers do to the
slots while this one sends. -/
def registerMember (args : RegisterArgs) (reads : RegisterReads) (submitting : Submitting)
    (entered left : ℕ) (meanwhile : RegInFlightMap → RegInFlightMap) (slots : RegInFlightMap) :
    Except Panic String × RegInFlightMap × Option RegisterWatch :=
  match locate lez args reads with
  | .inl answer => (answer, slots, none)
  | .inr located =>
      match located.preflight lez reads with
      | .error why => (.ok (lez.serde.toString (refusal why)), slots, none)
      | .ok () =>
          match takeSlot lez entered located slots with
          | (some reply, slots) => (.ok reply, slots, none)
          | (none, slots) =>
              let settled := settle lez left args (submitRegister lez submitting located) located
                (meanwhile slots)
              (.ok settled.1, settled.2.1, settled.2.2)

/-! ## What a submission reports -/

/-- The library's answer to the submission, if the submission gets that far. -/
def walletReply (submitting : Submitting) (located : Located) : Option FfiReply := do
  let nowMs ← chainNowMs lez.serde lez.layouts submitting.clock
  let instruction ← (registerBuildInstruction lez.layouts located.plan located.idCommitment
    located.rateLimit nowMs).toOption
  let payerBytes ← hexToBytes32 located.payerHex
  let arguments ← sendArguments
    (registerMentions lez.layouts located.ctx located.plan payerBytes) instruction
    (HexCodec.bytesToHex located.ctx.registrationProgram.toList) submitting.feePayerHex
  submitting.wallet.map fun send => send arguments

/-- The reply says that a registration is under way. -/
def Pending (serde : Serde) (reply : String) : Prop :=
  ∃ value, serde.fromStr reply = .ok value ∧
    (value.get "pending").bind Value.asBool = some true

/-- The call reports what became of its transaction: a pending one keeps its slot
and is watched, any other frees it. -/
structure Reports (serde : Serde) (accepted : Bool) (regKey : String) (left : ℕ)
    (result : Except Panic String × RegInFlightMap × Option RegisterWatch) : Prop where
  pending : accepted = true → ∃ reply, result.1 = .ok reply ∧ Pending serde reply ∧
    result.2.1 regKey = some (reply, left) ∧ result.2.2.isSome
  failed : accepted = false → (∃ reply, result.1 = .ok reply ∧ ¬ Pending serde reply) ∧
    result.2.1 regKey = none ∧ result.2.2 = none

variable {lez}

theorem sendGenericPublicTransaction_eq (serde : Serde) (wallet : Wallet)
    (mentions : List Mention) (instruction : Bytes) (programHex payerHex : String) :
    sendGenericPublicTransaction serde wallet mentions instruction programHex payerHex =
      (((sendArguments mentions instruction programHex payerHex).bind fun arguments =>
        wallet.map fun send => send arguments).map fun reply =>
          serde.toString reply.toJson).getD "" := by
  simp only [sendGenericPublicTransaction]
  cases sendArguments mentions instruction programHex payerHex with
  | none => rfl
  | some arguments => cases wallet <;> rfl

theorem sendGenericTx_eq {serde : Serde} (hserde : Lawful serde) (wallet : Wallet)
    (mentions : List Mention) (instruction : Bytes) (programHex payerHex : String) :
    sendGenericTx serde wallet mentions instruction programHex payerHex =
      ((sendArguments mentions instruction programHex payerHex).bind fun arguments =>
        wallet.map fun send => send arguments).map fun reply => serde.toString reply.toJson := by
  simp only [sendGenericTx, sendGenericPublicTransaction_eq]
  cases (sendArguments mentions instruction programHex payerHex).bind fun arguments =>
      wallet.map fun send => send arguments with
  | none => rfl
  | some reply => simp [toString_ne_empty hserde]

/-- Anything the library answers counts as sent. -/
theorem submitRegister_eq (hserde : Lawful lez.serde) (submitting : Submitting)
    (located : Located) :
    submitRegister lez submitting located =
      (walletReply lez submitting located).map fun reply => lez.serde.toString reply.toJson := by
  simp only [submitRegister, walletReply, sendGenericTx_eq hserde, Option.bind_eq_bind,
    Option.map_bind, Function.comp_def]

/-- The accounts of a `Register` are never rejected; its fee payer can be. -/
theorem sendArguments_registerMentions (layouts : Layouts) (ctx : RlnConfigContext)
    (plan : RlnRegisterPlan) (payerBytes : Bytes32) (instruction : Bytes) (feePayerHex : String) :
    sendArguments (registerMentions layouts ctx plan payerBytes) instruction
        (HexCodec.bytesToHex ctx.registrationProgram.toList) feePayerHex =
      (readPayer feePayerHex).map fun payer => {
        mentions := [(plan.configAccountId, false, ctx.registrationProgram),
          (plan.treeMainAccountId, false, ctx.merkleProgram),
          (payerBytes, true, nativeTokenProgram),
          (plan.treasuryAccountId, false, nativeTokenProgram),
          (layouts.clock50AccountId, false, layouts.clockProgramAccountId),
          (plan.membershipAccountId, false, ctx.registrationProgram)]
        instruction
        program := ctx.registrationProgram
        payer } := by
  cases hpayer : readPayer feePayerHex with
  | none => simp [sendArguments, hpayer]
  | some payer => simp [sendArguments, registerMentions, readMention, nativeHex, hpayer]

theorem pending_pendingReply (hserde : Lawful lez.serde) (plan : RlnRegisterPlan)
    (sendResult : String) : Pending lez.serde (lez.serde.toString (pendingReply plan sendResult)) :=
  ⟨pendingReply plan sendResult, hserde.roundTrips _, rfl⟩

theorem not_pending_empty (hserde : Lawful lez.serde) : ¬ Pending lez.serde "" := by
  rintro ⟨value, hread, -⟩
  obtain ⟨error, herror⟩ := hserde.refusesEmpty
  rw [herror] at hread
  cases hread

/-- A call that takes its slot and sends reports what became of its transaction
exactly when the library, if it is reached, takes the transaction. -/
theorem register_reports_iff (lez : Module Fr) (hserde : Lawful lez.serde) (args : RegisterArgs)
    (reads : RegisterReads) (submitting : Submitting) (entered left : ℕ)
    (meanwhile : RegInFlightMap → RegInFlightMap) (slots : RegInFlightMap) (located : Located)
    (hlocated : locate lez args reads = .inr located)
    (hpreflight : located.preflight lez reads = .ok ())
    (hslot : (takeSlot lez entered located slots).1 = none) :
    Reports lez.serde ((walletReply lez submitting located).any FfiReply.accepted) located.regKey
        left (registerMember lez args reads submitting entered left meanwhile slots) ↔
      ∀ reply, walletReply lez submitting located = some reply → reply.accepted = true := by
  have hcall : registerMember lez args reads submitting entered left meanwhile slots =
      let settled := settle lez left args (submitRegister lez submitting located) located
        (meanwhile (takeSlot lez entered located slots).2)
      (.ok settled.1, settled.2.1, settled.2.2) := by
    delta registerMember
    simp only [hlocated, hpreflight]
    cases htaken : takeSlot lez entered located slots with
    | mk prior taken =>
        rw [htaken] at hslot
        obtain rfl : prior = none := hslot
        rfl
  rw [hcall]
  cases hreply : walletReply lez submitting located with
  | none =>
      have hsettled : ∀ slots, settle lez left args (submitRegister lez submitting located) located
          slots =
          ("", remove located.regKey (regInFlight left slots), none) := fun slots => by
        simp only [settle, submitRegister_eq hserde, hreply, Option.map_none]
      constructor
      · intro _ reply hnone
        cases hnone
      · intro _
        refine ⟨fun haccepted => (by cases haccepted), fun _ => ?_⟩
        rw [hsettled]
        exact ⟨⟨"", rfl, not_pending_empty hserde⟩, Function.update_self _ _ _, rfl⟩
  | some reply =>
      have hsettled : ∀ slots, settle lez left args (submitRegister lez submitting located) located
          slots =
          (lez.serde.toString (pendingReply located.plan (lez.serde.toString reply.toJson)),
            store located.regKey
              (lez.serde.toString (pendingReply located.plan (lez.serde.toString reply.toJson)))
              left (regInFlight left slots),
            some ⟨args.configAccountId, located.payerHex, located.idCommitment,
              located.rateLimit, located.regKey,
              txHashOf lez.serde (lez.serde.toString reply.toJson)⟩) := fun slots => by
        simp only [settle, submitRegister_eq hserde, hreply, Option.map_some]
      simp only [Option.any_some, Option.some.injEq, forall_eq', hsettled]
      constructor
      · intro hreports
        by_contra hrefused
        obtain ⟨⟨answer, hanswer, hpending⟩, -, -⟩ :=
          hreports.failed (Bool.eq_false_iff.mpr hrefused)
        obtain rfl := Except.ok.inj hanswer
        exact hpending (pending_pendingReply hserde _ _)
      · intro haccepted
        refine ⟨fun _ => ⟨_, rfl, pending_pendingReply hserde _ _, Function.update_self _ _ _,
          rfl⟩, fun hrefused => ?_⟩
        rw [haccepted] at hrefused
        cases hrefused

end Calls

/-! ## Submissions on the small chain -/

namespace RegisterSample

open ChainSample

def args : RegisterArgs := ⟨hex configAccount, "", hex commitment, 5⟩

def reads (balance : Option ℕ) : RegisterReads where
  config := always "[config]"
  walletPayer := hex payer
  plan := always "[tree]"
  membership := always "[none]"
  tree := always "[tree]"
  feeState := "[fees]"
  balance

/-- The library answers every transaction alike. -/
def submitting (reply : FfiReply) : Submitting where
  clock := always "[clock]"
  feePayerHex := hex payer
  wallet := some fun _ => reply

def located : Located where
  ctx := ⟨configData, registrationProgram, merkleProgram⟩
  plan := {
    configAccountId := treeId
    treeMainAccountId := treeId
    treasuryAccountId := filled 0
    membershipAccountId := commitment
    treeId
    merkleProgramId := merkleProgram
    nextLeafIndex := 0
    pricePerUnit := 0
    activeDurationSec := 0
    gracePeriodDurationSec := 0 }
  idCommitment := commitment
  rateLimit := 5
  payerHex := hex payer

def noSlots : RegInFlightMap := fun _ => none

theorem hexToBytes32_hex (bytes : Bytes32) : hexToBytes32 (hex bytes) = some bytes :=
  hexToBytes32_bytesToHex bytes

theorem trim_empty : trim "".toList = [] := by decide

theorem hex_ne_empty (bytes : Bytes32) : hex bytes ≠ "" := by
  intro hempty
  have hread := hexToBytes32_hex bytes
  have hnone : hexToBytes32 "" = none := by decide
  rw [hempty, hnone] at hread
  cases hread

theorem trim_hex_ne_nil (bytes : Bytes32) : trim (hex bytes).toList ≠ [] := by
  rw [trim_of_forall_not_whitespace, ne_eq, String.toList_eq_nil_iff]
  · exact hex_ne_empty bytes
  · intro c hc
    rw [hex, HexCodec.bytesToHex_eq] at hc
    exact (plain_bytesToHex bytes.toList c hc).2

theorem locate_sample (balance : Option ℕ) :
    locate lez args (reads balance) = .inr located :=
  locate_of_reads lez (hexToBytes32_hex commitment) resolveConfigContext_sample trim_empty
    (hex_ne_empty payer) deriveRegisterPlan_sample fetchShard_none

theorem checkRegister_sample :
    checkRegister layouts.limits configData 0 commitment 5 = .ok () := by
  decide +kernel

theorem preflight_sample : located.preflight lez (reads none) = .ok () :=
  preflightRegister_unpriced lez "[fees]" checkRegister_sample

theorem walletReply_sample (reply : FfiReply) :
    walletReply lez (submitting reply) located = some reply := by
  have hclock : chainNowMs lez.serde lez.layouts (always "[clock]") = some 100 := chainNowMs_sample
  have hbuilt : ∀ nowMs, (registerBuildInstruction lez.layouts located.plan located.idCommitment
      located.rateLimit nowMs).toOption = some (treeId.toList ++ commitment.toList) := fun _ => rfl
  have hpayer : hexToBytes32 located.payerHex = some payer := hexToBytes32_hex payer
  have hfee : readPayer (hex payer) = some (some payer) := by
    rw [readPayer, if_neg (trim_hex_ne_nil payer), hexToBytes32_hex]
    rfl
  simp only [walletReply, submitting, hclock, hbuilt, hpayer, Option.bind_eq_bind, Option.bind_some,
    sendArguments_registerMentions, hfee, Option.map_some]

end RegisterSample

open RegisterSample

/-- An accepted registration keeps its slot. -/
theorem register_reports_accepted :
    (walletReply ChainSample.lez (submitting (.result true "ab")) located).isSome ∧
      Reports ChainSample.lez.serde true located.regKey 7
        (registerMember ChainSample.lez args (reads none) (submitting (.result true "ab")) 3 7 id
          noSlots) := by
  have hreply := walletReply_sample (.result true "ab")
  have hreports := (register_reports_iff ChainSample.lez ChainSample.serde_lawful args (reads none)
    (submitting (.result true "ab")) 3 7 id noSlots located (locate_sample none) preflight_sample
    rfl).mpr (by
      intro reply hother
      obtain rfl := Option.some.inj (hreply.symm.trans hother)
      rfl)
  rw [hreply] at hreports
  exact ⟨by rw [hreply]; rfl, hreports⟩

end LogosRln.Registry.Chain
