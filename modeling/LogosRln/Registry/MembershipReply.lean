import LogosRln.Provider
import LogosRln.Registry.ChainReads

/-!
# Membership replies

`get_membership` reads the registry's config, its tree, the membership account,
the chain's clock and the tree again.  Every read that fails empties the reply;
only a membership account that was read and holds no state of the registration
program is answered as not registered.
-/

namespace LogosRln.Registry.Chain

open RegistryId Json Proofs Provider Lifecycle

/-! ## The handler -/

/-- The wallet at each read of the handler, in the handler's order. -/
structure MembershipReads where
  config : AccountReads
  plan : AccountReads
  membership : AccountReads
  clock : AccountReads
  tree : AccountReads

/-- The registry module around a call. -/
structure Module (Fr : Type) where
  serde : Serde
  layouts : Layouts
  field : FieldCoding Fr
  networks : List Network

/-- A number cast to `i64`. -/
def asI64 (number : UInt64) : Value :=
  if number.toNat < 2 ^ 63 then .uint number
  else .number s!"{(number.toNat : Int) - 2 ^ 64}"

def notRegistered : Value := .object [("registered", .bool false)]

def registered (layouts : Layouts) (membership : MembershipAccount) (nowMs leafIndex : UInt64) :
    Value :=
  .object [
    ("clock_timestamp", .uint nowMs),
    ("grace_period_duration", .uint membership.gracePeriodDurationSec.toUInt64),
    ("grace_period_start_timestamp", .uint membership.gracePeriodStartTimestampMs),
    ("leaf_index", asI64 leafIndex),
    ("rate_limit", asI64 membership.rateLimit),
    ("registered", .bool true),
    ("state", .str (membershipStatus layouts membership.gracePeriodStartTimestampMs
      membership.gracePeriodDurationSec nowMs))]

variable {Fr : Type} (lez : Module Fr)

def getMembership (bound : Option String) (reads : MembershipReads)
    (configAccountId idCommitmentHex : String) : Except Panic String :=
  match hexToBytes32 idCommitmentHex with
  | none => .ok ""
  | some idCommitment =>
      match resolveConfigContext lez.serde lez.layouts lez.networks bound reads.config
          configAccountId with
      | none => .ok ""
      | some ctx =>
          match deriveRegisterPlan lez.serde lez.layouts reads.plan ctx idCommitment with
          | none => .ok ""
          | some plan =>
              match fetchShardTriState lez.serde reads.membership
                  (HexCodec.bytesToHex plan.membershipAccountId.toList)
                  ctx.registrationProgram with
              | .absent => .ok (lez.serde.toString notRegistered)
              | .error => .ok ""
              | .present data =>
                  match decodeMembership lez.layouts data with
                  | .error _ => .ok ""
                  | .ok membership =>
                      match chainNowMs lez.serde lez.layouts reads.clock with
                      | none => .ok ""
                      | some nowMs =>
                          match membershipLeafIndex lez.serde lez.layouts lez.field reads.tree ctx
                              membership with
                          | .error panic => .error panic
                          | .ok none => .ok ""
                          | .ok (some leafIndex) =>
                              .ok (lez.serde.toString
                                (registered lez.layouts membership nowMs leafIndex))

/-- The config and the tree were read, and the membership account was read and
holds no state of the registration program. -/
def ReadAsErased (bound : Option String) (reads : MembershipReads)
    (configAccountId idCommitmentHex : String) : Prop :=
  ∃ idCommitment ctx plan, hexToBytes32 idCommitmentHex = some idCommitment ∧
    resolveConfigContext lez.serde lez.layouts lez.networks bound reads.config configAccountId =
      some ctx ∧
    deriveRegisterPlan lez.serde lez.layouts reads.plan ctx idCommitment = some plan ∧
    ReadAsAbsent lez.serde reads.membership
      (HexCodec.bytesToHex plan.membershipAccountId.toList) ctx.registrationProgram

/-- Every read the handler makes succeeded and decoded. -/
def ReadAsPresent (bound : Option String) (reads : MembershipReads)
    (configAccountId idCommitmentHex : String) (membership : MembershipAccount)
    (nowMs leafIndex : UInt64) : Prop :=
  ∃ idCommitment ctx plan data, hexToBytes32 idCommitmentHex = some idCommitment ∧
    resolveConfigContext lez.serde lez.layouts lez.networks bound reads.config configAccountId =
      some ctx ∧
    deriveRegisterPlan lez.serde lez.layouts reads.plan ctx idCommitment = some plan ∧
    fetchShardTriState lez.serde reads.membership
      (HexCodec.bytesToHex plan.membershipAccountId.toList) ctx.registrationProgram =
        .present data ∧
    decodeMembership lez.layouts data = .ok membership ∧
    chainNowMs lez.serde lez.layouts reads.clock = some nowMs ∧
    membershipLeafIndex lez.serde lez.layouts lez.field reads.tree ctx membership =
      .ok (some leafIndex)

variable {lez} {bound : Option String} {reads : MembershipReads}
  {configAccountId idCommitmentHex : String}

/-- What the handler can answer, and when. -/
inductive Answers (lez : Module Fr) (bound : Option String) (reads : MembershipReads)
    (configAccountId idCommitmentHex : String) : Except Panic String → Prop where
  | failed : Answers lez bound reads configAccountId idCommitmentHex (.ok "")
  | panicked (panic : Panic) :
      Answers lez bound reads configAccountId idCommitmentHex (.error panic)
  | erased (herased : ReadAsErased lez bound reads configAccountId idCommitmentHex) :
      Answers lez bound reads configAccountId idCommitmentHex
        (.ok (lez.serde.toString notRegistered))
  | present (membership : MembershipAccount) (nowMs leafIndex : UInt64)
      (hpresent : ReadAsPresent lez bound reads configAccountId idCommitmentHex membership nowMs
        leafIndex) :
      Answers lez bound reads configAccountId idCommitmentHex
        (.ok (lez.serde.toString (registered lez.layouts membership nowMs leafIndex)))

theorem getMembership_answers :
    Answers lez bound reads configAccountId idCommitmentHex
      (getMembership lez bound reads configAccountId idCommitmentHex) := by
  simp only [getMembership]
  cases hid : hexToBytes32 idCommitmentHex with
  | none => exact .failed
  | some idCommitment =>
      simp only
      cases hctx : resolveConfigContext lez.serde lez.layouts lez.networks bound reads.config
          configAccountId with
      | none => exact .failed
      | some ctx =>
          simp only
          cases hplan : deriveRegisterPlan lez.serde lez.layouts reads.plan ctx idCommitment with
          | none => exact .failed
          | some plan =>
              simp only
              cases hfetched : fetchShardTriState lez.serde reads.membership
                  (HexCodec.bytesToHex plan.membershipAccountId.toList)
                  ctx.registrationProgram with
              | absent =>
                  exact .erased ⟨idCommitment, ctx, plan, hid, hctx, hplan,
                    (fetchShardTriState_eq_absent_iff _ _ _ _).mp hfetched⟩
              | error => exact .failed
              | present data =>
                  simp only
                  cases hdecoded : decodeMembership lez.layouts data with
                  | error error => exact .failed
                  | ok membership =>
                      simp only
                      cases hclock : chainNowMs lez.serde lez.layouts reads.clock with
                      | none => exact .failed
                      | some nowMs =>
                          simp only
                          cases hleaf : membershipLeafIndex lez.serde lez.layouts lez.field
                              reads.tree ctx membership with
                          | error panic => exact .panicked panic
                          | ok found =>
                              cases found with
                              | none => exact .failed
                              | some leafIndex =>
                                  exact .present membership nowMs leafIndex
                                    ⟨idCommitment, ctx, plan, data, hid, hctx, hplan, hfetched,
                                      hdecoded, hclock, hleaf⟩

/-! ## The provider's reading of it -/

/-- A reply that is no JSON, says nothing of `registered`, or misses a field of a
registered member. -/
def Faulty (serde : Serde) (text : String) : Prop :=
  ∀ value, serde.fromStr text = .ok value →
    (value.get "registered").bind Value.asBool = none ∨
      (value.get "registered").bind Value.asBool = some true ∧
        ((value.get "state").bind stateFromValue = none ∨
          (value.get "leaf_index").bind Value.asU64 = none ∨
          (value.get "rate_limit").bind Value.asU64 = none)

/-- How the sibling's reply arrives: as it was given, not at all, or as a faulty
text. -/
inductive Delivery (serde : Serde) where
  | intact
  | lost
  | garbled (text : String) (hfaulty : Faulty serde text)

/-- One `get_membership` of the consumer's provider: the network check before
it, the wallet the sibling reads through, and what becomes of the reply and of
an error. -/
structure Observation (serde : Serde) where
  network : Except ApiError Unit := .ok ()
  bound : Option String := none
  reads : MembershipReads
  delivery : Delivery serde := .intact
  explain : ApiError → ApiError := id

/-- The reply as the provider gets it; a panic of the handler is none. -/
def Delivery.deliver {serde : Serde} (delivery : Delivery serde)
    (replied : Except Panic String) : Except ApiError String :=
  match delivery, replied with
  | .lost, _ => .error (providerFailure "get_membership")
  | .garbled text _, _ => .ok text
  | .intact, .error _ => .error (providerFailure "get_membership")
  | .intact, .ok text => .ok text

/-- `LezRlnProvider::get_membership`. -/
def providerMembership (lez : Module Fr) (observation : Observation lez.serde)
    (configAccountId idCommitmentHex : String) : Except ApiError ProviderMembership := do
  observation.network
  let raw ← ((observation.delivery.deliver
    (getMembership lez observation.bound observation.reads configAccountId idCommitmentHex)).bind
      (readReply "get_membership")).mapError observation.explain
  parseMembershipReply lez.serde raw

/-- The states the registry reports of a membership that exists. -/
def OnChain (state : MembershipState) : Prop :=
  state = .active ∨ state = .gracePeriod ∨ state = .expired

theorem parse_faulty {serde : Serde} {text : String} (hfaulty : Faulty serde text)
    (report : ProviderMembership) : parseMembershipReply serde text ≠ .ok report := by
  intro hparsed
  simp only [parseMembershipReply] at hparsed
  cases hread : serde.fromStr text with
  | error error => simp [hread] at hparsed
  | ok value =>
      simp only [hread] at hparsed
      rcases hfaulty value hread with hflag | ⟨hflag, hstate | hleaf | hrate⟩
      · simp [hflag] at hparsed
      · simp [hflag, hstate] at hparsed
      · cases hstate : (value.get "state").bind stateFromValue with
        | none => simp [hflag, hstate] at hparsed
        | some state =>
            simp [hflag, hstate, requiredField, hleaf, bind, Except.bind] at hparsed
      · cases hstate : (value.get "state").bind stateFromValue with
        | none => simp [hflag, hstate] at hparsed
        | some state =>
            cases hleaf : (value.get "leaf_index").bind Value.asU64 with
            | none => simp [hflag, hstate, requiredField, hleaf, bind, Except.bind] at hparsed
            | some leafIndex =>
                simp [hflag, hstate, requiredField, hleaf, hrate, bind, Except.bind] at hparsed

theorem parse_notRegistered {serde : Serde} (hserde : Lawful serde) :
    parseMembershipReply serde (serde.toString notRegistered) = .ok ⟨false, .unknown, 0, 0⟩ := by
  rw [parseMembershipReply, hserde.roundTrips]
  rfl

theorem stateFromValue_membershipStatus {layouts : Layouts} {graceStartMs nowMs : UInt64}
    {graceDurationSec : UInt32} :
    ∃ state, stateFromValue (.str (membershipStatus layouts graceStartMs graceDurationSec nowMs)) =
      some state ∧ OnChain state := by
  simp only [membershipStatus]
  split
  · exact ⟨.expired, by decide, .inr (.inr rfl)⟩
  · split
    · exact ⟨.gracePeriod, by decide, .inr (.inl rfl)⟩
    · exact ⟨.active, by decide, .inl rfl⟩

theorem parse_registered {serde : Serde} (hserde : Lawful serde) {layouts : Layouts}
    {membership : MembershipAccount} {nowMs leafIndex : UInt64} {report : ProviderMembership}
    (hparsed : parseMembershipReply serde
      (serde.toString (registered layouts membership nowMs leafIndex)) = .ok report) :
    report.registered = true ∧ OnChain report.state := by
  obtain ⟨state, hstate, honChain⟩ := @stateFromValue_membershipStatus layouts
    membership.gracePeriodStartTimestampMs nowMs membership.gracePeriodDurationSec
  have hflag : ((registered layouts membership nowMs leafIndex).get "registered").bind
      Value.asBool = some true := rfl
  have hread : ((registered layouts membership nowMs leafIndex).get "state").bind
      stateFromValue = some state := hstate
  rw [parseMembershipReply, hserde.roundTrips] at hparsed
  simp only [hflag, hread] at hparsed
  obtain ⟨leaf, -, hparsed⟩ := bind_eq_ok_iff.mp hparsed
  obtain ⟨rate, -, hparsed⟩ := bind_eq_ok_iff.mp hparsed
  obtain rfl := Except.ok.inj hparsed
  exact ⟨rfl, honChain⟩

/-- The provider reports a membership as gone only when the registry read it as
erased, and reports one in a state of the chain otherwise. -/
theorem providerMembership_ok {lez : Module Fr} (hserde : Lawful lez.serde)
    {observation : Observation lez.serde} {configAccountId idCommitmentHex : String}
    {report : ProviderMembership}
    (hreport : providerMembership lez observation configAccountId idCommitmentHex = .ok report) :
    observation.network = .ok () ∧ observation.delivery = .intact ∧
      ((report.registered = false ∧
          ReadAsErased lez observation.bound observation.reads configAccountId idCommitmentHex) ∨
        (report.registered = true ∧ OnChain report.state ∧
          ∃ membership nowMs leafIndex, ReadAsPresent lez observation.bound observation.reads
            configAccountId idCommitmentHex membership nowMs leafIndex)) := by
  obtain ⟨⟨⟩, hnetwork, hreport⟩ := bind_eq_ok_iff.mp hreport
  obtain ⟨raw, hraw, hparsed⟩ := bind_eq_ok_iff.mp hreport
  have hdelivered : (observation.delivery.deliver (getMembership lez observation.bound
      observation.reads configAccountId idCommitmentHex)).bind (readReply "get_membership") =
        .ok raw := by
    cases hreply : (observation.delivery.deliver (getMembership lez observation.bound
        observation.reads configAccountId idCommitmentHex)).bind (readReply "get_membership") with
    | error error => simp [hreply, Except.mapError] at hraw
    | ok text =>
        rw [hreply] at hraw
        exact congrArg Except.ok (Except.ok.inj hraw)
  obtain ⟨text, htext, hreply⟩ := bind_eq_ok_iff.mp hdelivered
  obtain rfl : text = raw := by
    simp only [readReply] at hreply
    split at hreply
    · cases hreply
    · exact Except.ok.inj hreply
  cases hdelivery : observation.delivery with
  | lost => simp [hdelivery, Delivery.deliver] at htext
  | garbled garbledText hfaulty =>
      simp only [hdelivery, Delivery.deliver] at htext
      obtain rfl := Except.ok.inj htext
      exact absurd hparsed (parse_faulty hfaulty report)
  | intact =>
      refine ⟨hnetwork, rfl, ?_⟩
      rw [hdelivery] at htext
      have hanswers := @getMembership_answers Fr lez observation.bound observation.reads
        configAccountId idCommitmentHex
      cases hanswer : getMembership lez observation.bound observation.reads configAccountId
          idCommitmentHex with
      | error panic => simp [hanswer, Delivery.deliver] at htext
      | ok answer =>
          rw [hanswer] at htext hanswers
          obtain rfl : answer = text := Except.ok.inj htext
          cases hanswers with
          | failed => simp [readReply] at hreply
          | erased herased =>
              rw [parse_notRegistered hserde] at hparsed
              obtain rfl := Except.ok.inj hparsed
              exact .inl ⟨rfl, herased⟩
          | present membership nowMs leafIndex hpresent =>
              obtain ⟨hflag, honChain⟩ := parse_registered hserde hparsed
              exact .inr ⟨hflag, honChain, membership, nowMs, leafIndex, hpresent⟩

end LogosRln.Registry.Chain
