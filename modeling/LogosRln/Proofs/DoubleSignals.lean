import LogosRln.Core.Run
import LogosRln.Proofs.Handlers
import LogosRln.Proofs.Sample
import LogosRln.ReferenceJson

/-!
# Double signals across registries

One nullifier log serves all registries.  It is keyed by the bare epoch index,
and each validation prunes it by the floor of its own registry, though the
registries count their epochs in units of their own.  What a registry accepted
is found again while no other registry's floor has passed its epoch and no other
registry put the same epoch and nullifier on record.
-/

namespace LogosRln.Proofs

open RegistryId Json RateLimit Run SealedStore.Format

variable {Fr Proof : Type}

/-! ## Validations in a row -/

/-- A call, the clock it reads and the windows it meets. -/
structure Validation where
  args : ValidateArgs
  clocks : Clocks
  windows : StringMap Window

/-- An accepted proof: where, under which shares, and the floor it pruned by. -/
structure Acceptance where
  canonical : String
  epoch : UInt64
  nullifier : Bytes32
  shares : Shares
  floor : UInt64
  deriving DecidableEq

/-- The log, what has been accepted so far, oldest first, and the clock. -/
structure Watch where
  log : NullifierLog := fun _ _ => none
  accepted : List Acceptance := []
  clock : UInt64 := 0

variable (zk : Zerokit Fr Proof) (serde : Serde) (config : Option ModuleConfig)

/-- The proof of a call that passes every validity check. -/
def passing (validation : Validation) : Option Presented :=
  match present zk serde config validation.args validation.clocks.now with
  | .error _ => none
  | .ok presented =>
      if screen zk presented validation.windows validation.clocks.windowNow = .passed then
        some presented
      else none

def Presented.floor (presented : Presented) : UInt64 :=
  saturatingSub presented.nowEpoch presented.gap

def Presented.acceptance (presented : Presented) : Acceptance where
  canonical := presented.registry.canonical
  epoch := presented.expectedEpoch
  nullifier := presented.rlp.nullifier
  shares := (presented.rlp.shareX, presented.rlp.shareY)
  floor := presented.floor

def validateStep (watch : Watch) (validation : Validation) :
    Watch × Except ApiError VerdictReply :=
  let replied := validateProof zk serde validation.args validation.clocks
    ⟨config, validation.windows, watch.log⟩
  ({ log := replied.2
     accepted := watch.accepted ++
      ((passing zk serde config validation).map Presented.acceptance).toList
     clock := validation.clocks.now }, replied.1)

/-- The acceptance is of the same epoch and nullifier. -/
def Acceptance.samePair (acceptance : Acceptance) (epoch : UInt64) (nullifier : Bytes32) : Bool :=
  acceptance.epoch == epoch && acceptance.nullifier == nullifier

/-- The first acceptance of the pair on the registry. -/
def firstOn (canonical : String) (epoch : UInt64) (nullifier : Bytes32)
    (accepted : List Acceptance) : Option Acceptance :=
  accepted.find? fun acceptance =>
    acceptance.canonical == canonical && acceptance.samePair epoch nullifier

/-! ## The log is what the acceptances left -/

variable {zk serde config}

/-- What one acceptance does to the log. -/
def recordAcceptance (log : NullifierLog) (acceptance : Acceptance) : NullifierLog :=
  (recordVerified acceptance.epoch acceptance.nullifier acceptance.shares.1 acceptance.shares.2
    acceptance.floor log).2

theorem recordAcceptance_apply (log : NullifierLog) (acceptance : Acceptance) (epoch : UInt64)
    (nullifier : Bytes32) :
    recordAcceptance log acceptance epoch nullifier =
      (retain acceptance.floor log epoch nullifier).or
        (if acceptance.samePair epoch nullifier then some acceptance.shares else none) := by
  cases hlogged : retain acceptance.floor log acceptance.epoch acceptance.nullifier with
  | none =>
      simp only [recordAcceptance, recordVerified, hlogged, recordShares, Acceptance.samePair]
      by_cases hpair : epoch = acceptance.epoch ∧ nullifier = acceptance.nullifier
      · obtain ⟨rfl, rfl⟩ := hpair
        simp [hlogged]
      · have hother : ¬ (acceptance.epoch = epoch ∧ acceptance.nullifier = nullifier) :=
          fun hsame => hpair ⟨hsame.1.symm, hsame.2.symm⟩
        simp [hpair, hother]
  | some prior =>
      have hlog : recordAcceptance log acceptance = retain acceptance.floor log := by
        simp only [recordAcceptance, recordVerified, hlogged]
        split <;> rfl
      rw [hlog]
      by_cases hpair : acceptance.samePair epoch nullifier = true
      · obtain ⟨rfl, rfl⟩ : acceptance.epoch = epoch ∧ acceptance.nullifier = nullifier := by
          simpa [Acceptance.samePair] using hpair
        rw [hlogged]
        rfl
      · simp [hpair]

theorem judge_log (presented : Presented) (log : NullifierLog) :
    (judge zk presented log).2 = recordAcceptance log presented.acceptance := by
  simp only [judge, recordAcceptance, Presented.acceptance, Presented.floor]
  cases recordVerified presented.expectedEpoch presented.rlp.nullifier presented.rlp.shareX
      presented.rlp.shareY (saturatingSub presented.nowEpoch presented.gap) log with
  | mk outcome log' =>
      cases outcome with
      | fresh => rfl
      | duplicate => rfl
      | collision prior =>
          simp only
          split <;> rfl

/-- A passing call is judged, and leaves the log its acceptance makes. -/
theorem validateStep_of_passing {watch : Watch} {validation : Validation} {presented : Presented}
    (hpassing : passing zk serde config validation = some presented) :
    (validateStep zk serde config watch validation).1.log =
        recordAcceptance watch.log presented.acceptance ∧
      (validateStep zk serde config watch validation).2 = (judge zk presented watch.log).1 := by
  cases hpresent : present zk serde config validation.args validation.clocks.now with
  | error error => simp [passing, hpresent] at hpassing
  | ok shown =>
      simp only [passing, hpresent] at hpassing
      split at hpassing
      · next hscreen =>
          obtain rfl := Option.some.inj hpassing
          simp only [validateStep, validateProof, hpresent, hscreen]
          exact ⟨judge_log shown watch.log, trivial⟩
      · cases hpassing

/-- A call that does not pass leaves the log alone. -/
theorem validateStep_of_not_passing {watch : Watch} {validation : Validation}
    (hpassing : passing zk serde config validation = none) :
    (validateStep zk serde config watch validation).1.log = watch.log := by
  cases hpresent : present zk serde config validation.args validation.clocks.now with
  | error error => simp only [validateStep, validateProof, hpresent]
  | ok shown =>
      simp only [passing, hpresent] at hpassing
      cases hscreen : screen zk shown validation.windows validation.clocks.windowNow with
      | passed => simp [hscreen] at hpassing
      | refused error => simp only [validateStep, validateProof, hpresent, hscreen]
      | invalid => simp only [validateStep, validateProof, hpresent, hscreen]

/-! ## What a presented proof carries -/

/-- The floor of a registry at a moment. -/
def floorAt (config : Option ModuleConfig) (canonical : String) (now : UInt64) : UInt64 :=
  match epochParamsFor config canonical with
  | .error _ => 0
  | .ok (size, gap) => saturatingSub (currentEpoch now size) gap

/-- The shares are coded field elements. -/
def CodedShares (zk : Zerokit Fr Proof) (shares : Shares) : Prop :=
  ∃ x y, shares = (zk.serialize x, zk.serialize y)

theorem fromJson_shares {value : Value} {rlp : RateLimitProof}
    (hread : RateLimitProof.fromJson zk value = .ok rlp) :
    CodedShares zk (rlp.shareX, rlp.shareY) := by
  simp only [RateLimitProof.fromJson] at hread
  obtain ⟨bytes, -, hread⟩ := bind_eq_ok_iff.mp hread
  obtain ⟨canonical, -, hread⟩ := bind_eq_ok_iff.mp hread
  obtain ⟨epoch, -, hread⟩ := bind_eq_ok_iff.mp hread
  obtain ⟨rln, -, hread⟩ := bind_eq_ok_iff.mp hread
  obtain ⟨parts, hparts, hread⟩ := bind_eq_ok_iff.mp hread
  obtain rfl := Except.ok.inj hread
  cases hy : rln.values.y with
  | none => simp [RateLimitProof.fromParts, hy] at hparts
  | some y =>
      cases hnullifier : rln.values.nullifier with
      | none => simp [RateLimitProof.fromParts, hy, hnullifier] at hparts
      | some nullifier =>
          simp only [RateLimitProof.fromParts, hy, hnullifier] at hparts
          obtain ⟨bytes, -, hparts⟩ := bind_eq_ok_iff.mp hparts
          obtain rfl := Except.ok.inj hparts
          exact ⟨rln.values.x, y, rfl⟩

/-- What a passing proof is known to satisfy. -/
structure Passes (zk : Zerokit Fr Proof) (config : Option ModuleConfig) (now : UInt64)
    (presented : Presented) : Prop where
  floor : presented.floor = floorAt config presented.registry.canonical now
  fresh : presented.floor ≤ presented.expectedEpoch
  shares : CodedShares zk (presented.rlp.shareX, presented.rlp.shareY)

theorem passes_of_passing {validation : Validation} {presented : Presented}
    (hpassing : passing zk serde config validation = some presented) :
    Passes zk config validation.clocks.now presented := by
  cases hpresent : present zk serde config validation.args validation.clocks.now with
  | error error => simp [passing, hpresent] at hpassing
  | ok shown =>
      simp only [passing, hpresent] at hpassing
      split at hpassing
      · next hscreen =>
          obtain rfl := Option.some.inj hpassing
          have hbound : epochBindingHolds zk shown.rlp.epoch shown.rlp.externalNullifier
              shown.rlnIdentifier shown.expectedEpoch shown.nowEpoch shown.gap = true := by
            by_contra hunbound
            have hfalse := Bool.eq_false_iff.mpr hunbound
            simp only [screen, hfalse, Bool.not_false, if_true, reduceCtorEq] at hscreen
          simp only [epochBindingHolds, epochInWindow, Bool.and_eq_true, decide_eq_true_eq]
            at hbound
          simp only [present] at hpresent
          obtain ⟨⟨registry, rlnIdentifier, normalized⟩, -, hpresent⟩ := bind_eq_ok_iff.mp hpresent
          obtain ⟨⟨⟩, -, hpresent⟩ := bind_eq_ok_iff.mp hpresent
          obtain ⟨⟨size, gap⟩, hparams, hpresent⟩ := bind_eq_ok_iff.mp hpresent
          obtain ⟨expectedEpoch, -, hpresent⟩ := bind_eq_ok_iff.mp hpresent
          obtain ⟨signal, -, hpresent⟩ := bind_eq_ok_iff.mp hpresent
          split at hpresent
          · cases hpresent
          · split at hpresent
            · cases hpresent
            · next rlp hrlp =>
                obtain rfl := Except.ok.inj hpresent
                exact ⟨by simp only [Presented.floor, floorAt, hparams], hbound.1.1.1,
                  fromJson_shares hrlp⟩
      · cases hpassing

/-- A floor follows the clock. -/
theorem floorAt_mono {canonical : String} {earlier later : UInt64} (hclock : earlier ≤ later) :
    floorAt config canonical earlier ≤ floorAt config canonical later := by
  cases hparams : epochParamsFor config canonical with
  | error error => simp [floorAt, hparams]
  | ok params =>
      obtain ⟨size, gap⟩ := params
      have hepoch : currentEpoch earlier size ≤ currentEpoch later size := by
        rw [UInt64.le_iff_toNat_le]
        simp only [currentEpoch, UInt64.toNat_div]
        exact Nat.div_le_div_right (UInt64.le_iff_toNat_le.mp hclock)
      simp only [floorAt, hparams, saturatingSub]
      split <;> grind

/-! ## What the log remembers -/

/-- The first acceptance of a pair on a registry is on record while no later
floor passed its epoch; and whatever is on record was accepted and not passed
since. -/
structure Remembers (zk : Zerokit Fr Proof) (config : Option ModuleConfig) (watch : Watch) :
    Prop where
  found : ∀ canonical epoch nullifier before first after,
    watch.accepted = before ++ first :: after →
    firstOn canonical epoch nullifier before = none →
    first.canonical = canonical → first.samePair epoch nullifier = true →
    (∀ later ∈ after, later.floor ≤ epoch) →
    watch.log epoch nullifier = some first.shares
  backed : ∀ epoch nullifier shares, watch.log epoch nullifier = some shares →
    ∃ before other after, watch.accepted = before ++ other :: after ∧
      other.samePair epoch nullifier = true ∧ ∀ later ∈ after, later.floor ≤ epoch
  floors : ∀ acceptance ∈ watch.accepted,
    acceptance.floor ≤ floorAt config acceptance.canonical watch.clock
  coded : ∀ acceptance ∈ watch.accepted, CodedShares zk acceptance.shares

/-- No other registry's floor has passed the epoch since this registry accepted
the pair. -/
def KeptByOthers (accepted : List Acceptance) (presented : Presented) : Prop :=
  ∀ before first after, accepted = before ++ first :: after →
    first.canonical = presented.registry.canonical →
    first.samePair presented.expectedEpoch presented.rlp.nullifier = true →
    ∀ other ∈ after, other.canonical ≠ presented.registry.canonical →
      other.floor ≤ presented.expectedEpoch

/-- A pair that is new to this registry is not on record from another. -/
def NotForeign (accepted : List Acceptance) (presented : Presented) : Prop :=
  firstOn presented.registry.canonical presented.expectedEpoch presented.rlp.nullifier accepted =
      none →
    ∀ before other after, accepted = before ++ other :: after →
      other.samePair presented.expectedEpoch presented.rlp.nullifier = true →
      ∃ later ∈ after, presented.expectedEpoch < later.floor

/-- The clock does not go back, and a passing proof's pair was left alone by the
other registries. -/
def Undisturbed (zk : Zerokit Fr Proof) (serde : Serde) (config : Option ModuleConfig)
    (watch : Watch) (validation : Validation) : Prop :=
  watch.clock ≤ validation.clocks.now ∧
    ∀ presented, passing zk serde config validation = some presented →
      KeptByOthers watch.accepted presented ∧ NotForeign watch.accepted presented

theorem log_eq_none_of_notForeign {watch : Watch} (hremembers : Remembers zk config watch)
    {presented : Presented} (hforeign : NotForeign watch.accepted presented)
    (hfirst : firstOn presented.registry.canonical presented.expectedEpoch
      presented.rlp.nullifier watch.accepted = none) :
    watch.log presented.expectedEpoch presented.rlp.nullifier = none := by
  cases hlogged : watch.log presented.expectedEpoch presented.rlp.nullifier with
  | none => rfl
  | some shares =>
      obtain ⟨before, other, after, hsplit, hpair, hkept⟩ := hremembers.backed _ _ _ hlogged
      obtain ⟨later, hlater, hpassed⟩ := hforeign hfirst before other after hsplit hpair
      exact absurd (hkept later hlater) (UInt64.not_le.mpr hpassed)

/-- A first acceptance that the other registries left alone is on record. -/
theorem log_eq_first {watch : Watch} (hremembers : Remembers zk config watch)
    {now : UInt64} {presented : Presented} (hclock : watch.clock ≤ now)
    (hpasses : Passes zk config now presented) (hkept : KeptByOthers watch.accepted presented)
    {first : Acceptance}
    (hfirst : firstOn presented.registry.canonical presented.expectedEpoch
      presented.rlp.nullifier watch.accepted = some first) :
    watch.log presented.expectedEpoch presented.rlp.nullifier = some first.shares ∧
      first ∈ watch.accepted := by
  obtain ⟨hmatch, before, after, hsplit, hbefore⟩ := List.find?_eq_some_iff_append.mp hfirst
  rw [Bool.and_eq_true, beq_iff_eq] at hmatch
  have hnone : firstOn presented.registry.canonical presented.expectedEpoch
      presented.rlp.nullifier before = none := by
    apply List.find?_eq_none.mpr
    intro other hother
    rw [Bool.not_eq_true, ← Bool.not_eq_true']
    exact hbefore other hother
  refine ⟨hremembers.found _ _ _ before first after hsplit hnone hmatch.1 hmatch.2
    fun later hlater => ?_, by rw [hsplit]; simp⟩
  by_cases hown : later.canonical = presented.registry.canonical
  · have hmember : later ∈ watch.accepted := by
      rw [hsplit]
      exact List.mem_append_right _ (List.mem_cons_of_mem _ hlater)
    calc later.floor
        ≤ floorAt config later.canonical watch.clock := hremembers.floors later hmember
      _ ≤ floorAt config later.canonical now := floorAt_mono hclock
      _ = presented.floor := by rw [hown, hpasses.floor]
      _ ≤ presented.expectedEpoch := hpasses.fresh
  · exact hkept before first after hsplit hmatch.1 hmatch.2 later hlater hown

/-- One acceptance under the condition. -/
theorem remembers_accept {watch : Watch} (hremembers : Remembers zk config watch) {now : UInt64}
    {presented : Presented} (hclock : watch.clock ≤ now)
    (hpasses : Passes zk config now presented) (hforeign : NotForeign watch.accepted presented) :
    Remembers zk config
      { log := recordAcceptance watch.log presented.acceptance
        accepted := watch.accepted ++ [presented.acceptance]
        clock := now } where
  found := by
    intro canonical epoch nullifier before first after hsplit hbefore hcanonical hpair hafter
    change watch.accepted ++ [presented.acceptance] = _ at hsplit
    change recordAcceptance watch.log presented.acceptance epoch nullifier = _
    rcases List.eq_nil_or_concat' after with rfl | ⟨front, last, rfl⟩
    · -- the acceptance itself is the first of its pair
      obtain ⟨rfl, hlast⟩ := List.append_inj' hsplit rfl
      obtain rfl := List.singleton_inj.mp hlast
      obtain ⟨rfl, rfl⟩ : presented.expectedEpoch = epoch ∧
          presented.rlp.nullifier = nullifier := by
        simpa [Acceptance.samePair, Presented.acceptance] using hpair
      subst hcanonical
      have hnone := log_eq_none_of_notForeign hremembers hforeign hbefore
      rw [recordAcceptance_apply, retain, hnone, hpair]
      simp
    · rw [← List.cons_append, ← List.append_assoc] at hsplit
      obtain ⟨hfront, hlast⟩ := List.append_inj' hsplit rfl
      obtain rfl := List.singleton_inj.mp hlast
      have hlogged := hremembers.found canonical epoch nullifier before first front hfront hbefore
        hcanonical hpair fun later hlater => hafter later (List.mem_append_left _ hlater)
      have hfloor : presented.acceptance.floor ≤ epoch :=
        hafter _ (List.mem_append_right _ (List.mem_singleton_self _))
      rw [recordAcceptance_apply, retain, if_pos hfloor, hlogged]
      rfl
  backed := by
    intro epoch nullifier shares hlogged
    change recordAcceptance watch.log presented.acceptance epoch nullifier = _ at hlogged
    rw [recordAcceptance_apply] at hlogged
    rcases Option.or_eq_some_iff.mp hlogged with hkept | ⟨-, hadded⟩
    · simp only [retain] at hkept
      split at hkept
      · next hfloor =>
          obtain ⟨before, other, after, hsplit, hpair, hafter⟩ :=
            hremembers.backed epoch nullifier shares hkept
          refine ⟨before, other, after ++ [presented.acceptance], ?_, hpair, ?_⟩
          · change watch.accepted ++ [presented.acceptance] = _
            simp [hsplit]
          intro later hlater
          rcases List.mem_append.mp hlater with hearlier | hlast
          · exact hafter later hearlier
          · rw [List.mem_singleton.mp hlast]
            exact hfloor
      · cases hkept
    · split at hadded
      · next hpair => exact ⟨watch.accepted, _, [], rfl, hpair, fun _ hlater => by cases hlater⟩
      · cases hadded
  floors := by
    intro acceptance hmember
    rcases List.mem_append.mp hmember with hearlier | hlast
    · exact UInt64.le_trans (hremembers.floors acceptance hearlier) (floorAt_mono hclock)
    · rw [List.mem_singleton.mp hlast]
      change presented.floor ≤ _
      rw [hpasses.floor]
      exact UInt64.le_refl _
  coded := by
    intro acceptance hmember
    rcases List.mem_append.mp hmember with hearlier | hlast
    · exact hremembers.coded acceptance hearlier
    · rw [List.mem_singleton.mp hlast]
      exact hpasses.shares

theorem remembers_step {watch : Watch} {validation : Validation}
    (hremembers : Remembers zk config watch)
    (hundisturbed : Undisturbed zk serde config watch validation) :
    Remembers zk config (validateStep zk serde config watch validation).1 := by
  obtain ⟨hclock, hpair⟩ := hundisturbed
  cases hpassing : passing zk serde config validation with
  | none =>
      have hlog := @validateStep_of_not_passing _ _ zk serde config watch validation hpassing
      have haccepted : (validateStep zk serde config watch validation).1.accepted =
          watch.accepted := by simp [validateStep, hpassing]
      refine ⟨?_, ?_, ?_, ?_⟩
      · rw [hlog, haccepted]
        exact hremembers.found
      · rw [hlog, haccepted]
        exact hremembers.backed
      · rw [haccepted]
        exact fun acceptance hmember =>
          UInt64.le_trans (hremembers.floors acceptance hmember) (floorAt_mono hclock)
      · rw [haccepted]
        exact hremembers.coded
  | some presented =>
      have hstep : (validateStep zk serde config watch validation).1 =
          { log := recordAcceptance watch.log presented.acceptance
            accepted := watch.accepted ++ [presented.acceptance]
            clock := validation.clocks.now } := by
        rw [← (@validateStep_of_passing _ _ zk serde config watch validation presented hpassing).1]
        simp [validateStep, hpassing]
      rw [hstep]
      exact remembers_accept hremembers hclock (passes_of_passing hpassing)
        (hpair presented hpassing).2

/-! ## The verdicts -/

/-- The first proof of a pair on its registry is valid, and each later one is
judged against the first one's shares. -/
def Judged (zk : Zerokit Fr Proof) (serde : Serde) (config : Option ModuleConfig)
    (event : Event Watch Validation (Except ApiError VerdictReply)) : Prop :=
  ∀ presented, passing zk serde config event.input = some presented →
    match firstOn presented.registry.canonical presented.expectedEpoch presented.rlp.nullifier
        event.before.accepted with
    | none => ∃ reply, event.output = .ok reply ∧ reply.verdict = .valid
    | some first =>
        if first.shares.1 = presented.rlp.shareX then
          ∃ reply, event.output = .ok reply ∧ reply.verdict = .duplicate
        else
          ∃ reply secret,
            recoverIdentitySecretHex zk first.shares
              (presented.rlp.shareX, presented.rlp.shareY) = .ok secret ∧
            event.output = .ok reply ∧ reply.verdict = .rateLimitViolation ∧
            reply.recoveredSecret = some secret

/-- The secret is recovered from any two shares with different `share_x`. -/
def Recovers (zk : Zerokit Fr Proof) : Prop :=
  ∀ first second : Fr × Fr, first.1 ≠ second.1 →
    ∃ secret, zk.computeIdSecret first second = .ok secret

theorem recovers_shares (hroundTrips : zk.toFieldCoding.RoundTrips) (hrecovers : Recovers zk)
    {prior current : Shares} (hprior : CodedShares zk prior) (hcurrent : CodedShares zk current)
    (hother : prior.1 ≠ current.1) :
    ∃ secret, recoverIdentitySecretHex zk prior current = .ok secret := by
  obtain ⟨priorX, priorY, rfl⟩ := hprior
  obtain ⟨currentX, currentY, rfl⟩ := hcurrent
  have hdistinct : priorX ≠ currentX := fun hsame => hother (by rw [hsame])
  obtain ⟨secret, hsecret⟩ := hrecovers (priorX, priorY) (currentX, currentY) hdistinct
  have hpoint : ∀ (value : Fr) label, sharePoint zk (zk.serialize value) label = .ok value := by
    intro value label
    rw [sharePoint, hroundTrips value]
    rfl
  exact ⟨_, by simp only [recoverIdentitySecretHex, hpoint, hsecret, bind, Except.bind,
    Except.mapError]; rfl⟩

theorem judged_step (hroundTrips : zk.toFieldCoding.RoundTrips) (hrecovers : Recovers zk)
    {watch : Watch} {validation : Validation} (hremembers : Remembers zk config watch)
    (hundisturbed : Undisturbed zk serde config watch validation) :
    Judged zk serde config
      ⟨watch, validation, (validateStep zk serde config watch validation).2⟩ := by
  intro presented hpassing
  obtain ⟨hclock, hpair⟩ := hundisturbed
  obtain ⟨hkept, hforeign⟩ := hpair presented hpassing
  have hpasses := passes_of_passing hpassing
  have hfloor : saturatingSub presented.nowEpoch presented.gap ≤ presented.expectedEpoch :=
    hpasses.fresh
  simp only [(@validateStep_of_passing _ _ zk serde config watch validation presented hpassing).2]
  cases hfirst : firstOn presented.registry.canonical presented.expectedEpoch
      presented.rlp.nullifier watch.accepted with
  | none =>
      have hnone := log_eq_none_of_notForeign hremembers hforeign hfirst
      exact ⟨_, by simp only [judge, recordVerified, retain, hnone, ite_self]; rfl, rfl⟩
  | some first =>
      obtain ⟨hlogged, hmember⟩ := log_eq_first hremembers hclock hpasses hkept hfirst
      have hretained : retain (saturatingSub presented.nowEpoch presented.gap) watch.log
          presented.expectedEpoch presented.rlp.nullifier = some first.shares := by
        rw [retain, if_pos hfloor, hlogged]
      by_cases hsame : first.shares.1 = presented.rlp.shareX
      · simp only [hsame, if_true]
        exact ⟨_, by simp only [judge, recordVerified, hretained, hsame, if_true]; rfl, rfl⟩
      · simp only [hsame, if_false]
        obtain ⟨secret, hsecret⟩ := recovers_shares hroundTrips hrecovers
          (hremembers.coded first hmember) hpasses.shares hsame
        exact ⟨_, secret, hsecret, by
          simp only [judge, recordVerified, hretained, hsame, if_false, hsecret]; rfl, rfl, rfl⟩

/-- The verdict of each call of a run. -/
def answers (zk : Zerokit Fr Proof) (serde : Serde) (config : Option ModuleConfig) (watch : Watch)
    (validations : List Validation) : List (Except ApiError Verdict) :=
  (trace (validateStep zk serde config) watch validations).map fun event =>
    event.output.map VerdictReply.verdict

theorem answers_nil (watch : Watch) : answers zk serde config watch [] = [] := rfl

theorem answers_cons (watch : Watch) (validation : Validation) (validations : List Validation) :
    answers zk serde config watch (validation :: validations) =
      (validateStep zk serde config watch validation).2.map VerdictReply.verdict ::
        answers zk serde config (validateStep zk serde config watch validation).1 validations :=
  rfl

namespace SignalSample

def registry (digit : Char) : String := "logos:1:" ++ String.ofList (List.replicate 64 digit)

def identifier : Bytes32 := epochToBytes 7

/-- A small hash to the field, the first byte. -/
def hashToFieldLe (bytes : Bytes) : UInt64 := (bytes.headD 0).toUInt64

/-- A proof of three bytes: its epoch and its share. -/
def readProof : Bytes → Except String (RlnProof UInt64 Bytes)
  | [epoch, x, y] =>
      .ok ⟨[epoch, x, y], {
        root := 1
        externalNullifier := Sample.field.hashPair epoch.toUInt64 7
        x := x.toUInt64
        y := some y.toUInt64
        nullifier := some 1 }⟩
  | _ => .error "not a proof"

/-- A stand-in for the circuit library with proofs of three bytes, and an answer
for every two different shares. -/
def zerokit : Zerokit UInt64 Bytes where
  toFieldCoding := Sample.field
  hashToFieldLe := hashToFieldLe
  buildWitness := Sample.zerokit.buildWitness
  generateProof _ := .error "no proving key"
  verifyWithRoots rln x roots :=
    if rln.values.root ∉ roots then .error .invalidRoot
    else if rln.values.x ≠ x then .error .invalidSignal
    else .ok true
  serializeRln rln := .ok rln.proof
  deserializeRln := readProof
  deserializeProof _ := .error "not a proof"
  computeIdSecret prior current :=
    if prior.1 = current.1 then .error "the shares do not differ"
    else .ok ((Sample.computeIdSecret prior current).toOption.getD 0)

theorem recovers : Recovers zerokit := by
  intro first second hother
  exact ⟨_, by simp only [zerokit, hother, if_false]; rfl⟩

/-- The proof of an epoch with its share. -/
def proof (epoch x y : UInt8) : Value :=
  .object [("proof", .str (bytesToHex [epoch, x, y]))]

/-- Two signals of epoch 5, and one of epoch 200. -/
def texts : Serde :=
  Json.Reference.serde [("first", proof 5 5 50), ("second", proof 5 6 60),
    ("fast", proof 200 5 50)]

/-- Epochs of 40 seconds, but of one second on registry 8. -/
def settings : Option ModuleConfig := some {
  epochSizeSec := 40
  maxEpochGap := 1
  overrides := (∅ : StringMap EpochOverride).insert (registry '8') ⟨some 1, none⟩ }

def windows (digit : Char) : StringMap Window :=
  (∅ : StringMap Window).insert (registry digit) ⟨[epochToBytes 1], 200⟩

def validation (digit : Char) (signalHex proofJson : String) : Validation where
  args := ⟨registry digit, bytesToHex identifier.toList, signalHex, "200", proofJson⟩
  clocks := ⟨200, 200⟩
  windows := windows digit

def verdicts (validations : List Validation) : List (Except ApiError Verdict) :=
  answers zerokit texts settings {} validations

end SignalSample

/-- A verdict that needs no recovery. -/
def plainVerdict : RecordOutcome → Option Verdict
  | .fresh => some .valid
  | .duplicate => some .duplicate
  | .collision _ => none

/-- A step, as far as it follows from the acceptance. -/
theorem validateStep_of_acceptance {watch : Watch} {validation : Validation}
    {acceptance : Acceptance}
    (haccepted : (passing zk serde config validation).map Presented.acceptance = some acceptance) :
    (validateStep zk serde config watch validation).1 =
        { log := recordAcceptance watch.log acceptance
          accepted := watch.accepted ++ [acceptance]
          clock := validation.clocks.now } ∧
      ∀ verdict, plainVerdict (recordVerified acceptance.epoch acceptance.nullifier
          acceptance.shares.1 acceptance.shares.2 acceptance.floor watch.log).1 = some verdict →
        (validateStep zk serde config watch validation).2.map VerdictReply.verdict =
          .ok verdict := by
  obtain ⟨presented, hpassing, rfl⟩ := Option.map_eq_some_iff.mp haccepted
  obtain ⟨hlog, hanswer⟩ := @validateStep_of_passing _ _ zk serde config watch validation presented
    hpassing
  constructor
  · rw [← hlog]
    simp [validateStep, hpassing]
  · intro verdict hplain
    rw [hanswer]
    change plainVerdict (recordVerified presented.expectedEpoch presented.rlp.nullifier
      presented.rlp.shareX presented.rlp.shareY (saturatingSub presented.nowEpoch presented.gap)
      watch.log).1 = some verdict at hplain
    simp only [judge]
    cases hrecorded : recordVerified presented.expectedEpoch presented.rlp.nullifier
        presented.rlp.shareX presented.rlp.shareY (saturatingSub presented.nowEpoch presented.gap)
        watch.log with
    | mk outcome log =>
        rw [hrecorded] at hplain
        cases outcome with
        | fresh => exact congrArg Except.ok (Option.some.inj hplain)
        | duplicate => exact congrArg Except.ok (Option.some.inj hplain)
        | collision prior => cases hplain

open SignalSample in
theorem acceptance_first (digit : Char) (hdigit : digit = '7' ∨ digit = '9') :
    (passing zerokit texts settings (validation digit "05" "first")).map Presented.acceptance =
      some ⟨registry digit, 5, epochToBytes 1, (epochToBytes 5, epochToBytes 50), 4⟩ := by
  rcases hdigit with rfl | rfl <;> decide +kernel

open SignalSample in
theorem acceptance_fast :
    (passing zerokit texts settings (validation '8' "05" "fast")).map Presented.acceptance =
      some ⟨registry '8', 200, epochToBytes 1, (epochToBytes 5, epochToBytes 50), 199⟩ := by
  decide +kernel

theorem plainVerdict_fresh {epoch floor : UInt64} {nullifier x y : Bytes32} {log : NullifierLog}
    (hlogged : retain floor log epoch nullifier = none) :
    plainVerdict (recordVerified epoch nullifier x y floor log).1 = some .valid := by
  simp only [recordVerified, hlogged, plainVerdict]

theorem plainVerdict_duplicate {epoch floor : UInt64} {nullifier x y : Bytes32}
    {log : NullifierLog} (hlogged : retain floor log epoch nullifier = some (x, y)) :
    plainVerdict (recordVerified epoch nullifier x y floor log).1 = some .duplicate := by
  simp only [recordVerified, hlogged, if_true, plainVerdict]

open SignalSample in
theorem acceptance_second :
    (passing zerokit texts settings (validation '7' "06" "second")).map Presented.acceptance =
      some ⟨registry '7', 5, epochToBytes 1, (epochToBytes 6, epochToBytes 60), 4⟩ := by
  decide +kernel

end LogosRln.Proofs
