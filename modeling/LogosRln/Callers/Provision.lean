import LogosRln.Callers.Register

/-!
# Provisioning a membership at `start`

The warm pass of one `start`: after the warm-up it takes a ticket and, for each
registry named, waits for the wallet, prices the registration, waits for the
funding and registers a registry-wide membership.  Every wait asks whether a
later ticket was taken or the module stopped.
-/

namespace LogosRln.Callers

open LogosRln.Lifecycle Provider Json RegistryId Maintenance SealedStore

/-- What `start` hands its warm pass: the registries to provision, empty when
provisioning is off, and the rate. -/
structure StartConfig where
  registries : List String := []
  rateLimit : UInt64 := defaultRateLimit
  deriving DecidableEq

def registryWide : String := ""

/-! ## Price and fee reserve -/

def declaredGasLimit : ℕ := 10000000

def assumedDataBytes : ℕ := 100000

def baseFeeHeadroom : ℕ := 2

def fallbackFeeReserve : ℕ := (declaredGasLimit + assumedDataBytes) * 64

/-- `u128` arithmetic that stops at the largest value. -/
def saturateU128 (value : ℕ) : ℕ := min value (2 ^ 128 - 1)

def feeReserveFrom (quote : Value) : Option ℕ := do
  let exec ← (quote.get "next_base_fee_exec_ceiling").bind Value.asU64
  let stor ← (quote.get "next_base_fee_stor_ceiling").bind Value.asU64
  return saturateU128 (saturateU128 (saturateU128 (declaredGasLimit * exec.toNat) +
    saturateU128 (assumedDataBytes * stor.toNat)) * baseFeeHeadroom)

def feeReserve (quote : Except ApiError Value) : ℕ :=
  match quote with
  | .ok quote => (feeReserveFrom quote).getD fallbackFeeReserve
  | .error _ => fallbackFeeReserve

/-- `str::parse::<u128>`. -/
def parseU128 (text : String) : Option ℕ :=
  let digits := match text.toList with
    | '+' :: rest => rest
    | digits => digits
  if digits.isEmpty ∨ ¬ digits.all Char.isDigit then none
  else
    let value := digits.foldl (fun total digit => 10 * total + (digit.toNat - 48)) 0
    if value < 2 ^ 128 then some value else none

def registrationPrice (rateLimit : UInt64) (bounds : Except ApiError Value) : Except ApiError ℕ :=
  match bounds with
  | .error error => .error error
  | .ok bounds =>
      match ((bounds.get "price_per_unit").bind Value.asStr).bind parseU128 with
      | none => .error ⟨.providerFailure, "registry bounds carry no price_per_unit"⟩
      | some pricePerUnit => .ok (saturateU128 (pricePerUnit * rateLimit.toNat))

/-- Statuses of `check_registry` that no waiting changes. -/
def registryProblems : List String :=
  ["not_deployed", "wrong_generation", "unexpected_layout", "network_conflict", "invalid"]

def registryProblemFrom (canonical : String) (check : Value) : Option String :=
  match ((check.get "status").bind Value.asStr).filter (registryProblems.contains ·) with
  | none => none
  | some status =>
      let detail := ((check.get "detail").bind Value.asStr).getD status
      let place := match (check.get "sequencer").bind Value.asStr,
          (check.get "chain_head").bind Value.asU64 with
        | some sequencer, some head => s!" on {sequencer} (chain at block {head})"
        | some sequencer, none => s!" on {sequencer}"
        | none, _ => ""
      some s!"registry {canonical} is not usable{place}: {status} — {detail}"

/-- A registry known not to be usable; a check that could not be made says
nothing. -/
def registryProblem (canonical : String) (check : Except ApiError Value) : Option String :=
  match check with
  | .ok check => registryProblemFrom canonical check
  | .error _ => none

inductive WalletState where
  | ready
  | failed
  | waiting
  deriving DecidableEq

/-- What a wallet status says; an error is a module not answering yet. -/
def walletState (status : Except ApiError Value) : WalletState :=
  match status with
  | .error _ => .waiting
  | .ok status =>
      match (status.get "state").bind Value.asStr with
      | some "ready" => .ready
      | some "failed" => .failed
      | _ => .waiting

/-! ## The pass -/

/-- The registry a pass is at: its ticket, the registry and those after it. -/
structure Leg where
  ticket : UInt64
  registry : CanonicalRegistryId
  remaining : List String
  deriving DecidableEq

/-- The funding being waited for, and whether its balance has been read yet. -/
structure Funding where
  price : ℕ
  reserve : ℕ
  readOnce : Bool
  deriving DecidableEq

def Funding.required (funding : Funding) : ℕ := saturateU128 (funding.price + funding.reserve)

inductive Pass where
  | warming (config : StartConfig)
  | next (ticket rateLimit : UInt64) (remaining : List String)
  | presence (leg : Leg) (rateLimit : UInt64)
  | walletCheck (leg : Leg) (rateLimit : UInt64)
  | walletRead (leg : Leg) (rateLimit : UInt64)
  | walletSleep (leg : Leg) (rateLimit : UInt64)
  | checkingRegistry (leg : Leg) (rateLimit : UInt64)
  | pricing (leg : Leg) (rateLimit : UInt64)
  | quoting (leg : Leg) (rateLimit : UInt64) (price : ℕ)
  | fundingCheck (leg : Leg) (rateLimit : UInt64) (funding : Funding)
  | requoting (leg : Leg) (rateLimit : UInt64) (funding : Funding)
  | fundingRead (leg : Leg) (rateLimit : UInt64) (funding : Funding)
  | registering (leg : Leg) (rateLimit : UInt64)
  | awaiting (leg : Leg) (rateLimit : UInt64) (i : ℕ)
  | finished
  deriving DecidableEq

/-- The module stopped, or a later ticket was taken. -/
def superseded (mine : UInt64) (view : View) : Bool :=
  view.stopped || view.epoch != mine

/-- The next registry of the pass; what this one came to is only recorded. -/
def Leg.over (leg : Leg) (rateLimit : UInt64) : Pass :=
  .next leg.ticket rateLimit leg.remaining

/-- A membership the registry already has, in whatever scope; a quarantined one
counts as present too. -/
def alreadyPresent (canonicalRegistry : String) (records : List MembershipRecord) : Bool :=
  (recordsFor canonicalRegistry records).any fun record =>
    record.quarantined || record.cache.state.isLive

def provisionOptions (rateLimit : UInt64) : String :=
  s!"[\x7b\"key\":\"rate_limit\",\"value\":\"{rateLimit}\"\x7d]"

def Pass.step (moment : Moment) (view : View) : Pass → ThreadStep Pass
  | .warming config =>
      if config.registries.isEmpty then goesTo .finished
      else (.takesTicket, fun
        | .ticket mine => .next mine config.rateLimit config.registries
        | _ => .finished)
  | .next _ _ [] => goesTo .finished
  | .next ticket rateLimit (raw :: remaining) =>
      if superseded ticket view then goesTo .finished
      else
        match parse raw with
        | .error _ => goesTo (.next ticket rateLimit remaining)
        | .ok registry => goesTo (.presence ⟨ticket, registry, remaining⟩ rateLimit)
  | .presence leg rateLimit =>
      if view.records.any (alreadyPresent leg.registry.canonical) then
        goesTo (leg.over rateLimit)
      else
        match providerOf leg.registry with
        | .error _ => goesTo (leg.over rateLimit)
        | .ok () => goesTo (.walletCheck leg rateLimit)
  | .walletCheck leg rateLimit =>
      if superseded leg.ticket view then goesTo (leg.over rateLimit)
      else goesTo (.walletRead leg rateLimit)
  | .walletRead leg rateLimit =>
      match walletState moment.walletStatus with
      | .ready => goesTo (.checkingRegistry leg rateLimit)
      | .failed => goesTo (leg.over rateLimit)
      | .waiting => goesTo (.walletSleep leg rateLimit)
  | .walletSleep leg rateLimit =>
      if moment.due then goesTo (.walletCheck leg rateLimit)
      else if superseded leg.ticket view then goesTo (leg.over rateLimit)
      else goesTo (.walletSleep leg rateLimit)
  | .checkingRegistry leg rateLimit =>
      match registryProblem leg.registry.canonical moment.registryCheck with
      | some _ => goesTo (leg.over rateLimit)
      | none => goesTo (.pricing leg rateLimit)
  | .pricing leg rateLimit =>
      match registrationPrice rateLimit moment.bounds with
      | .error _ => goesTo (leg.over rateLimit)
      | .ok price => goesTo (.quoting leg rateLimit price)
  | .quoting leg rateLimit price =>
      goesTo (.fundingCheck leg rateLimit ⟨price, feeReserve moment.feeState, false⟩)
  | .fundingCheck leg rateLimit funding =>
      if superseded leg.ticket view then goesTo (leg.over rateLimit)
      else if !moment.due then goesTo (.fundingCheck leg rateLimit funding)
      else if funding.readOnce then goesTo (.requoting leg rateLimit funding)
      else goesTo (.fundingRead leg rateLimit funding)
  | .requoting leg rateLimit funding =>
      goesTo (.fundingRead leg rateLimit { funding with reserve := feeReserve moment.feeState })
  | .fundingRead leg rateLimit funding =>
      match moment.balance with
      | .ok balance =>
          if funding.required ≤ balance then goesTo (.registering leg rateLimit)
          else goesTo (.fundingCheck leg rateLimit { funding with readOnce := true })
      | .error _ => goesTo (.fundingCheck leg rateLimit { funding with readOnce := true })
  | .registering leg rateLimit =>
      (.registers ⟨leg.registry, registryWide, provisionOptions rateLimit⟩, fun
        | .call i => .awaiting leg rateLimit i
        | _ => leg.over rateLimit)
  | .awaiting leg rateLimit i =>
      match view.reply i with
      | none => goesTo (.awaiting leg rateLimit i)
      | some _ => goesTo (leg.over rateLimit)
  | .finished => goesTo .finished

end LogosRln.Callers
