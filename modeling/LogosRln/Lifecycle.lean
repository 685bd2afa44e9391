import LogosRln.RateLimit
import LogosRln.SealedStore.Format

/-!
# Membership lifecycle

The module-local lifecycle states, the cache row that carries one, and the
merged view of a local record and a registry report.
-/

namespace LogosRln.Lifecycle

open SealedStore.Format RateLimit

inductive MembershipState where
  | unknown
  | pending
  | failed
  | active
  | gracePeriod
  | expired
  | erasedAwaitsWithdrawal
  | erased
  | slashed
  deriving DecidableEq, Repr

/-- Can currently back a proof. -/
def MembershipState.isUsable : MembershipState → Bool
  | .active | .gracePeriod => true
  | _ => false

/-- Blocks a new registration for its scope. -/
def MembershipState.isLive (state : MembershipState) : Bool :=
  state == .pending || state.isUsable

/-- Ever observed on the registry. -/
def MembershipState.isActiveLike : MembershipState → Bool
  | .active | .gracePeriod | .expired | .erasedAwaitsWithdrawal | .erased | .slashed => true
  | .unknown | .pending | .failed => false

/-- The state's name in replies and events. -/
def MembershipState.wire : MembershipState → String
  | .unknown => "unknown"
  | .pending => "pending"
  | .failed => "failed"
  | .active => "active"
  | .gracePeriod => "grace_period"
  | .expired => "expired"
  | .erasedAwaitsWithdrawal => "erased_awaits_withdrawal"
  | .erased => "erased"
  | .slashed => "slashed"

def MembershipState.fromWire (name : String) : Option MembershipState :=
  [unknown, pending, failed, active, gracePeriod, expired, erasedAwaitsWithdrawal, erased,
    slashed].find? (·.wire == name)

theorem MembershipState.fromWire_wire (state : MembershipState) :
    fromWire state.wire = some state := by
  cases state <;> decide

theorem MembershipState.wire_injective : Function.Injective wire := by
  intro left right heq
  have hleft := fromWire_wire left
  rw [heq, fromWire_wire right] at hleft
  exact (Option.some.inj hleft).symm

structure StoredCredential where
  identityCommitment : String
  identitySecretHash : String
  registryId : String
  deriving DecidableEq

def confirmationWindowSecs : UInt64 := 300

structure CacheState where
  state : MembershipState := .unknown
  leafIndex : Option UInt64 := none
  rateLimit : Option UInt64 := none
  failedReason : Option String := none
  retryable : Option Bool := none
  txResult : Option String := none
  firstActiveAt : Option UInt64 := none
  deriving DecidableEq

def CacheState.markSubmitFailed (message : String) (retryable : Bool) (row : CacheState) :
    CacheState :=
  { row with
    state := .failed
    failedReason := some s!"submit_failed: {message}"
    retryable := some retryable }

/-- A late submission error leaves a state already past pending alone, and a
retryable one leaves pending for the registry to confirm or time out. -/
def CacheState.recordAsyncSubmitError (message : String) (retryable : Bool) (row : CacheState) :
    CacheState :=
  if row.state ≠ .pending ∨ retryable then row else row.markSubmitFailed message retryable

structure MembershipRecord where
  hash : String
  identity : IdentityBlock
  cache : CacheState
  alloc : AllocationState
  quarantined : Bool
  deriving DecidableEq

def hasBeenActive (row : MembershipRecord) : Bool :=
  row.cache.firstActiveAt.isSome || row.cache.state.isActiveLike

/-- The registry's report over the local record. -/
def mergeState (localRecord : Option MembershipRecord) (registryState : Option MembershipState)
    (now : UInt64) : MembershipState :=
  match localRecord, registryState with
  | none, none => .unknown
  | _, some state => state
  | some row, none =>
      if row.cache.state = .pending then
        if saturatingSub now row.identity.submittedAt > confirmationWindowSecs then .failed
        else .pending
      else if hasBeenActive row then .erased
      else row.cache.state

/-- The arguments of `membership_state_changed`. -/
structure StateChanged where
  registryId : String
  rlnIdentifier : String
  membershipHash : String
  state : String
  previous : String
  deriving DecidableEq

/-- Re-observing a state announces nothing. -/
def transitionEvent (hash : String) (record : MembershipRecord)
    (prior newState : MembershipState) : Option StateChanged :=
  if newState = prior then none
  else some ⟨record.identity.registryId, record.identity.rlnIdentifier, hash, newState.wire,
    prior.wire⟩

def formatCache : String := "rln-sealed-cache"

structure CacheFile where
  format : String := formatCache
  version : UInt32 := formatVersion
  entries : StringMap CacheState := ∅

end LogosRln.Lifecycle
