import LogosRln.Callers.RegistryOptions
import LogosRln.Maintenance.Poller
import LogosRln.SealedStore.Machine
import LogosRln.SealedStore.Records
import LogosRln.Selection

/-!
# Threads over one store

A thread runs until it needs something the threads share, or an answer from
outside, and that is one step.  The step demands at most one thing: a registry
read to begin, a row to be written, a credential to be inserted, a claim, a
ticket.  What the demand came back with decides where the thread goes on.
-/

namespace LogosRln.Callers

open LogosRln.Lifecycle Provider Json RegistryId Maintenance SealedStore

/-- What a registration answers. -/
structure RegisterReply where
  record : MembershipRecord
  rateLimitMismatch : Bool
  epochSizeMismatch : Bool
  deriving DecidableEq

/-- What a step sees of the shared state. -/
structure View where
  sup : Supervisor
  stopped : Bool
  /-- The records of the current store, if there is one. -/
  records : Option (List MembershipRecord)
  claims : Finset (String × String)
  epoch : UInt64
  /-- What the call at a position has answered, once it has. -/
  reply : ℕ → Option (Except ApiError RegisterReply)

def unanswered : ApiError := ⟨.providerFailure, "no answer"⟩

/-- What the outside answers a step: the clock, the registry, the disk, the
random source. -/
structure Moment where
  timedOut : Bool := true
  now : UInt64 := 0
  tracked : List CanonicalRegistryId := []
  membership : Except ApiError ProviderMembership := .error unanswered
  cacheWrite : Files.WriteOutcome := .ok
  bounds : Except ApiError Value := .error unanswered
  configuredEpochSize : Option UInt64 := none
  identity : Except ApiError (String × String) := .error unanswered
  nonce : Option Bytes24 := none
  insertWrites : InsertWrites := ⟨.ok, .ok, .ok⟩
  submit : Except ApiError Unit := .ok ()
  walletStatus : Except ApiError Value := .error unanswered
  registryCheck : Except ApiError Value := .error unanswered
  feeState : Except ApiError Value := .error unanswered
  balance : Except ApiError ℕ := .error unanswered
  /-- A wait between two reads is over. -/
  due : Bool := true

def Moment.surroundings (moment : Moment) (view : View) : Surroundings where
  sup := view.sup
  stopped := view.stopped
  timedOut := moment.timedOut
  now := moment.now
  records := view.records
  tracked := moment.tracked
  reply := moment.membership

/-- A scope to be registered, with the wire's options. -/
structure RegisterRequest where
  registry : CanonicalRegistryId
  rlnIdHex : String
  optionsJson : String
  deriving DecidableEq

inductive SubmitCall where
  | funded (optionsJson commitmentHex : String) (rateLimit : UInt64)
  | delegated (args : String)
  deriving DecidableEq

inductive Demand where
  | nothing
  | readsRegistry (record : MembershipRecord)
  /-- With the record to announce a change under, if the writer announces. -/
  | writesRow (hash : String) (announcing : Option MembershipRecord) (write : RowWrite)
  | inserts (registration : Registration)
  | submits (call : SubmitCall)
  | takesClaim (key : String × String)
  | releasesClaim (key : String × String)
  | takesTicket
  | ensuresPoller
  | registers (request : RegisterRequest)

/-- What a demand came back with. -/
inductive Outcome where
  | stored (answer : Answer)
  | ticket (mine : UInt64)
  | call (i : ℕ)
  | done

/-- A step of a thread: its demand, and where it goes on. -/
abbrev ThreadStep (Thread : Type) := Demand × (Outcome → Thread)

/-- The step that demands nothing. -/
def goesTo {Thread : Type} (thread : Thread) : ThreadStep Thread :=
  (.nothing, fun _ => thread)

def demandOf : Option Action → Demand
  | none => .nothing
  | some (.readsRegistry record) => .readsRegistry record
  | some (.writesRow record write) => .writesRow record.hash (some record) write

/-- The poller as a thread; it goes on the same way whether its write landed. -/
def pollerStep (generation : ℕ) (moment : Moment) (view : View) (poller : Poller) :
    ThreadStep Poller :=
  let next := poller.step generation (moment.surroundings view)
  (demandOf next.2, fun _ => next.1)

def refresherStep (generation : ℕ) (moment : Moment) (view : View) (refresher : Refresher) :
    ThreadStep Refresher :=
  let next := refresher.step generation (moment.surroundings view)
  (.nothing, fun _ => next.1)

/-! ## Scopes -/

def parseRegistry (raw : String) : Except ApiError CanonicalRegistryId :=
  (parse raw).mapError invalidArgument

/-- A 32-byte hex field in its normalized spelling. -/
def parseHex32 (field hex : String) : Except ApiError String :=
  match hexToBytes32 hex with
  | some bytes => .ok (bytesToHex bytes.toList)
  | none => .error (invalidArgument s!"{field} must be 32-byte hex")

def parseScope (registryIdRaw rlnIdentifierHex : String) :
    Except ApiError (CanonicalRegistryId × String) := do
  let registry ← parseRegistry registryIdRaw
  let rlnIdHex ← parseHex32 "rln_identifier" rlnIdentifierHex
  return (registry, rlnIdHex)

def providerOf (registry : CanonicalRegistryId) : Except ApiError Unit :=
  if providerFor registry.registryNamespace then .ok ()
  else .error
    ⟨.unknownRegistry, s!"no registry provider for namespace {registry.registryNamespace}"⟩

/-! ## `get_membership_state` -/

structure StateReply where
  membershipHash : Option String
  registryId : String
  state : MembershipState
  leafIndex : Option UInt64
  rateLimit : Option UInt64
  deriving DecidableEq

def unknownState (registryId : String) : StateReply := ⟨none, registryId, .unknown, none, none⟩

inductive StateRead where
  | entering (registryIdRaw rlnIdentifierHex : String)
  | reading (registry : CanonicalRegistryId) (record : MembershipRecord)
  | persisting (registry : CanonicalRegistryId) (record : MembershipRecord)
      (mergedState : MembershipState) (report : ProviderMembership)
  | answered (reply : Except ApiError StateReply)
  deriving DecidableEq

/-- The registry's report as the merge takes it. -/
def registryState (report : ProviderMembership) : Option MembershipState :=
  if report.registered then some report.state else none

def resolvedState (registry : CanonicalRegistryId) (record : MembershipRecord)
    (mergedState : MembershipState) (report : ProviderMembership) : StateReply :=
  if report.registered then
    ⟨some record.hash, registry.canonical, mergedState, some report.leafIndex,
      some report.rateLimit⟩
  else
    ⟨some record.hash, registry.canonical, mergedState, some (record.cache.leafIndex.getD 0),
      some (record.cache.rateLimit.getD 0)⟩

/-- The membership a state read is about. -/
def stateReadTarget (registryIdRaw rlnIdentifierHex : String)
    (records : Option (List MembershipRecord)) :
    Except ApiError (CanonicalRegistryId × Option MembershipRecord) := do
  let (registry, rlnIdHex) ← parseScope registryIdRaw rlnIdentifierHex
  providerOf registry
  match records with
  | none => return (registry, none)
  | some records =>
      let target ← Selection.membershipStateMembership
        (recordsFor registry.canonical records) rlnIdHex
      return (registry, target)

def StateRead.step (moment : Moment) (view : View) : StateRead → ThreadStep StateRead
  | .entering registryIdRaw rlnIdentifierHex =>
      match stateReadTarget registryIdRaw rlnIdentifierHex view.records with
      | .error error => goesTo (.answered (.error error))
      | .ok (registry, none) => goesTo (.answered (.ok (unknownState registry.canonical)))
      | .ok (registry, some record) =>
          (.readsRegistry record, fun _ => .reading registry record)
  | .reading registry record =>
      match moment.membership with
      | .error error => goesTo (.answered (.error error))
      | .ok report =>
          let mergedState := mergeState (some record) (registryState report) moment.now
          if mergedState ≠ record.cache.state then
            goesTo (.persisting registry record mergedState report)
          else goesTo (.answered (.ok (resolvedState registry record mergedState report)))
  | .persisting registry record mergedState report =>
      (.writesRow record.hash (some record) (.merged record.cache.state mergedState report),
        fun _ => .answered (.ok (resolvedState registry record mergedState report)))
  | .answered reply => goesTo (.answered reply)

end LogosRln.Callers
