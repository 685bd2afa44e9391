import LogosRln.Callers.Threads

/-!
# Registering a scope

`register_scoped`: the claim on the scope, the options, the scan for a live
record, the registry's bounds, the credential and its insert, the submission.
The claim is held from before the scan until the call returns.
-/

namespace LogosRln.Callers

open LogosRln.Lifecycle Provider Json RegistryId Maintenance SealedStore

/-- The options of a request, parsed and checked. -/
structure Requested where
  rateLimit : UInt64
  options : Value
  delegated : Option DelegatedOptions

inductive Register where
  | entering (request : RegisterRequest)
  | scanning (request : RegisterRequest)
  | readingBounds (request : RegisterRequest) (requested : Requested)
  | inserting (request : RegisterRequest) (requested : Requested) (registration : Registration)
  | submitting (request : RegisterRequest) (requested : Requested) (registration : Registration)
  | failing (request : RegisterRequest) (hash : String) (error : ApiError)
  | ensuring (request : RegisterRequest) (hash : String)
  | replying (request : RegisterRequest) (hash : String)
  | releasing (request : RegisterRequest) (reply : Except ApiError RegisterReply)
  | answered (reply : Except ApiError RegisterReply)

def RegisterRequest.key (request : RegisterRequest) : String × String :=
  (request.registry.canonical, request.rlnIdHex)

def claimTaken : ApiError :=
  ⟨.providerFailure,
    "a registration for this scope is already in flight — retry to observe its result"⟩

def parseOptions (serde : Serde) (optionsJson : String) : Except ApiError Requested := do
  let (rateLimit, options) ← parseRegistryOptions serde optionsJson
  let delegated ← delegatedOptions options
  return ⟨rateLimit, options, delegated⟩

/-- The record that short-circuits a registration of the scope. -/
def backsLive (rlnIdHex : String) (record : MembershipRecord) : Bool :=
  !record.quarantined && record.cache.state.isLive && Selection.scopeMatches record rlnIdHex

/-- What a short-circuited call answers. -/
def existingReply (rateLimit : UInt64) (configuredEpochSize : Option UInt64)
    (record : MembershipRecord) : RegisterReply where
  record := { record with quarantined := false }
  rateLimitMismatch := record.cache.rateLimit != some rateLimit
  epochSizeMismatch := configuredEpochSize.any fun size =>
    record.alloc.epochSizeSec != 0 && record.alloc.epochSizeSec != size

def showBound (bound : Option UInt64) : String := (bound.map toString).getD "?"

/-- The registry's bounds on a rate limit; unreadable bounds refuse nothing. -/
def checkBounds (rateLimit : UInt64) (bounds : Except ApiError Value) : Except ApiError Unit :=
  match bounds with
  | .error _ => .ok ()
  | .ok bounds =>
      let most := (bounds.get "max_rate_limit").bind Value.asU64
      let least := (bounds.get "min_rate_limit").bind Value.asU64
      if most.any (· < rateLimit) ∨ least.any (rateLimit < ·) then
        .error (invalidArgument
          s!"rate_limit {rateLimit} outside registry bounds [{showBound least}, {showBound most}]")
      else .ok ()

/-- The registration of a generated identity. -/
def makeRegistration (libs : Libraries) (request : RegisterRequest) (rateLimit now : UInt64)
    (identity : Except ApiError (String × String)) : Except ApiError Registration := do
  let (commitmentHex, secretHashHex) ← identity
  match hexToBytes32 commitmentHex with
  | none => .error (.internal "generated commitment is not 32 bytes")
  | some commitment =>
      return {
        hash := membershipHash libs.sha256 request.registry.canonical commitment
        identity :=
          { registryId := request.registry.canonical
            rlnIdentifier := request.rlnIdHex
            identityCommitment := commitmentHex
            submittedAt := now }
        credential :=
          { identityCommitment := commitmentHex
            identitySecretHash := secretHashHex
            registryId := request.registry.canonical }
        rateLimit }

def submission (serde : Serde) (requested : Requested) (commitmentHex : String) : SubmitCall :=
  match requested.delegated with
  | some delegated =>
      .delegated (delegatedRequestArgs serde delegated commitmentHex requested.rateLimit)
  | none => .funded (serde.toString requested.options) commitmentHex requested.rateLimit

def afterInsert (request : RegisterRequest) (requested : Requested) (registration : Registration) :
    Outcome → Register
  | .stored (.inserted (.ok ())) => .submitting request requested registration
  | .stored (.inserted (.error error)) => .releasing request (.error error)
  | _ => .releasing request (.error uninitialized)

/-- The row write of a refused submission can itself fail. -/
def afterFailing (request : RegisterRequest) (error : ApiError) : Outcome → Register
  | .stored (.cacheUpdated (.error failed)) => .releasing request (.error failed)
  | _ => .releasing request (.error error)

def Register.step (libs : Libraries) (serde : Serde) (moment : Moment) (view : View) :
    Register → ThreadStep Register
  | .entering request =>
      match providerOf request.registry with
      | .error error => goesTo (.answered (.error error))
      | .ok () =>
          if request.key ∈ view.claims then goesTo (.answered (.error claimTaken))
          else (.takesClaim request.key, fun _ => .scanning request)
  | .scanning request =>
      match parseOptions serde request.optionsJson with
      | .error error => goesTo (.releasing request (.error error))
      | .ok requested =>
          match view.records with
          | none => goesTo (.releasing request (.error uninitialized))
          | some records =>
              match (recordsFor request.registry.canonical records).find?
                  (backsLive request.rlnIdHex) with
              | some record =>
                  goesTo (.releasing request
                    (.ok (existingReply requested.rateLimit moment.configuredEpochSize record)))
              | none => goesTo (.readingBounds request requested)
  | .readingBounds request requested =>
      match checkBounds requested.rateLimit moment.bounds with
      | .error error => goesTo (.releasing request (.error error))
      | .ok () =>
          match makeRegistration libs request requested.rateLimit moment.now moment.identity with
          | .error error => goesTo (.releasing request (.error error))
          | .ok registration => goesTo (.inserting request requested registration)
  | .inserting request requested registration =>
      (.inserts registration, afterInsert request requested registration)
  | .submitting request requested registration =>
      (.submits (submission serde requested registration.identity.identityCommitment), fun _ =>
        match moment.submit with
        | .error error => .failing request registration.hash error
        | .ok () => .ensuring request registration.hash)
  | .failing request hash error =>
      (.writesRow hash none (.submitFailed error), afterFailing request error)
  | .ensuring request hash => (.ensuresPoller, fun _ => .replying request hash)
  | .replying request hash =>
      match view.records.bind fun records => records.find? (·.hash == hash) with
      | none => goesTo (.releasing request (.error (.internal "record vanished after insert")))
      | some record => goesTo (.releasing request (.ok ⟨record, false, false⟩))
  | .releasing request reply => (.releasesClaim request.key, fun _ => .answered reply)
  | .answered reply => goesTo (.answered reply)

/-- What a call that has returned answered. -/
def Register.reply : Register → Option (Except ApiError RegisterReply)
  | .answered reply => some reply
  | _ => none

end LogosRln.Callers
