import LogosRln.Provider
import LogosRln.SealedStore.Store

/-!
# What the callers write to a cache row

The poller, the state read, the two submit callbacks and a refused submission
each hand `update_cache` a mutation of one membership's row.  Some are
compare-and-set on the state the caller saw, some look at the state under the
lock, and some overwrite it.
-/

namespace LogosRln.Callers

open Lifecycle Provider Json

def isRetryableSubmitError (error : ApiError) : Bool :=
  match error.kind with
  | .transient | .notReady | .providerFailure => true
  | _ => false

/-- The registry module's refusal to submit; `none` for an accepted one. -/
def registerRefusal (serde : Serde) (reply : String) : Option String :=
  match serde.fromStr reply with
  | .error _ => none
  | .ok value => (value.get "error").bind Value.asStr

/-! ## The mutations -/

/-- The poller's write of an observation. -/
def applyObserved (state : MembershipState) (leafIndex rateLimit : UInt64) (row : CacheState) :
    CacheState :=
  { row with
    state
    leafIndex := some leafIndex
    rateLimit := some rateLimit
    failedReason := none
    retryable := none }

/-- The poller's write once the confirmation window has passed. -/
def windowElapsed (row : CacheState) : CacheState :=
  { row with
    state := .failed
    failedReason := some "confirmation_window_elapsed"
    retryable := some true }

/-- The poller's write of a membership that left the registry. -/
def removedFromRegistry (row : CacheState) : CacheState :=
  { row with state := .erased, failedReason := some "removed_from_registry" }

/-- The state read's write, against the state its snapshot had. -/
def persistMerged (snapshotState merged : MembershipState) (report : ProviderMembership)
    (row : CacheState) : CacheState :=
  if row.state ≠ snapshotState then row
  else if report.registered then
    { row with
      state := merged
      leafIndex := some report.leafIndex
      rateLimit := some report.rateLimit
      failedReason := none
      retryable := none }
  else if merged = .failed then
    { row with
      state := merged
      failedReason := some "confirmation_window_elapsed"
      retryable := some true }
  else if merged = .erased then
    { row with state := merged, failedReason := some "removed_from_registry" }
  else { row with state := merged }

/-- The leaf index a submission's reply estimates. -/
def replyLeaf (serde : Serde) (reply : String) : Option UInt64 :=
  match serde.fromStr reply with
  | .error _ => none
  | .ok value => (value.get "leaf_index").bind Value.asU64

def fundedSubmitCallback (serde : Serde) (result : Except ApiError String) (row : CacheState) :
    CacheState :=
  match result with
  | .ok reply =>
      match registerRefusal serde reply with
      | some why => row.recordAsyncSubmitError why false
      | none =>
          { row with
            txResult := some reply
            leafIndex := (replyLeaf serde reply).or row.leafIndex }
  | .error error => row.recordAsyncSubmitError error.message (isRetryableSubmitError error)

/-- The funded-style envelope of a gifter's grant. -/
def grantEnvelope (serde : Serde) (leafIndex : Option UInt64) (tx : String) : String :=
  let inner := serde.toString (.object [("error", .str ""), ("secrets", .array []),
    ("success", .bool true), ("tx_hash", .str tx)])
  serde.toString (.object [("leaf_index", .uint (leafIndex.getD 0)), ("pending", .bool true),
    ("tx_result", .str inner)])

def delegatedSubmitCallback (serde : Serde) (result : Except ApiError String) (row : CacheState) :
    CacheState :=
  match result with
  | .ok reply =>
      match serde.fromStr reply with
      | .error _ => { row with txResult := some reply }
      | .ok value =>
          match value.get "error" with
          | some error =>
              if row.state = .pending then
                { row with
                  state := .failed
                  failedReason :=
                    some s!"gifter_failed: {error.asStr.getD (serde.toString error)}" }
              else row
          | none =>
              let leafIndex := ((value.get "leaf_index").bind Value.asU64).or row.leafIndex
              let tx := ((value.get "tx_hash").bind Value.asStr).getD ""
              { row with leafIndex, txResult := some (grantEnvelope serde leafIndex tx) }
  | .error error => row.recordAsyncSubmitError error.message (isRetryableSubmitError error)

/-! ## One write -/

inductive RowWrite where
  | observed (state : MembershipState) (leafIndex rateLimit : UInt64)
  | windowElapsed
  | removed
  | merged (snapshotState mergedState : MembershipState) (report : ProviderMembership)
  | fundedSubmit (result : Except ApiError String)
  | delegatedSubmit (result : Except ApiError String)
  | submitFailed (error : ApiError)
  deriving DecidableEq

def RowWrite.mutate (serde : Serde) : RowWrite → CacheState → CacheState
  | .observed state leafIndex rateLimit => applyObserved state leafIndex rateLimit
  | .windowElapsed => Callers.windowElapsed
  | .removed => removedFromRegistry
  | .merged snapshotState mergedState report => persistMerged snapshotState mergedState report
  | .fundedSubmit result => fundedSubmitCallback serde result
  | .delegatedSubmit result => delegatedSubmitCallback serde result
  | .submitFailed error =>
      CacheState.markSubmitFailed error.message (isRetryableSubmitError error)

/-- The state a successful write is announced under, given the state before it;
the submit paths announce nothing. -/
def RowWrite.announces (prior : MembershipState) : RowWrite → Option MembershipState
  | .observed state _ _ => some state
  | .windowElapsed => some .failed
  | .removed => some .erased
  | .merged snapshotState mergedState _ =>
      if prior = snapshotState then some mergedState else none
  | .fundedSubmit _ | .delegatedSubmit _ | .submitFailed _ => none

/-- The event a successful write emits. -/
def RowWrite.event (record : MembershipRecord) (prior : MembershipState) (write : RowWrite) :
    Option StateChanged :=
  (write.announces prior).bind (transitionEvent record.hash record prior)

end LogosRln.Callers
