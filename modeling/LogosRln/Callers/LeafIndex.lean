import LogosRln.Callers.Interleaving

/-!
# The registry's leaf index and a submission's estimate

The poller and the state read write the leaf index and the rate limit they read
from the registry.  The submit callbacks write the leaf index that the reply to
the submission estimated, and do so whatever state the row has come to in the
meantime.
-/

namespace LogosRln.Callers.LeafIndex

open LogosRln.Lifecycle Provider Json RegistryId Maintenance SealedStore Run

variable {libs : Libraries} {serde : Serde}

/-- The states the registry puts a membership in. -/
def isObserved : MembershipState → Bool
  | .active | .gracePeriod | .expired => true
  | _ => false

/-- The leaf index and the rate limit of an observation. -/
abbrev Observation := UInt64 × UInt64

/-- The observation a write records in a row; the state read's is dropped when
the row has moved on from its snapshot. -/
def observation (row : CacheState) : RowWrite → Option Observation
  | .observed _ leafIndex rateLimit => some (leafIndex, rateLimit)
  | .merged snapshotState _ report =>
      if row.state = snapshotState ∧ report.registered = true then
        some (report.leafIndex, report.rateLimit)
      else none
  | _ => none

/-- The leaf index a submission's reply estimates, where the callback records
it. -/
def estimate (serde : Serde) : RowWrite → Option UInt64
  | .fundedSubmit (.ok reply) =>
      match registerRefusal serde reply with
      | some _ => none
      | none => replyLeaf serde reply
  | .delegatedSubmit (.ok reply) =>
      match serde.fromStr reply with
      | .error _ => none
      | .ok value =>
          match value.get "error" with
          | some _ => none
          | none => (value.get "leaf_index").bind Value.asU64
  | _ => none

/-- A row in an observed state carries the leaf index and the rate limit of the
observation. -/
def Agrees (last : Option Observation) (row : CacheState) : Prop :=
  isObserved row.state = true →
    ∃ leafIndex rateLimit, last = some (leafIndex, rateLimit) ∧
      row.leafIndex = some leafIndex ∧ row.rateLimit = some rateLimit

/-- An estimate lands while the row is in no observed state, or repeats the leaf
index the row has. -/
def InTime (serde : Serde) (row : CacheState) (write : RowWrite) : Prop :=
  ∀ leafIndex ∈ estimate serde write,
    isObserved row.state = false ∨ row.leafIndex = some leafIndex

-- Not by going through all leaf indices.
instance (row : CacheState) (write : RowWrite) : Decidable (InTime serde row write) :=
  Option.decidableForallMem (estimate serde write)

/-! ## What one write does -/

theorem agrees_of_not_observed {last : Option Observation} {row : CacheState}
    (hrow : isObserved row.state = false) : Agrees last row := by
  intro hobserved
  rw [hrow] at hobserved
  cases hobserved

theorem agrees_recordAsyncSubmitError {last : Option Observation} {row : CacheState}
    (hrow : Agrees last row) (message : String) (retryable : Bool) :
    Agrees last (row.recordAsyncSubmitError message retryable) := by
  simp only [CacheState.recordAsyncSubmitError]
  split
  · exact hrow
  · exact agrees_of_not_observed rfl

/-- Recording an estimate in time keeps the agreement. -/
theorem agrees_of_estimate {last : Option Observation} {row : CacheState} {leaf : Option UInt64}
    (hrow : Agrees last row)
    (hleaf : ∀ leafIndex ∈ leaf, isObserved row.state = false ∨ row.leafIndex = some leafIndex)
    (txResult : Option String) :
    Agrees last { row with leafIndex := leaf.or row.leafIndex, txResult } := by
  intro hobserved
  obtain ⟨leafIndex, rateLimit, hlast, hindex, hrate⟩ := hrow hobserved
  refine ⟨leafIndex, rateLimit, hlast, ?_, hrate⟩
  cases leaf with
  | none => exact hindex
  | some estimated =>
      rcases hleaf estimated rfl with hunobserved | hsame
      · simp only at hobserved
        rw [hunobserved] at hobserved
        cases hobserved
      · rw [Option.some_or, ← hsame, hindex]

theorem agrees_fundedSubmitCallback {last : Option Observation} {row : CacheState}
    {result : Except ApiError String} (hrow : Agrees last row)
    (htime : InTime serde row (.fundedSubmit result)) :
    Agrees last (fundedSubmitCallback serde result row) := by
  cases result with
  | error error => exact agrees_recordAsyncSubmitError hrow _ _
  | ok reply =>
      simp only [fundedSubmitCallback]
      cases hrefusal : registerRefusal serde reply with
      | some why => exact agrees_recordAsyncSubmitError hrow _ _
      | none =>
          simp only [InTime, estimate, hrefusal] at htime
          exact agrees_of_estimate hrow htime _

theorem agrees_delegatedSubmitCallback {last : Option Observation} {row : CacheState}
    {result : Except ApiError String} (hrow : Agrees last row)
    (htime : InTime serde row (.delegatedSubmit result)) :
    Agrees last (delegatedSubmitCallback serde result row) := by
  cases result with
  | error error => exact agrees_recordAsyncSubmitError hrow _ _
  | ok reply =>
      cases hparsed : serde.fromStr reply with
      | error error =>
          simp only [delegatedSubmitCallback, hparsed]
          exact hrow
      | ok value =>
          cases herror : value.get "error" with
          | some error =>
              simp only [delegatedSubmitCallback, hparsed, herror]
              split
              · exact agrees_of_not_observed rfl
              · exact hrow
          | none =>
              simp only [InTime, estimate, hparsed, herror] at htime
              simp only [delegatedSubmitCallback, hparsed, herror]
              exact agrees_of_estimate hrow htime _

/-- Without a report the merge changes a record to no observed state. -/
theorem mergeState_absent_not_observed {record : MembershipRecord} {now : UInt64}
    {state : MembershipState} (hmerged : state = mergeState (some record) none now)
    (hchanged : state ≠ record.cache.state) : isObserved state = false := by
  simp only [mergeState] at hmerged
  split at hmerged
  · split at hmerged <;> rw [hmerged] <;> rfl
  · split at hmerged
    · rw [hmerged]
      rfl
    · exact absurd hmerged hchanged

/-- What a step writes agrees with the observation it records, if any, and
otherwise with the one before. -/
theorem agrees_demand {node : Node} {input : Input} {hash : String}
    {announcing : Option MembershipRecord} {write : RowWrite} {last : Option Observation}
    (hnode : Meant node)
    (hdemand : demand libs serde node input = .writesRow hash announcing write)
    (hrow : Agrees last (row hash node.world))
    (htime : InTime serde (row hash node.world) write) :
    Agrees ((observation (row hash node.world) write).or last)
      (write.mutate serde (row hash node.world)) := by
  cases write with
  | observed state leafIndex rateLimit =>
      exact fun _ => ⟨leafIndex, rateLimit, rfl, rfl, rfl⟩
  | windowElapsed => exact agrees_of_not_observed rfl
  | removed => exact agrees_of_not_observed rfl
  | fundedSubmit result => exact agrees_fundedSubmitCallback hrow htime
  | delegatedSubmit result => exact agrees_delegatedSubmitCallback hrow htime
  | submitFailed error => exact agrees_of_not_observed rfl
  | merged snapshotState mergedState report =>
      by_cases hsame : (row hash node.world).state = snapshotState
      · cases hregistered : report.registered with
        | true =>
            simp only [observation, hsame, hregistered, and_self, if_true, Option.some_or,
              RowWrite.mutate, persistMerged, ne_eq, not_true_eq_false, if_false]
            exact fun _ => ⟨report.leafIndex, report.rateLimit, rfl, rfl, rfl⟩
        | false =>
            have hmerged := Meant.merged hnode hdemand
            obtain ⟨record, hsnapshot, hchanged, now, hmerge⟩ := hmerged
            simp only [registryState, hregistered, Bool.false_eq_true, if_false] at hmerge
            have hunobserved := mergeState_absent_not_observed hmerge hchanged
            refine agrees_of_not_observed ?_
            simp only [RowWrite.mutate, persistMerged, hsame, ne_eq, not_true_eq_false, if_false,
              hregistered, Bool.false_eq_true]
            split
            · exact hunobserved
            · split <;> exact hunobserved
      · simpa [observation, RowWrite.mutate, persistMerged, hsame] using hrow

/-! ## Main result -/

/-- The observation a step records in the row of a membership. -/
def recorded (libs : Libraries) (serde : Serde) (hash : String)
    (event : Event Node Input Report) : Option Observation :=
  (writesTo libs serde hash event.before event.input).bind
    (observation (row hash event.before.world))

/-- The most recent observation recorded on the way. -/
def mostRecent (libs : Libraries) (serde : Serde) (hash : String)
    (events : List (Event Node Input Report)) (last : Option Observation) : Option Observation :=
  events.foldl (fun last event => (recorded libs serde hash event).or last) last

/-- The interleaved callers of one membership, whose estimates land in time. -/
def Admissible (libs : Libraries) (serde : Serde) (hash : String) (node : Node) (input : Input) :
    Prop :=
  KeepsRow libs serde hash node input ∧
    ∀ write ∈ writesTo libs serde hash node input, InTime serde (row hash node.world) write

instance (hash : String) (node : Node) (input : Input) :
    Decidable (Admissible libs serde hash node input) :=
  inferInstanceAs (Decidable (_ ∧ _))

theorem agrees_observeRow {last : Option Observation} {row : CacheState}
    (mutate : CacheState → CacheState) (now : UInt64) (hrow : Agrees last (mutate row)) :
    Agrees last (observeRow mutate now row) := by
  simp only [observeRow]
  split <;> exact hrow

theorem agrees_step {hash : String} {node : Node} {input : Input} {last : Option Observation}
    (hnode : Meant node) (hrow : Agrees last (row hash node.world))
    (hadmissible : Admissible libs serde hash node input) :
    Agrees ((recorded libs serde hash
        ⟨node, input, (step libs serde node input).2⟩).or last)
      (row hash (step libs serde node input).1.world) := by
  obtain ⟨hkeeps, htime⟩ := hadmissible
  rw [row_step hkeeps, recorded]
  cases hwrites : writesTo libs serde hash node input with
  | none => exact hrow
  | some write =>
      obtain ⟨announcing, hdemand⟩ := demand_of_writesTo hwrites
      exact agrees_observeRow _ _ (agrees_demand hnode hdemand hrow (htime write hwrites))

theorem agrees_run {hash : String} {node : Node} {inputs : List Input}
    {last : Option Observation} (hnode : Meant node) (hrow : Agrees last (row hash node.world))
    (hguard : Guarded (step libs serde) (Admissible libs serde hash) node inputs) :
    Agrees (mostRecent libs serde hash (trace (step libs serde) node inputs) last)
      (row hash (run (step libs serde) node inputs).world) := by
  induction inputs generalizing node last with
  | nil => exact hrow
  | cons input inputs ih =>
      exact ih (meant_step node input hnode) (agrees_step hnode hrow hguard.1) hguard.2

/-- From any state in which the membership is in no observed state, and in every
run of the poller, the state reads and the submit callbacks whose estimates land
in time: whenever the row is active, in its grace period or expired, its leaf
index and rate limit are those of the most recent observation recorded. -/
theorem leaf_index_authoritative (libs : Libraries) (serde : Serde) (world : World)
    (before after : List Input) (hash : String)
    (hstart : isObserved
      (row hash (run (step libs serde) { world } before).world).state = false)
    (hguard : Guarded (step libs serde) (Admissible libs serde hash)
      (run (step libs serde) { world } before) after) :
    Agrees (mostRecent libs serde hash
        (trace (step libs serde) (run (step libs serde) { world } before) after) none)
      (row hash (run (step libs serde) { world } (before ++ after)).world) := by
  rw [run_append]
  exact agrees_run (meant_run world before) (agrees_of_not_observed hstart) hguard

/-! ## An estimate that lands late -/

/-- The store has one pending membership and the poller has begun to read it. -/
def pollingInputs : List Input := startedInputs ++ pollsInputs 1000

/-- The reply to the submission, with its estimate of the leaf. -/
def estimateReply : Input :=
  .submitReply "ab" (.fundedSubmit (.ok "\x7b\"leaf_index\":7\x7d")) {}

/-- The poller reads the membership from the registry, at leaf 9, and records
it. -/
def confirmingInputs : List Input :=
  [.body 0 { membership := .ok ⟨true, .active, 9, 100⟩ }, .body 0 {}]

/-- The estimate lands first and the confirmation then replaces it. -/
theorem leaf_index_authoritative_confirmed :
    Agrees (mostRecent Reference.libraries sampleSerde "ab"
        (trace (step Reference.libraries sampleSerde)
          (run (step Reference.libraries sampleSerde) {} pollingInputs)
          (estimateReply :: confirmingInputs)) none)
      (row "ab" (run (step Reference.libraries sampleSerde) {}
        (pollingInputs ++ estimateReply :: confirmingInputs)).world) := by
  have hstart : isObserved (row "ab"
      (run (step Reference.libraries sampleSerde) {} pollingInputs).world).state = false := by
    decide +kernel
  have hguard : Guarded (step Reference.libraries sampleSerde)
      (Admissible Reference.libraries sampleSerde "ab")
      (run (step Reference.libraries sampleSerde) {} pollingInputs)
      (estimateReply :: confirmingInputs) := by
    decide +kernel
  exact leaf_index_authoritative _ _ {} pollingInputs _ "ab" hstart hguard

theorem estimate_overwrites_leaf :
    let node := run (step Reference.libraries sampleSerde) {} pollingInputs
    let inputs := confirmingInputs ++ [estimateReply]
    let after := row "ab" (run (step Reference.libraries sampleSerde) node inputs).world
    isObserved (row "ab" node.world).state = false ∧ after.state = .active ∧
      after.leafIndex = some 7 ∧
      mostRecent Reference.libraries sampleSerde "ab"
        (trace (step Reference.libraries sampleSerde) node inputs) none = some (9, 100) := by
  decide +kernel

end LogosRln.Callers.LeafIndex
