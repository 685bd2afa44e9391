import LogosRln.Callers.Interleaving

/-!
# The poller and the merged view

A state read overlays the registry's report on a record by one function, and
the poller by the branches of its two sweeps.  They agree on every record of the
work lists but one kind: a defaulted row, never seen on the registry and absent
from it, which the merge leaves unknown and the refresh sweep erases.
-/

namespace LogosRln.Callers.MergedView

open LogosRln.Lifecycle Provider Json Maintenance SealedStore

variable {libs : Libraries} {serde : Serde}

/-- The list a sweep works off. -/
def workList (sweep : Sweep) (records : List MembershipRecord) : List MembershipRecord :=
  match sweep with
  | .confirm _ => pendingRecords records
  | .refresh => refreshableRecords records

/-- A row that was never on the registry and carries no state of its own. -/
def Defaulted (record : MembershipRecord) : Prop :=
  record.cache.state = .unknown ∧ record.cache.firstActiveAt = none

instance (record : MembershipRecord) : Decidable (Defaulted record) :=
  inferInstanceAs (Decidable (_ ∧ _))

/-- The state a sweep gives a record of its list, on one answer. -/
def sweptState (serde : Serde) (sweep : Sweep) (record : MembershipRecord)
    (report : ProviderMembership) : MembershipState :=
  match (observe (.ok report)).bind (RecordUpdate.write sweep record) with
  | some write => (write.mutate serde record.cache).state
  | none => record.cache.state

/-- The merge of a refreshable record that is absent from the registry. -/
theorem mergeState_absent_refreshable {record : MembershipRecord} {now : UInt64}
    (hrefreshable : isRefreshable record.cache.state = true) :
    mergeState (some record) none now = if Defaulted record then .unknown else .erased := by
  obtain ⟨hash, identity, cache, alloc, quarantined⟩ := record
  obtain ⟨state, leafIndex, rateLimit, failedReason, retryable, txResult, firstActiveAt⟩ := cache
  cases state <;> cases firstActiveAt <;>
    simp_all [isRefreshable, mergeState, hasBeenActive, Defaulted, MembershipState.isActiveLike]

/-- On the records of a sweep's list, the branches of the sweep are the merge,
but for a defaulted row that is absent from the registry. -/
theorem sweptState_eq_mergeState_iff {sweep : Sweep} {now : UInt64}
    {records : List MembershipRecord} {record : MembershipRecord}
    (hsweep : sweep = .confirm now ∨ sweep = .refresh) (hlisted : record ∈ workList sweep records)
    (report : ProviderMembership) :
    sweptState serde sweep record report =
        mergeState (some record) (registryState report) now ↔
      ¬ (Defaulted record ∧ report.registered = false) := by
  cases hregistered : report.registered with
  | true =>
      simp [sweptState, observe, hregistered, RecordUpdate.write, RowWrite.mutate, applyObserved,
        registryState, mergeState]
  | false =>
      have hupdate : observe (.ok report) = some .absent := by simp [observe, hregistered]
      have hreport : registryState report = none := by simp [registryState, hregistered]
      rcases hsweep with rfl | rfl
      · have hpending : record.cache.state = .pending := by
          simp only [workList, pendingRecords, List.mem_filter, Bool.and_eq_true, beq_iff_eq]
            at hlisted
          exact hlisted.2.2
        simp only [sweptState, hupdate, Option.bind_some, RecordUpdate.write, hreport, mergeState,
          Defaulted, hpending]
        by_cases helapsed :
          RateLimit.saturatingSub now record.identity.submittedAt > confirmationWindowSecs <;>
          simp [helapsed, RowWrite.mutate, windowElapsed]
      · have hrefreshable : isRefreshable record.cache.state = true := by
          simp only [workList, refreshableRecords, List.mem_filter, Bool.and_eq_true] at hlisted
          exact hlisted.2.2
        rw [hreport, mergeState_absent_refreshable hrefreshable]
        simp only [sweptState, hupdate, Option.bind_some, RecordUpdate.write, RowWrite.mutate,
          removedFromRegistry, and_true]
        split <;> simp [*]

/-! ## The steps of a sweep -/

/-- The poller takes one answer and, in its next step, acts on it. -/
def answered (i : ℕ) (reading writing : Moment) : List Input :=
  [.body i reading, .body i writing]

/-- Where the poller goes on with an answer in hand. -/
def afterReply (tickNo : UInt32) (sweep : Sweep) (record : MembershipRecord)
    (remaining : List MembershipRecord) (report : ProviderMembership) : Poller :=
  match (observe (.ok report)).bind (RecordUpdate.write sweep record) with
  | some write => .writing tickNo sweep record write remaining
  | none => .sweeping tickNo sweep remaining

variable {node : Node} {i : ℕ} {tickNo : UInt32} {sweep : Sweep} {record : MembershipRecord}
  {remaining : List MembershipRecord} {reading writing : Moment} {report : ProviderMembership}

/-- Taking an answer moves the poller on and nothing else. -/
theorem step_reading
    (hbody : node.bodies[i]? = some (.poller (.reading tickNo sweep record remaining)))
    (hreply : reading.membership = .ok report) :
    (step libs serde node (.body i reading)).1 =
      { node with bodies :=
          node.bodies.set i (.poller (afterReply tickNo sweep record remaining report)) } := by
  simp only [step, hbody, Node.runBody, Body.step, ThreadStep.map, pollerStep, Poller.step,
    Moment.surroundings, hreply, afterReply]
  cases (observe (.ok report)).bind (RecordUpdate.write sweep record) <;> rfl

/-- A poller between two reads writes no row. -/
theorem demand_sweeping
    (hbody : node.bodies[i]? = some (.poller (.sweeping tickNo sweep remaining)))
    (hash : String) (announcing : Option MembershipRecord) (write : RowWrite) :
    demand libs serde node (.body i writing) ≠ .writesRow hash announcing write := by
  intro hdemand
  simp only [demand, hbody, Body.step, ThreadStep.map, pollerStep] at hdemand
  cases remaining with
  | nil =>
      cases sweep with
      | confirm now =>
          simp only [Poller.step] at hdemand
          split at hdemand
          · cases hdemand
          · split at hdemand <;> cases hdemand
      | refresh => cases hdemand
  | cons record remaining =>
      rw [Poller.step_sweeping_cons] at hdemand
      split at hdemand <;> cases hdemand

/-- A step of a thread that writes no row and inserts nothing keeps every row. -/
theorem row_worldAfter {hash : String} {world : World} {demanded : Demand}
    (hrow : ∀ hash announcing write, demanded ≠ .writesRow hash announcing write)
    (hinsert : ∀ registration, demanded ≠ .inserts registration) :
    row hash (worldAfter libs serde writing world demanded) = row hash world := by
  cases demanded with
  | writesRow hash announcing write => exact absurd rfl (hrow hash announcing write)
  | inserts registration => exact absurd rfl (hinsert registration)
  | _ => rfl

/-- The poller never inserts. -/
theorem demand_poller_ne_inserts {poller : Poller} (hbody : node.bodies[i]? = some (.poller poller))
    (registration : Registration) :
    demand libs serde node (.body i writing) ≠ .inserts registration := by
  simp only [demand, hbody, Body.step, ThreadStep.map, pollerStep, demandOf]
  split <;> simp

/-- A row write of a thread gives the row the state its mutation gives. -/
theorem state_writesRow {hash : String} {world : World} {announcing : Option MembershipRecord}
    {write : RowWrite} (haccepts : acceptsRow hash world = true) :
    (row hash (worldAfter libs serde writing world (.writesRow hash announcing write))).state =
      (write.mutate serde (row hash world)).state := by
  simp only [worldAfter, writeOp]
  have heffect := @updateCache_effect libs world hash (write.mutate serde) writing.now
    writing.cacheWrite
  generalize SealedStore.step libs world
    (.updateCache hash (write.mutate serde) writing.now writing.cacheWrite) = reached at heffect
  generalize writing.cacheWrite = written at heffect
  obtain ⟨world', answer⟩ := reached
  cases heffect with
  | refused error hrefused =>
      rw [haccepts] at hrefused
      cases hrefused
  | unsaved error _ _ hrows => simp [hrows, state_observeRow]
  | saved _ _ hrows => simp [hrows, state_observeRow]

/-- What the poller's two steps leave in the row of a record that is as it was
listed. -/
theorem state_answered
    (hbody : node.bodies[i]? = some (.poller (.reading tickNo sweep record remaining)))
    (hreply : reading.membership = .ok report)
    (haccepts : acceptsRow record.hash node.world = true)
    (hlisted : row record.hash node.world = record.cache) :
    (row record.hash (Run.run (step libs serde) node (answered i reading writing)).world).state =
      sweptState serde sweep record report := by
  have hin : i < node.bodies.length := (List.getElem?_eq_some_iff.mp hbody).1
  simp only [answered, Run.run_cons, Run.run_nil, step_reading hbody hreply]
  generalize hnext : ({ node with
    bodies := node.bodies.set i
      (.poller (afterReply tickNo sweep record remaining report)) } : Node) = next
  have hworld : next.world = node.world := by rw [← hnext]
  have hpoller : next.bodies[i]? =
      some (.poller (afterReply tickNo sweep record remaining report)) := by
    rw [← hnext]
    exact List.getElem?_set_self hin
  rcases @step_world libs serde next (.body i writing) with ⟨op, hop, -⟩ | ⟨hstep, -⟩
  · cases hop
  · rw [hstep, hworld]
    simp only [sweptState]
    cases hwrite : (observe (.ok report)).bind (RecordUpdate.write sweep record) with
    | some write =>
        have hdemand : demand libs serde next (.body i writing) =
            .writesRow record.hash (some record) write := by
          simp only [demand, hpoller, afterReply, hwrite]
          rfl
        rw [hdemand, Input.moment, state_writesRow haccepts, hlisted]
    | none =>
        simp only [afterReply, hwrite] at hpoller
        rw [row_worldAfter (demand_sweeping hpoller) (demand_poller_ne_inserts hpoller), hlisted]

/-- Whatever a sweep's registry read answers, and whether or not its cache write
is saved: the state the poller leaves in the row of the record is the merged
state, unless the record is a defaulted row that is absent from the registry. -/
theorem tick_eq_merge_iff (libs : Libraries) (serde : Serde) (node : Node) (i : ℕ)
    (tickNo : UInt32) (sweep : Sweep) (now : UInt64) (records remaining : List MembershipRecord)
    (record : MembershipRecord) (reading writing : Moment) (report : ProviderMembership)
    (hsweep : sweep = .confirm now ∨ sweep = .refresh)
    (hlisted : record ∈ workList sweep records)
    (hbody : node.bodies[i]? = some (.poller (.reading tickNo sweep record remaining)))
    (hreply : reading.membership = .ok report)
    (haccepts : acceptsRow record.hash node.world = true)
    (hrow : row record.hash node.world = record.cache) :
    (row record.hash (Run.run (step libs serde) node (answered i reading writing)).world).state =
        mergeState (some record) (registryState report) now ↔
      ¬ (Defaulted record ∧ report.registered = false) := by
  rw [state_answered hbody hreply haccepts hrow]
  exact sweptState_eq_mergeState_iff hsweep hlisted report

/-! ## A lost cache file -/

/-- The record of a defaulted row. -/
def lostRecord : MembershipRecord where
  hash := "ab"
  identity := ⟨Reference.registryId, "aa", "11", 0⟩
  cache := {}
  alloc := {}
  quarantined := false

/-- Memory as an open leaves it when the cache file is gone: one credential, and
a default row for it. -/
def lostInner : Inner where
  sealedStore := some
    { Format.SealedFile.provision Reference.params "" "" with
      credentials := (∅ : Format.StringMap Format.SealedEntry).insert "ab" ⟨lostRecord.identity, "", ""⟩ }
  storeUuid := none
  sections := ∅
  cache := (∅ : Format.StringMap CacheState).insert "ab" {}
  censusQuarantined := ∅
  keyedQuarantined := ∅
  session := none
  rawSections := ∅
  rootMacRaw := none
  lockHeld := true

/-- The poller, in the sweep of its fourth tick. -/
def lostNode : Node where
  world := { store := some (publish lostInner) }
  bodies := [.poller (.reading 4 .refresh lostRecord [])]

/-- The published record of the lost row is on the refresh list, the merge leaves
it unknown on an absent answer, and the sweep erases it. -/
theorem defaulted_row_erased :
    published lostRecord.hash lostNode.world = some lostRecord ∧
      lostRecord ∈ refreshableRecords [lostRecord] ∧
      mergeState (some lostRecord) none 0 = .unknown ∧
      (row lostRecord.hash (Run.run (step Reference.libraries sampleSerde) lostNode
        (answered 0 { membership := .ok ⟨false, .unknown, 0, 0⟩ } {})).world).state = .erased := by
  decide +kernel

def found : ProviderMembership := ⟨true, .active, 7, 100⟩

/-- A defaulted row that the registry does know. -/
theorem tick_eq_merge_iff_lostRecord :
    (row lostRecord.hash (Run.run (step Reference.libraries sampleSerde) lostNode
      (answered 0 { membership := .ok found } {})).world).state =
        mergeState (some lostRecord) (registryState found) 0 ↔
      ¬ (Defaulted lostRecord ∧ found.registered = false) :=
  have haccepts : acceptsRow lostRecord.hash lostNode.world = true := by decide +kernel
  have hrow : row lostRecord.hash lostNode.world = lostRecord.cache := by decide +kernel
  tick_eq_merge_iff Reference.libraries sampleSerde lostNode 0 4 .refresh 0 [lostRecord] []
    lostRecord { membership := .ok found } {} found (.inr rfl) (by decide) rfl rfl haccepts hrow

end LogosRln.Callers.MergedView
