import LogosRln.Callers.Interleaving
import LogosRln.Core.Run
import LogosRln.Registry.ChainSample

/-!
# What takes a membership for gone

The poller and the state read write a membership as failed or as erased when the
registry says that it is not registered.  Here the two are run against the
registry module itself, over any chain reads: a read that fails anywhere along
the way leaves the record alone, and the write follows an answer for which the
membership account was read and held no state.
-/

namespace LogosRln.Callers

open Lifecycle Provider Json RegistryId Maintenance Registry Registry.Chain Run

variable {Fr : Type}

/-! ## The queries -/

/-- What a thread asks the registry for. -/
structure Query where
  account : String
  commitmentHex : String
  deriving DecidableEq

def pollerQuery : Poller → Option Query
  | .reading _ _ record _ =>
      match parse record.identity.registryId with
      | .ok registry => some ⟨registry.account, record.identity.identityCommitment⟩
      | .error _ => none
  | _ => none

def stateReadQuery : StateRead → Option Query
  | .reading registry record => some ⟨registry.account, record.identity.identityCommitment⟩
  | _ => none

def Query.answer (lez : Module Fr) (query : Query) (observation : Observation lez.serde) :
    Except ApiError ProviderMembership :=
  providerMembership lez observation query.account query.commitmentHex

/-- The query was answered from an account without a membership. -/
def Query.Erased (lez : Module Fr) (query : Query) (observation : Observation lez.serde) : Prop :=
  ReadAsErased lez observation.bound observation.reads query.account query.commitmentHex

/-- The query was answered from a membership. -/
def Query.Present (lez : Module Fr) (query : Query) (observation : Observation lez.serde) : Prop :=
  ∃ membership nowMs leafIndex, ReadAsPresent lez observation.bound observation.reads
    query.account query.commitmentHex membership nowMs leafIndex

/-! ## A thread against the registry module -/

/-- A step's surroundings; the chain answers a step that asks. -/
structure Surrounded (serde : Serde) where
  moment : Moment
  view : View
  observation : Observation serde
  outcome : Outcome := .done

/-- A thread with the last query it made and how the chain answered it. -/
structure Watch (Thread : Type) (serde : Serde) where
  thread : Thread
  last : Option (Query × Observation serde) := none

/-- The moment in which a query, if one is made, has the chain's answer. -/
def momentOf (lez : Module Fr) (query : Option Query) (around : Surrounded lez.serde) : Moment :=
  { around.moment with
    membership := (query.map fun asked => asked.answer lez around.observation).getD
      (.error unanswered) }

def watchStep {Thread : Type} (lez : Module Fr) (query : Thread → Option Query)
    (step : Moment → View → Thread → ThreadStep Thread) (watch : Watch Thread lez.serde)
    (around : Surrounded lez.serde) : Watch Thread lez.serde × Demand :=
  let next := step (momentOf lez (query watch.thread) around) around.view watch.thread
  ({ thread := next.2 around.outcome
     last := ((query watch.thread).map fun asked => (asked, around.observation)).or watch.last },
    next.1)

/-! ## Writes that take a membership for gone -/

/-- The write can turn a row to failed or to erased. -/
def Downs (serde : Serde) (write : RowWrite) : Prop :=
  ∃ row : CacheState, (write.mutate serde row).state ≠ row.state ∧
    ((write.mutate serde row).state = .failed ∨ (write.mutate serde row).state = .erased)

/-- The last answer was about the record's membership, and found none. -/
def BackedBy (lez : Module Fr) (last : Option (Query × Observation lez.serde))
    (record : MembershipRecord) : Prop :=
  ∃ query observation, last = some (query, observation) ∧
    query.commitmentHex = record.identity.identityCommitment ∧ query.Erased lez observation

/-- A write that takes a membership for gone follows an answer that found none. -/
def Warranted (lez : Module Fr) {Thread : Type}
    (event : Event (Watch Thread lez.serde) (Surrounded lez.serde) Demand) : Prop :=
  ∀ hash announcing write, event.output = .writesRow hash announcing write →
    Downs lez.serde write →
      ∃ record, announcing = some record ∧ hash = record.hash ∧
        BackedBy lez event.before.last record

theorem not_onChain_failed : ¬ OnChain .failed := by
  rintro (h | h | h) <;> cases h

theorem not_onChain_erased : ¬ OnChain .erased := by
  rintro (h | h | h) <;> cases h

theorem not_downs_observed {serde : Serde} {state : MembershipState} {leafIndex rateLimit : UInt64}
    (honChain : OnChain state) : ¬ Downs serde (.observed state leafIndex rateLimit) := by
  rintro ⟨row, -, hfailed | herased⟩
  · change state = .failed at hfailed
    exact not_onChain_failed (hfailed ▸ honChain)
  · change state = .erased at herased
    exact not_onChain_erased (herased ▸ honChain)

theorem not_downs_merged {serde : Serde} {snapshotState mergedState : MembershipState}
    {report : ProviderMembership} (hregistered : report.registered = true)
    (honChain : OnChain mergedState) :
    ¬ Downs serde (.merged snapshotState mergedState report) := by
  rintro ⟨row, hchanged, hdown⟩
  by_cases hsnapshot : row.state = snapshotState
  · have hstate : (RowWrite.mutate serde (.merged snapshotState mergedState report) row).state =
        mergedState := by
      simp [RowWrite.mutate, persistMerged, hsnapshot, hregistered]
    rw [hstate] at hdown
    rcases hdown with rfl | rfl
    · exact not_onChain_failed honChain
    · exact not_onChain_erased honChain
  · exact hchanged (by simp [RowWrite.mutate, persistMerged, hsnapshot])

/-! ## The poller -/

/-- The write a poller is about to make is backed, if it takes the membership for
gone. -/
def PollerBacked (lez : Module Fr) (watch : Watch Poller lez.serde) : Prop :=
  match watch.thread with
  | .writing _ _ record write _ => Downs lez.serde write → BackedBy lez watch.last record
  | _ => True

/-- A write is only come to from a read. -/
theorem Poller.reading_of_step {generation : ℕ} {around : Surroundings} {poller : Poller}
    {tickNo : UInt32} {sweep : Sweep} {record : MembershipRecord} {write : RowWrite}
    {remaining : List MembershipRecord}
    (hnext : (poller.step generation around).1 = .writing tickNo sweep record write remaining) :
    poller = .reading tickNo sweep record remaining ∧
      (observe around.reply).bind (RecordUpdate.write sweep record) = some write := by
  cases poller with
  | reading tickNo sweep record remaining =>
      simp only [Poller.step] at hnext
      split at hnext
      · next hwrite =>
          cases hnext
          exact ⟨rfl, hwrite⟩
      · cases hnext
  | sweeping tickNo sweep remaining =>
      cases remaining with
      | nil =>
          cases sweep <;> simp only [Poller.step] at hnext
          · split at hnext
            · cases hnext
            · split at hnext <;> cases hnext
          · cases hnext
      | cons next remaining =>
          rw [Poller.step_sweeping_cons] at hnext
          split at hnext <;> cases hnext
  | paths tickNo remaining =>
      cases remaining with
      | nil => cases hnext
      | cons next remaining =>
          simp only [Poller.step] at hnext
          split at hnext <;> cases hnext
  | waiting tickNo =>
      simp only [Poller.step] at hnext
      split at hnext
      · cases hnext
      · split at hnext <;> cases hnext
  | ticking tickNo =>
      simp only [Poller.step] at hnext
      split at hnext
      · cases hnext
      · split at hnext <;> cases hnext
  | enteringPaths tickNo =>
      simp only [Poller.step] at hnext
      split at hnext
      · cases hnext
      · split at hnext <;> cases hnext
  | pathRead tickNo remaining =>
      simp only [Poller.step] at hnext
      split at hnext <;> cases hnext
  | writing tickNo sweep current written remaining => cases hnext
  | readingPath tickNo current remaining => cases hnext
  | exited => cases hnext

/-- What an answer lets a sweep write. -/
theorem backed_of_answer {lez : Module Fr} (hserde : Lawful lez.serde) {query : Query}
    {observation : Observation lez.serde} {sweep : Sweep} {record : MembershipRecord}
    {write : RowWrite} (hrecord : query.commitmentHex = record.identity.identityCommitment)
    (hwrite : (observe (query.answer lez observation)).bind (RecordUpdate.write sweep record) =
      some write) (hdowns : Downs lez.serde write) :
    BackedBy lez (some (query, observation)) record := by
  obtain ⟨update, hupdate, hwrite⟩ := Option.bind_eq_some_iff.mp hwrite
  cases hanswer : query.answer lez observation with
  | error error => simp [hanswer, observe] at hupdate
  | ok report =>
      obtain ⟨-, -, ⟨-, herased⟩ | ⟨hregistered, honChain, -⟩⟩ :=
        providerMembership_ok hserde hanswer
      · exact ⟨query, observation, rfl, hrecord, herased⟩
      · simp only [hanswer, observe, hregistered, if_true, Option.some.injEq] at hupdate
        subst hupdate
        obtain rfl := Option.some.inj hwrite
        exact absurd hdowns (not_downs_observed honChain)

theorem pollerBacked_step {lez : Module Fr} (hserde : Lawful lez.serde) (generation : ℕ)
    (watch : Watch Poller lez.serde) (around : Surrounded lez.serde) :
    PollerBacked lez (watchStep lez pollerQuery (pollerStep generation) watch around).1 := by
  have hthread : (watchStep lez pollerQuery (pollerStep generation) watch around).1.thread =
      (watch.thread.step generation ((momentOf lez (pollerQuery watch.thread) around).surroundings
        around.view)).1 := rfl
  rw [PollerBacked, hthread]
  cases hnext : (watch.thread.step generation ((momentOf lez (pollerQuery watch.thread)
      around).surroundings around.view)).1 with
  | writing tickNo sweep record write remaining =>
      intro hdowns
      obtain ⟨hreading, hwrite⟩ := Poller.reading_of_step hnext
      have hreply : ((momentOf lez (pollerQuery watch.thread) around).surroundings
          around.view).reply = ((pollerQuery watch.thread).map fun asked =>
            asked.answer lez around.observation).getD (.error unanswered) := rfl
      rw [hreply, hreading] at hwrite
      simp only [watchStep, hreading]
      cases hparsed : parse record.identity.registryId with
      | error error => simp [pollerQuery, hparsed, observe] at hwrite
      | ok registry =>
          simp only [pollerQuery, hparsed, Option.map_some, Option.getD_some] at hwrite
          simp only [pollerQuery, hparsed, Option.map_some, Option.some_or]
          exact backed_of_answer hserde rfl hwrite hdowns
  | _ => trivial

theorem pollerBacked_warranted {lez : Module Fr} (generation : ℕ)
    (watch : Watch Poller lez.serde) (around : Surrounded lez.serde)
    (hbacked : PollerBacked lez watch) :
    Warranted lez ⟨watch, around,
      (watchStep lez pollerQuery (pollerStep generation) watch around).2⟩ := by
  intro hash announcing write houtput hdowns
  change demandOf (watch.thread.step generation _).2 = _ at houtput
  cases haction : (watch.thread.step generation ((momentOf lez (pollerQuery watch.thread)
      around).surroundings around.view)).2 with
  | none => rw [haction] at houtput; cases houtput
  | some action =>
      rw [haction] at houtput
      cases action with
      | readsRegistry record => cases houtput
      | writesRow record written =>
          cases houtput
          obtain ⟨tickNo, sweep, remaining, hwriting⟩ := Poller.writing_of_step haction
          rw [PollerBacked, hwriting] at hbacked
          exact ⟨record, rfl, rfl, hbacked hdowns⟩

/-! ## The state read -/

def StateReadBacked (lez : Module Fr) (watch : Watch StateRead lez.serde) : Prop :=
  match watch.thread with
  | .persisting _ record mergedState report =>
      Downs lez.serde (.merged record.cache.state mergedState report) →
        BackedBy lez watch.last record
  | _ => True

theorem stateReadBacked_step {lez : Module Fr} (hserde : Lawful lez.serde)
    (watch : Watch StateRead lez.serde) (around : Surrounded lez.serde) :
    StateReadBacked lez (watchStep lez stateReadQuery StateRead.step watch around).1 := by
  obtain ⟨thread, last⟩ := watch
  cases thread with
  | entering registryIdRaw rlnIdentifierHex =>
      simp only [StateReadBacked, watchStep, StateRead.step]
      cases htarget : stateReadTarget registryIdRaw rlnIdentifierHex around.view.records with
      | error error => trivial
      | ok target =>
          obtain ⟨registry, record⟩ := target
          cases record <;> trivial
  | persisting registry record mergedState report => trivial
  | answered reply => trivial
  | reading registry record =>
      simp only [StateReadBacked, watchStep, StateRead.step, stateReadQuery, momentOf,
        Option.map_some, Option.getD_some]
      cases hanswer : Query.answer lez
          ⟨registry.account, record.identity.identityCommitment⟩ around.observation with
      | error error => trivial
      | ok report =>
          by_cases hchanged : mergeState (some record) (registryState report) around.moment.now ≠
              record.cache.state
          · simp only [hchanged, if_true, goesTo, ne_eq, not_false_eq_true]
            intro hdowns
            obtain ⟨-, -, ⟨-, herased⟩ | ⟨hregistered, honChain, -⟩⟩ :=
              providerMembership_ok hserde hanswer
            · exact ⟨_, _, rfl, rfl, herased⟩
            · have hmerged : mergeState (some record) (registryState report)
                  around.moment.now = report.state := by
                simp [mergeState, registryState, hregistered]
              rw [hmerged] at hdowns
              exact absurd hdowns (not_downs_merged hregistered honChain)
          · simp only [hchanged, if_false]
            trivial

theorem stateReadBacked_warranted {lez : Module Fr} (watch : Watch StateRead lez.serde)
    (around : Surrounded lez.serde) (hbacked : StateReadBacked lez watch) :
    Warranted lez ⟨watch, around,
      (watchStep lez stateReadQuery StateRead.step watch around).2⟩ := by
  intro hash announcing write houtput hdowns
  obtain ⟨thread, last⟩ := watch
  cases thread with
  | entering registryIdRaw rlnIdentifierHex =>
      simp only [watchStep, StateRead.step] at houtput
      split at houtput <;> cases houtput
  | reading registry record =>
      simp only [watchStep, StateRead.step] at houtput
      split at houtput
      · cases houtput
      · split at houtput <;> cases houtput
  | answered reply => cases houtput
  | persisting registry record mergedState report =>
      cases houtput
      exact ⟨record, rfl, rfl, hbacked hdowns⟩

/-! ## Both -/

/-- Something failed along the way: the network check, a read of the chain, the
sibling's reply. -/
def Query.Failed (lez : Module Fr) (query : Query) (observation : Observation lez.serde) : Prop :=
  observation.network ≠ .ok () ∨ observation.delivery ≠ .intact ∨
    ¬ query.Erased lez observation ∧ ¬ query.Present lez observation

theorem answer_of_failed {lez : Module Fr} (hserde : Lawful lez.serde) {query : Query}
    {observation : Observation lez.serde} (hfailed : query.Failed lez observation) :
    ∃ error, query.answer lez observation = .error error := by
  cases hanswer : query.answer lez observation with
  | error error => exact ⟨error, rfl⟩
  | ok report =>
      obtain ⟨hnetwork, hdelivery, hread⟩ := providerMembership_ok hserde hanswer
      exfalso
      rcases hfailed with hnetwork' | hdelivery' | ⟨herased, hpresent⟩
      · exact hnetwork' hnetwork
      · exact hdelivery' hdelivery
      · rcases hread with ⟨-, hread⟩ | ⟨-, -, hread⟩
        · exact herased hread
        · exact hpresent hread

/-- A read that fails anywhere makes neither the poller nor the state read write,
and over any run either writes a record as failed or as erased only after an
answer for which the record's membership account was read and held no state. -/
theorem removals_only_after_absence (lez : Module Fr) (hserde : Lawful lez.serde)
    (generation : ℕ) :
    (∀ (around : Surrounded lez.serde) tickNo sweep record remaining last query,
      pollerQuery (.reading tickNo sweep record remaining) = some query →
      query.Failed lez around.observation →
      (watchStep lez pollerQuery (pollerStep generation)
          ⟨.reading tickNo sweep record remaining, last⟩ around).1.thread =
        .sweeping tickNo sweep remaining ∧
      (watchStep lez pollerQuery (pollerStep generation)
          ⟨.reading tickNo sweep record remaining, last⟩ around).2 = .nothing) ∧
    (∀ (around : Surrounded lez.serde) registry record last query,
      stateReadQuery (.reading registry record) = some query →
      query.Failed lez around.observation →
      (∃ error, (watchStep lez stateReadQuery StateRead.step
          ⟨.reading registry record, last⟩ around).1.thread = .answered (.error error)) ∧
      (watchStep lez stateReadQuery StateRead.step
          ⟨.reading registry record, last⟩ around).2 = .nothing) ∧
    (∀ tickNo inputs,
      ∀ event ∈ trace (watchStep lez pollerQuery (pollerStep generation)) ⟨.waiting tickNo, none⟩
        inputs, Warranted lez event) ∧
    ∀ registryIdRaw rlnIdentifierHex inputs,
      ∀ event ∈ trace (watchStep lez stateReadQuery StateRead.step)
        ⟨.entering registryIdRaw rlnIdentifierHex, none⟩ inputs, Warranted lez event := by
  refine ⟨?_, ?_, fun tickNo inputs => ?_, fun registryIdRaw rlnIdentifierHex inputs => ?_⟩
  · intro around tickNo sweep record remaining last query hquery hfailed
    obtain ⟨error, herror⟩ := answer_of_failed hserde hfailed
    simp [watchStep, pollerStep, momentOf, hquery, Poller.step, Moment.surroundings, herror,
      observe, demandOf]
  · intro around registry record last query hquery hfailed
    obtain ⟨error, herror⟩ := answer_of_failed hserde hfailed
    simp [watchStep, momentOf, hquery, StateRead.step, herror, goesTo]
  · exact @trace_forall _ _ _ _ (fun _ _ => True) (PollerBacked lez) (Warranted lez)
      (fun watch around _ _ => pollerBacked_step hserde generation watch around)
      (fun watch around hbacked _ => pollerBacked_warranted generation watch around hbacked)
      _ inputs trivial (guarded_true _ _)
  · exact @trace_forall _ _ _ _ (fun _ _ => True) (StateReadBacked lez) (Warranted lez)
      (fun watch around _ _ => stateReadBacked_step hserde watch around)
      (fun watch around hbacked _ => stateReadBacked_warranted watch around hbacked)
      _ inputs trivial (guarded_true _ _)

/-! ## A wallet that answers nothing -/

theorem resolveConfigContext_silent (serde : Serde) (layouts : Layouts) (networks : List Network)
    (bound : Option String) (configAccountId : String) :
    resolveConfigContext serde layouts networks bound (fun _ => "") configAccountId = none := by
  simp only [resolveConfigContext, configContext, fetchShards, if_true]
  split
  · rfl
  · split <;> rfl

namespace Silent

def reads : MembershipReads :=
  ⟨fun _ => "", fun _ => "", fun _ => "", fun _ => "", fun _ => ""⟩

def registry : CanonicalRegistryId := ⟨"logos", "1", "00", "logos:1:00"⟩

def record : MembershipRecord where
  hash := "a1"
  identity := ⟨"logos:1:00", "aa", "11", 0⟩
  cache := { state := .active, rateLimit := some 100 }
  alloc := {}
  quarantined := false

def around : Surrounded ChainSample.lez.serde where
  moment := {}
  view := ⟨{}, false, none, ∅, 0, fun _ => none⟩
  observation := { reads }

def asked : Query := ⟨registry.account, record.identity.identityCommitment⟩

theorem failed : asked.Failed ChainSample.lez around.observation := by
  refine .inr (.inr ⟨?_, ?_⟩)
  · rintro ⟨_, ctx, _, -, hctx, -⟩
    rw [show around.observation.reads.config = fun _ => "" from rfl,
      resolveConfigContext_silent] at hctx
    cases hctx
  · rintro ⟨_, _, _, _, ctx, _, _, -, hctx, -⟩
    rw [show around.observation.reads.config = fun _ => "" from rfl,
      resolveConfigContext_silent] at hctx
    cases hctx

end Silent

/-- A state read of an active membership that gets no answer writes nothing. -/
theorem removals_only_after_absence_silent :
    (watchStep ChainSample.lez stateReadQuery StateRead.step
      ⟨.reading Silent.registry Silent.record, none⟩ Silent.around).2 = .nothing :=
  ((removals_only_after_absence ChainSample.lez ChainSample.serde_lawful 1).2.1 Silent.around
    Silent.registry Silent.record none Silent.asked rfl Silent.failed).2

end LogosRln.Callers
