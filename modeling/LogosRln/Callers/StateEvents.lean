import LogosRln.Callers.Interleaving

/-!
# Announcing the changes of a membership's state

The poller and the state read announce a change under the state the row had in
memory.  A cache write that fails has changed the row in memory and published
nothing, so the next write that lands publishes a change it does not announce.
-/

namespace LogosRln.Callers.StateEvents

open LogosRln.Lifecycle Provider Json RegistryId Maintenance SealedStore Run

variable {libs : Libraries} {serde : Serde}

/-! ## Writes of the two observers -/

/-- The writes of the poller and of the state read. -/
def isObservation : RowWrite → Bool
  | .observed _ _ _ | .windowElapsed | .removed | .merged _ _ _ => true
  | .fundedSubmit _ | .delegatedSubmit _ | .submitFailed _ => false

/-- An observer announces the change its write makes to the row. -/
theorem event_of_observation {write : RowWrite} (hwrite : isObservation write = true)
    (record : MembershipRecord) (row : CacheState) :
    write.event record row.state =
      transitionEvent record.hash record row.state (write.mutate serde row).state := by
  cases write with
  | observed state leafIndex rateLimit => rfl
  | windowElapsed => rfl
  | removed => rfl
  | merged snapshotState mergedState report =>
      by_cases hsame : row.state = snapshotState
      · have hstate : (persistMerged snapshotState mergedState report row).state = mergedState := by
          simp only [persistMerged, hsame, ne_eq, not_true_eq_false, if_false]
          split
          · rfl
          · split
            · rfl
            · split <;> rfl
        simp only [RowWrite.event, RowWrite.announces, RowWrite.mutate, if_pos hsame, hstate,
          Option.bind_some]
      · simp [RowWrite.event, RowWrite.announces, RowWrite.mutate, persistMerged, hsame,
          transitionEvent]
  | _ => cases hwrite

theorem isObservation_of_update {sweep : Sweep} {record : MembershipRecord}
    {update : RecordUpdate} {write : RowWrite}
    (hupdate : RecordUpdate.write sweep record update = some write) :
    isObservation write = true := by
  cases update with
  | observed => cases hupdate; rfl
  | absent =>
      cases sweep with
      | refresh => cases hupdate; rfl
      | confirm now =>
          simp only [RecordUpdate.write] at hupdate
          split at hupdate
          · cases hupdate
            rfl
          · cases hupdate

/-- A write that is announced is an observer's, made to the record it was read
from. -/
theorem observation_of_announcing {node : Node} {input : Input} {hash : String}
    {record : MembershipRecord} {write : RowWrite} (hnode : Meant node)
    (hdemand : demand libs serde node input = .writesRow hash (some record) write) :
    record.hash = hash ∧ isObservation write = true := by
  rcases demand_writesRow hdemand with
    ⟨i, moment, tickNo, sweep, written, remaining, -, hbody, hhash, hrecord⟩ |
    ⟨i, moment, registry, written, mergedState, report, -, -, hhash, hrecord, hwrite⟩ |
    ⟨_, _, _, _, -, -, hnone, -⟩ | ⟨_, -, -, hnone⟩
  · obtain rfl := Option.some.inj hrecord
    obtain ⟨update, hupdate⟩ := hnode.bodies _ (List.mem_of_getElem? hbody)
    exact ⟨hhash, isObservation_of_update hupdate⟩
  · obtain rfl := Option.some.inj hrecord
    subst hwrite
    exact ⟨hhash, rfl⟩
  · cases hnone
  · cases hnone

/-! ## What is published, and what is announced -/

/-- The published state of a membership. -/
def publishedState (hash : String) (world : World) : Option MembershipState :=
  (published hash world).map fun record => record.cache.state

/-- The event about a membership, as its state and the previous one. -/
def announced (hash : String) (report : Report) : Option (String × String) :=
  (report.event.filter fun changed => changed.membershipHash = hash).map fun changed =>
    (changed.state, changed.previous)

/-- A step of the poller or of a state read that writes a row. -/
def observes (libs : Libraries) (serde : Serde) (node : Node) (input : Input) : Bool :=
  match demand libs serde node input with
  | .writesRow _ (some _) _ => true
  | _ => false

/-- The cache write of such a step reaches the disk. -/
def lands (libs : Libraries) (serde : Serde) (node : Node) (input : Input) : Bool :=
  match demand libs serde node input with
  | .writesRow written (some _) _ =>
      acceptsRow written node.world && decide (input.moment.cacheWrite = .ok)
  | _ => false

/-- The events of a step about a membership: one for a change that an observer
publishes, none for another, and none for a change that was not stored. -/
structure Announced (libs : Libraries) (serde : Serde) (hash : String)
    (event : Event Node Input Report) : Prop where
  exact : observes libs serde event.before event.input = true →
    ∀ prior state, publishedState hash event.before.world = some prior →
      publishedState hash (step libs serde event.before event.input).1.world = some state →
      announced hash event.output =
        if state = prior then none else some (state.wire, prior.wire)
  stored : ∀ changed ∈ event.output.event, changed.membershipHash = hash →
    changed.state ≠ changed.previous ∧
      (publishedState hash (step libs serde event.before event.input).1.world).map
        MembershipState.wire = some changed.state

/-- A cache write of the observers reaches the disk only while the membership is
published in the state its row has in memory. -/
def LandsInStep (libs : Libraries) (serde : Serde) (hash : String) (node : Node)
    (input : Input) : Prop :=
  lands libs serde node input = true → acceptsRow hash node.world = true →
    ∀ prior ∈ publishedState hash node.world, prior = (row hash node.world).state

/-! ## What one step publishes and announces -/

theorem step_of_writesRow {node : Node} {input : Input} {written : String}
    {announcing : Option MembershipRecord} {write : RowWrite}
    (hdemand : demand libs serde node input = .writesRow written announcing write) :
    (step libs serde node input).1.world =
        (SealedStore.step libs node.world (writeOp serde input.moment written write)).1 ∧
      (step libs serde node input).2.event = announcement announcing write
        (SealedStore.step libs node.world (writeOp serde input.moment written write)).2 := by
  rcases @step_world libs serde node input with ⟨op, rfl, -⟩ | ⟨hworld, hreport⟩
  · cases hdemand
  · rw [hworld, hreport, hdemand]
    exact ⟨rfl, rfl⟩

/-- A step that writes no row for an observer emits nothing. -/
theorem event_of_not_observes {node : Node} {input : Input}
    (hobserves : observes libs serde node input = false) :
    (step libs serde node input).2.event = none := by
  rcases @step_world libs serde node input with ⟨op, -, -, hreport⟩ | ⟨-, hreport⟩
  · rw [hreport]
  · rw [hreport]
    cases hdemand : demand libs serde node input with
    | writesRow written announcing write =>
        cases announcing with
        | some record => simp [observes, hdemand] at hobserves
        | none =>
            simp only [reportAfter, announcement]
            split <;> rfl
    | _ => rfl

/-- A step of an observer publishes and announces nothing, or publishes every
row and announces the change it made to its own. -/
theorem step_of_observes {node : Node} {input : Input} {written : String}
    {record : MembershipRecord} {write : RowWrite} (hnode : Meant node)
    (hdemand : demand libs serde node input = .writesRow written (some record) write) :
    (lands libs serde node input = false ∧ (step libs serde node input).2.event = none ∧
      ∀ other, published other (step libs serde node input).1.world =
        published other node.world) ∨
    (lands libs serde node input = true ∧
      (step libs serde node input).2.event =
        transitionEvent written record (row written node.world).state
          (write.mutate serde (row written node.world)).state ∧
      ∀ other, publishedState other (step libs serde node input).1.world =
        if acceptsRow other node.world then
          some (if other = written then (write.mutate serde (row written node.world)).state
            else (row other node.world).state)
        else none) := by
  obtain ⟨hhash, hwrite⟩ := observation_of_announcing hnode hdemand
  obtain ⟨hworld, hevent⟩ := step_of_writesRow hdemand
  rw [hworld, hevent]
  have heffect := @updateCache_effect libs node.world written (write.mutate serde)
    input.moment.now input.moment.cacheWrite
  have hlisted : acceptsRow written node.world = true → input.moment.cacheWrite = .ok →
      ∀ other, (published other (SealedStore.step libs node.world
        (writeOp serde input.moment written write)).1).isSome = acceptsRow other node.world := by
    intro haccepts hok
    simp only [writeOp, hok]
    exact isSome_published_updateCache haccepts _ _
  simp only [lands, hdemand, writeOp] at hlisted ⊢
  generalize input.moment.cacheWrite = outcome at heffect hlisted ⊢
  generalize SealedStore.step libs node.world _ = stored at heffect hlisted ⊢
  obtain ⟨world', answer⟩ := stored
  cases heffect with
  | refused error hrefused =>
      left
      simp [hrefused, announcement]
  | unsaved error haccepts hfailed hrows hpublished =>
      left
      simp [hfailed, announcement, hpublished]
  | saved hprior haccepts hrows hpublished =>
      right
      refine ⟨by simp [haccepts], ?_, fun other => ?_⟩
      · simp only [announcement, Option.bind_some, hprior]
        rw [@event_of_observation serde write hwrite, hhash]
      · have hisSome := hlisted haccepts rfl other
        cases hother : published other world' with
        | none =>
            rw [hother] at hisSome
            simp [publishedState, hother, ← hisSome]
        | some current =>
            rw [hother] at hisSome
            have hstate := (hpublished other current hother).2
            rw [hrows] at hstate
            simp only [publishedState, hother, Option.map_some, ← hisSome, Option.isSome_some,
              if_true, Option.some.injEq, hstate]
            split
            · exact state_observeRow _ _ _
            · rfl

/-- The announcement of a change between two states. -/
theorem announced_transitionEvent {hash written : String} {record : MembershipRecord}
    {prior state : MembershipState} {report : Report}
    (hevent : report.event = transitionEvent written record prior state) :
    announced hash report =
      if written = hash ∧ state ≠ prior then some (state.wire, prior.wire) else none := by
  simp only [announced, hevent, transitionEvent]
  by_cases hstate : state = prior
  · simp [hstate]
  · by_cases hsame : written = hash
    · simp [hstate, hsame]
    · simp [hstate, hsame]

/-- An event that is emitted is of a change that was stored. -/
theorem stored_step {node : Node} {input : Input} {hash : String} {changed : StateChanged}
    (hnode : Meant node) (hchanged : (step libs serde node input).2.event = some changed)
    (hhash : changed.membershipHash = hash) :
    changed.state ≠ changed.previous ∧
      (publishedState hash (step libs serde node input).1.world).map MembershipState.wire =
        some changed.state := by
  cases hobserves : observes libs serde node input with
  | false =>
      rw [event_of_not_observes hobserves] at hchanged
      cases hchanged
  | true =>
      simp only [observes] at hobserves
      split at hobserves
      · rename_i written record write hdemand
        rcases step_of_observes hnode hdemand with ⟨-, hnone, -⟩ | ⟨hlands, hevent, hpublished⟩
        · rw [hnone] at hchanged
          cases hchanged
        · rw [hevent] at hchanged
          simp only [transitionEvent] at hchanged
          split at hchanged
          · cases hchanged
          · rename_i hdiffers
            cases hchanged
            simp only at hhash
            subst hhash
            have haccepts : acceptsRow written node.world = true := by
              simp only [lands, hdemand, Bool.and_eq_true] at hlands
              exact hlands.1
            refine ⟨fun hwire => hdiffers (MembershipState.wire_injective hwire), ?_⟩
            rw [hpublished written, if_pos haccepts, if_pos rfl, Option.map_some]
      · cases hobserves

/-- A step announces as it should exactly when its cache write, if it reaches
the disk, finds the row in the published state. -/
theorem announced_iff {node : Node} {input : Input} {hash : String} (hnode : Meant node) :
    Announced libs serde hash ⟨node, input, (step libs serde node input).2⟩ ↔
      LandsInStep libs serde hash node input := by
  constructor
  · rintro ⟨hexact, -⟩ hlands haccepts prior hprior
    simp only [lands] at hlands
    split at hlands
    · rename_i written record write hdemand
      have hobserves : observes libs serde node input = true := by simp [observes, hdemand]
      rcases step_of_observes hnode hdemand with ⟨hnot, -⟩ | ⟨-, hevent, hpublished⟩
      · simp only [lands, hdemand, hlands] at hnot
        cases hnot
      · have hafter := hpublished hash
        rw [if_pos haccepts] at hafter
        have hemitted := hexact hobserves prior _ hprior hafter
        rw [announced_transitionEvent hevent] at hemitted
        by_cases hsame : hash = written
        · subst hsame
          simp only [if_true, true_and, ne_eq, ite_not] at hemitted
          by_cases hunchanged :
              (write.mutate serde (row hash node.world)).state = (row hash node.world).state
          · rw [if_pos hunchanged] at hemitted
            split at hemitted
            · rename_i hrepeats
              rw [← hrepeats, hunchanged]
            · cases hemitted
          · rw [if_neg hunchanged] at hemitted
            split at hemitted
            · cases hemitted
            · simp only [Option.some.injEq, Prod.mk.injEq, true_and] at hemitted
              exact (MembershipState.wire_injective hemitted).symm
        · rw [if_neg fun hboth => hsame hboth.1.symm, if_neg hsame] at hemitted
          split at hemitted
          · rename_i hrepeats
            exact hrepeats.symm
          · cases hemitted
    · cases hlands
  · intro hinstep
    refine ⟨?_, fun changed hchanged hhash => stored_step hnode hchanged hhash⟩
    intro hobserves prior state hprior hafter
    simp only [observes] at hobserves
    split at hobserves
    · rename_i written record write hdemand
      rcases step_of_observes hnode hdemand with ⟨-, hnone, hkept⟩ | ⟨hlands, hevent, hpublished⟩
      · simp only [publishedState, hkept] at hafter hprior
        obtain rfl := Option.some.inj (hafter.symm.trans hprior)
        simp [announced, hnone]
      · simp only [hpublished hash] at hafter
        split at hafter
        · rename_i haccepts
          obtain rfl := hinstep hlands haccepts prior hprior
          rw [announced_transitionEvent hevent, ← Option.some.inj hafter]
          by_cases hsame : hash = written
          · subst hsame
            simp
          · simp [hsame, Ne.symm hsame]
        · cases hafter
    · cases hobserves

/-! ## What keeps a row published -/

/-- The membership is published in the state its row has in memory. -/
def InStep (hash : String) (world : World) : Prop :=
  ∀ prior ∈ publishedState hash world, prior = (row hash world).state

/-- A cache write that fails leaves the state of the row as it was. -/
def FailsFaithfully (libs : Libraries) (serde : Serde) (hash : String) (node : Node)
    (input : Input) : Prop :=
  ∀ write ∈ writesTo libs serde hash node input, input.moment.cacheWrite ≠ .ok →
    (write.mutate serde (row hash node.world)).state = (row hash node.world).state

theorem inStep_of_published {hash : String} {world : World}
    (hpublished : ∀ record, published hash world = some record →
      record.cache = row hash world) : InStep hash world := by
  intro prior hprior
  obtain ⟨record, hrecord, rfl⟩ := Option.map_eq_some_iff.mp hprior
  rw [hpublished record hrecord]

/-- Only a failed write that changes the state puts memory and publication
apart. -/
theorem inStep_step {node : Node} {input : Input} {hash : String}
    (hnode : InStep hash node.world) (hkeeps : KeepsRow libs serde hash node input)
    (hfaithful : FailsFaithfully libs serde hash node input) :
    InStep hash (step libs serde node input).1.world := by
  have hrow := row_step hkeeps
  rcases @step_world libs serde node input with ⟨op, hop, -⟩ | ⟨hworld, -⟩
  · rw [hop] at hkeeps
    cases hkeeps.1
  · cases hdemand : demand libs serde node input with
    | inserts registration =>
        simp only [writesTo, hdemand] at hrow
        simp only [hworld, hdemand, worldAfter, insertOp] at hrow ⊢
        rcases @published_insert libs node.world registration input.moment.nonce
            input.moment.insertWrites with hkept | hpublished
        · simpa only [InStep, publishedState, hkept, hrow] using hnode
        · exact inStep_of_published (hpublished hash)
    | writesRow written announcing write =>
        have heffect := @updateCache_effect libs node.world written (write.mutate serde)
          input.moment.now input.moment.cacheWrite
        simp only [writesTo, hdemand] at hrow
        simp only [FailsFaithfully, writesTo, hdemand] at hfaithful
        simp only [hworld, hdemand, worldAfter, writeOp] at hrow ⊢
        generalize input.moment.cacheWrite = outcome at heffect hrow hfaithful ⊢
        generalize SealedStore.step libs node.world _ = stored at heffect hrow ⊢
        obtain ⟨world', answer⟩ := stored
        cases heffect with
        | refused => exact hnode
        | unsaved error haccepts hfailed hrows hpublished =>
            have hstate : (row hash world').state = (row hash node.world).state := by
              simp only at hrow
              by_cases hwrites : written = hash ∧ acceptsRow hash node.world = true
              · rw [if_pos hwrites] at hrow hfaithful
                rw [hrow, state_observeRow]
                exact hfaithful write rfl hfailed
              · rw [if_neg hwrites] at hrow
                rw [hrow]
            intro prior hprior
            simp only [publishedState, hpublished] at hprior
            rw [hstate]
            exact hnode prior hprior
        | saved hprior haccepts hrows hpublished =>
            exact inStep_of_published fun record hrecord => (hpublished hash record hrecord).2
    | _ => simpa only [hworld, hdemand, worldAfter] using hnode

/-- From a membership published as its row is, a run of the callers whose failed
writes leave its state as it was has every write land in step. -/
theorem landsInStep_of_faithful {hash : String} {node : Node} {inputs : List Input}
    (hnode : InStep hash node.world)
    (hguard : Guarded (step libs serde) (fun node input =>
      KeepsRow libs serde hash node input ∧ FailsFaithfully libs serde hash node input)
      node inputs) :
    Guarded (step libs serde) (LandsInStep libs serde hash) node inputs := by
  induction inputs generalizing node with
  | nil => trivial
  | cons input inputs ih =>
      obtain ⟨⟨hkeeps, hfaithful⟩, hrest⟩ := hguard
      exact ⟨fun _ _ => hnode, ih (inStep_step hnode hkeeps hfaithful) hrest⟩

/-! ## Main result -/

/-- In every run of the whole module, the events about a membership are exact
just when every cache write of the poller and the state reads that reaches the
disk finds the membership published in the state its row has in memory. -/
theorem state_changes_announced (libs : Libraries) (serde : Serde) (world : World)
    (inputs : List Input) (hash : String) :
    (∀ event ∈ trace (step libs serde) { world } inputs, Announced libs serde hash event) ↔
      Guarded (step libs serde) (LandsInStep libs serde hash) { world } inputs :=
  trace_forall_iff (fun node input hnode => meant_step node input hnode)
    (fun _ _ hnode => announced_iff hnode) (meant_initial world)

/-! ## A change nobody announces -/

/-- The poller confirms the membership and its cache write fails; the state read
that follows merges the same change and loses to the row in memory, but its
cache write lands. -/
def unsavedInputs : List Input :=
  startedInputs ++ pollsInputs 1000 ++
    [.body 0 { membership := .ok ⟨true, .active, 9, 100⟩ },
      .body 0 { cacheWrite := .failed false "disk full" },
      .getMembershipState Reference.registryId zeros, .call 0 {},
      .call 0 { membership := .ok ⟨true, .active, 9, 100⟩ }]

theorem change_published_unannounced :
    let node := run (step Reference.libraries sampleSerde) {} unsavedInputs
    let next := step Reference.libraries sampleSerde node (.call 0 {})
    observes Reference.libraries sampleSerde node (.call 0 {}) = true ∧
      publishedState "ab" node.world = some .pending ∧
      publishedState "ab" next.1.world = some .active ∧ announced "ab" next.2 = none := by
  decide +kernel

end LogosRln.Callers.StateEvents
