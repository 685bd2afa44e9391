import LogosRln.Callers.Interleaving

/-!
# A confirmed membership stays confirmed

The late submit errors and the state read look at the row's state under the
lock, so none of them turns a confirmed membership into a pending or failed one.
The poller writes whatever it decided on before its registry read returned.
-/

namespace LogosRln.Callers.Confirmed

open LogosRln.Lifecycle Provider Json RegistryId Maintenance SealedStore Run

variable {libs : Libraries} {serde : Serde}

/-- Neither pending nor failed. -/
def Settled (state : MembershipState) : Prop := state ≠ .pending ∧ state ≠ .failed

instance (state : MembershipState) : Decidable (Settled state) := inferInstanceAs (Decidable (_ ∧ _))

theorem settled_of_isActiveLike {state : MembershipState} (hstate : state.isActiveLike = true) :
    Settled state := by
  cases state <;> simp [MembershipState.isActiveLike, Settled] at hstate ⊢

/-! ## What a write does to a settled row -/

/-- A registered reply states neither pending nor failed, and the passing of the
confirmation window is written to a row that is still pending. -/
def Spares (row : CacheState) : RowWrite → Prop
  | .observed state _ _ => Settled state
  | .windowElapsed => row.state = .pending
  | .merged _ _ report => report.registered = true → Settled report.state
  | .submitFailed _ => False
  | .removed | .fundedSubmit _ | .delegatedSubmit _ => True

instance (row : CacheState) : ∀ write, Decidable (Spares row write)
  | .observed state _ _ => inferInstanceAs (Decidable (Settled state))
  | .windowElapsed => inferInstanceAs (Decidable (row.state = .pending))
  | .merged _ _ report => inferInstanceAs (Decidable (report.registered = true → Settled report.state))
  | .submitFailed _ => isFalse id
  | .removed | .fundedSubmit _ | .delegatedSubmit _ => isTrue trivial

theorem recordAsyncSubmitError_of_settled {row : CacheState} (hrow : Settled row.state)
    (message : String) (retryable : Bool) :
    row.recordAsyncSubmitError message retryable = row :=
  if_pos (.inl hrow.1)

/-- Without a report the merge fails only a record that was pending. -/
theorem mergeState_absent {record : MembershipRecord} {now : UInt64} {state : MembershipState}
    (hmerged : state = mergeState (some record) none now) (hchanged : state ≠ record.cache.state)
    (hstate : ¬ Settled state) : record.cache.state = .pending := by
  by_contra hpending
  apply hstate
  simp only [mergeState, if_neg hpending] at hmerged
  split at hmerged
  · simp [hmerged, Settled]
  · exact absurd hmerged hchanged

theorem settled_fundedSubmitCallback {row : CacheState} (hrow : Settled row.state)
    (result : Except ApiError String) :
    Settled (fundedSubmitCallback serde result row).state := by
  simp only [fundedSubmitCallback]
  split
  · split
    · rwa [recordAsyncSubmitError_of_settled hrow]
    · exact hrow
  · rwa [recordAsyncSubmitError_of_settled hrow]

theorem settled_delegatedSubmitCallback {row : CacheState} (hrow : Settled row.state)
    (result : Except ApiError String) :
    Settled (delegatedSubmitCallback serde result row).state := by
  simp only [delegatedSubmitCallback]
  split
  · split
    · exact hrow
    · split
      · rw [if_neg hrow.1]
        exact hrow
      · exact hrow
  · rwa [recordAsyncSubmitError_of_settled hrow]

theorem settled_persistMerged {row : CacheState} (hrow : Settled row.state)
    {snapshotState mergedState : MembershipState} {report : ProviderMembership}
    (hmerged : row.state = snapshotState → Settled mergedState) :
    Settled (persistMerged snapshotState mergedState report row).state := by
  simp only [persistMerged]
  split
  · exact hrow
  · rename_i hsame
    have hsettled := hmerged (not_not.mp hsame)
    split
    · exact hsettled
    · split
      · exact hsettled
      · split <;> exact hsettled

/-- What a step writes to a settled row leaves it settled. -/
theorem settled_demand {node : Node} {input : Input} {hash : String}
    {announcing : Option MembershipRecord} {write : RowWrite} (hnode : Meant node)
    (hdemand : demand libs serde node input = .writesRow hash announcing write)
    (hrow : Settled (row hash node.world).state) (hspares : Spares (row hash node.world) write) :
    Settled (write.mutate serde (row hash node.world)).state := by
  cases write with
  | observed state leafIndex rateLimit => exact hspares
  | windowElapsed => exact absurd hspares hrow.1
  | removed => simp [RowWrite.mutate, removedFromRegistry, Settled]
  | fundedSubmit result => exact settled_fundedSubmitCallback hrow result
  | delegatedSubmit result => exact settled_delegatedSubmitCallback hrow result
  | submitFailed error => exact hspares.elim
  | merged snapshotState mergedState report =>
      refine settled_persistMerged hrow fun hsame => ?_
      obtain ⟨record, rfl, hchanged, now, hmerge⟩ := hnode.merged hdemand
      cases hregistered : report.registered with
      | true =>
          have hreported := hspares hregistered
          simp only [registryState, hregistered, if_true, mergeState] at hmerge
          rwa [hmerge]
      | false =>
          simp only [registryState, hregistered, Bool.false_eq_true, if_false] at hmerge
          by_contra hunsettled
          have hpending := mergeState_absent hmerge hchanged hunsettled
          exact absurd (hsame.trans hpending) hrow.1

/-! ## Main result -/

/-- A demand leaves the membership unregistered anew and its row spared. -/
def DemandSpares (hash : String) (world : World) : Demand → Prop
  | .inserts registration => registration.hash ≠ hash
  | .writesRow written _ write => written = hash → Spares (row hash world) write
  | _ => True

instance (hash : String) (world : World) : ∀ demanded, Decidable (DemandSpares hash world demanded)
  | .inserts registration => inferInstanceAs (Decidable (registration.hash ≠ hash))
  | .writesRow written _ write =>
      inferInstanceAs (Decidable (written = hash → Spares (row hash world) write))
  | .nothing | .readsRegistry _ | .submits _ | .takesClaim _ | .releasesClaim _ | .takesTicket
  | .ensuresPoller | .registers _ => isTrue trivial

/-- The poller, the state reads and the submit callbacks of one membership, with
the store used through them only. -/
def Admissible (libs : Libraries) (serde : Serde) (hash : String) (node : Node) (input : Input) :
    Prop :=
  input.isStore = false ∧ DemandSpares hash node.world (demand libs serde node input)

instance (hash : String) (node : Node) (input : Input) :
    Decidable (Admissible libs serde hash node input) :=
  inferInstanceAs (Decidable (_ ∧ _))

theorem settled_step {hash : String} {node : Node} {input : Input}
    (hnode : Meant node ∧ Settled (row hash node.world).state)
    (hadmissible : Admissible libs serde hash node input) :
    Meant (step libs serde node input).1 ∧
      Settled (row hash (step libs serde node input).1.world).state := by
  obtain ⟨hmeant, hrow⟩ := hnode
  obtain ⟨hstore, hspares⟩ := hadmissible
  refine ⟨meant_step node input hmeant, ?_⟩
  have hkeeps : KeepsRow libs serde hash node input := by
    refine ⟨hstore, fun registration hdemand => ?_⟩
    rw [hdemand] at hspares
    exact hspares
  rw [row_step hkeeps]
  split
  · rename_i write hwrites
    obtain ⟨announcing, hdemand⟩ := demand_of_writesTo hwrites
    rw [hdemand] at hspares
    rw [state_observeRow]
    exact settled_demand hmeant hdemand hrow (hspares rfl)
  · exact hrow

/-- The poller finds the membership absent past its window; before it writes
that, a state read finds it active and records it. -/
def racedInputs : List Input :=
  startedInputs ++ pollsInputs 1000 ++
    [.body 0 { membership := .ok ⟨false, .unknown, 0, 0⟩ },
      .getMembershipState Reference.registryId zeros, .call 0 {},
      .call 0 { membership := .ok ⟨true, .active, 7, 100⟩ }, .call 0 {}]

def stateAfter (inputs : List Input) : MembershipState :=
  (row "ab" (run (step Reference.libraries sampleSerde) {} inputs).world).state

end LogosRln.Callers.Confirmed
