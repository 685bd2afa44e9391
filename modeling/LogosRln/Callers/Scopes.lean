import LogosRln.Callers.Claims

/-!
# One live membership for a scope

A registration inserts when its scan found no live record that backs the scope.
Between the two it reads the registry's bounds; its claim keeps the other
registrations of the very scope out, but not a registry-wide one, and not a
write that makes a record of the scope live again.
-/

namespace LogosRln.Callers.Scopes

open LogosRln.Lifecycle Provider Json RegistryId Maintenance SealedStore Run Claims

variable {libs : Libraries} {serde : Serde}

/-- A listed record backs the scope of a request, live and not quarantined. -/
def backed (request : RegisterRequest) (world : World) : Bool :=
  (recordsFor request.registry.canonical (listed world)).any (backsLive request.rlnIdHex)

/-- The request of a registration between its scan and its insert. -/
def awaits : Call → Option RegisterRequest
  | .register (.readingBounds request _) | .register (.inserting request _ _) => some request
  | _ => none

/-- A step gives a scope no record to back it, live, that did not back it before:
it inserts no registry-wide membership next to a scope of its own, and lists no
other record that has come to back the scope. -/
structure LeavesUnbacked (libs : Libraries) (serde : Serde) (node : Node) (input : Input)
    (request : RegisterRequest) : Prop where
  registryWide : ∀ registration ∈ inserted libs serde node input,
    registration.identity.registryId = request.registry.canonical →
      registration.identity.rlnIdentifier = "" → request.rlnIdHex = ""
  others : ∀ record ∈ recordsFor request.registry.canonical
      (listed (step libs serde node input).1.world),
    backsLive request.rlnIdHex record = true →
      (∃ before ∈ recordsFor request.registry.canonical (listed node.world),
        before.hash = record.hash ∧ backsLive request.rlnIdHex before = true) ∨
      ∃ registration ∈ inserted libs serde node input, registration.hash = record.hash

instance (node : Node) (input : Input) (request : RegisterRequest) :
    Decidable (LeavesUnbacked libs serde node input request) :=
  decidable_of_iff (_ ∧ _) ⟨fun ⟨hwide, hothers⟩ => ⟨hwide, hothers⟩,
    fun ⟨hwide, hothers⟩ => ⟨hwide, hothers⟩⟩

/-- Every registration between its scan and its insert finds its scope left
unbacked. -/
def Undisturbed (libs : Libraries) (serde : Serde) (node : Node) (input : Input) : Prop :=
  ∀ call ∈ node.calls, ∀ request ∈ awaits call, LeavesUnbacked libs serde node input request

instance (node : Node) (input : Input) : Decidable (Undisturbed libs serde node input) :=
  inferInstanceAs (Decidable (∀ call ∈ node.calls, ∀ request ∈ awaits call, _))

/-! ## From the scan to the insert -/

theorem callHolds_of_awaits {call : Call} {request : RegisterRequest}
    (hawaits : awaits call = some request) : callHolds call = some request := by
  cases call with
  | stateRead call => cases hawaits
  | register call =>
      cases call with
      | readingBounds => exact hawaits
      | inserting => exact hawaits
      | _ => cases hawaits

/-- The scan that lets a registration go on has found its scope unbacked. -/
theorem backed_of_scan {records : Option (List MembershipRecord)} {request : RegisterRequest}
    {world : World} {listedRecords : List MembershipRecord}
    (hrecords : records = some listedRecords)
    (hview : records = world.store.map Store.records)
    (hscan : (recordsFor request.registry.canonical listedRecords).find?
      (backsLive request.rlnIdHex) = none) : backed request world = false := by
  have hlisted : listed world = listedRecords := by
    rw [listed, ← hview, hrecords]
    rfl
  rw [backed, hlisted, List.any_eq_false]
  exact List.find?_eq_none.mp hscan

/-- A registration comes to await its insert by its scan, and its own steps on
the way leave the store alone. -/
theorem awaits_step {node : Node} {moment : Moment} {call : Register} {outcome : Outcome}
    {request : RegisterRequest}
    (hawaits : awaits (.register ((call.step libs serde moment node.view).2 outcome)) =
      some request) :
    (call.step libs serde moment node.view).1 = .nothing ∧
      (awaits (.register call) = some request ∨ backed request node.world = false) := by
  cases call with
  | scanning scanned =>
      simp only [Register.step] at hawaits ⊢
      split at hawaits
      · cases hawaits
      · rename_i requested hrequested
        split at hawaits
        · cases hawaits
        · rename_i records hrecords
          split at hawaits
          · cases hawaits
          · rename_i hscan
            obtain rfl := Option.some.inj hawaits
            refine ⟨?_, .inr (backed_of_scan hrecords rfl hscan)⟩
            simp only [goesTo]
  | readingBounds read requested =>
      simp only [Register.step] at hawaits ⊢
      split at hawaits
      · cases hawaits
      · rename_i hbounds
        split at hawaits
        · cases hawaits
        · rename_i registration hregistration
          simp only [goesTo]
          exact ⟨trivial, .inl hawaits⟩
  | entering entered =>
      simp only [Register.step] at hawaits
      split at hawaits
      · cases hawaits
      · split at hawaits <;> cases hawaits
  | inserting inserting requested registration =>
      simp only [Register.step, afterInsert] at hawaits
      split at hawaits <;> cases hawaits
  | submitting submitted requested registration =>
      simp only [Register.step] at hawaits
      split at hawaits <;> cases hawaits
  | failing failed hash error =>
      simp only [Register.step, afterFailing] at hawaits
      split at hawaits <;> cases hawaits
  | replying replied hash =>
      simp only [Register.step] at hawaits
      split at hawaits <;> cases hawaits
  | ensuring ensured hash => cases hawaits
  | releasing released reply => cases hawaits
  | answered reply => cases hawaits

/-- A step of another thread leaves the scope of a registration unbacked. -/
theorem unbacked_step {node : Node} {input : Input} {j : ℕ} {call : Call}
    {request : RegisterRequest} (hnode : Exclusive node) (hcall : node.calls[j]? = some call)
    (hawaits : awaits call = some request) (hother : ∀ moment, input ≠ .call j moment)
    (hunbacked : backed request node.world = false)
    (hleaves : LeavesUnbacked libs serde node input request) :
    backed request (step libs serde node input).1.world = false := by
  have hnone : ∀ before ∈ recordsFor request.registry.canonical (listed node.world),
      ¬ backsLive request.rlnIdHex before = true := List.any_eq_false.mp hunbacked
  refine List.any_eq_false.mpr fun record hrecord hbacks => ?_
  rcases hleaves.others record hrecord hbacks with
    ⟨before, hbefore, -, hbacked⟩ | ⟨registration, hinserted, hhash⟩
  · exact hnone before hbefore hbacked
  · obtain ⟨i, moment, wanted, requested, rfl, hinserting⟩ := inserting_of_inserted hinserted
    have hdemand := demand_of_inserted hinserted
    rcases @step_world libs serde node (.call i moment) with ⟨op, hop, -⟩ | ⟨hworld, -⟩
    · cases hop
    · simp only [hworld, hdemand, worldAfter, insertOp] at hrecord
      obtain ⟨hmember, hregistry⟩ := mem_recordsFor.mp hrecord
      rcases @listed_insert libs node.world registration (Input.moment (.call i moment)).nonce
          (Input.moment (.call i moment)).insertWrites with hsame | hfresh
      · rw [hsame] at hmember
        exact hnone record (mem_recordsFor.mpr ⟨hmember, hregistry⟩) hbacks
      · -- the record is the one inserted, so its registration has the same claim
        have hidentity := hfresh record hmember hhash.symm
        obtain ⟨hnamedRegistry, hnamedScope⟩ := hnode.named _ (List.mem_of_getElem? hinserting)
        simp only [backsLive, Selection.scopeMatches, hidentity, Bool.and_eq_true, Bool.or_eq_true,
          beq_iff_eq, String.isEmpty_iff] at hbacks
        have hscope : registration.identity.rlnIdentifier = request.rlnIdHex := by
          rcases hbacks.2 with hsame | hempty
          · exact hsame
          · rw [hempty, hleaves.registryWide registration hinserted (hidentity ▸ hregistry) hempty]
        have hkey : wanted.key = request.key :=
          Prod.ext (hnamedRegistry.symm.trans (hidentity ▸ hregistry)) (hnamedScope.symm.trans hscope)
        have hsame := hnode.distinct hinserting hcall rfl (callHolds_of_awaits hawaits) hkey
        exact hother moment (by rw [hsame])

/-- Every registration between its scan and its insert has an unbacked scope. -/
def Unbacked (node : Node) : Prop :=
  ∀ (j : ℕ) (call : Call) (request : RegisterRequest), node.calls[j]? = some call →
    awaits call = some request → backed request node.world = false

/-- A step that demands nothing leaves the store as it was. -/
theorem world_of_nothing {node : Node} {input : Input}
    (hdemand : demand libs serde node input = .nothing) (hstore : input.isStore = false) :
    (step libs serde node input).1.world = node.world := by
  rcases @step_world libs serde node input with ⟨op, hop, -⟩ | ⟨hworld, -⟩
  · rw [hop] at hstore
    cases hstore
  · rw [hworld, hdemand]
    rfl

theorem unbacked_calls_step {node : Node} {input : Input} {j : ℕ} {call : Call}
    {request : RegisterRequest} (hexclusive : Exclusive node)
    (hnode : ∀ before, node.calls[j]? = some before → awaits before = some request →
      backed request node.world = false)
    (hcall : (step libs serde node input).1.calls[j]? = some call)
    (hawaits : awaits call = some request)
    (hleaves : ∀ before, node.calls[j]? = some before → awaits before = some request →
      LeavesUnbacked libs serde node input request) :
    backed request (step libs serde node input).1.world = false := by
  rcases getElem?_calls_step hcall with
    ⟨moment, before, rfl, hbefore, rfl⟩ | ⟨hold, hother⟩ | ⟨-, hfresh⟩
  · cases before with
    | stateRead before => cases hawaits
    | register before =>
        obtain ⟨hnothing, hscan⟩ := awaits_step hawaits
        have hdemand : demand libs serde node (.call j moment) = .nothing := by
          simp only [demand, hbefore]
          exact hnothing
        rw [world_of_nothing hdemand rfl]
        rcases hscan with hwaiting | hfound
        · exact hnode _ hbefore hwaiting
        · exact hfound
  · exact unbacked_step hexclusive hold hawaits hother (hnode call hold hawaits)
      (hleaves call hold hawaits)
  · cases call with
    | stateRead call => cases hawaits
    | register call =>
        cases call with
        | readingBounds => cases hfresh
        | inserting => cases hfresh
        | _ => cases hawaits

/-! ## Main result -/

/-- A registration inserts with its scope unbacked. -/
def InsertsUnbacked (event : Event Node Input Report) : Prop :=
  ∀ i moment request requested registration, event.input = .call i moment →
    event.before.calls[i]? = some (.register (.inserting request requested registration)) →
    backed request event.before.world = false

/-- A membership of the scope whose submission was refused. -/
def refusedInputs : List Input :=
  [.store (.openStore Reference.env), .store Reference.unlockOp,
    .store (.insert
      { hash := "cd"
        identity := ⟨Reference.registryId, zeros, "11", 0⟩
        credential := ⟨"11", "00", Reference.registryId⟩
        rateLimit := 100 } Reference.nonce Reference.writes),
    .submitReply "cd" (.fundedSubmit (.error ⟨.permanent, "refused"⟩)) {}]

/-- The scope is registered again, as far as the scan. -/
def scansInputs : List Input :=
  [.registerMembership Reference.registryId zeros "", .call 0 {}, .call 0 {}]

/-- A registration makes its credential. -/
def makesCredential : Input := .call 0 { identity := .ok (zeros, "00") }

def inserts : Input :=
  .call 0 { nonce := Reference.nonce, insertWrites := Reference.writes }

/-- After the scan a state read finds the refused membership on the registry. -/
def revivedInputs : List Input :=
  [.getMembershipState Reference.registryId zeros, .call 1 {},
    .call 1 { membership := .ok ⟨true, .active, 7, 100⟩ }, .call 1 {}]

end LogosRln.Callers.Scopes
