import LogosRln.Callers.Scopes

/-!
# Provisioning beside other registrations

A provisioning pass asks once whether its registry has a membership already, in
whatever scope, and registers after waits without a bound.  The registration
itself asks for a registry-wide record only.
-/

namespace LogosRln.Callers.Presence

open LogosRln.Lifecycle Provider Json RegistryId Maintenance SealedStore Run Claims Scopes

variable {libs : Libraries} {serde : Serde}

/-- A record that is present for provisioning and no registration of a
registry-wide scope sees: quarantined, or live under an identifier. -/
def isElsewhere (record : MembershipRecord) : Bool :=
  record.quarantined || record.cache.state.isLive && !record.identity.rlnIdentifier.isEmpty

def elsewhere (canonicalRegistry : String) (world : World) : Bool :=
  (recordsFor canonicalRegistry (listed world)).any isElsewhere

/-! ## A pass past its presence check -/

/-- The request of a registration that has not returned. -/
def requestOf : Register → Option RegisterRequest
  | .entering request => some request
  | call => holds call

/-- The request of a registration before its insert. -/
def beforeInsert : Call → Option RegisterRequest
  | .register (.entering request) | .register (.scanning request)
  | .register (.readingBounds request _) | .register (.inserting request _ _) => some request
  | _ => none

/-- The registry a pass has found to be without a membership. -/
def pastPresence : Pass → Option CanonicalRegistryId
  | .warming _ | .next _ _ _ | .presence _ _ | .finished => none
  | .walletCheck leg _ | .walletRead leg _ | .walletSleep leg _ | .checkingRegistry leg _
  | .pricing leg _ | .quoting leg _ _ | .fundingCheck leg _ _ | .requoting leg _ _
  | .fundingRead leg _ _ | .registering leg _ | .awaiting leg _ _ => some leg.registry

/-- The call a pass waits for. -/
def awaited : Body → Option ℕ
  | .warm (.awaiting _ _ i) => some i
  | _ => none

/-- The registry a pass is going to register on, from its presence check to the
insert of the registration. -/
def provisions (node : Node) : Body → Option CanonicalRegistryId
  | .warm (.awaiting leg _ i) =>
      ((node.calls[i]?).bind beforeInsert).map fun _ => leg.registry
  | .warm pass => pastPresence pass
  | .poller _ | .refresher _ => none

/-- The request of a pass's registration between its scan and its insert. -/
def provisionAwaits (node : Node) (body : Body) : Option RegisterRequest :=
  ((awaited body).bind fun i => node.calls[i]?).bind awaits

/-- A step lists no record elsewhere on the registry that it did not list
before. -/
def LeavesAbsent (libs : Libraries) (serde : Serde) (node : Node) (input : Input)
    (registry : CanonicalRegistryId) : Prop :=
  ∀ record ∈ recordsFor registry.canonical (listed (step libs serde node input).1.world),
    isElsewhere record = true →
      ∃ before ∈ recordsFor registry.canonical (listed node.world),
        before.hash = record.hash ∧ isElsewhere before = true

instance (node : Node) (input : Input) (registry : CanonicalRegistryId) :
    Decidable (LeavesAbsent libs serde node input registry) :=
  inferInstanceAs (Decidable (∀ record ∈ recordsFor registry.canonical _, _))

/-- Every pass finds its registry left without a membership: elsewhere from the
presence check on, and registry-wide from the scan of its registration on. -/
def Undisturbed (libs : Libraries) (serde : Serde) (node : Node) (input : Input) : Prop :=
  ∀ body ∈ node.bodies,
    (∀ registry ∈ provisions node body, LeavesAbsent libs serde node input registry) ∧
      ∀ request ∈ provisionAwaits node body, LeavesUnbacked libs serde node input request

instance (node : Node) (input : Input) : Decidable (Undisturbed libs serde node input) :=
  inferInstanceAs (Decidable (∀ body ∈ node.bodies, _ ∧ _))

/-! ## Passes and their calls from step to step -/

/-- A pass comes past its presence check by finding no membership. -/
theorem pastPresence_step {pass : Pass} {moment : Moment} {view : View} {outcome : Outcome}
    {registry : CanonicalRegistryId}
    (hpast : pastPresence ((pass.step moment view).2 outcome) = some registry) :
    pastPresence pass = some registry ∨
      (pass.step moment view).1 = .nothing ∧
        view.records.any (alreadyPresent registry.canonical) = false := by
  cases pass with
  | presence leg rateLimit =>
      right
      simp only [Pass.step] at hpast ⊢
      split at hpast
      · cases hpast
      · rename_i habsent
        split at hpast
        · cases hpast
        · rename_i hprovider
          obtain rfl := Option.some.inj hpast
          refine ⟨?_, Bool.eq_false_iff.mpr habsent⟩
          rw [if_neg habsent]
          simp only [goesTo]
  | warming config =>
      simp only [Pass.step] at hpast
      split at hpast
      · cases hpast
      · cases outcome <;> cases hpast
  | next taken rateLimit remaining =>
      cases remaining with
      | nil => cases hpast
      | cons raw remaining =>
          simp only [Pass.step] at hpast
          split at hpast
          · cases hpast
          · split at hpast <;> cases hpast
  | registering leg rateLimit =>
      cases outcome with
      | call i => exact .inl hpast
      | _ => cases hpast
  | finished => cases hpast
  | quoting leg rateLimit price => exact .inl hpast
  | requoting leg rateLimit funding => exact .inl hpast
  | walletSleep leg rateLimit =>
      left
      simp only [Pass.step] at hpast
      split at hpast
      · exact hpast
      · split at hpast
        · cases hpast
        · exact hpast
  | walletCheck leg rateLimit =>
      left
      simp only [Pass.step] at hpast
      split at hpast
      · cases hpast
      · exact hpast
  | walletRead leg rateLimit =>
      left
      simp only [Pass.step] at hpast
      split at hpast
      · exact hpast
      · cases hpast
      · exact hpast
  | checkingRegistry leg rateLimit =>
      left
      simp only [Pass.step] at hpast
      split at hpast
      · cases hpast
      · exact hpast
  | pricing leg rateLimit =>
      left
      simp only [Pass.step] at hpast
      split at hpast
      · cases hpast
      · exact hpast
  | fundingCheck leg rateLimit funding =>
      left
      simp only [Pass.step] at hpast
      split at hpast
      · cases hpast
      · split at hpast
        · exact hpast
        · split at hpast <;> exact hpast
  | fundingRead leg rateLimit funding =>
      left
      simp only [Pass.step] at hpast
      split at hpast
      · split at hpast <;> exact hpast
      · exact hpast
  | awaiting leg rateLimit i =>
      left
      simp only [Pass.step] at hpast
      split at hpast
      · exact hpast
      · cases hpast

/-- A pass waits for a call once it has started it. -/
theorem awaiting_step {pass : Pass} {moment : Moment} {view : View} {outcome : Outcome} {leg : Leg}
    {rateLimit : UInt64} {i : ℕ} (hpass : (pass.step moment view).2 outcome =
      .awaiting leg rateLimit i) :
    pass = .awaiting leg rateLimit i ∧ (pass.step moment view).1 = .nothing ∨
      pass = .registering leg rateLimit ∧ outcome = .call i := by
  cases pass with
  | registering current rate =>
      cases outcome with
      | call started =>
          right
          simp only [Pass.step, Pass.awaiting.injEq] at hpass
          obtain ⟨rfl, rfl, rfl⟩ := hpass
          exact ⟨rfl, rfl⟩
      | _ => cases hpass
  | awaiting current rate started =>
      simp only [Pass.step] at hpass ⊢
      split at hpass
      · rename_i hreply
        simp only [goesTo] at hpass ⊢
        exact .inl ⟨hpass, trivial⟩
      · cases hpass
  | warming config =>
      simp only [Pass.step] at hpass
      split at hpass
      · cases hpass
      · cases outcome <;> cases hpass
  | next taken rate remaining =>
      cases remaining with
      | nil => cases hpass
      | cons raw remaining =>
          simp only [Pass.step] at hpass
          split at hpass
          · cases hpass
          · split at hpass <;> cases hpass
  | presence current rate =>
      simp only [Pass.step] at hpass
      split at hpass
      · cases hpass
      · split at hpass <;> cases hpass
  | walletSleep current rate =>
      simp only [Pass.step] at hpass
      split at hpass
      · cases hpass
      · split at hpass <;> cases hpass
  | fundingCheck current rate funding =>
      simp only [Pass.step] at hpass
      split at hpass
      · cases hpass
      · split at hpass
        · cases hpass
        · split at hpass <;> cases hpass
  | fundingRead current rate funding =>
      simp only [Pass.step] at hpass
      split at hpass
      · split at hpass <;> cases hpass
      · cases hpass
  | quoting current rate price => cases hpass
  | requoting current rate funding => cases hpass
  | finished => cases hpass
  | _ =>
      simp only [Pass.step] at hpass
      split at hpass <;> cases hpass

/-- A waiting pass waited before, or has just started its registration. -/
theorem awaiting_bodies_step {node : Node} {input : Input} {j : ℕ} {leg : Leg}
    {rateLimit : UInt64} {i : ℕ}
    (hbody : (step libs serde node input).1.bodies[j]? = some (.warm (.awaiting leg rateLimit i))) :
    .warm (.awaiting leg rateLimit i) ∈ node.bodies ∨
      (step libs serde node input).1.calls[i]? = some (.register (.entering
        ⟨leg.registry, registryWide, provisionOptions rateLimit⟩)) := by
  rcases getElem?_bodies_step hbody with
    ⟨moment, before, rfl, hbefore, hafter⟩ | ⟨hold, -⟩ | ⟨-, hfresh⟩
  · cases before with
    | warm pass =>
        have hpass : (pass.step moment node.view).2
            (node.outcome libs serde moment (pass.step moment node.view).1) =
              .awaiting leg rateLimit i := (Body.warm.inj hafter).symm
        rcases awaiting_step hpass with ⟨rfl, -⟩ | ⟨rfl, houtcome⟩
        · exact .inl (List.mem_of_getElem? hbefore)
        · right
          obtain rfl : node.calls.length = i := Outcome.call.inj houtcome
          simp [step, hbefore, Node.runBody, Body.step, ThreadStep.map, Pass.step, perform]
    | poller poller => cases hafter
    | refresher refresher => cases hafter
  · exact .inl (List.mem_of_getElem? hold)
  · cases hfresh

/-! ## A call from step to step -/

theorem length_calls_perform (moment : Moment) (demanded : Demand) (node : Node) :
    node.calls.length ≤ (perform libs serde moment demanded node).1.calls.length := by
  cases demanded <;> simp [perform]

theorem length_calls_step (node : Node) (input : Input) :
    node.calls.length ≤ (step libs serde node input).1.calls.length := by
  cases input with
  | start config =>
      simp only [step]
      split <;> simp
  | «section» input => cases input <;> simp [step]
  | body i moment =>
      simp only [step]
      split
      · exact length_calls_perform _ _ _
      · exact le_rfl
  | call i moment =>
      simp only [step]
      split
      · simpa [Node.runCall] using length_calls_perform _ _ _
      · exact le_rfl
  | getMembershipState registryIdRaw rlnIdentifierHex => simp [step]
  | registerMembership registryIdRaw rlnIdentifierHex optionsJson => simp [step]
  | submitReply hash reply moment =>
      simp only [step]
      split
      · exact length_calls_perform _ _ _
      · exact le_rfl
  | store op => exact le_rfl

theorem of_none_eq_some {request : RegisterRequest} {claim : Prop} (hnone : none = some request) :
    claim := by
  cases hnone

/-- A registration keeps its request, and does not come before its insert
again. -/
theorem requestOf_step {moment : Moment} {view : View} {call : Register} {outcome : Outcome}
    {request : RegisterRequest} :
    (requestOf ((call.step libs serde moment view).2 outcome) = some request →
      requestOf call = some request) ∧
    (beforeInsert (.register ((call.step libs serde moment view).2 outcome)) = some request →
      beforeInsert (.register call) = some request) := by
  cases call with
  | entering entered =>
      simp only [Register.step]
      split
      · exact ⟨of_none_eq_some, of_none_eq_some⟩
      · split
        · exact ⟨of_none_eq_some, of_none_eq_some⟩
        · exact ⟨id, id⟩
  | scanning scanned =>
      simp only [Register.step]
      split
      · exact ⟨id, of_none_eq_some⟩
      · split
        · exact ⟨id, of_none_eq_some⟩
        · split
          · exact ⟨id, of_none_eq_some⟩
          · exact ⟨id, id⟩
  | readingBounds read requested =>
      simp only [Register.step]
      split
      · exact ⟨id, of_none_eq_some⟩
      · split
        · exact ⟨id, of_none_eq_some⟩
        · exact ⟨id, id⟩
  | inserting inserting requested registration =>
      simp only [Register.step, afterInsert]
      split <;> exact ⟨id, of_none_eq_some⟩
  | submitting submitted requested registration =>
      simp only [Register.step]
      split <;> exact ⟨id, of_none_eq_some⟩
  | failing failed hash error =>
      simp only [Register.step, afterFailing]
      split <;> exact ⟨id, of_none_eq_some⟩
  | ensuring ensured hash => exact ⟨id, of_none_eq_some⟩
  | replying replied hash =>
      simp only [Register.step]
      split <;> exact ⟨id, of_none_eq_some⟩
  | releasing released reply => exact ⟨of_none_eq_some, of_none_eq_some⟩
  | answered reply => exact ⟨of_none_eq_some, of_none_eq_some⟩

theorem call_kept {node : Node} {input : Input} {i : ℕ} {call : Register}
    (hcall : node.calls[i]? = some (.register call)) :
    ∃ next, (step libs serde node input).1.calls[i]? = some (.register next) ∧
      (∀ request, requestOf next = some request → requestOf call = some request) ∧
      ∀ request, beforeInsert (.register next) = some request →
        beforeInsert (.register call) = some request := by
  have hlength := @length_calls_step libs serde node input
  obtain ⟨hi, -⟩ := List.getElem?_eq_some_iff.mp hcall
  obtain ⟨after, hafter⟩ : ∃ after, (step libs serde node input).1.calls[i]? = some after :=
    ⟨_, List.getElem?_eq_getElem (lt_of_lt_of_le hi hlength)⟩
  rcases getElem?_calls_step hafter with
    ⟨moment, before, rfl, hbefore, rfl⟩ | ⟨hold, -⟩ | ⟨hnone, -⟩
  · obtain rfl := Option.some.inj (hcall.symm.trans hbefore)
    exact ⟨_, hafter, fun _ => requestOf_step.1, fun _ => requestOf_step.2⟩
  · obtain rfl := Option.some.inj (hcall.symm.trans hold)
    exact ⟨call, hafter, fun _ => id, fun _ => id⟩
  · rw [hcall] at hnone
    cases hnone

/-! ## What holds of every pass -/

/-- A waiting pass waits for a registry-wide registration of its own; the
registry is without a membership elsewhere until that inserts, and its scope is
unbacked from its scan on. -/
structure Provisioning (node : Node) : Prop where
  owned : ∀ {leg : Leg} {rateLimit : UInt64} {i : ℕ},
    .warm (.awaiting leg rateLimit i) ∈ node.bodies →
      ∃ call, node.calls[i]? = some (.register call) ∧ ∀ request, requestOf call = some request →
        request.registry = leg.registry ∧ request.rlnIdHex = registryWide
  absent : ∀ body ∈ node.bodies, ∀ registry, provisions node body = some registry →
    elsewhere registry.canonical node.world = false
  unbacked : ∀ body ∈ node.bodies, ∀ request, provisionAwaits node body = some request →
    backed request node.world = false

theorem provisioning_initial (world : World) : Provisioning { world } := by
  constructor <;> simp

theorem Provisioning.owned_step {node : Node} {input : Input} (hnode : Provisioning node)
    {leg : Leg} {rateLimit : UInt64} {i : ℕ}
    (hbody : .warm (.awaiting leg rateLimit i) ∈ (step libs serde node input).1.bodies) :
    ∃ call, (step libs serde node input).1.calls[i]? = some (.register call) ∧
      ∀ request, requestOf call = some request →
        request.registry = leg.registry ∧ request.rlnIdHex = registryWide := by
  obtain ⟨j, hj⟩ := List.mem_iff_getElem?.mp hbody
  rcases awaiting_bodies_step hj with hold | hstarted
  · obtain ⟨call, hcall, hrequest⟩ := hnode.owned hold
    obtain ⟨next, hnext, hkept, -⟩ := @call_kept libs serde node input i call hcall
    exact ⟨next, hnext, fun request hrequested => hrequest request (hkept request hrequested)⟩
  · refine ⟨_, hstarted, fun request hrequest => ?_⟩
    obtain rfl := Option.some.inj hrequest
    exact ⟨rfl, rfl⟩

theorem pastPresence_of_provisions {node : Node} {pass : Pass} {registry : CanonicalRegistryId}
    (hprovisions : provisions node (.warm pass) = some registry) :
    pastPresence pass = some registry := by
  cases pass with
  | awaiting leg rateLimit i =>
      obtain ⟨-, -, rfl⟩ := Option.map_eq_some_iff.mp hprovisions
      rfl
  | _ => exact hprovisions

/-- A pass whose registration has not inserted after a step had not before. -/
theorem provisions_kept {node : Node} {input : Input} (hnode : Provisioning node) {body : Body}
    {registry : CanonicalRegistryId} (hbody : body ∈ node.bodies)
    (hprovisions : provisions (step libs serde node input).1 body = some registry) :
    provisions node body = some registry := by
  cases body with
  | warm pass =>
      cases pass with
      | awaiting leg rateLimit i =>
          obtain ⟨call, hcall, -⟩ := hnode.owned hbody
          obtain ⟨next, hnext, -, hkept⟩ := @call_kept libs serde node input i call hcall
          simp only [provisions, hnext, hcall, Option.bind_some, Option.map_eq_some_iff]
            at hprovisions ⊢
          obtain ⟨request, hrequest, hregistry⟩ := hprovisions
          exact ⟨request, hkept request hrequest, hregistry⟩
      | _ => exact hprovisions
  | poller poller => cases hprovisions
  | refresher refresher => cases hprovisions

/-- A registry without a membership has none elsewhere. -/
theorem elsewhere_of_absent {node : Node} {canonicalRegistry : String}
    (habsent : node.view.records.any (alreadyPresent canonicalRegistry) = false) :
    elsewhere canonicalRegistry node.world = false := by
  simp only [elsewhere, listed, Node.view] at habsent ⊢
  cases hstore : node.world.store with
  | none => rfl
  | some store =>
      simp only [hstore, Option.map_some, Option.any_some, alreadyPresent, Option.getD_some,
        List.any_eq_false, Bool.or_eq_true, not_or] at habsent ⊢
      intro record hrecord
      obtain ⟨hquarantined, hlive⟩ := habsent record hrecord
      simp [isElsewhere, hquarantined, hlive]

/-- A body comes past its presence check by finding no membership elsewhere, and
keeps its registry on the way. -/
theorem provisions_step {node : Node} {input : Input} (hnode : Provisioning node) {body : Body}
    {registry : CanonicalRegistryId} (hbody : body ∈ (step libs serde node input).1.bodies)
    (hprovisions : provisions (step libs serde node input).1 body = some registry) :
    (∃ before ∈ node.bodies, provisions node before = some registry) ∨
      elsewhere registry.canonical (step libs serde node input).1.world = false := by
  obtain ⟨j, hj⟩ := List.mem_iff_getElem?.mp hbody
  rcases getElem?_bodies_step hj with
    ⟨moment, before, rfl, hbefore, rfl⟩ | ⟨hold, -⟩ | ⟨-, hfresh⟩
  · have hmember := List.mem_of_getElem? hbefore
    cases before with
    | warm pass =>
        have hpast := pastPresence_of_provisions hprovisions
        rcases pastPresence_step hpast with hkept | ⟨hnothing, habsent⟩
        · left
          refine ⟨_, hmember, ?_⟩
          cases pass with
          | awaiting leg rateLimit i =>
              -- it still waits, so its registration had not inserted before either
              have hafter : provisions (step libs serde node (.body j moment)).1
                  (.warm (.awaiting leg rateLimit i)) = some registry := by
                simp only [Node.bodyAfter, Body.step, ThreadStep.map, Pass.step,
                  Function.comp_apply] at hprovisions
                split at hprovisions
                · exact hprovisions
                · cases hprovisions
              exact provisions_kept hnode hmember hafter
          | _ => exact hkept
        · right
          have hdemand : demand libs serde node (.body j moment) = .nothing := by
            simp only [demand, hbefore]
            exact hnothing
          rw [world_of_nothing hdemand rfl]
          exact elsewhere_of_absent habsent
    | poller poller => cases hprovisions
    | refresher refresher => cases hprovisions
  · have hmember := List.mem_of_getElem? hold
    exact .inl ⟨body, hmember, provisions_kept hnode hmember hprovisions⟩
  · cases body with
    | warm pass =>
        cases pass with
        | warming config => cases hprovisions
        | _ => cases hfresh
    | poller poller => cases hprovisions
    | refresher refresher => cases hprovisions

theorem Provisioning.absent_step {node : Node} {input : Input} (hnode : Provisioning node)
    (hguard : Undisturbed libs serde node input) {body : Body} {registry : CanonicalRegistryId}
    (hbody : body ∈ (step libs serde node input).1.bodies)
    (hprovisions : provisions (step libs serde node input).1 body = some registry) :
    elsewhere registry.canonical (step libs serde node input).1.world = false := by
  rcases provisions_step hnode hbody hprovisions with ⟨before, hbefore, hkept⟩ | habsent
  · refine List.any_eq_false.mpr fun record hrecord hfound => ?_
    obtain ⟨earlier, hearlier, -, hpresent⟩ :=
      (hguard before hbefore).1 registry hkept record hrecord hfound
    have hnone := hnode.absent before hbefore registry hkept
    exact List.any_eq_false.mp hnone earlier hearlier hpresent
  · exact habsent

theorem provisionAwaits_eq_some {node : Node} {body : Body} {request : RegisterRequest}
    (hawaits : provisionAwaits node body = some request) :
    ∃ leg rateLimit i call, body = .warm (.awaiting leg rateLimit i) ∧
      node.calls[i]? = some call ∧ awaits call = some request := by
  obtain ⟨call, hcall, hrequest⟩ := Option.bind_eq_some_iff.mp hawaits
  obtain ⟨i, hi, hfound⟩ := Option.bind_eq_some_iff.mp hcall
  cases body with
  | warm pass =>
      cases pass with
      | awaiting leg rateLimit k =>
          obtain rfl := Option.some.inj hi
          exact ⟨leg, rateLimit, k, call, rfl, hfound, hrequest⟩
      | _ => cases hi
  | poller poller => cases hi
  | refresher refresher => cases hi

theorem Provisioning.unbacked_step {node : Node} {input : Input} (hexclusive : Exclusive node)
    (hnode : Provisioning node) (hguard : Undisturbed libs serde node input) {body : Body}
    {request : RegisterRequest} (hbody : body ∈ (step libs serde node input).1.bodies)
    (hawaits : provisionAwaits (step libs serde node input).1 body = some request) :
    backed request (step libs serde node input).1.world = false := by
  obtain ⟨leg, rateLimit, i, call, rfl, hcall, hrequest⟩ := provisionAwaits_eq_some hawaits
  obtain ⟨j, hj⟩ := List.mem_iff_getElem?.mp hbody
  rcases awaiting_bodies_step hj with hold | hstarted
  · have hbefore : ∀ before, node.calls[i]? = some before → awaits before = some request →
        provisionAwaits node (.warm (.awaiting leg rateLimit i)) = some request := by
      intro before hfound hwaiting
      simp [provisionAwaits, awaited, hfound, hwaiting]
    exact unbacked_calls_step hexclusive
      (fun before hfound hwaiting => hnode.unbacked _ hold request (hbefore before hfound hwaiting))
      hcall hrequest
      (fun before hfound hwaiting => (hguard _ hold).2 request (hbefore before hfound hwaiting))
  · obtain rfl := Option.some.inj (hcall.symm.trans hstarted)
    cases hrequest

theorem provisioning_step {node : Node} {input : Input} (hexclusive : Exclusive node)
    (hnode : Provisioning node) (hguard : Undisturbed libs serde node input) :
    Provisioning (step libs serde node input).1 where
  owned := hnode.owned_step
  absent _ hbody _ := hnode.absent_step hguard hbody
  unbacked _ hbody _ := hnode.unbacked_step hexclusive hguard hbody

/-! ## Main result -/

/-- The registration of a pass inserts while its registry has no membership in
whatever scope, live or quarantined. -/
def InsertsFirst (event : Event Node Input Report) : Prop :=
  ∀ i moment request requested registration leg rateLimit, event.input = .call i moment →
    event.before.calls[i]? = some (.register (.inserting request requested registration)) →
    .warm (.awaiting leg rateLimit i) ∈ event.before.bodies →
      alreadyPresent leg.registry.canonical (listed event.before.world) = false

theorem alreadyPresent_eq_false {request : RegisterRequest} {canonicalRegistry : String}
    {world : World} (hregistry : request.registry.canonical = canonicalRegistry)
    (hscope : request.rlnIdHex = registryWide) (helsewhere : elsewhere canonicalRegistry world = false)
    (hbacked : backed request world = false) :
    alreadyPresent canonicalRegistry (listed world) = false := by
  refine List.any_eq_false.mpr fun record hrecord hpresent => ?_
  have hnot := List.any_eq_false.mp helsewhere record hrecord
  rw [backed, hregistry] at hbacked
  have hunbacked := List.any_eq_false.mp hbacked record hrecord
  simp only [isElsewhere, backsLive, Selection.scopeMatches, hscope, registryWide,
    Bool.or_eq_true, Bool.and_eq_true, Bool.not_eq_true', beq_iff_eq, String.isEmpty_iff,
    or_self] at hnot hunbacked hpresent
  cases hquarantined : record.quarantined with
  | true => simp [hquarantined] at hnot
  | false =>
      simp only [hquarantined, Bool.false_eq_true, false_or, true_and] at hnot hunbacked hpresent
      by_cases hwide : record.identity.rlnIdentifier = ""
      · exact hunbacked ⟨hpresent, hwide⟩
      · refine hnot ⟨hpresent, ?_⟩
        simpa [String.isEmpty_iff] using hwide

/-- A coding that reads the options of a provisioned registration. -/
def optionsSerde : Serde where
  fromStr text :=
    if text = provisionOptions 100 then
      .ok (.array [.object [("key", .str "rate_limit"), ("value", .str "100")]])
    else .error "expected value"
  toString _ := ""

/-- A pass, the third body, comes past its presence check. -/
def checksPresence : List Input :=
  [.store (.openStore Reference.env), .store Reference.unlockOp,
    .start { registries := [Reference.registryId] }, .section .resumeStart,
    .section .resumeStart, .section .resumeStart,
    .body 2 {}, .body 2 {}, .body 2 {}]

/-- The wallet is ready and funded, and the pass starts its registration. -/
def startsRegistration : List Input :=
  [.body 2 {}, .body 2 { walletStatus := .ok (.object [("state", .str "ready")]) }, .body 2 {},
    .body 2 { bounds := .ok (.object [("price_per_unit", .str "1")]) }, .body 2 {}, .body 2 {},
    .body 2 { balance := .ok (2 ^ 100) }, .body 2 {}]

/-- A registration runs from its claim to its insert. -/
def comesToInsert (i : ℕ) (commitmentHex : String) : List Input :=
  [.call i {}, .call i {}, .call i { identity := .ok (commitmentHex, "00") }]

def insertMoment : Moment := { nonce := Reference.nonce, insertWrites := Reference.writes }

def provisionsAlone : List Input :=
  checksPresence ++ startsRegistration ++ comesToInsert 0 zeros ++ [.call 0 insertMoment]

/-- During the wait for the wallet an application's scope is registered. -/
def registersDuringWait : List Input :=
  .registerMembership Reference.registryId zeros "" :: comesToInsert 0 zeros ++
    [.call 0 insertMoment]

def ones : String := "1111111111111111111111111111111111111111111111111111111111111111"

end LogosRln.Callers.Presence
