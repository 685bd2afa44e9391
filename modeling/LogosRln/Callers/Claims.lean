import LogosRln.Callers.Interleaving

/-!
# Claims on scopes

A registration takes the claim on its scope before it scans for a live record
and gives it back when it returns.  So of the registrations of one scope at most
one is past its claim, and no other can insert between its scan and its insert.
-/

namespace LogosRln.Callers.Claims

open LogosRln.Lifecycle Provider Json RegistryId Maintenance SealedStore Run

variable {libs : Libraries} {serde : Serde}

/-! ## Demands of registrations -/

/-- The demands only a registration makes. -/
def isRegistering : Demand → Bool
  | .inserts _ | .submits _ | .takesClaim _ | .releasesClaim _ | .ensuresPoller => true
  | .nothing | .readsRegistry _ | .writesRow _ _ _ | .takesTicket | .registers _ => false

theorem isRegistering_body {generation : ℕ} {moment : Moment} {view : View} (body : Body) :
    isRegistering (body.step generation moment view).1 = false := by
  cases body with
  | poller poller =>
      simp only [Body.step, ThreadStep.map, pollerStep]
      cases (poller.step generation (moment.surroundings view)).2 with
      | none => rfl
      | some action => cases action <;> rfl
  | refresher refresher => rfl
  | warm pass =>
      simp only [Body.step, ThreadStep.map]
      rcases Pass.demand_step moment view pass with h | ⟨h, -⟩ | ⟨leg, rateLimit, -, h⟩ <;>
        rw [h] <;> rfl

theorem isRegistering_stateRead {moment : Moment} {view : View} (call : StateRead) :
    isRegistering (call.step moment view).1 = false := by
  cases call with
  | entering registryIdRaw rlnIdentifierHex =>
      simp only [StateRead.step]
      split <;> rfl
  | reading registry record =>
      simp only [StateRead.step]
      split
      · rfl
      · split <;> rfl
  | persisting registry record mergedState report => rfl
  | answered reply => rfl

/-- Such a demand is a registration's. -/
theorem register_of_demand {node : Node} {input : Input} {demanded : Demand}
    (hdemand : demand libs serde node input = demanded)
    (hregistering : isRegistering demanded = true) :
    ∃ i moment call, input = .call i moment ∧ node.calls[i]? = some (.register call) ∧
      (call.step libs serde moment node.view).1 = demanded := by
  subst hdemand
  cases input with
  | body i moment =>
      simp only [demand] at hregistering
      split at hregistering
      · rw [isRegistering_body] at hregistering
        cases hregistering
      · cases hregistering
  | call i moment =>
      cases hcall : node.calls[i]? with
      | none =>
          simp only [demand, hcall] at hregistering
          cases hregistering
      | some call =>
          simp only [demand, hcall] at hregistering ⊢
          cases call with
          | stateRead call =>
              have hnot := @isRegistering_stateRead moment node.view call
              rw [show isRegistering (call.step moment node.view).1 = true from hregistering]
                at hnot
              cases hnot
          | register call => exact ⟨i, moment, call, rfl, hcall, rfl⟩
  | submitReply hash reply moment =>
      simp only [demand] at hregistering
      split at hregistering <;> cases hregistering
  | _ => cases hregistering

/-- What a step inserts. -/
def inserted (libs : Libraries) (serde : Serde) (node : Node) (input : Input) :
    Option Registration :=
  match demand libs serde node input with
  | .inserts registration => some registration
  | _ => none

theorem demand_of_inserted {node : Node} {input : Input} {registration : Registration}
    (hinserted : inserted libs serde node input = some registration) :
    demand libs serde node input = .inserts registration := by
  simp only [inserted] at hinserted
  split at hinserted
  · rename_i demanded hdemand
    rw [hdemand, Option.some.inj hinserted]
  · cases hinserted

/-- A step that inserts is one of a registration that has come so far. -/
theorem inserting_of_inserted {node : Node} {input : Input} {registration : Registration}
    (hinserted : inserted libs serde node input = some registration) :
    ∃ i moment request requested, input = .call i moment ∧
      node.calls[i]? = some (.register (.inserting request requested registration)) := by
  obtain ⟨i, moment, call, hinput, hcall, hdemand⟩ :=
    register_of_demand (demand_of_inserted hinserted) rfl
  have hdemands := @Register.demands_step libs serde moment node.view call
  rw [hdemand] at hdemands
  cases hdemands with
  | inserting request requested registration => exact ⟨i, moment, request, requested, hinput, hcall⟩

/-! ## Claims from step to step -/

@[simp]
theorem claims_section (input : Maintenance.Input) (node : Node) :
    (node.section input).claims = node.claims := by
  simp only [Node.section]
  split <;> rfl

def claimsAfter (claims : Finset (String × String)) : Demand → Finset (String × String)
  | .takesClaim key => insert key claims
  | .releasesClaim key => claims.erase key
  | _ => claims

theorem claims_perform {moment : Moment} {demanded : Demand} {node : Node} :
    (perform libs serde moment demanded node).1.claims = claimsAfter node.claims demanded := by
  cases demanded <;> simp [perform, claimsAfter]

theorem claims_step (node : Node) (input : Input) :
    (step libs serde node input).1.claims =
      claimsAfter node.claims (demand libs serde node input) := by
  cases input with
  | start config =>
      simp only [step, demand, claimsAfter]
      split
      · exact claims_section _ _
      · rfl
  | «section» input => cases input <;> simp [step, demand, claimsAfter]
  | body i moment =>
      cases hbody : node.bodies[i]? with
      | none => simp [step, demand, hbody, claimsAfter]
      | some body =>
          simp only [step, demand, hbody, Node.runBody]
          exact claims_perform
  | call i moment =>
      cases hcall : node.calls[i]? with
      | none => simp [step, demand, hcall, claimsAfter]
      | some call =>
          simp only [step, demand, hcall, Node.runCall]
          exact claims_perform
  | getMembershipState registryIdRaw rlnIdentifierHex => rfl
  | registerMembership registryIdRaw rlnIdentifierHex optionsJson => rfl
  | submitReply hash reply moment =>
      simp only [step, demand]
      split
      · exact claims_perform
      · rfl
  | store op => rfl

/-- The request a registration holds the claim for. -/
def holds : Register → Option RegisterRequest
  | .entering _ | .answered _ => none
  | .scanning request | .readingBounds request _ | .inserting request _ _
  | .submitting request _ _ | .failing request _ _ | .ensuring request _ | .replying request _
  | .releasing request _ => some request

def callHolds : Call → Option RegisterRequest
  | .register call => holds call
  | .stateRead _ => none

/-- A claim is kept until it is given back, and is taken when nobody holds it. -/
theorem holds_step {moment : Moment} {view : View} {call : Register} {outcome : Outcome}
    {request : RegisterRequest}
    (hholds : holds ((call.step libs serde moment view).2 outcome) = some request) :
    (holds call = some request ∧ ∀ key, (call.step libs serde moment view).1 ≠ .releasesClaim key) ∨
      (call.step libs serde moment view).1 = .takesClaim request.key ∧
        request.key ∉ view.claims := by
  cases call with
  | entering entered =>
      right
      simp only [Register.step] at hholds ⊢
      split at hholds
      · cases hholds
      · split at hholds
        · cases hholds
        · obtain rfl := Option.some.inj hholds
          simp_all
  | scanning scanned =>
      left
      simp only [Register.step] at hholds ⊢
      split at hholds
      · simp_all [goesTo, holds]
      · split at hholds
        · simp_all [goesTo, holds]
        · split at hholds <;> simp_all [goesTo, holds]
  | readingBounds read requested =>
      left
      simp only [Register.step] at hholds ⊢
      split at hholds
      · simp_all [goesTo, holds]
      · split at hholds <;> simp_all [goesTo, holds]
  | inserting inserting requested registration =>
      left
      refine ⟨?_, by simp [Register.step]⟩
      simp only [Register.step, afterInsert] at hholds
      split at hholds <;> exact hholds
  | submitting submitted requested registration =>
      left
      refine ⟨?_, by simp [Register.step]⟩
      simp only [Register.step] at hholds
      split at hholds <;> exact hholds
  | failing failed hash error =>
      left
      refine ⟨?_, by simp [Register.step]⟩
      simp only [Register.step, afterFailing] at hholds
      split at hholds <;> exact hholds
  | ensuring ensured hash => exact .inl ⟨hholds, by simp [Register.step]⟩
  | replying replied hash =>
      left
      simp only [Register.step] at hholds ⊢
      split at hholds <;> simp_all [goesTo, holds]
  | releasing released reply => cases hholds
  | answered reply => cases hholds

theorem callHolds_of_isFresh {call : Call} (hfresh : call.isFresh = true) :
    callHolds call = none := by
  cases call with
  | stateRead call => rfl
  | register call =>
      cases call with
      | entering request => rfl
      | answered reply => rfl
      | _ => cases hfresh

/-- Whoever holds a claim after a step held it before, and the step did not give
it back, or has taken it in the step. -/
theorem callHolds_step {node : Node} {input : Input} {j : ℕ} {call : Call}
    {request : RegisterRequest} (hcall : (step libs serde node input).1.calls[j]? = some call)
    (hholds : callHolds call = some request) :
    (∃ before, node.calls[j]? = some before ∧ callHolds before = some request ∧
      ∀ moment, input = .call j moment → ∀ key,
        demand libs serde node input ≠ .releasesClaim key) ∨
    ∃ moment, input = .call j moment ∧ demand libs serde node input = .takesClaim request.key ∧
      request.key ∉ node.claims := by
  rcases getElem?_calls_step hcall with
    ⟨moment, before, rfl, hbefore, rfl⟩ | ⟨hold, hother⟩ | ⟨-, hfresh⟩
  · cases before with
    | stateRead before => cases hholds
    | register before =>
        have hdemand : demand libs serde node (.call j moment) =
            (before.step libs serde moment node.view).1 := by
          simp only [demand, hbefore]
          rfl
        rcases holds_step hholds with ⟨hkept, hrelease⟩ | ⟨htakes, hfree⟩
        · left
          refine ⟨_, hbefore, hkept, fun other _ => ?_⟩
          rwa [hdemand]
        · exact .inr ⟨moment, rfl, by rw [hdemand, htakes], hfree⟩
  · exact .inl ⟨call, hold, hholds, fun moment heq => absurd heq (hother moment)⟩
  · rw [callHolds_of_isFresh hfresh] at hholds
    cases hholds

/-! ## At most one registration of a scope is past its claim -/

/-- A registration's credential is of the scope requested. -/
def Named : Call → Prop
  | .register (.inserting request _ registration) =>
      registration.identity.registryId = request.registry.canonical ∧
        registration.identity.rlnIdentifier = request.rlnIdHex
  | _ => True

structure Exclusive (node : Node) : Prop where
  claimed : ∀ {i : ℕ} {call : Call} {request : RegisterRequest}, node.calls[i]? = some call →
    callHolds call = some request → request.key ∈ node.claims
  distinct : ∀ {i j : ℕ} {call other : Call} {request wanted : RegisterRequest},
    node.calls[i]? = some call → node.calls[j]? = some other → callHolds call = some request →
      callHolds other = some wanted → request.key = wanted.key → i = j
  named : ∀ call ∈ node.calls, Named call

theorem exclusive_initial (world : World) : Exclusive { world } := by
  constructor <;> simp

theorem Exclusive.claimed_step {node : Node} {input : Input} (hnode : Exclusive node) {i : ℕ}
    {call : Call} {request : RegisterRequest}
    (hcall : (step libs serde node input).1.calls[i]? = some call)
    (hholds : callHolds call = some request) :
    request.key ∈ (step libs serde node input).1.claims := by
  rw [claims_step]
  rcases callHolds_step hcall hholds with
    ⟨before, hbefore, hkept, hrelease⟩ | ⟨moment, -, htakes, -⟩
  · have hclaimed := hnode.claimed hbefore hkept
    cases hdemand : demand libs serde node input with
    | takesClaim key => exact Finset.mem_insert_of_mem hclaimed
    | releasesClaim key =>
        -- another registration gives back a claim of its own
        obtain ⟨j, moment, releasing, hinput, hother, hreleases⟩ := register_of_demand hdemand rfl
        have hdemands := @Register.demands_step libs serde moment node.view releasing
        rw [hreleases] at hdemands
        cases hdemands with
        | releasing wanted reply =>
            refine Finset.mem_erase.mpr ⟨fun hsame => ?_, hclaimed⟩
            obtain rfl := hnode.distinct hbefore hother hkept rfl hsame
            exact hrelease moment hinput _ hdemand
    | _ => exact hclaimed
  · rw [htakes]
    exact Finset.mem_insert_self _ _

theorem Exclusive.distinct_step {node : Node} {input : Input} (hnode : Exclusive node) {i j : ℕ}
    {call other : Call} {request wanted : RegisterRequest}
    (hcall : (step libs serde node input).1.calls[i]? = some call)
    (hother : (step libs serde node input).1.calls[j]? = some other)
    (hholds : callHolds call = some request) (hwanted : callHolds other = some wanted)
    (hkey : request.key = wanted.key) : i = j := by
  rcases callHolds_step hcall hholds with
    ⟨before, hbefore, hkept, -⟩ | ⟨moment, hinput, -, hfree⟩
  · rcases callHolds_step hother hwanted with
      ⟨earlier, hearlier, hheld, -⟩ | ⟨moment, hinput, -, hfree⟩
    · exact hnode.distinct hbefore hearlier hkept hheld hkey
    · exact absurd (hnode.claimed hbefore hkept) (hkey ▸ hfree)
  · rcases callHolds_step hother hwanted with
      ⟨earlier, hearlier, hheld, -⟩ | ⟨moment', hinput', -, -⟩
    · exact absurd (hnode.claimed hearlier hheld) (hkey ▸ hfree)
    · rw [hinput] at hinput'
      cases hinput'
      rfl

theorem makeRegistration_named {request : RegisterRequest} {rateLimit now : UInt64}
    {identity : Except ApiError (String × String)} {registration : Registration}
    (hmade : makeRegistration libs request rateLimit now identity = .ok registration) :
    registration.identity.registryId = request.registry.canonical ∧
      registration.identity.rlnIdentifier = request.rlnIdHex := by
  simp only [makeRegistration, bind, Except.bind] at hmade
  split at hmade
  · cases hmade
  · split at hmade
    · cases hmade
    · cases hmade
      exact ⟨rfl, rfl⟩

theorem named_step {call : Call} {moment : Moment} {view : View} {outcome : Outcome} :
    Named ((call.step libs serde moment view).2 outcome) := by
  cases call with
  | stateRead call => trivial
  | register call =>
      simp only [Call.step, ThreadStep.map, Function.comp_apply]
      cases call with
      | entering request =>
          simp only [Register.step]
          split
          · trivial
          · split <;> trivial
      | scanning request =>
          simp only [Register.step]
          split
          · trivial
          · split
            · trivial
            · split <;> trivial
      | readingBounds request requested =>
          simp only [Register.step]
          split
          · trivial
          · split
            · trivial
            · exact makeRegistration_named ‹_›
      | inserting request requested registration =>
          simp only [Register.step, afterInsert]
          split <;> trivial
      | submitting request requested registration =>
          simp only [Register.step]
          split <;> trivial
      | failing request hash error =>
          simp only [Register.step, afterFailing]
          split <;> trivial
      | ensuring request hash => trivial
      | replying request hash =>
          simp only [Register.step]
          split <;> trivial
      | releasing request reply => trivial
      | answered reply => trivial

theorem exclusive_step {node : Node} (input : Input) (hnode : Exclusive node) :
    Exclusive (step libs serde node input).1 := by
  refine ⟨hnode.claimed_step, hnode.distinct_step, fun call hcall => ?_⟩
  rcases mem_calls_step hcall with hold | hfresh | ⟨i, moment, before, -, -, outcome, rfl⟩
  · exact hnode.named call hold
  · cases call with
    | stateRead call => trivial
    | register call =>
        cases call with
        | inserting => cases hfresh
        | _ => trivial
  · exact named_step

end LogosRln.Callers.Claims
