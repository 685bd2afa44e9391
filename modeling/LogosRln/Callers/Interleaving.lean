import LogosRln.Callers.Rows
import LogosRln.SealedStore.Reference

/-!
# Where a step leaves the threads

A step moves one thread on and may start others, which begin at their first
stage.  So a property of single threads that fresh ones have, and that one step
of the thread itself keeps, holds of every thread in every run.
-/

namespace LogosRln.Callers

open LogosRln.Lifecycle Provider Json RegistryId Maintenance SealedStore

variable {libs : Libraries} {serde : Serde}

/-- A thread at its first stage. -/
def Call.isFresh : Call → Bool
  | .stateRead (.entering _ _) => true
  | .register (.entering _) => true
  | .register (.answered (.error _)) => true
  | _ => false

def Body.isFresh : Body → Bool
  | .poller (.waiting _) => true
  | .refresher (.waiting _) => true
  | .warm (.warming _) => true
  | _ => false

theorem isFresh_freshBody (config : StartConfig) (nudges : ℕ) (worker : Worker) :
    (freshBody config nudges worker).isFresh = true := by
  cases worker with
  | mk generation role progress => cases role <;> rfl

theorem isFresh_registerCall (registryIdRaw rlnIdentifierHex optionsJson : String) :
    (registerCall registryIdRaw rlnIdentifierHex optionsJson).isFresh = true := by
  simp only [registerCall]
  split <;> rfl

theorem getElem?_bodies_withPool {pool : Pool} {node : Node} {j : ℕ} {body : Body}
    (hbody : (node.withPool pool).bodies[j]? = some body) :
    node.bodies[j]? = some body ∨ node.bodies[j]? = none ∧ body.isFresh = true := by
  by_cases hj : j < node.bodies.length
  · left
    simpa only [Node.withPool, List.getElem?_append_left hj] using hbody
  · right
    refine ⟨List.getElem?_eq_none (not_lt.mp hj), ?_⟩
    simp only [Node.withPool, List.getElem?_append_right (not_lt.mp hj)] at hbody
    obtain ⟨worker, -, rfl⟩ := List.mem_map.mp (List.mem_of_getElem? hbody)
    exact isFresh_freshBody _ _ _

theorem getElem?_bodies_section {input : Maintenance.Input} {node : Node} {j : ℕ} {body : Body}
    (hbody : (node.section input).bodies[j]? = some body) :
    node.bodies[j]? = some body ∨ node.bodies[j]? = none ∧ body.isFresh = true := by
  simp only [Node.section] at hbody
  split at hbody
  · exact getElem?_bodies_withPool hbody
  · exact .inl hbody

@[simp]
theorem calls_section (input : Maintenance.Input) (node : Node) :
    (node.section input).calls = node.calls := by
  simp only [Node.section]
  split <;> rfl

theorem getElem?_bodies_perform {moment : Moment} {demanded : Demand} {node : Node} {j : ℕ}
    {body : Body} (hbody : (perform libs serde moment demanded node).1.bodies[j]? = some body) :
    node.bodies[j]? = some body ∨ node.bodies[j]? = none ∧ body.isFresh = true := by
  cases demanded with
  | ensuresPoller => exact getElem?_bodies_section hbody
  | _ => exact .inl hbody

theorem getElem?_concat_cases {Element : Type} {list : List Element} {fresh found : Element}
    {j : ℕ} (hfound : (list ++ [fresh])[j]? = some found) :
    list[j]? = some found ∨ list[j]? = none ∧ found = fresh := by
  by_cases hj : j < list.length
  · left
    rwa [List.getElem?_append_left hj] at hfound
  · right
    refine ⟨List.getElem?_eq_none (not_lt.mp hj), ?_⟩
    rw [List.getElem?_append_right (not_lt.mp hj)] at hfound
    exact List.mem_singleton.mp (List.mem_of_getElem? hfound)

theorem getElem?_calls_perform {moment : Moment} {demanded : Demand} {node : Node} {j : ℕ}
    {call : Call} (hcall : (perform libs serde moment demanded node).1.calls[j]? = some call) :
    node.calls[j]? = some call ∨ node.calls[j]? = none ∧ call.isFresh = true := by
  cases demanded with
  | registers request =>
      rcases getElem?_concat_cases hcall with hold | ⟨hnone, rfl⟩
      · exact .inl hold
      · exact .inr ⟨hnone, rfl⟩
  | ensuresPoller => exact .inl (by simpa [perform] using hcall)
  | _ => exact .inl hcall

/-- What a demand of a thread comes back with. -/
def Node.outcome (libs : Libraries) (serde : Serde) (moment : Moment) (demanded : Demand)
    (node : Node) : Outcome :=
  (perform libs serde moment demanded node).2.1

def Node.generationAt (i : ℕ) (node : Node) : ℕ :=
  ((node.pool.workers[i]?).map Worker.generation).getD 0

/-- The body a body at a position goes on as. -/
def Node.bodyAfter (libs : Libraries) (serde : Serde) (i : ℕ) (moment : Moment) (body : Body)
    (node : Node) : Body :=
  let next := body.step (node.generationAt i) moment node.view
  next.2 (node.outcome libs serde moment next.1)

def Node.callAfter (libs : Libraries) (serde : Serde) (moment : Moment) (call : Call)
    (node : Node) : Call :=
  let next := call.step libs serde moment node.view
  next.2 (node.outcome libs serde moment next.1)

/-- A call after a step has taken it, was there, or is fresh. -/
theorem getElem?_calls_step {node : Node} {input : Input} {j : ℕ} {call : Call}
    (hcall : (step libs serde node input).1.calls[j]? = some call) :
    (∃ moment before, input = .call j moment ∧ node.calls[j]? = some before ∧
      call = node.callAfter libs serde moment before) ∨
    (node.calls[j]? = some call ∧ ∀ moment, input ≠ .call j moment) ∨
    node.calls[j]? = none ∧ call.isFresh = true := by
  cases input with
  | start config =>
      simp only [step] at hcall
      split at hcall
      · exact .inr (.inl ⟨by simpa using hcall, by simp⟩)
      · exact .inr (.inl ⟨hcall, by simp⟩)
  | «section» input => cases input <;> exact .inr (.inl ⟨by simpa [step] using hcall, by simp⟩)
  | body i moment =>
      simp only [step] at hcall
      split at hcall
      · rcases getElem?_calls_perform hcall with hold | hfresh
        · exact .inr (.inl ⟨hold, by simp⟩)
        · exact .inr (.inr hfresh)
      · exact .inr (.inl ⟨hcall, by simp⟩)
  | call i moment =>
      simp only [step] at hcall
      split at hcall
      · rename_i before hbefore
        simp only [Node.runCall] at hcall
        by_cases hsame : i = j
        · subst hsame
          left
          refine ⟨moment, before, rfl, hbefore, ?_⟩
          rw [List.getElem?_set_self'] at hcall
          obtain ⟨-, -, rfl⟩ := Option.map_eq_some_iff.mp hcall
          rfl
        · rw [List.getElem?_set_ne hsame] at hcall
          rcases getElem?_calls_perform hcall with hold | hfresh
          · refine .inr (.inl ⟨hold, fun moment heq => hsame ?_⟩)
            cases heq
            rfl
          · exact .inr (.inr hfresh)
      · rename_i hnone
        refine .inr (.inl ⟨hcall, fun moment heq => ?_⟩)
        cases heq
        rw [hnone] at hcall
        cases hcall
  | getMembershipState registryIdRaw rlnIdentifierHex =>
      simp only [step] at hcall
      rcases getElem?_concat_cases hcall with hold | ⟨hnone, rfl⟩
      · exact .inr (.inl ⟨hold, by simp⟩)
      · exact .inr (.inr ⟨hnone, rfl⟩)
  | registerMembership registryIdRaw rlnIdentifierHex optionsJson =>
      simp only [step] at hcall
      rcases getElem?_concat_cases hcall with hold | ⟨hnone, rfl⟩
      · exact .inr (.inl ⟨hold, by simp⟩)
      · exact .inr (.inr ⟨hnone, isFresh_registerCall _ _ _⟩)
  | submitReply hash reply moment =>
      simp only [step] at hcall
      split at hcall
      · rcases getElem?_calls_perform hcall with hold | hfresh
        · exact .inr (.inl ⟨hold, by simp⟩)
        · exact .inr (.inr hfresh)
      · exact .inr (.inl ⟨hcall, by simp⟩)
  | store op => exact .inr (.inl ⟨hcall, by simp⟩)

/-- A body after a step has taken it, was there, or is fresh. -/
theorem getElem?_bodies_step {node : Node} {input : Input} {j : ℕ} {body : Body}
    (hbody : (step libs serde node input).1.bodies[j]? = some body) :
    (∃ moment before, input = .body j moment ∧ node.bodies[j]? = some before ∧
      body = node.bodyAfter libs serde j moment before) ∨
    (node.bodies[j]? = some body ∧ ∀ moment, input ≠ .body j moment) ∨
    node.bodies[j]? = none ∧ body.isFresh = true := by
  cases input with
  | start config =>
      simp only [step] at hbody
      split at hbody
      · rcases getElem?_bodies_section hbody with hold | hfresh
        · exact .inr (.inl ⟨hold, by simp⟩)
        · exact .inr (.inr hfresh)
      · exact .inr (.inl ⟨hbody, by simp⟩)
  | «section» input =>
      cases input with
      | start => exact .inr (.inl ⟨hbody, by simp⟩)
      | _ =>
          simp only [step] at hbody
          rcases getElem?_bodies_section hbody with hold | hfresh
          · exact .inr (.inl ⟨hold, by simp⟩)
          · exact .inr (.inr hfresh)
  | body i moment =>
      simp only [step] at hbody
      split at hbody
      · rename_i before hbefore
        simp only [Node.runBody] at hbody
        by_cases hsame : i = j
        · subst hsame
          left
          refine ⟨moment, before, rfl, hbefore, ?_⟩
          rw [List.getElem?_set_self'] at hbody
          obtain ⟨-, -, rfl⟩ := Option.map_eq_some_iff.mp hbody
          rfl
        · rw [List.getElem?_set_ne hsame] at hbody
          rcases getElem?_bodies_perform hbody with hold | hfresh
          · refine .inr (.inl ⟨hold, fun moment heq => hsame ?_⟩)
            cases heq
            rfl
          · exact .inr (.inr hfresh)
      · rename_i hnone
        refine .inr (.inl ⟨hbody, fun moment heq => ?_⟩)
        cases heq
        rw [hnone] at hbody
        cases hbody
  | call i moment =>
      simp only [step] at hbody
      split at hbody
      · rcases getElem?_bodies_perform hbody with hold | hfresh
        · exact .inr (.inl ⟨hold, by simp⟩)
        · exact .inr (.inr hfresh)
      · exact .inr (.inl ⟨hbody, by simp⟩)
  | getMembershipState registryIdRaw rlnIdentifierHex => exact .inr (.inl ⟨hbody, by simp⟩)
  | registerMembership registryIdRaw rlnIdentifierHex optionsJson =>
      exact .inr (.inl ⟨hbody, by simp⟩)
  | submitReply hash reply moment =>
      simp only [step] at hbody
      split at hbody
      · rcases getElem?_bodies_perform hbody with hold | hfresh
        · exact .inr (.inl ⟨hold, by simp⟩)
        · exact .inr (.inr hfresh)
      · exact .inr (.inl ⟨hbody, by simp⟩)
  | store op => exact .inr (.inl ⟨hbody, by simp⟩)

/-- Every call after a step was there, is fresh, or has taken the step. -/
theorem mem_calls_step {node : Node} {input : Input} {call : Call}
    (hcall : call ∈ (step libs serde node input).1.calls) :
    call ∈ node.calls ∨ call.isFresh = true ∨
      ∃ i moment before, input = .call i moment ∧ node.calls[i]? = some before ∧
        ∃ outcome, call = (before.step libs serde moment node.view).2 outcome := by
  obtain ⟨j, hj⟩ := List.mem_iff_getElem?.mp hcall
  rcases getElem?_calls_step hj with
    ⟨moment, before, hinput, hbefore, rfl⟩ | ⟨hold, -⟩ | ⟨-, hfresh⟩
  · exact .inr (.inr ⟨j, moment, before, hinput, hbefore, _, rfl⟩)
  · exact .inl (List.mem_of_getElem? hold)
  · exact .inr (.inl hfresh)

/-- Every body after a step was there, is fresh, or has taken the step. -/
theorem mem_bodies_step {node : Node} {input : Input} {body : Body}
    (hbody : body ∈ (step libs serde node input).1.bodies) :
    body ∈ node.bodies ∨ body.isFresh = true ∨
      ∃ i moment before, input = .body i moment ∧ node.bodies[i]? = some before ∧
        ∃ outcome, body = (before.step (((node.pool.workers[i]?).map Worker.generation).getD 0)
          moment node.view).2 outcome := by
  obtain ⟨j, hj⟩ := List.mem_iff_getElem?.mp hbody
  rcases getElem?_bodies_step hj with
    ⟨moment, before, hinput, hbefore, rfl⟩ | ⟨hold, -⟩ | ⟨-, hfresh⟩
  · exact .inr (.inr ⟨j, moment, before, hinput, hbefore, _, rfl⟩)
  · exact .inl (List.mem_of_getElem? hold)
  · exact .inr (.inl hfresh)

/-! ## What a thread is about to write -/

/-- A state read persists what merging its snapshot with the registry's report
gave, and only a change. -/
def StateRead.Merging : StateRead → Prop
  | .persisting _ record mergedState report =>
      mergedState ≠ record.cache.state ∧
        ∃ now, mergedState = mergeState (some record) (registryState report) now
  | _ => True

def Call.Merging : Call → Prop
  | .stateRead call => call.Merging
  | .register _ => True

theorem StateRead.merging_step {call : StateRead} (moment : Moment) (view : View)
    (outcome : Outcome) : ((call.step moment view).2 outcome).Merging := by
  cases call with
  | entering registryIdRaw rlnIdentifierHex =>
      simp only [step]
      split <;> trivial
  | reading registry record =>
      simp only [step]
      split
      · trivial
      · split
        · exact ⟨‹_›, _, rfl⟩
        · trivial
  | persisting registry record mergedState report => trivial
  | answered reply => trivial

/-- The poller writes what an update comes to in the sweep it is in. -/
def Poller.Observing : Poller → Prop
  | .writing _ sweep record write _ =>
      ∃ update, RecordUpdate.write sweep record update = some write
  | _ => True

def Body.Observing : Body → Prop
  | .poller body => Poller.Observing body
  | .refresher _ | .warm _ => True

theorem Poller.observing_step (generation : ℕ) (around : Surroundings) {poller : Poller}
    (hpoller : Poller.Observing poller) :
    Poller.Observing (poller.step generation around).1 := by
  cases poller with
  | reading tickNo sweep record remaining =>
      simp only [Poller.step]
      split
      · rename_i write hwrite
        obtain ⟨update, -, hupdate⟩ := Option.bind_eq_some_iff.mp hwrite
        exact ⟨update, hupdate⟩
      · trivial
  | sweeping tickNo sweep remaining =>
      cases remaining with
      | nil =>
          cases sweep <;> simp only [Poller.step]
          · split
            · trivial
            · split <;> trivial
          · trivial
      | cons record remaining =>
          rw [Poller.step_sweeping_cons]
          split <;> trivial
  | waiting tickNo =>
      simp only [Poller.step]
      split
      · trivial
      · split <;> trivial
  | ticking tickNo =>
      simp only [Poller.step]
      split
      · trivial
      · split <;> trivial
  | enteringPaths tickNo =>
      simp only [Poller.step]
      split
      · trivial
      · split <;> trivial
  | paths tickNo remaining =>
      cases remaining with
      | nil => trivial
      | cons record remaining =>
          simp only [Poller.step]
          split <;> trivial
  | pathRead tickNo remaining =>
      simp only [Poller.step]
      split <;> trivial
  | writing tickNo sweep record write remaining => trivial
  | readingPath tickNo record remaining => trivial
  | exited => trivial

/-- Every write a thread is about to make is one it has a reason for. -/
structure Meant (node : Node) : Prop where
  calls : ∀ call ∈ node.calls, call.Merging
  bodies : ∀ body ∈ node.bodies, body.Observing

theorem meant_initial (world : World) : Meant { world } := ⟨by simp, by simp⟩

theorem meant_step (node : Node) (input : Input) (hnode : Meant node) :
    Meant (step libs serde node input).1 := by
  refine ⟨fun call hcall => ?_, fun body hbody => ?_⟩
  · rcases mem_calls_step hcall with hold | hfresh | ⟨i, moment, before, -, -, outcome, rfl⟩
    · exact hnode.calls call hold
    · cases call with
      | stateRead read =>
          cases read with
          | persisting => cases hfresh
          | _ => trivial
      | register call => trivial
    · cases before with
      | stateRead read => exact StateRead.merging_step moment node.view outcome
      | register read => trivial
  · rcases mem_bodies_step hbody with hold | hfresh | ⟨i, moment, before, -, hbefore, outcome, rfl⟩
    · exact hnode.bodies body hold
    · cases body with
      | poller poller =>
          cases poller with
          | writing => cases hfresh
          | _ => trivial
      | _ => trivial
    · cases before with
      | poller poller =>
          exact Poller.observing_step _ _ (hnode.bodies _ (List.mem_of_getElem? hbefore))
      | _ => trivial

theorem meant_run (world : World) (inputs : List Input) :
    Meant (Run.run (step libs serde) { world } inputs) :=
  Run.invariant_run (fun node input hnode _ => meant_step node input hnode) (meant_initial world)
    (Run.guarded_true _ _)

theorem Poller.writing_of_step {generation : ℕ} {around : Surroundings} {poller : Poller}
    {record : MembershipRecord} {write : RowWrite}
    (hwrites : (poller.step generation around).2 = some (.writesRow record write)) :
    ∃ tickNo sweep remaining, poller = .writing tickNo sweep record write remaining := by
  cases poller with
  | writing tickNo sweep current written remaining =>
      simp only [Poller.step, Option.some.injEq, Action.writesRow.injEq] at hwrites
      obtain ⟨rfl, rfl⟩ := hwrites
      exact ⟨tickNo, sweep, remaining, rfl⟩
  | sweeping tickNo sweep remaining =>
      exfalso
      cases remaining with
      | nil =>
          cases sweep <;> simp only [Poller.step] at hwrites
          · split at hwrites
            · cases hwrites
            · split at hwrites <;> cases hwrites
          · cases hwrites
      | cons next remaining =>
          rw [Poller.step_sweeping_cons] at hwrites
          split at hwrites <;> cases hwrites
  | paths tickNo remaining =>
      exfalso
      cases remaining with
      | nil => cases hwrites
      | cons next remaining =>
          simp only [Poller.step] at hwrites
          split at hwrites <;> cases hwrites
  | waiting tickNo =>
      exfalso
      simp only [Poller.step] at hwrites
      split at hwrites
      · cases hwrites
      · split at hwrites <;> cases hwrites
  | ticking tickNo =>
      exfalso
      simp only [Poller.step] at hwrites
      split at hwrites
      · cases hwrites
      · split at hwrites <;> cases hwrites
  | enteringPaths tickNo =>
      exfalso
      simp only [Poller.step] at hwrites
      split at hwrites
      · cases hwrites
      · split at hwrites <;> cases hwrites
  | reading tickNo sweep current remaining =>
      exfalso
      simp only [Poller.step] at hwrites
      split at hwrites <;> cases hwrites
  | pathRead tickNo remaining =>
      exfalso
      simp only [Poller.step] at hwrites
      split at hwrites <;> cases hwrites
  | readingPath tickNo current remaining => cases hwrites
  | exited => cases hwrites

/-- A pass takes a ticket or starts a registration; it writes nothing itself. -/
theorem Pass.demand_step (moment : Moment) (view : View) (pass : Pass) :
    (pass.step moment view).1 = .nothing ∨
      ((pass.step moment view).1 = .takesTicket ∧ ∃ config, pass = .warming config) ∨
      ∃ leg rateLimit, pass = .registering leg rateLimit ∧ (pass.step moment view).1 =
        .registers ⟨leg.registry, registryWide, provisionOptions rateLimit⟩ := by
  cases pass with
  | warming config =>
      simp only [Pass.step]
      split
      · exact .inl rfl
      · exact .inr (.inl ⟨rfl, config, rfl⟩)
  | registering leg rateLimit => exact .inr (.inr ⟨leg, rateLimit, rfl, rfl⟩)
  | next ticket rateLimit remaining =>
      left
      cases remaining with
      | nil => rfl
      | cons raw remaining =>
          simp only [Pass.step]
          split
          · rfl
          · split <;> rfl
  | presence leg rateLimit =>
      left
      simp only [Pass.step]
      split
      · rfl
      · split <;> rfl
  | walletSleep leg rateLimit =>
      left
      simp only [Pass.step]
      split
      · rfl
      · split <;> rfl
  | fundingCheck leg rateLimit funding =>
      left
      simp only [Pass.step]
      split
      · rfl
      · split
        · rfl
        · split <;> rfl
  | fundingRead leg rateLimit funding =>
      left
      simp only [Pass.step]
      split
      · split <;> rfl
      · rfl
  | quoting leg rateLimit price => exact .inl rfl
  | requoting leg rateLimit funding => exact .inl rfl
  | finished => exact .inl rfl
  | _ =>
      left
      simp only [Pass.step]
      split <;> rfl

/-- Every demand a registration makes, with the stage that makes it. -/
inductive Register.Demands (view : View) : Register → Demand → Prop
  | none (call : Register) : Demands view call .nothing
  | entering {request : RegisterRequest} (hfree : request.key ∉ view.claims) :
      Demands view (.entering request) (.takesClaim request.key)
  | inserting (request : RegisterRequest) (requested : Requested) (registration : Registration) :
      Demands view (.inserting request requested registration) (.inserts registration)
  | submitting (request : RegisterRequest) (requested : Requested) (registration : Registration)
      (call : SubmitCall) :
      Demands view (.submitting request requested registration) (.submits call)
  | failing (request : RegisterRequest) (hash : String) (error : ApiError) :
      Demands view (.failing request hash error) (.writesRow hash none (.submitFailed error))
  | ensuring (request : RegisterRequest) (hash : String) :
      Demands view (.ensuring request hash) .ensuresPoller
  | releasing (request : RegisterRequest) (reply : Except ApiError RegisterReply) :
      Demands view (.releasing request reply) (.releasesClaim request.key)

theorem Register.demands_step (moment : Moment) (view : View) (call : Register) :
    Demands view call (call.step libs serde moment view).1 := by
  cases call with
  | entering request =>
      simp only [step]
      split
      · exact .none _
      · split
        · exact .none _
        · exact .entering ‹_›
  | scanning request =>
      simp only [step]
      split
      · exact .none _
      · split
        · exact .none _
        · split <;> exact .none _
  | readingBounds request requested =>
      simp only [step]
      split
      · exact .none _
      · split <;> exact .none _
  | inserting request requested registration => exact .inserting _ _ _
  | submitting request requested registration => exact .submitting _ _ _ _
  | failing request hash error => exact .failing _ _ _
  | ensuring request hash => exact .ensuring _ _
  | replying request hash =>
      simp only [step]
      split <;> exact .none _
  | releasing request reply => exact .releasing _ _
  | answered reply => exact .none _

/-- A row is written by the poller with an update it observed, by a state read
with what it merged, by a refused submission, or by a submission's late
reply. -/
theorem demand_writesRow {node : Node} {input : Input} {hash : String}
    {announcing : Option MembershipRecord} {write : RowWrite}
    (hdemand : demand libs serde node input = .writesRow hash announcing write) :
    (∃ i moment tickNo sweep record remaining, input = .body i moment ∧
      node.bodies[i]? = some (.poller (.writing tickNo sweep record write remaining)) ∧
      record.hash = hash ∧ announcing = some record) ∨
    (∃ i moment registry record mergedState report, input = .call i moment ∧
      node.calls[i]? = some (.stateRead (.persisting registry record mergedState report)) ∧
      record.hash = hash ∧ announcing = some record ∧
      write = .merged record.cache.state mergedState report) ∨
    (∃ i moment request error, input = .call i moment ∧
      node.calls[i]? = some (.register (.failing request hash error)) ∧ announcing = none ∧
      write = .submitFailed error) ∨
    ∃ moment, input = .submitReply hash write moment ∧ write.isSubmitReply = true ∧
      announcing = none := by
  cases input with
  | body i moment =>
      simp only [demand] at hdemand
      split at hdemand
      · rename_i body hbody
        cases body with
        | poller poller =>
            left
            simp only [Body.step, ThreadStep.map, pollerStep] at hdemand
            cases haction : (poller.step (((node.pool.workers[i]?).map Worker.generation).getD 0)
                (moment.surroundings node.view)).2 with
            | none => simp [haction, demandOf] at hdemand
            | some action =>
                rw [haction] at hdemand
                cases action with
                | readsRegistry record => cases hdemand
                | writesRow record written =>
                    cases hdemand
                    obtain ⟨tickNo, sweep, remaining, rfl⟩ := Poller.writing_of_step haction
                    exact ⟨i, moment, tickNo, sweep, record, remaining, rfl, hbody, rfl, rfl⟩
        | refresher refresher => cases hdemand
        | warm pass =>
            exfalso
            have hnone := Pass.demand_step moment node.view pass
            simp only [Body.step, ThreadStep.map] at hdemand
            rcases hnone with h | ⟨h, -⟩ | ⟨leg, rateLimit, -, h⟩ <;> rw [h] at hdemand <;>
              cases hdemand
      · cases hdemand
  | call i moment =>
      simp only [demand] at hdemand
      split at hdemand
      · rename_i call hcall
        cases call with
        | stateRead call =>
            right
            left
            simp only [Call.step, ThreadStep.map] at hdemand
            cases call with
            | persisting registry record mergedState report =>
                cases hdemand
                exact ⟨i, moment, registry, record, mergedState, report, rfl, hcall, rfl, rfl, rfl⟩
            | entering registryIdRaw rlnIdentifierHex =>
                simp only [StateRead.step] at hdemand
                split at hdemand <;> cases hdemand
            | reading registry record =>
                simp only [StateRead.step] at hdemand
                split at hdemand
                · cases hdemand
                · split at hdemand <;> cases hdemand
            | answered reply => cases hdemand
        | register call =>
            right
            right
            left
            simp only [Call.step, ThreadStep.map] at hdemand
            have hdemands := @Register.demands_step libs serde moment node.view call
            rw [hdemand] at hdemands
            cases hdemands with
            | failing request hash error => exact ⟨i, moment, request, error, rfl, hcall, rfl, rfl⟩
      · cases hdemand
  | submitReply written reply moment =>
      simp only [demand] at hdemand
      split at hdemand
      · cases hdemand
        exact .inr (.inr (.inr ⟨moment, rfl, ‹_›, rfl⟩))
      · cases hdemand
  | _ => cases hdemand

/-- A merged write is a state read's, and comes from its snapshot. -/
theorem Meant.merged {node : Node} {input : Input} {hash : String}
    {announcing : Option MembershipRecord} {snapshotState mergedState : MembershipState}
    {report : ProviderMembership} (hnode : Meant node)
    (hdemand : demand libs serde node input =
      .writesRow hash announcing (.merged snapshotState mergedState report)) :
    ∃ record : MembershipRecord, snapshotState = record.cache.state ∧
      mergedState ≠ record.cache.state ∧
        ∃ now, mergedState = mergeState (some record) (registryState report) now := by
  rcases demand_writesRow hdemand with
    ⟨i, moment, tickNo, sweep, record, remaining, -, hbody, -, -⟩ |
    ⟨i, moment, registry, record, state, reported, -, hcall, -, -, hwrite⟩ |
    ⟨_, _, _, _, -, -, -, hwrite⟩ | ⟨_, -, hreply, -⟩
  · -- the poller observes; merging is the state read's
    obtain ⟨update, hupdate⟩ := hnode.bodies _ (List.mem_of_getElem? hbody)
    cases update with
    | observed => cases hupdate
    | absent =>
        cases sweep with
        | refresh => cases hupdate
        | confirm now =>
            simp only [RecordUpdate.write] at hupdate
            split at hupdate <;> cases hupdate
  · obtain ⟨rfl, rfl, rfl⟩ := RowWrite.merged.inj hwrite
    exact ⟨record, rfl, hnode.calls _ (List.mem_of_getElem? hcall)⟩
  · cases hwrite
  · cases hreply

/-! ## What a step does to one row -/

/-- The write a step makes to the row of a membership, if the store takes it. -/
def writesTo (libs : Libraries) (serde : Serde) (hash : String) (node : Node) (input : Input) :
    Option RowWrite :=
  match demand libs serde node input with
  | .writesRow written _ write =>
      if written = hash ∧ acceptsRow hash node.world then some write else none
  | _ => none

theorem demand_of_writesTo {hash : String} {node : Node} {input : Input} {write : RowWrite}
    (hwrites : writesTo libs serde hash node input = some write) :
    ∃ announcing, demand libs serde node input = .writesRow hash announcing write := by
  simp only [writesTo] at hwrites
  split at hwrites
  · rename_i written announcing demanded hdemand
    split at hwrites
    · rename_i hwritten
      obtain rfl := Option.some.inj hwrites
      obtain rfl := hwritten.1
      exact ⟨announcing, hdemand⟩
    · cases hwrites
  · cases hwrites

/-- The membership is not registered anew and the store is used through the
threads only. -/
def KeepsRow (libs : Libraries) (serde : Serde) (hash : String) (node : Node) (input : Input) :
    Prop :=
  input.isStore = false ∧ ∀ registration,
    demand libs serde node input = .inserts registration → registration.hash ≠ hash

instance (hash : String) : ∀ demanded : Demand,
    Decidable (∀ registration, demanded = .inserts registration → registration.hash ≠ hash)
  | .inserts registration =>
      decidable_of_iff (registration.hash ≠ hash)
        ⟨fun hother _ hdemand => Demand.inserts.inj hdemand ▸ hother, fun hall => hall _ rfl⟩
  | .nothing | .readsRegistry _ | .writesRow _ _ _ | .submits _ | .takesClaim _
  | .releasesClaim _ | .takesTicket | .ensuresPoller | .registers _ => isTrue nofun

instance (hash : String) (node : Node) (input : Input) :
    Decidable (KeepsRow libs serde hash node input) :=
  inferInstanceAs (Decidable (_ ∧ _))

/-- The row of a membership changes by the write a step makes to it. -/
theorem row_step {node : Node} {input : Input} {hash : String}
    (hkeeps : KeepsRow libs serde hash node input) :
    row hash (step libs serde node input).1.world =
      match writesTo libs serde hash node input with
      | some write => observeRow (write.mutate serde) input.moment.now (row hash node.world)
      | none => row hash node.world := by
  obtain ⟨hstore, hinserts⟩ := hkeeps
  rcases step_world node input with ⟨op, hop, -⟩ | ⟨hworld, -⟩
  · rw [hop] at hstore
    cases hstore
  · rw [hworld]
    simp only [writesTo]
    cases hdemand : demand libs serde node input with
    | writesRow written announcing write =>
        have heffect := @updateCache_effect libs node.world written (write.mutate serde)
          input.moment.now input.moment.cacheWrite
        simp only [worldAfter, writeOp]
        generalize input.moment.cacheWrite = outcome at heffect ⊢
        generalize SealedStore.step libs node.world _ = stored at heffect
        have hwritten : acceptsRow written node.world = true →
            (∀ other, row other stored.1 = if other = written then
              observeRow (write.mutate serde) input.moment.now (row written node.world)
              else row other node.world) →
            row hash stored.1 =
              match if written = hash ∧ acceptsRow hash node.world = true then some write
                else none with
              | some write =>
                  observeRow (write.mutate serde) input.moment.now (row hash node.world)
              | none => row hash node.world := by
          intro haccepts hrows
          by_cases hsame : written = hash
          · subst hsame
            simp [hrows, haccepts]
          · simp [hrows, hsame, Ne.symm hsame]
        obtain ⟨world', answer⟩ := stored
        cases heffect with
        | refused error hrefused =>
            by_cases hsame : written = hash
            · subst hsame
              simp [hrefused]
            · simp [hsame]
        | unsaved error haccepts hfailed hrows => exact hwritten haccepts hrows
        | saved hprior haccepts hrows => exact hwritten haccepts hrows
    | inserts registration =>
        simp only [worldAfter, insertOp]
        rw [row_insert (hinserts registration hdemand)]
    | _ => rfl

/-! ## A module with one pending membership -/

/-- A coding that reads one reply, an estimate of the leaf. -/
def sampleSerde : Serde where
  fromStr text :=
    if text = "\x7b\"leaf_index\":7\x7d" then .ok (.object [("leaf_index", .uint 7)])
    else .error "expected value"
  toString _ := ""

/-- A registration of the membership `ab`. -/
def sampleInsert : Op :=
  .insert
    { hash := "ab"
      identity := ⟨Reference.registryId, "aa", "11", 0⟩
      credential := ⟨"11", "00", Reference.registryId⟩
      rateLimit := 100 }
    Reference.nonce Reference.writes

/-- The store opened, unlocked and with `ab` inserted, and the module started. -/
def startedInputs : List Input :=
  [.store (.openStore Reference.env), .store Reference.unlockOp, .store sampleInsert, .start {},
    .section .resumeStart, .section .resumeStart, .section .resumeStart]

/-- The poller wakes and begins to read its first pending record. -/
def pollsInputs (now : UInt64) : List Input :=
  [.body 0 {}, .body 0 { now }, .body 0 {}]

def zeros : String := "0000000000000000000000000000000000000000000000000000000000000000"

end LogosRln.Callers
