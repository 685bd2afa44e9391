import LogosRln.Callers.Provision

/-!
# The module as a system of threads

The store, the supervisor with the bodies of its workers, the calls the host
made, the claims on scopes and the provisioning tickets.  One step is one step
of one thread, one section of the supervisor, a submission's late reply, or a
call of the store of another kind.  Replies from outside are arbitrary.
-/

namespace LogosRln.Callers

open LogosRln.Lifecycle Provider Json RegistryId Maintenance SealedStore

/-- The body of a worker. -/
inductive Body where
  | poller (body : Poller)
  | refresher (body : Refresher)
  | warm (body : Pass)

inductive Call where
  | stateRead (call : StateRead)
  | register (call : Register)

/-- Bodies stand at the positions of their workers. -/
structure Node where
  world : World := {}
  pool : Pool := {}
  bodies : List Body := []
  calls : List Call := []
  claims : Finset (String × String) := ∅
  epoch : UInt64 := 0
  /-- The configuration of the `start` under way. -/
  config : StartConfig := {}

def Body.exited : Body → Bool
  | .poller .exited => true
  | .refresher .exited => true
  | .warm .finished => true
  | _ => false

def Call.reply : Call → Option (Except ApiError RegisterReply)
  | .register call => call.reply
  | .stateRead _ => none

def Node.view (node : Node) : View where
  sup := node.pool.sup
  stopped := node.pool.stopped
  records := node.world.store.map Store.records
  claims := node.claims
  epoch := node.epoch
  reply i := (node.calls[i]?).bind Call.reply

/-! ## Supervisor sections -/

def freshBody (config : StartConfig) (nudges : ℕ) (worker : Worker) : Body :=
  match worker.role with
  | .poller => .poller (.waiting 0)
  | .refresher => .refresher (.waiting nudges)
  | .warm => .warm (.warming config)

/-- A section of the supervisor, with a body for each worker it spawns. -/
def Node.withPool (pool : Pool) (node : Node) : Node :=
  { node with
    pool
    bodies := node.bodies ++
      (pool.workers.drop node.pool.workers.length).map (freshBody node.config pool.sup.nudges) }

/-- A worker leaves its body when the body has come to its end. -/
def Node.sectionDue (node : Node) : Maintenance.Input → Bool
  | .bodyReturns i => (node.bodies[i]?).any Body.exited
  | _ => true

def Node.section (input : Maintenance.Input) (node : Node) : Node :=
  if node.sectionDue input then node.withPool (Maintenance.step node.pool input) else node

/-! ## Demands -/

/-- What a step leaves behind for a reader of the run. -/
structure Report where
  wrote : Option (String × RowWrite) := none
  inserted : Option Registration := none
  event : Option StateChanged := none

/-- The event a row write is announced with, once it is stored. -/
def announcement (announcing : Option MembershipRecord) (write : RowWrite) :
    Answer → Option StateChanged
  | .cacheUpdated (.ok prior) => announcing.bind fun record => write.event record prior
  | _ => none

def writeOp (serde : Serde) (moment : Moment) (hash : String) (write : RowWrite) : Op :=
  .updateCache hash (write.mutate serde) moment.now moment.cacheWrite

def insertOp (moment : Moment) (registration : Registration) : Op :=
  .insert registration moment.nonce moment.insertWrites

def perform (libs : Libraries) (serde : Serde) (moment : Moment) (demand : Demand) (node : Node) :
    Node × Outcome × Report :=
  match demand with
  | .nothing | .readsRegistry _ | .submits _ => (node, .done, {})
  | .writesRow hash announcing write =>
      let stored := SealedStore.step libs node.world (writeOp serde moment hash write)
      ({ node with world := stored.1 }, .stored stored.2,
        { wrote := some (hash, write), event := announcement announcing write stored.2 })
  | .inserts registration =>
      let stored := SealedStore.step libs node.world (insertOp moment registration)
      ({ node with world := stored.1 }, .stored stored.2, { inserted := some registration })
  | .takesClaim key => ({ node with claims := insert key node.claims }, .done, {})
  | .releasesClaim key => ({ node with claims := node.claims.erase key }, .done, {})
  | .takesTicket => ({ node with epoch := node.epoch + 1 }, .ticket (node.epoch + 1), {})
  | .ensuresPoller => (node.section .ensurePoller, .done, {})
  | .registers request =>
      ({ node with calls := node.calls ++ [.register (.entering request)] },
        .call node.calls.length, {})

/-! ## Steps -/

def ThreadStep.map {First Second : Type} (wrap : First → Second) (step : ThreadStep First) :
    ThreadStep Second :=
  (step.1, wrap ∘ step.2)

def Body.step (generation : ℕ) (moment : Moment) (view : View) : Body → ThreadStep Body
  | .poller body => (pollerStep generation moment view body).map .poller
  | .refresher body => (refresherStep generation moment view body).map .refresher
  | .warm body => (body.step moment view).map .warm

def Call.step (libs : Libraries) (serde : Serde) (moment : Moment) (view : View) :
    Call → ThreadStep Call
  | .stateRead call => (call.step moment view).map .stateRead
  | .register call => (call.step libs serde moment view).map .register

inductive Input where
  /-- `start` begins; it goes on with the sections of the supervisor. -/
  | start (config : StartConfig)
  | section (input : Maintenance.Input)
  | body (i : ℕ) (moment : Moment)
  | call (i : ℕ) (moment : Moment)
  | getMembershipState (registryIdRaw rlnIdentifierHex : String)
  | registerMembership (registryIdRaw rlnIdentifierHex optionsJson : String)
  /-- The reply of a funded or a delegated submission lands. -/
  | submitReply (hash : String) (reply : RowWrite) (moment : Moment)
  | store (op : Op)

/-- The two writes of the submit callbacks. -/
def RowWrite.isSubmitReply : RowWrite → Bool
  | .fundedSubmit _ | .delegatedSubmit _ => true
  | _ => false

def Node.runBody (libs : Libraries) (serde : Serde) (i : ℕ) (moment : Moment) (body : Body)
    (node : Node) : Node × Report :=
  let generation := ((node.pool.workers[i]?).map Worker.generation).getD 0
  let next := body.step generation moment node.view
  let performed := perform libs serde moment next.1 node
  ({ performed.1 with bodies := performed.1.bodies.set i (next.2 performed.2.1) }, performed.2.2)

def Node.runCall (libs : Libraries) (serde : Serde) (i : ℕ) (moment : Moment) (call : Call)
    (node : Node) : Node × Report :=
  let next := call.step libs serde moment node.view
  let performed := perform libs serde moment next.1 node
  ({ performed.1 with calls := performed.1.calls.set i (next.2 performed.2.1) }, performed.2.2)

/-- The call `register_membership` makes once its scope is parsed. -/
def registerCall (registryIdRaw rlnIdentifierHex optionsJson : String) : Call :=
  match parseScope registryIdRaw rlnIdentifierHex with
  | .error error => .register (.answered (.error error))
  | .ok (registry, rlnIdHex) => .register (.entering ⟨registry, rlnIdHex, optionsJson⟩)

def step (libs : Libraries) (serde : Serde) (node : Node) : Input → Node × Report
  | .start config =>
      if node.pool.lifecycle = .idle then
        ({ node with config } |>.section .start, {})
      else (node, {})
  | .section input =>
      match input with
      | .start => (node, {})
      | input => (node.section input, {})
  | .body i moment =>
      match node.bodies[i]? with
      | some body => node.runBody libs serde i moment body
      | none => (node, {})
  | .call i moment =>
      match node.calls[i]? with
      | some call => node.runCall libs serde i moment call
      | none => (node, {})
  | .getMembershipState registryIdRaw rlnIdentifierHex =>
      ({ node with calls := node.calls ++
          [.stateRead (.entering registryIdRaw rlnIdentifierHex)] }, {})
  | .registerMembership registryIdRaw rlnIdentifierHex optionsJson =>
      ({ node with calls := node.calls ++
          [registerCall registryIdRaw rlnIdentifierHex optionsJson] }, {})
  | .submitReply hash reply moment =>
      if reply.isSubmitReply then
        let performed := perform libs serde moment (.writesRow hash none reply) node
        (performed.1, performed.2.2)
      else (node, {})
  | .store op => ({ node with world := (SealedStore.step libs node.world op).1 }, {})

end LogosRln.Callers
