import LogosRln.Maintenance.Supervisor
import LogosRln.Callers.RowWrites

/-!
# The poller and the root refresher

The bodies of the two supervised loops.  Each step is one access to what the
threads share: the supervisor, the stopped flag, the published records, one
registry read, or one row write.  A read that has begun answers only in a later
step, so everything else may happen in between.
-/

namespace LogosRln.Maintenance

open Lifecycle Provider Callers RegistryId

/-- What a body finds around it when it takes a step. -/
structure Surroundings where
  sup : Supervisor
  stopped : Bool
  timedOut : Bool
  now : UInt64
  /-- The records of the current store, if there is one. -/
  records : Option (List MembershipRecord)
  tracked : List CanonicalRegistryId
  reply : Except ApiError ProviderMembership

/-- The predicate `wait` sleeps under. -/
def asleep (sup : Supervisor) (myGen entryNudges : ℕ) (timedOut honorNudge : Bool) : Bool :=
  !timedOut && sup.generation == myGen && sup.state != .stopped &&
    (!honorNudge || sup.nudges == entryNudges)

/-! ## The poller -/

/-- Every fourth tick refreshes states and paths. -/
def refreshEvery : ℕ := 4

/-- The confirmation work list. -/
def pendingRecords (records : List MembershipRecord) : List MembershipRecord :=
  records.filter fun record => !record.quarantined && record.cache.state == .pending

def isRefreshable : MembershipState → Bool
  | .active | .gracePeriod | .expired | .unknown => true
  | _ => false

/-- The state-refresh work list. -/
def refreshableRecords (records : List MembershipRecord) : List MembershipRecord :=
  records.filter fun record => !record.quarantined && isRefreshable record.cache.state

/-- The path-refresh work list. -/
def usableRecords (records : List MembershipRecord) : List MembershipRecord :=
  (refreshableRecords records).filter (·.cache.state.isUsable)

/-- The record's registry is well formed and has a provider. -/
def readable (record : MembershipRecord) : Bool :=
  match parse record.identity.registryId with
  | .ok registry => providerFor registry.registryNamespace
  | .error _ => false

inductive RecordUpdate where
  | observed (state : MembershipState) (leafIndex rateLimit : UInt64)
  | absent
  deriving DecidableEq

/-- What one registry read says about a record; a failed one says nothing. -/
def observe (reply : Except ApiError ProviderMembership) : Option RecordUpdate :=
  match reply with
  | .error _ => none
  | .ok membership =>
      if membership.registered then
        some (.observed membership.state membership.leafIndex membership.rateLimit)
      else some .absent

/-- The two sweeps of a tick; the first one reads the clock once. -/
inductive Sweep where
  | confirm (now : UInt64)
  | refresh
  deriving DecidableEq

/-- The write a sweep makes of an update. -/
def RecordUpdate.write (sweep : Sweep) (record : MembershipRecord) :
    RecordUpdate → Option RowWrite
  | .observed state leafIndex rateLimit => some (.observed state leafIndex rateLimit)
  | .absent =>
      match sweep with
      | .confirm now =>
          if RateLimit.saturatingSub now record.identity.submittedAt > confirmationWindowSecs then
            some .windowElapsed
          else none
      | .refresh => some .removed

inductive Poller where
  | waiting (tickNo : UInt32)
  | ticking (tickNo : UInt32)
  | sweeping (tickNo : UInt32) (sweep : Sweep) (remaining : List MembershipRecord)
  | reading (tickNo : UInt32) (sweep : Sweep) (record : MembershipRecord)
      (remaining : List MembershipRecord)
  | writing (tickNo : UInt32) (sweep : Sweep) (record : MembershipRecord) (write : RowWrite)
      (remaining : List MembershipRecord)
  | enteringPaths (tickNo : UInt32)
  | paths (tickNo : UInt32) (remaining : List MembershipRecord)
  | readingPath (tickNo : UInt32) (record : MembershipRecord) (remaining : List MembershipRecord)
  | pathRead (tickNo : UInt32) (remaining : List MembershipRecord)
  | exited
  deriving DecidableEq

/-- What a step of the poller does to the world around it. -/
inductive Action where
  | readsRegistry (record : MembershipRecord)
  | writesRow (record : MembershipRecord) (write : RowWrite)
  deriving DecidableEq

/-- `tick`'s `refresh_states`. -/
def refreshes (tickNo : UInt32) : Bool := tickNo.toNat % refreshEvery == 0

def Poller.step (myGen : ℕ) (around : Surroundings) : Poller → Poller × Option Action
  | .waiting tickNo =>
      if asleep around.sup myGen around.sup.nudges around.timedOut false then
        (.waiting tickNo, none)
      else if wait around.sup myGen around.sup.nudges around.timedOut false then
        (.ticking (tickNo + 1), none)
      else (.exited, none)
  | .ticking tickNo =>
      if around.stopped then (.waiting tickNo, none)
      else
        match around.records with
        | none => (.waiting tickNo, none)
        | some records => (.sweeping tickNo (.confirm around.now) (pendingRecords records), none)
  | .sweeping tickNo (.confirm _) [] =>
      if !refreshes tickNo then (.waiting tickNo, none)
      else
        match around.records with
        | none => (.waiting tickNo, none)
        | some records => (.sweeping tickNo .refresh (refreshableRecords records), none)
  | .sweeping tickNo .refresh [] => (.enteringPaths tickNo, none)
  | .sweeping tickNo sweep (record :: remaining) =>
      if readable record then
        (.reading tickNo sweep record remaining, some (.readsRegistry record))
      else (.sweeping tickNo sweep remaining, none)
  | .reading tickNo sweep record remaining =>
      match (observe around.reply).bind (RecordUpdate.write sweep record) with
      | some write => (.writing tickNo sweep record write remaining, none)
      | none => (.sweeping tickNo sweep remaining, none)
  | .writing tickNo sweep record write remaining =>
      (.sweeping tickNo sweep remaining, some (.writesRow record write))
  | .enteringPaths tickNo =>
      if around.stopped then (.waiting tickNo, none)
      else
        match around.records with
        | none => (.waiting tickNo, none)
        | some records => (.paths tickNo (usableRecords records), none)
  | .paths tickNo [] => (.waiting tickNo, none)
  | .paths tickNo (record :: remaining) =>
      if readable record && record.cache.leafIndex.isSome then
        (.readingPath tickNo record remaining, some (.readsRegistry record))
      else (.paths tickNo remaining, none)
  | .readingPath tickNo _ remaining => (.pathRead tickNo remaining, none)
  | .pathRead tickNo remaining =>
      if around.stopped then (.waiting tickNo, none) else (.paths tickNo remaining, none)
  | .exited => (.exited, none)

theorem Poller.step_sweeping_cons (generation : ℕ) (around : Surroundings) (tickNo : UInt32)
    (sweep : Sweep) (record : MembershipRecord) (remaining : List MembershipRecord) :
    Poller.step generation around (.sweeping tickNo sweep (record :: remaining)) =
      if readable record then
        (.reading tickNo sweep record remaining, some (.readsRegistry record))
      else (.sweeping tickNo sweep remaining, none) := by
  cases sweep <;> rfl

/-! ## The root refresher -/

inductive Refresher where
  | waiting (entryNudges : ℕ)
  | ticking
  | sweeping (remaining : List CanonicalRegistryId)
  | reading (remaining : List CanonicalRegistryId)
  | registryRead (remaining : List CanonicalRegistryId)
  | exited
  deriving DecidableEq

/-- The registry whose roots a step begins to read, if it begins a read. -/
def Refresher.step (myGen : ℕ) (around : Surroundings) :
    Refresher → Refresher × Option CanonicalRegistryId
  | .waiting entryNudges =>
      if asleep around.sup myGen entryNudges around.timedOut true then (.waiting entryNudges, none)
      else if wait around.sup myGen entryNudges around.timedOut true then (.ticking, none)
      else (.exited, none)
  | .ticking =>
      if around.stopped then (.waiting around.sup.nudges, none)
      else (.sweeping around.tracked, none)
  | .sweeping [] => (.waiting around.sup.nudges, none)
  | .sweeping (registry :: remaining) =>
      if providerFor registry.registryNamespace then (.reading remaining, some registry)
      else (.registryRead remaining, none)
  | .reading remaining => (.registryRead remaining, none)
  | .registryRead remaining =>
      if around.stopped then (.waiting around.sup.nudges, none) else (.sweeping remaining, none)
  | .exited => (.exited, none)

end LogosRln.Maintenance
