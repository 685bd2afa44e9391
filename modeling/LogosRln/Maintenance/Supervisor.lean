import Mathlib.Data.List.Basic
import LogosRln.Core.Run

/-!
# The worker supervisor

The maintenance threads' single owner.  Every section that holds the supervisor
mutex is one step: the two sections of `start` and of the poller and refresher
it ensures, the section that respawns the warm pass, the two of `stop`, every
on-demand `ensure`, and the three stages in which a worker leaves.  `start` and
`stop` run under one lifecycle mutex; everything else interleaves freely, and
`stop` may resume before the workers it waits for have left.
-/

namespace LogosRln.Maintenance

open LogosRln.Run

inductive WorkerState where
  | neverStarted
  | running
  | stopped
  deriving DecidableEq, Repr

inductive Role where
  | poller
  | refresher
  | warm
  deriving DecidableEq, Repr

/-- How far a spawned worker is: in its body, past it, past the section that
counts it off, or returned with its flag set. -/
inductive Progress where
  | body
  | leaving
  | counted
  | done
  deriving DecidableEq, Repr

structure Worker where
  generation : ℕ
  role : Role
  progress : Progress
  deriving DecidableEq, Repr

/-- Slots hold the worker's position in the list of all workers spawned. -/
structure Supervisor where
  state : WorkerState := .neverStarted
  generation : ℕ := 0
  nudges : ℕ := 0
  running : ℕ := 0
  poller : Option ℕ := none
  refresher : Option ℕ := none
  warm : Option ℕ := none
  deriving DecidableEq, Repr

def Supervisor.slot (sup : Supervisor) : Role → Option ℕ
  | .poller => sup.poller
  | .refresher => sup.refresher
  | .warm => sup.warm

def Supervisor.setSlot (sup : Supervisor) (role : Role) (slot : Option ℕ) : Supervisor :=
  match role with
  | .poller => { sup with poller := slot }
  | .refresher => { sup with refresher := slot }
  | .warm => { sup with warm := slot }

/-- Who holds the lifecycle mutex, and which section comes next. -/
inductive LifecycleMutex where
  | idle
  | starting (next : Role)
  | stopping
  deriving DecidableEq, Repr

structure Pool where
  sup : Supervisor := {}
  stopped : Bool := false
  workers : List Worker := []
  lifecycle : LifecycleMutex := .idle
  deriving DecidableEq, Repr

/-- What `wait` answers once its predicate no longer holds or its time is up:
whether the worker runs its tick. -/
def wait (sup : Supervisor) (myGen entryNudges : ℕ) (timedOut honorNudge : Bool) : Bool :=
  (timedOut || honorNudge && sup.nudges != entryNudges) && sup.generation == myGen &&
    sup.state != .stopped

/-! ## Sections under the mutex -/

/-- A slot with a worker that has not set its flag. -/
def Pool.alive (pool : Pool) (slot : Option ℕ) : Bool :=
  slot.any fun i => pool.workers[i]?.any fun worker => worker.progress != .done

def spawnInto (role : Role) (pool : Pool) : Pool :=
  { pool with
    workers := pool.workers ++ [⟨pool.sup.generation, role, .body⟩]
    sup := { pool.sup.setSlot role (some pool.workers.length) with
      running := pool.sup.running + 1 } }

/-- Spawn into the slot if permitted and not already alive. -/
def ensure (role : Role) (pool : Pool) : Pool :=
  if pool.sup.state = .stopped then pool
  else if pool.alive (pool.sup.slot role) then pool
  else spawnInto role pool

/-- First section of `start`. -/
def startSection (pool : Pool) : Pool :=
  { pool with
    sup := { pool.sup with
      generation :=
        if pool.sup.state = .stopped then pool.sup.generation + 1 else pool.sup.generation
      state := .running }
    stopped := false
    lifecycle := .starting .poller }

/-- Last section of `start`: the previous warm pass is reaped or detached, and
one is spawned unless a `stop` came in between. -/
def warmSection (pool : Pool) : Pool :=
  let pool := { pool with sup := pool.sup.setSlot .warm none }
  if pool.sup.state = .stopped then pool else spawnInto .warm pool

/-- First section of `stop`. -/
def stopSection (pool : Pool) : Pool :=
  { pool with sup := { pool.sup with state := .stopped }, stopped := true, lifecycle := .stopping }

/-- Last section of `stop`: every slot is joined or detached, the generation
closed and the count zeroed. -/
def closeSection (pool : Pool) : Pool :=
  { pool with
    sup := { pool.sup with
      poller := none
      refresher := none
      warm := none
      generation := pool.sup.generation + 1
      running := 0 }
    lifecycle := .idle }

/-- The exit epilogue counts off a worker of the current generation. -/
def epilogueSection (worker : Worker) (sup : Supervisor) : Supervisor :=
  if sup.generation = worker.generation then { sup with running := sup.running - 1 } else sup

def setProgress (i : ℕ) (worker : Worker) (progress : Progress) (pool : Pool) : Pool :=
  { pool with workers := pool.workers.set i { worker with progress } }

/-! ## Interleavings -/

inductive Input where
  | start
  | resumeStart
  | stop
  | resumeStop
  | ensurePoller
  | ensureRefresher
  | nudge
  | bodyReturns (i : ℕ)
  | epilogue (i : ℕ)
  | setsDone (i : ℕ)
  deriving DecidableEq, Repr

/-- The worker at a position, if it is at this stage. -/
def Pool.workerAt (pool : Pool) (i : ℕ) (progress : Progress) : Option Worker :=
  pool.workers[i]?.filter fun worker => worker.progress == progress

/-- One section of one caller or worker; a section that is not due changes
nothing. -/
def step (pool : Pool) : Input → Pool
  | .start => if pool.lifecycle = .idle then startSection pool else pool
  | .resumeStart =>
      match pool.lifecycle with
      | .starting .poller => { ensure .poller pool with lifecycle := .starting .refresher }
      | .starting .refresher => { ensure .refresher pool with lifecycle := .starting .warm }
      | .starting .warm => { warmSection pool with lifecycle := .idle }
      | _ => pool
  | .stop => if pool.lifecycle = .idle then stopSection pool else pool
  | .resumeStop => if pool.lifecycle = .stopping then closeSection pool else pool
  | .ensurePoller => ensure .poller pool
  | .ensureRefresher => ensure .refresher pool
  | .nudge => { pool with sup := { pool.sup with nudges := pool.sup.nudges + 1 } }
  | .bodyReturns i =>
      match pool.workerAt i .body with
      | some worker => setProgress i worker .leaving pool
      | none => pool
  | .epilogue i =>
      match pool.workerAt i .leaving with
      | some worker =>
          { setProgress i worker .counted pool with sup := epilogueSection worker pool.sup }
      | none => pool
  | .setsDone i =>
      match pool.workerAt i .counted with
      | some worker => setProgress i worker .done pool
      | none => pool

def poolStep (pool : Pool) (input : Input) : Pool × Unit := (step pool input, ())

/-! ## What every reachable pool satisfies -/

/-- Spawned in the current generation and not yet past its epilogue. -/
def Pool.counts (pool : Pool) (worker : Worker) : Bool :=
  worker.generation == pool.sup.generation &&
    (worker.progress == .body || worker.progress == .leaving)

/-- The supervision invariant. -/
structure Supervised (pool : Pool) : Prop where
  /-- No worker is of a later generation. -/
  opened : ∀ worker ∈ pool.workers, worker.generation ≤ pool.sup.generation
  counted : pool.sup.running = pool.workers.countP pool.counts
  /-- A current poller or refresher that has not returned is in its slot. -/
  slotted : ∀ (i : ℕ) (worker : Worker), pool.workers[i]? = some worker →
    worker.role ≠ .warm → worker.generation = pool.sup.generation → worker.progress ≠ .done →
    pool.sup.slot worker.role = some i
  /-- Once `stop` has returned the current generation is empty. -/
  closed : pool.sup.state = .stopped → pool.lifecycle ≠ .stopping →
    ∀ worker ∈ pool.workers, worker.generation ≠ pool.sup.generation
  stopping : pool.lifecycle = .stopping → pool.sup.state = .stopped

theorem supervised_initial : Supervised {} :=
  ⟨by simp, rfl, by simp, by simp, by simp⟩

@[simp]
theorem setSlot_generation (sup : Supervisor) (role : Role) (slot : Option ℕ) :
    (sup.setSlot role slot).generation = sup.generation := by
  cases role <;> rfl

@[simp]
theorem setSlot_state (sup : Supervisor) (role : Role) (slot : Option ℕ) :
    (sup.setSlot role slot).state = sup.state := by
  cases role <;> rfl

@[simp]
theorem setSlot_running (sup : Supervisor) (role : Role) (slot : Option ℕ) :
    (sup.setSlot role slot).running = sup.running := by
  cases role <;> rfl

theorem slot_setSlot (sup : Supervisor) (role other : Role) (slot : Option ℕ) :
    (sup.setSlot role slot).slot other = if other = role then slot else sup.slot other := by
  cases role <;> cases other <;> rfl

theorem getElem?_append_singleton {workers : List Worker} {fresh worker : Worker} {i : ℕ}
    (hworker : (workers ++ [fresh])[i]? = some worker) :
    workers[i]? = some worker ∨ i = workers.length ∧ worker = fresh := by
  rw [List.getElem?_append] at hworker
  split at hworker
  · exact .inl hworker
  · rename_i hlength
    cases hindex : i - workers.length with
    | zero =>
        rw [hindex, List.getElem?_cons_zero, Option.some.injEq] at hworker
        exact .inr ⟨by omega, hworker.symm⟩
    | succ rest => simp [hindex] at hworker

/-- Spawning where the role has no live worker of the generation. -/
theorem Supervised.spawnInto {pool : Pool} (hpool : Supervised pool) (role : Role)
    (hpermitted : pool.sup.state ≠ .stopped)
    (hvacant : role ≠ .warm → ∀ worker ∈ pool.workers, worker.role = role →
      worker.generation = pool.sup.generation → worker.progress = .done) :
    Supervised (spawnInto role pool) where
  opened worker hworker := by
    rcases List.mem_append.mp hworker with hold | hnew
    · simpa [Maintenance.spawnInto] using hpool.opened worker hold
    · rw [List.mem_singleton.mp hnew]
      simp [Maintenance.spawnInto]
  counted := by
    have hcounts : (Maintenance.spawnInto role pool).counts = pool.counts := by
      funext worker
      simp [Maintenance.spawnInto, Pool.counts]
    rw [hcounts]
    simp [Maintenance.spawnInto, hpool.counted, Pool.counts]
  slotted i worker hworker hrole hcurrent hlive := by
    simp only [Maintenance.spawnInto, setSlot_generation] at hcurrent
    simp only [Maintenance.spawnInto]
    have hslot : ∀ other, ({ pool.sup.setSlot role (some pool.workers.length) with
        running := pool.sup.running + 1 } : Supervisor).slot other =
          (pool.sup.setSlot role (some pool.workers.length)).slot other := by
      intro other
      cases other <;> rfl
    rw [hslot, slot_setSlot]
    rcases getElem?_append_singleton hworker with hold | ⟨rfl, rfl⟩
    · by_cases hsame : worker.role = role
      · have hdone := hvacant (hsame ▸ hrole) worker (List.mem_of_getElem? hold) hsame hcurrent
        exact absurd hdone hlive
      · rw [if_neg hsame]
        exact hpool.slotted i worker hold hrole hcurrent hlive
    · rw [if_pos rfl]
  closed hstopped := by
    simp only [Maintenance.spawnInto, setSlot_state] at hstopped
    exact absurd hstopped hpermitted
  stopping hstopping := by
    have hstopped := hpool.stopping hstopping
    exact absurd hstopped hpermitted

@[simp]
theorem ensure_lifecycle (role : Role) (pool : Pool) :
    (ensure role pool).lifecycle = pool.lifecycle := by
  simp only [ensure]
  split
  · rfl
  · split <;> rfl

@[simp]
theorem warmSection_lifecycle (pool : Pool) : (warmSection pool).lifecycle = pool.lifecycle := by
  simp only [warmSection]
  split <;> rfl

/-- The invariant reads of the lifecycle mutex only whether a `stop` is under
way. -/
theorem Supervised.resume {pool : Pool} (hpool : Supervised pool) {lifecycle : LifecycleMutex}
    (hbefore : pool.lifecycle ≠ .stopping) (hafter : lifecycle ≠ .stopping) :
    Supervised { pool with lifecycle } where
  opened := hpool.opened
  counted := hpool.counted
  slotted := hpool.slotted
  closed hstopped _ := hpool.closed hstopped hbefore
  stopping hstopping := absurd hstopping hafter

theorem Supervised.ensure {pool : Pool} (hpool : Supervised pool) (role : Role)
    (hrole : role ≠ .warm) : Supervised (ensure role pool) := by
  simp only [Maintenance.ensure]
  split
  · exact hpool
  · rename_i hpermitted
    split
    · exact hpool
    · rename_i hvacant
      refine hpool.spawnInto role hpermitted fun _ worker hworker hsame hcurrent => ?_
      obtain ⟨i, hi⟩ := List.getElem?_of_mem hworker
      by_contra hlive
      have hslot := hpool.slotted i worker hi (hsame ▸ hrole) hcurrent hlive
      rw [hsame] at hslot
      simp [Pool.alive, hslot, hi, hlive] at hvacant

theorem Supervised.warmSection {pool : Pool} (hpool : Supervised pool) :
    Supervised (warmSection pool) := by
  have hdetached : Supervised { pool with sup := pool.sup.setSlot .warm none } := by
    refine ⟨hpool.opened, hpool.counted, fun i worker hworker hrole hcurrent hlive => ?_,
      hpool.closed, hpool.stopping⟩
    rw [slot_setSlot, if_neg hrole]
    exact hpool.slotted i worker hworker hrole hcurrent hlive
  simp only [Maintenance.warmSection]
  split
  · exact hdetached
  · rename_i hpermitted
    exact hdetached.spawnInto .warm hpermitted fun hwarm => absurd rfl hwarm

theorem Supervised.startSection {pool : Pool} (hpool : Supervised pool)
    (hidle : pool.lifecycle = .idle) : Supervised (startSection pool) := by
  by_cases hstopped : pool.sup.state = .stopped
  · -- the generation that is left behind is empty, and so is the next one
    have hnone : ∀ worker ∈ pool.workers, worker.generation < pool.sup.generation := by
      intro worker hworker
      have hclosed := hpool.closed hstopped (by simp [hidle]) worker hworker
      have hopened := hpool.opened worker hworker
      omega
    have hzero : pool.sup.running = 0 := by
      rw [hpool.counted, List.countP_eq_zero]
      intro worker hworker
      have := hnone worker hworker
      simp only [Pool.counts, Bool.and_eq_true, beq_iff_eq]
      omega
    refine ⟨fun worker hworker => ?_, ?_, fun i worker hworker _ hcurrent _ => ?_, by
      simp [Maintenance.startSection], by simp [Maintenance.startSection]⟩
    · have := hnone worker hworker
      simp only [Maintenance.startSection, hstopped, if_true]
      omega
    · symm
      simp only [Maintenance.startSection, hzero, List.countP_eq_zero]
      intro worker hworker
      have := hnone worker hworker
      simp only [Pool.counts, hstopped, if_true, Bool.and_eq_true, beq_iff_eq]
      omega
    · have := hnone worker (List.mem_of_getElem? hworker)
      simp only [Maintenance.startSection, hstopped, if_true] at hcurrent
      omega
  · refine ⟨?_, ?_, ?_, by simp [Maintenance.startSection], by simp [Maintenance.startSection]⟩
    · simpa only [Maintenance.startSection, if_neg hstopped] using hpool.opened
    · simp only [Maintenance.startSection, if_neg hstopped, hpool.counted]
      rfl
    · simp only [Maintenance.startSection, if_neg hstopped]
      intro i worker hworker hrole hcurrent hlive
      have hslot := hpool.slotted i worker hworker hrole hcurrent hlive
      cases hrole' : worker.role <;> rw [hrole'] at hslot <;> exact hslot

theorem Supervised.stopSection {pool : Pool} (hpool : Supervised pool) :
    Supervised (stopSection pool) where
  opened := hpool.opened
  counted := hpool.counted
  slotted i worker hworker hrole hcurrent hlive := by
    have hslot := hpool.slotted i worker hworker hrole hcurrent hlive
    cases hrole' : worker.role <;> rw [hrole'] at hslot <;> exact hslot
  closed _ hstopping := absurd rfl hstopping
  stopping _ := rfl

/-- Every worker is left behind when the generation is closed. -/
theorem Supervised.closeSection {pool : Pool} (hpool : Supervised pool) :
    Supervised (closeSection pool) := by
  have hbehind : ∀ worker ∈ pool.workers, worker.generation ≠ pool.sup.generation + 1 := by
    intro worker hworker
    have := hpool.opened worker hworker
    omega
  refine ⟨fun worker hworker => ?_, ?_, fun i worker hworker _ hcurrent _ => ?_,
    fun _ _ => hbehind, by simp [Maintenance.closeSection]⟩
  · have := hpool.opened worker hworker
    simp only [Maintenance.closeSection]
    omega
  · symm
    simp only [Maintenance.closeSection, List.countP_eq_zero]
    intro worker hworker
    have := hbehind worker hworker
    simp [Pool.counts, this]
  · exact absurd hcurrent (hbehind worker (List.mem_of_getElem? hworker))

theorem workerAt_eq_some {pool : Pool} {i : ℕ} {progress : Progress} {worker : Worker}
    (hat : pool.workerAt i progress = some worker) :
    pool.workers[i]? = some worker ∧ worker.progress = progress := by
  simpa [Pool.workerAt, Option.filter_eq_some_iff] using hat

/-- A worker that moves on keeps its generation and its role. -/
theorem getElem?_setProgress {pool : Pool} {i j : ℕ} {worker other : Worker}
    {progress : Progress} (hat : pool.workers[i]? = some worker)
    (hother : (setProgress i worker progress pool).workers[j]? = some other) :
    ∃ old, pool.workers[j]? = some old ∧ old.generation = other.generation ∧
      old.role = other.role ∧ (old.progress = other.progress ∨ old = worker) := by
  simp only [setProgress, List.getElem?_set] at hother
  split at hother
  · rename_i hsame
    split at hother
    · subst hsame
      obtain rfl := Option.some.inj hother
      exact ⟨worker, hat, rfl, rfl, .inr rfl⟩
    · simp at hother
  · exact ⟨other, hother, rfl, rfl, .inl rfl⟩

/-- A worker moves on, and the count is brought up to date. -/
theorem Supervised.setProgress {pool : Pool} (hpool : Supervised pool) {i running : ℕ}
    {worker : Worker} {progress : Progress} (hat : pool.workers[i]? = some worker)
    (hlive : worker.progress ≠ .done)
    (hrunning : running = (setProgress i worker progress pool).workers.countP pool.counts) :
    Supervised { setProgress i worker progress pool with sup := { pool.sup with running } } where
  opened other hother := by
    obtain ⟨j, hj⟩ := List.getElem?_of_mem hother
    obtain ⟨old, hold, hgeneration, -, -⟩ := getElem?_setProgress hat hj
    rw [← hgeneration]
    exact hpool.opened old (List.mem_of_getElem? hold)
  counted := hrunning
  slotted j other hother hrole hcurrent hprogress := by
    obtain ⟨old, hold, hgeneration, hsame, hstage⟩ := getElem?_setProgress hat hother
    have hold_live : old.progress ≠ .done := by
      rcases hstage with hstage | rfl
      · rwa [hstage]
      · exact hlive
    have hslot := hpool.slotted j old hold (hsame ▸ hrole) (hgeneration.trans hcurrent) hold_live
    rw [hsame] at hslot
    cases hrole' : other.role <;> rw [hrole'] at hslot <;> exact hslot
  closed hstopped hstopping other hother := by
    obtain ⟨j, hj⟩ := List.getElem?_of_mem hother
    obtain ⟨old, hold, hgeneration, -, -⟩ := getElem?_setProgress hat hj
    rw [← hgeneration]
    exact hpool.closed hstopped hstopping old (List.mem_of_getElem? hold)
  stopping := hpool.stopping

/-- Moving on changes the count by the worker that moves. -/
theorem countP_setProgress {pool : Pool} {i : ℕ} {worker : Worker} {progress : Progress}
    (hat : pool.workers[i]? = some worker) :
    (setProgress i worker progress pool).workers.countP pool.counts =
      pool.workers.countP pool.counts - (if pool.counts worker then 1 else 0) +
        (if pool.counts { worker with progress } then 1 else 0) := by
  obtain ⟨hlength, hworker⟩ := List.getElem?_eq_some_iff.mp hat
  simp only [Maintenance.setProgress, List.countP_set, hlength, hworker]

theorem countP_pos_of_counts {pool : Pool} {i : ℕ} {worker : Worker}
    (hat : pool.workers[i]? = some worker) (hcounts : pool.counts worker) :
    0 < pool.workers.countP pool.counts :=
  List.countP_pos_iff.mpr ⟨worker, List.mem_of_getElem? hat, hcounts⟩

theorem epilogueSection_eq (worker : Worker) (sup : Supervisor) :
    epilogueSection worker sup = { sup with
      running := if sup.generation = worker.generation then sup.running - 1 else sup.running } := by
  simp only [epilogueSection]
  split <;> rfl

/-- One section of any caller or worker keeps the invariant. -/
theorem supervised_step {pool : Pool} (hpool : Supervised pool) (input : Input) :
    Supervised (step pool input) := by
  cases input with
  | start =>
      simp only [step]
      split
      · exact hpool.startSection ‹_›
      · exact hpool
  | resumeStart =>
      simp only [step]
      split
      · rename_i hstarting
        exact (hpool.ensure .poller (by simp)).resume (by simp [hstarting]) (by simp)
      · rename_i hstarting
        exact (hpool.ensure .refresher (by simp)).resume (by simp [hstarting]) (by simp)
      · rename_i hstarting
        exact hpool.warmSection.resume (by simp [hstarting]) (by simp)
      · exact hpool
  | stop =>
      simp only [step]
      split
      · exact hpool.stopSection
      · exact hpool
  | resumeStop =>
      simp only [step]
      split
      · exact hpool.closeSection
      · exact hpool
  | ensurePoller => exact hpool.ensure .poller (by simp)
  | ensureRefresher => exact hpool.ensure .refresher (by simp)
  | nudge =>
      refine ⟨hpool.opened, hpool.counted, fun i worker hworker hrole hcurrent hlive => ?_,
        hpool.closed, hpool.stopping⟩
      have hslot := hpool.slotted i worker hworker hrole hcurrent hlive
      cases hrole' : worker.role <;> rw [hrole'] at hslot <;> exact hslot
  | bodyReturns i =>
      simp only [step]
      split
      · rename_i worker hat
        obtain ⟨hat, hprogress⟩ := workerAt_eq_some hat
        refine hpool.setProgress hat (by simp [hprogress]) ?_
        have hsame : pool.counts { worker with progress := .leaving } = pool.counts worker := by
          simp [Pool.counts, hprogress]
        have hpositive := countP_pos_of_counts hat
        rw [countP_setProgress hat, hpool.counted, hsame]
        split
        · have := hpositive ‹_›
          omega
        · rfl
      · exact hpool
  | epilogue i =>
      simp only [step]
      split
      · rename_i worker hat
        obtain ⟨hat, hprogress⟩ := workerAt_eq_some hat
        rw [epilogueSection_eq]
        refine hpool.setProgress hat (by simp [hprogress]) ?_
        have hcounts : pool.counts worker = true ↔ pool.sup.generation = worker.generation := by
          simp only [Pool.counts, hprogress, beq_self_eq_true, Bool.or_true, Bool.and_true,
            beq_iff_eq]
          exact eq_comm
        have hcounted : pool.counts { worker with progress := .counted } = false := by
          simp [Pool.counts]
        rw [countP_setProgress hat, hpool.counted, hcounted]
        by_cases hcurrent : pool.sup.generation = worker.generation
        · rw [if_pos hcurrent, if_pos (hcounts.mpr hcurrent)]
          rfl
        · rw [if_neg hcurrent, if_neg (mt hcounts.mp hcurrent)]
          rfl
      · exact hpool
  | setsDone i =>
      simp only [step]
      split
      · rename_i worker hat
        obtain ⟨hat, hprogress⟩ := workerAt_eq_some hat
        refine hpool.setProgress hat (by simp [hprogress]) ?_
        rw [countP_setProgress hat, hpool.counted]
        simp [Pool.counts, hprogress]
      · exact hpool

theorem supervised_run (inputs : List Input) : Supervised (run poolStep {} inputs) :=
  @invariant_run _ _ _ poolStep (fun _ _ => True) Supervised
    (fun _ input hpool _ => supervised_step hpool input) _ inputs supervised_initial
    (guarded_true _ inputs)

/-! ## Stragglers -/

theorem ensure_workers (role : Role) (pool : Pool) :
    (ensure role pool).workers = pool.workers ∨
      pool.sup.state ≠ .stopped ∧
        (ensure role pool).workers = pool.workers ++ [⟨pool.sup.generation, role, .body⟩] := by
  simp only [ensure]
  split
  · exact .inl rfl
  · split
    · exact .inl rfl
    · exact .inr ⟨‹_›, rfl⟩

/-- What a section does to the list of workers: nothing, one more worker of the
current generation unless stopped, or one worker moves on. -/
theorem step_workers (pool : Pool) (input : Input) :
    (step pool input).workers = pool.workers ∨
      (pool.sup.state ≠ .stopped ∧ ∃ role,
        (step pool input).workers = pool.workers ++ [⟨pool.sup.generation, role, .body⟩]) ∨
      ∃ i worker progress, pool.workers[i]? = some worker ∧
        (step pool input).workers = pool.workers.set i { worker with progress } := by
  cases input with
  | start => simp only [step]; split <;> exact .inl rfl
  | resumeStart =>
      simp only [step]
      split
      · rcases ensure_workers .poller pool with h | h
        · exact .inl h
        · exact .inr (.inl ⟨h.1, _, h.2⟩)
      · rcases ensure_workers .refresher pool with h | h
        · exact .inl h
        · exact .inr (.inl ⟨h.1, _, h.2⟩)
      · simp only [warmSection]
        split
        · exact .inl rfl
        · rename_i hpermitted
          refine .inr (.inl ⟨by simpa using hpermitted, .warm, ?_⟩)
          simp [spawnInto]
      · exact .inl rfl
  | stop => simp only [step]; split <;> exact .inl rfl
  | resumeStop => simp only [step]; split <;> exact .inl rfl
  | ensurePoller =>
      rcases ensure_workers .poller pool with h | h
      · exact .inl h
      · exact .inr (.inl ⟨h.1, _, h.2⟩)
  | ensureRefresher =>
      rcases ensure_workers .refresher pool with h | h
      · exact .inl h
      · exact .inr (.inl ⟨h.1, _, h.2⟩)
  | nudge => exact .inl rfl
  | bodyReturns i =>
      simp only [step]
      split
      · exact .inr (.inr ⟨i, _, .leaving, (workerAt_eq_some ‹_›).1, rfl⟩)
      · exact .inl rfl
  | epilogue i =>
      simp only [step]
      split
      · exact .inr (.inr ⟨i, _, .counted, (workerAt_eq_some ‹_›).1, rfl⟩)
      · exact .inl rfl
  | setsDone i =>
      simp only [step]
      split
      · exact .inr (.inr ⟨i, _, .done, (workerAt_eq_some ‹_›).1, rfl⟩)
      · exact .inl rfl

theorem ensure_generation (role : Role) (pool : Pool) :
    (ensure role pool).sup.generation = pool.sup.generation := by
  simp only [ensure]
  split
  · rfl
  · split
    · rfl
    · simp [spawnInto]

theorem step_generation (pool : Pool) (input : Input) :
    pool.sup.generation ≤ (step pool input).sup.generation := by
  cases input <;> simp only [step]
  case start =>
    split
    · simp only [startSection]
      split <;> omega
    · exact Nat.le_refl _
  case resumeStart =>
    split
    · simp [ensure_generation]
    · simp [ensure_generation]
    · simp only [warmSection]
      split <;> simp [spawnInto]
    · simp
  case stop => split <;> simp [stopSection]
  case resumeStop => split <;> simp [closeSection]
  case ensurePoller => simp [ensure_generation]
  case ensureRefresher => simp [ensure_generation]
  case nudge => simp
  case bodyReturns => split <;> simp [setProgress]
  case epilogue => split <;> simp [epilogueSection_eq]
  case setsDone => split <;> simp [setProgress]

/-- The first `n` workers spawned are of earlier generations. -/
def Behind (n : ℕ) (pool : Pool) : Prop :=
  n ≤ pool.workers.length ∧ ∀ i < n, ∀ worker, pool.workers[i]? = some worker →
    worker.generation < pool.sup.generation

theorem behind_step {n : ℕ} {pool : Pool} (hbehind : Behind n pool) (input : Input) :
    Behind n (step pool input) := by
  obtain ⟨hlength, hbefore⟩ := hbehind
  have hgeneration := step_generation pool input
  have hkept : n ≤ (step pool input).workers.length ∧ ∀ i < n, ∀ worker,
      (step pool input).workers[i]? = some worker → worker.generation < pool.sup.generation := by
    rcases step_workers pool input with h | ⟨-, role, h⟩ | ⟨j, old, progress, hold, h⟩
    · rw [h]
      exact ⟨hlength, hbefore⟩
    · rw [h]
      refine ⟨by simp; omega, fun i hi worker hworker => hbefore i hi worker ?_⟩
      rwa [List.getElem?_append_left (by omega)] at hworker
    · rw [h]
      refine ⟨by simpa using hlength, fun i hi worker hworker => ?_⟩
      obtain ⟨kept, hkept, hsame, -, -⟩ := getElem?_setProgress hold hworker
      rw [← hsame]
      exact hbefore i hi kept hkept
  exact ⟨hkept.1, fun i hi worker hworker =>
    Nat.lt_of_lt_of_le (hkept.2 i hi worker hworker) hgeneration⟩

/-- A worker that is not of the current generation leaves the supervisor as it
is. -/
theorem straggler_step {pool : Pool} {i : ℕ}
    (hold : ∀ worker, pool.workers[i]? = some worker →
      worker.generation < pool.sup.generation) {input : Input}
    (hinput : input = .bodyReturns i ∨ input = .epilogue i ∨ input = .setsDone i) :
    (step pool input).sup = pool.sup := by
  rcases hinput with rfl | rfl | rfl <;> simp only [step]
  · split <;> rfl
  · split
    · rename_i worker hat
      have := hold worker (workerAt_eq_some hat).1
      simp only [epilogueSection]
      exact if_neg (by omega)
    · rfl
  · split <;> rfl

/-! ## Main result -/

/-- However `start`, `stop`, the on-demand calls and the workers' exits
interleave: a poller or refresher of the current generation that has not
returned is the only one, the count is exact, nothing is spawned while
stopped, and a `stop` that returns leaves no worker of the current generation
behind, so that those it detached never touch the supervisor again. -/
theorem workers_supervised (inputs : List Input) :
    let pool := run poolStep {} inputs
    (∀ (i j : ℕ) (first second : Worker), pool.workers[i]? = some first →
      pool.workers[j]? = some second → first.role = second.role → first.role ≠ .warm →
      first.generation = pool.sup.generation → second.generation = pool.sup.generation →
      first.progress ≠ .done → second.progress ≠ .done → i = j) ∧
    pool.sup.running = pool.workers.countP pool.counts ∧
    (pool.sup.state = .stopped →
      ∀ input, (step pool input).workers.length = pool.workers.length) ∧
    (pool.lifecycle = .stopping →
      (∀ worker ∈ (step pool .resumeStop).workers,
        worker.generation ≠ (step pool .resumeStop).sup.generation) ∧
      ∀ (later : List Input) (i : ℕ), i < pool.workers.length →
        ∀ input, input = .bodyReturns i ∨ input = .epilogue i ∨ input = .setsDone i →
          (step (run poolStep (step pool .resumeStop) later) input).sup =
            (run poolStep (step pool .resumeStop) later).sup) := by
  have hpool := supervised_run inputs
  generalize run poolStep {} inputs = pool at hpool
  refine ⟨fun i j first second hfirst hsecond hroles hrole hcurrent hcurrent' hlive hlive' => ?_,
    hpool.counted, fun hstopped input => ?_, fun hstopping => ?_⟩
  · have hslot := hpool.slotted i first hfirst hrole hcurrent hlive
    have hslot' := hpool.slotted j second hsecond (hroles ▸ hrole) hcurrent' hlive'
    rw [← hroles, hslot] at hslot'
    exact Option.some.inj hslot'
  · rcases step_workers pool input with h | ⟨hpermitted, -⟩ | ⟨i, worker, progress, -, h⟩
    · rw [h]
    · exact absurd hstopped hpermitted
    · rw [h, List.length_set]
  · have hclosed : step pool .resumeStop = closeSection pool := if_pos hstopping
    have hbehind : Behind pool.workers.length (closeSection pool) := by
      refine ⟨Nat.le_refl _, fun i _ worker hworker => ?_⟩
      have := hpool.opened worker (List.mem_of_getElem? hworker)
      simp only [closeSection]
      omega
    rw [hclosed]
    refine ⟨fun worker hworker => ?_, fun later i hi input hinput => ?_⟩
    · obtain ⟨i, hi⟩ := List.getElem?_of_mem hworker
      have hlength := (List.getElem?_eq_some_iff.mp hi).1
      exact Nat.ne_of_lt (hbehind.2 i hlength worker hi)
    · have hlater : Behind pool.workers.length (run poolStep (closeSection pool) later) :=
        @invariant_run _ _ _ poolStep (fun _ _ => True) (Behind pool.workers.length)
          (fun _ input hbehind _ => behind_step hbehind input) _ later hbehind
          (guarded_true _ later)
      exact straggler_step (hlater.2 i hi) hinput

end LogosRln.Maintenance
