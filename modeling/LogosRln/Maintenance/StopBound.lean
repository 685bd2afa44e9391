import Mathlib.Data.Prod.Lex
import LogosRln.Maintenance.Poller

/-!
# What a stopped worker still does

A worker body under the supervisor, with every other section interleaved.  Once
`stop` has set the flag, and as long as nothing starts again, both bodies exit.
The refresher begins at most one more read, because it looks at the flag after
each registry; the poller looks at it only around a tick and around each path,
so a stop that falls into one of its two sweeps lets the sweep go on.
-/

namespace LogosRln.Maintenance

open Lifecycle Provider Callers RegistryId Run

/-- A body of one generation under the supervisor. -/
structure Overseen (Body : Type) where
  pool : Pool
  generation : ℕ
  body : Body

inductive Happening where
  /-- A section of another caller or worker. -/
  | elsewhere (input : Input)
  /-- A step of the body, in whatever it finds around it. -/
  | body (around : Surroundings)

/-- The supervisor and the flag a body sees are the pool's. -/
def Overseen.around {Body : Type} (overseen : Overseen Body) (around : Surroundings) :
    Surroundings :=
  { around with sup := overseen.pool.sup, stopped := overseen.pool.stopped }

def overseenStep {Body Action : Type}
    (bodyStep : ℕ → Surroundings → Body → Body × Option Action) (overseen : Overseen Body) :
    Happening → Overseen Body × Option Action
  | .elsewhere input => ({ overseen with pool := step overseen.pool input }, none)
  | .body around =>
      let next := bodyStep overseen.generation (overseen.around around) overseen.body
      ({ overseen with body := next.1 }, next.2)

/-- What a body does on the way. -/
def actions {Body Action : Type}
    (bodyStep : ℕ → Surroundings → Body → Body × Option Action) (overseen : Overseen Body)
    (happenings : List Happening) : List Action :=
  (trace (overseenStep bodyStep) overseen happenings).filterMap (·.output)

def Happening.isStart : Happening → Bool
  | .elsewhere .start => true
  | _ => false

def Happening.isBody : Happening → Bool
  | .body _ => true
  | .elsewhere _ => false

/-! ## Staying stopped -/

/-- `stop` has set the flag and no `start` is under way. -/
structure Stopped (pool : Pool) : Prop where
  state : pool.sup.state = .stopped
  flag : pool.stopped = true
  lifecycle : ∀ next, pool.lifecycle ≠ .starting next

theorem stopped_stopSection (pool : Pool) : Stopped (stopSection pool) :=
  ⟨rfl, rfl, by simp [stopSection]⟩

theorem Stopped.step {pool : Pool} (hpool : Stopped pool) {input : Input}
    (hinput : input ≠ .start) : Stopped (step pool input) := by
  obtain ⟨hstate, hflag, hlifecycle⟩ := hpool
  cases input with
  | start => exact absurd rfl hinput
  | resumeStart =>
      simp only [Maintenance.step]
      split
      · exact absurd ‹_› (hlifecycle _)
      · exact absurd ‹_› (hlifecycle _)
      · exact absurd ‹_› (hlifecycle _)
      · exact ⟨hstate, hflag, hlifecycle⟩
  | stop =>
      simp only [Maintenance.step]
      split
      · exact stopped_stopSection pool
      · exact ⟨hstate, hflag, hlifecycle⟩
  | resumeStop =>
      simp only [Maintenance.step]
      split
      · exact ⟨hstate, hflag, by simp [closeSection]⟩
      · exact ⟨hstate, hflag, hlifecycle⟩
  | ensurePoller => simpa [Maintenance.step, ensure, hstate] using ⟨hstate, hflag, hlifecycle⟩
  | ensureRefresher => simpa [Maintenance.step, ensure, hstate] using ⟨hstate, hflag, hlifecycle⟩
  | nudge => exact ⟨hstate, hflag, hlifecycle⟩
  | bodyReturns i =>
      simp only [Maintenance.step]
      split <;> exact ⟨hstate, hflag, hlifecycle⟩
  | epilogue i =>
      simp only [Maintenance.step]
      split
      · exact ⟨by simpa [epilogueSection_eq] using hstate, hflag, hlifecycle⟩
      · exact ⟨hstate, hflag, hlifecycle⟩
  | setsDone i =>
      simp only [Maintenance.step]
      split <;> exact ⟨hstate, hflag, hlifecycle⟩

/-- What a body of a stopped module finds around it. -/
structure Halted (around : Surroundings) : Prop where
  state : around.sup.state = .stopped
  flag : around.stopped = true

theorem Stopped.halted {Body : Type} {overseen : Overseen Body}
    (hpool : Stopped overseen.pool) (around : Surroundings) :
    Halted (overseen.around around) :=
  ⟨hpool.state, hpool.flag⟩

theorem Stopped.overseenStep {Body Action : Type}
    {bodyStep : ℕ → Surroundings → Body → Body × Option Action} {overseen : Overseen Body}
    (hpool : Stopped overseen.pool) {happening : Happening} (hstart : happening.isStart = false) :
    Stopped (overseenStep bodyStep overseen happening).1.pool := by
  cases happening with
  | elsewhere input =>
      refine hpool.step fun hinput => ?_
      rw [hinput] at hstart
      exact absurd hstart (by decide)
  | body around => exact hpool

/-- A stopped waiter is awake, and does not run its tick. -/
theorem asleep_of_halted {around : Surroundings} (haround : Halted around)
    (myGen entryNudges : ℕ) (honorNudge : Bool) :
    asleep around.sup myGen entryNudges around.timedOut honorNudge = false := by
  simp [asleep, haround.state]

theorem wait_of_halted {around : Surroundings} (haround : Halted around)
    (myGen entryNudges : ℕ) (honorNudge : Bool) :
    wait around.sup myGen entryNudges around.timedOut honorNudge = false := by
  simp [wait, haround.state]

/-! ## A budget that steps draw on -/

section Budget

variable {Body Action : Type} {bodyStep : ℕ → Surroundings → Body → Body × Option Action}

theorem actions_cons (overseen : Overseen Body) (happening : Happening)
    (later : List Happening) :
    actions bodyStep overseen (happening :: later) =
      (overseenStep bodyStep overseen happening).2.toList ++
        actions bodyStep (overseenStep bodyStep overseen happening).1 later := by
  simp only [actions, trace]
  cases (overseenStep bodyStep overseen happening).2 <;> simp

theorem actions_append (overseen : Overseen Body) (first second : List Happening) :
    actions bodyStep overseen (first ++ second) = actions bodyStep overseen first ++
      actions bodyStep (run (overseenStep bodyStep) overseen first) second := by
  simp [actions, trace_append]

/-- If every halted step pays for what it begins out of a budget, the whole run
begins no more than the budget. -/
theorem length_begun_le_budget {Begun : Type} {begins : Action → Option Begun}
    {budget : Body → Option ℕ}
    (hpays : ∀ generation around body n, Halted around → budget body = some n →
      ∃ m, budget (bodyStep generation around body).1 = some m ∧
        m + (((bodyStep generation around body).2.bind begins).toList).length ≤ n)
    {overseen : Overseen Body} {later : List Happening} {n : ℕ} (hpool : Stopped overseen.pool)
    (hlater : ∀ happening ∈ later, happening.isStart = false)
    (hbudget : budget overseen.body = some n) :
    ((actions bodyStep overseen later).filterMap begins).length ≤ n := by
  induction later generalizing overseen n with
  | nil => simp [actions, trace]
  | cons happening later ih =>
      have hnext : Stopped (overseenStep bodyStep overseen happening).1.pool :=
        hpool.overseenStep (hlater happening List.mem_cons_self)
      have hrest : ∀ other ∈ later, other.isStart = false := fun other hother =>
        hlater other (List.mem_cons_of_mem _ hother)
      cases happening with
      | elsewhere input => exact ih hnext hrest hbudget
      | body around =>
          obtain ⟨m, hm, hpaid⟩ := hpays overseen.generation _ _ _ (hpool.halted around) hbudget
          have hbound := ih hnext hrest hm
          have hone : ((overseenStep bodyStep overseen (.body around)).2.toList.filterMap
              begins).length + m ≤ n := by
            rw [Nat.add_comm]
            refine Nat.le_trans (Nat.add_le_add_left ?_ m) hpaid
            simp only [overseenStep]
            cases (bodyStep overseen.generation (overseen.around around) overseen.body).2 with
            | none => exact Nat.le_refl _
            | some action => cases hbegins : begins action <;> simp [hbegins]
          rw [actions_cons, List.filterMap_append, List.length_append]
          omega

/-- A body whose halted steps lower a well-founded rank until it exits does
exit, in any schedule that lets it step again and again. -/
theorem eventually_exits {Rank : Type} {lower : Rank → Rank → Prop} (hwf : WellFounded lower)
    (rank : Body → Rank) {exited : Body}
    (hlower : ∀ generation around body, Halted around →
      body = exited ∨ lower (rank (bodyStep generation around body).1) (rank body))
    {overseen : Overseen Body} {schedule : ℕ → Happening} (hpool : Stopped overseen.pool)
    (hnostart : ∀ n, (schedule n).isStart = false)
    (hfair : ∀ n, ∃ m, n ≤ m ∧ (schedule m).isBody = true) :
    ∃ n, (after (overseenStep bodyStep) overseen schedule n).body = exited := by
  refine @eventually_of_rank _ _ _ (overseenStep bodyStep)
    (fun _ happening => happening.isStart = false) _ _ hwf (fun overseen => rank overseen.body)
    (fun overseen => Stopped overseen.pool) (fun overseen => overseen.body = exited)
    (fun happening => happening.isBody = true) ?_ ?_ ?_ _ _ hpool hnostart hfair
  · exact fun _ _ hstopped hstart => hstopped.overseenStep hstart
  · intro overseen happening _ _ hidle
    cases happening with
    | elsewhere input => rfl
    | body around => exact absurd rfl hidle
  · intro overseen happening hstopped _ hhelps
    cases happening with
    | elsewhere input => exact absurd hhelps (by simp [Happening.isBody])
    | body around => exact hlower _ _ _ (hstopped.halted around)

end Budget

/-! ## The refresher -/

/-- How many reads a stopped refresher may still begin. -/
def Refresher.readsLeft : Refresher → ℕ
  | .sweeping _ => 1
  | _ => 0

def Refresher.stepsLeft : Refresher → ℕ
  | .exited => 0
  | .waiting _ => 1
  | .ticking => 2
  | .registryRead _ => 2
  | .reading _ => 3
  | .sweeping _ => 4

theorem Refresher.step_halted {generation : ℕ} {around : Surroundings} (haround : Halted around)
    (refresher : Refresher) :
    (refresher.step generation around).1.readsLeft +
        (refresher.step generation around).2.toList.length ≤ refresher.readsLeft ∧
      (refresher = .exited ∨
        (refresher.step generation around).1.stepsLeft < refresher.stepsLeft) := by
  cases refresher with
  | waiting entryNudges =>
      simp [step, asleep_of_halted haround, wait_of_halted haround, readsLeft, stepsLeft]
  | ticking => simp [step, haround.flag, readsLeft, stepsLeft]
  | sweeping remaining =>
      cases remaining with
      | nil => simp [step, readsLeft, stepsLeft]
      | cons registry remaining =>
          simp only [step]
          split <;> simp [readsLeft, stepsLeft]
  | reading remaining => simp [step, readsLeft, stepsLeft]
  | registryRead remaining => simp [step, haround.flag, readsLeft, stepsLeft]
  | exited => simp [step, readsLeft]

/-! ## The poller -/

def begins : Action → Option MembershipRecord
  | .readsRegistry record => some record
  | .writesRow _ _ => none

/-- The record of a sweep's read that has begun and is not yet handled. -/
def Poller.inHand : Poller → Option MembershipRecord
  | .reading _ _ record _ => some record
  | .writing _ _ record _ _ => some record
  | _ => none

/-- The reads a sweep has yet to begin; the first sweep of a tick that also
refreshes is followed by as many reads as there are records then. -/
def sweepReads (tickNo : UInt32) (sweep : Sweep) (remaining : List MembershipRecord) : Option ℕ :=
  match sweep with
  | .confirm _ => if refreshes tickNo then none else some (remaining.countP readable)
  | .refresh => some (remaining.countP readable)

/-- How many reads a stopped poller may still begin, if that is bounded. -/
def Poller.readsLeft : Poller → Option ℕ
  | .sweeping tickNo sweep remaining => sweepReads tickNo sweep remaining
  | .reading tickNo sweep _ remaining => sweepReads tickNo sweep remaining
  | .writing tickNo sweep _ _ remaining => sweepReads tickNo sweep remaining
  | .paths _ _ => some 1
  | _ => some 0

def Poller.stepsLeft : Poller → ℕ ×ₗ ℕ
  | .exited => toLex (0, 0)
  | .waiting _ => toLex (0, 1)
  | .ticking _ => toLex (0, 2)
  | .enteringPaths _ => toLex (0, 2)
  | .pathRead _ _ => toLex (0, 2)
  | .readingPath _ _ _ => toLex (0, 3)
  | .paths _ remaining => toLex (0, 4 + remaining.length)
  | .sweeping _ .refresh remaining => toLex (1, 3 * remaining.length)
  | .writing _ .refresh _ _ remaining => toLex (1, 3 * remaining.length + 1)
  | .reading _ .refresh _ remaining => toLex (1, 3 * remaining.length + 2)
  | .sweeping _ (.confirm _) remaining => toLex (2, 3 * remaining.length)
  | .writing _ (.confirm _) _ _ remaining => toLex (2, 3 * remaining.length + 1)
  | .reading _ (.confirm _) _ remaining => toLex (2, 3 * remaining.length + 2)

theorem sweepReads_cons {tickNo : UInt32} {sweep : Sweep} {record : MembershipRecord}
    {remaining : List MembershipRecord} {n : ℕ}
    (hreads : sweepReads tickNo sweep (record :: remaining) = some n) :
    ∃ m, sweepReads tickNo sweep remaining = some m ∧
      n = m + if readable record then 1 else 0 := by
  cases sweep with
  | refresh =>
      simp only [sweepReads, Option.some.injEq, List.countP_cons] at hreads ⊢
      exact ⟨_, rfl, hreads.symm⟩
  | confirm now =>
      simp only [sweepReads] at hreads ⊢
      split at hreads
      · cases hreads
      · rename_i hrefreshes
        rw [if_neg hrefreshes]
        simp only [Option.some.injEq, List.countP_cons] at hreads ⊢
        exact ⟨_, rfl, hreads.symm⟩

theorem Poller.pays_halted {generation : ℕ} {around : Surroundings} (haround : Halted around)
    {poller : Poller} {n : ℕ} (hbudget : poller.readsLeft = some n) :
    ∃ m, (poller.step generation around).1.readsLeft = some m ∧
      m + (((poller.step generation around).2.bind begins).toList).length ≤ n := by
  cases poller with
  | waiting tickNo => simp [step, asleep_of_halted haround, wait_of_halted haround, readsLeft]
  | ticking tickNo => simp [step, haround.flag, readsLeft]
  | sweeping tickNo sweep remaining =>
      cases remaining with
      | nil =>
          cases sweep with
          | refresh => simp [step, readsLeft]
          | confirm now =>
              -- a bounded budget says that the tick does not refresh
              have hrefreshes : refreshes tickNo = false := by
                by_contra hrefreshes
                simp [readsLeft, sweepReads, hrefreshes] at hbudget
              simp [step, hrefreshes, readsLeft]
      | cons record remaining =>
          obtain ⟨m, hm, rfl⟩ := sweepReads_cons hbudget
          simp only [step]
          split <;> exact ⟨m, hm, by simp [begins, *]⟩
  | reading tickNo sweep record remaining =>
      refine ⟨n, ?_, ?_⟩
      · simp only [step]
        split <;> exact hbudget
      · simp only [step]
        split <;> simp
  | writing tickNo sweep record write remaining => exact ⟨n, hbudget, by simp [step, begins]⟩
  | enteringPaths tickNo => simp [step, haround.flag, readsLeft]
  | paths tickNo remaining =>
      cases hbudget
      cases remaining with
      | nil => simp [step, readsLeft]
      | cons record remaining =>
          simp only [step]
          split <;> simp [readsLeft, begins]
  | readingPath tickNo record remaining =>
      cases hbudget
      simp [step, readsLeft]
  | pathRead tickNo remaining => simp [step, haround.flag, readsLeft]
  | exited => simp [step, readsLeft]

theorem Poller.stepsLeft_halted {generation : ℕ} {around : Surroundings} (haround : Halted around)
    (poller : Poller) :
    poller = .exited ∨ (poller.step generation around).1.stepsLeft < poller.stepsLeft := by
  cases poller with
  | waiting tickNo => simp [step, asleep_of_halted haround, wait_of_halted haround, stepsLeft,
      Prod.Lex.toLex_lt_toLex]
  | ticking tickNo => simp [step, haround.flag, stepsLeft, Prod.Lex.toLex_lt_toLex]
  | sweeping tickNo sweep remaining =>
      right
      cases remaining with
      | nil =>
          cases sweep with
          | refresh => simp [step, stepsLeft, Prod.Lex.toLex_lt_toLex]
          | confirm now =>
              simp only [step]
              split
              · simp [stepsLeft, Prod.Lex.toLex_lt_toLex]
              · split <;> simp [stepsLeft, Prod.Lex.toLex_lt_toLex]
      | cons record remaining =>
          cases sweep <;> simp only [step] <;> split <;>
            simp [stepsLeft, Prod.Lex.toLex_lt_toLex, Nat.mul_add]
  | reading tickNo sweep record remaining =>
      right
      cases sweep <;> simp only [step] <;> split <;> simp [stepsLeft, Prod.Lex.toLex_lt_toLex]
  | writing tickNo sweep record write remaining =>
      right
      cases sweep <;> simp [step, stepsLeft, Prod.Lex.toLex_lt_toLex]
  | enteringPaths tickNo => simp [step, haround.flag, stepsLeft, Prod.Lex.toLex_lt_toLex]
  | paths tickNo remaining =>
      right
      cases remaining with
      | nil => simp [step, stepsLeft, Prod.Lex.toLex_lt_toLex]
      | cons record remaining =>
          simp only [step]
          split <;> simp [stepsLeft, Prod.Lex.toLex_lt_toLex]
          omega
  | readingPath tickNo record remaining => simp [step, stepsLeft, Prod.Lex.toLex_lt_toLex]
  | pathRead tickNo remaining => simp [step, haround.flag, stepsLeft, Prod.Lex.toLex_lt_toLex]
  | exited => exact .inl rfl

/-- A record comes into hand when its read begins, and is written from there. -/
theorem Poller.inHand_step (generation : ℕ) (around : Surroundings) (poller : Poller)
    (record : MembershipRecord) (write : RowWrite) :
    ((poller.step generation around).1.inHand = some record →
        poller.inHand = some record ∨
          (poller.step generation around).2 = some (.readsRegistry record)) ∧
      ((poller.step generation around).2 = some (.writesRow record write) →
        poller.inHand = some record) := by
  cases poller with
  | sweeping tickNo sweep remaining =>
      cases remaining with
      | nil =>
          cases sweep <;> simp only [step]
          · split
            · simp [inHand]
            · split <;> simp [inHand]
          · simp [inHand]
      | cons next remaining =>
          cases sweep <;> simp only [step] <;> split <;> simp [inHand]
  | reading tickNo sweep current remaining =>
      simp only [step]
      split <;> simp [inHand]
  | writing tickNo sweep current write' remaining =>
      simp only [step, inHand, Option.some.injEq, Action.writesRow.injEq]
      exact ⟨by simp, fun hwrite => hwrite.1⟩
  | waiting tickNo =>
      simp only [step]
      split
      · simp [inHand]
      · split <;> simp [inHand]
  | ticking tickNo =>
      simp only [step]
      split
      · simp [inHand]
      · split <;> simp [inHand]
  | enteringPaths tickNo =>
      simp only [step]
      split
      · simp [inHand]
      · split <;> simp [inHand]
  | paths tickNo remaining =>
      cases remaining with
      | nil => simp [step, inHand]
      | cons next remaining =>
          simp only [step]
          split <;> simp [inHand]
  | readingPath tickNo current remaining => simp [step, inHand]
  | pathRead tickNo remaining =>
      simp only [step]
      split <;> simp [inHand]
  | exited => simp [step, inHand]

/-- A row is written only for a record whose read was in hand or began on the
way. -/
theorem writes_of_reads {overseen : Overseen Poller} {happenings : List Happening}
    {record : MembershipRecord} {write : RowWrite}
    (hwrites : .writesRow record write ∈ actions Poller.step overseen happenings) :
    overseen.body.inHand = some record ∨
      record ∈ (actions Poller.step overseen happenings).filterMap begins := by
  induction happenings generalizing overseen with
  | nil => simp [actions, trace] at hwrites
  | cons happening happenings ih =>
      cases happening with
      | elsewhere input => exact ih hwrites
      | body around =>
          obtain ⟨hkept, hwritten⟩ := Poller.inHand_step overseen.generation
            (overseen.around around) overseen.body record write
          rw [actions_cons, List.mem_append] at hwrites
          rw [actions_cons, List.filterMap_append, List.mem_append]
          rcases hwrites with hnow | hlater
          · exact .inl (hwritten (Option.mem_toList.mp hnow))
          · rcases ih hlater with hinHand | hbegun
            · rcases hkept hinHand with hinHand | hreads
              · exact .inl hinHand
              · exact .inr (.inl (by simp [overseenStep, hreads, begins]))
            · exact .inr (.inr hbegun)

/-! ## The longest continuation -/

/-- Among these records a registry read that is waited for fails. -/
def quietly (records : List MembershipRecord) : Surroundings :=
  { sup := {}, stopped := true, timedOut := false, now := 0, records := some records,
    tracked := [], reply := .error (.internal "") }

/-- A sweep can begin a read for every readable record it has left. -/
theorem exists_sweep (pool : Pool) (generation : ℕ) (tickNo : UInt32) (sweep : Sweep)
    (records remaining : List MembershipRecord) :
    ∃ later : List Happening, (∀ happening ∈ later, happening.isStart = false) ∧
      run (overseenStep Poller.step) ⟨pool, generation, .sweeping tickNo sweep remaining⟩ later =
        ⟨pool, generation, .sweeping tickNo sweep []⟩ ∧
      (actions Poller.step ⟨pool, generation, .sweeping tickNo sweep remaining⟩ later).filterMap
        begins = remaining.filter readable := by
  induction remaining with
  | nil => exact ⟨[], by simp, rfl, rfl⟩
  | cons record remaining ih =>
      obtain ⟨later, hlater, hrun, hactions⟩ := ih
      by_cases hreadable : readable record = true
      · have hbegins : overseenStep Poller.step
            ⟨pool, generation, .sweeping tickNo sweep (record :: remaining)⟩
            (.body (quietly records)) =
            (⟨pool, generation, .reading tickNo sweep record remaining⟩,
              some (.readsRegistry record)) := by
          simp only [overseenStep, Poller.step_sweeping_cons, if_pos hreadable]
        have hfails : overseenStep Poller.step
            ⟨pool, generation, .reading tickNo sweep record remaining⟩ (.body (quietly records)) =
            (⟨pool, generation, .sweeping tickNo sweep remaining⟩, none) := rfl
        refine ⟨.body (quietly records) :: .body (quietly records) :: later, ?_, ?_, ?_⟩
        · simpa [Happening.isStart] using hlater
        · simp only [run_cons, hbegins, hfails, hrun]
        · simp [actions_cons, hbegins, hfails, hactions, begins, hreadable]
      · have hskips : overseenStep Poller.step
            ⟨pool, generation, .sweeping tickNo sweep (record :: remaining)⟩
            (.body (quietly records)) =
            (⟨pool, generation, .sweeping tickNo sweep remaining⟩, none) := by
          simp only [overseenStep, Poller.step_sweeping_cons, if_neg hreadable]
        refine ⟨.body (quietly records) :: later, ?_, ?_, ?_⟩
        · simpa [Happening.isStart] using hlater
        · simp only [run_cons, hskips, hrun]
        · simp [actions_cons, hskips, hactions, hreadable]

/-- A membership of a well-formed registry, confirmed or not. -/
def localMembership (hash : String) (state : MembershipState) : MembershipRecord where
  hash
  identity := ⟨"logos:local:0000000000000000000000000000000000000000000000000000000000000000",
    "aa", "11", 0⟩
  cache := { state }
  alloc := {}
  quarantined := false

theorem readable_localMembership (hash : String) (state : MembershipState) :
    readable (localMembership hash state) = true := by
  have hone : readable (localMembership "" .unknown) = true := by decide +kernel
  simpa only [readable, localMembership] using hone

/-- A poller with two or more reads left does begin two. -/
theorem exists_two_reads (pool : Pool) (generation : ℕ) {poller : Poller}
    (hleft : ¬ ∃ n ≤ 1, poller.readsLeft = some n) :
    ∃ later : List Happening, (∀ happening ∈ later, happening.isStart = false) ∧
      1 < ((actions Poller.step ⟨pool, generation, poller⟩ later).filterMap begins).length := by
  have hsweep : ∀ tickNo sweep remaining,
      (¬ ∃ n ≤ 1, sweepReads tickNo sweep remaining = some n) →
      ∃ later : List Happening, (∀ happening ∈ later, happening.isStart = false) ∧
        1 < ((actions Poller.step ⟨pool, generation, .sweeping tickNo sweep remaining⟩
          later).filterMap begins).length := by
    intro tickNo sweep remaining hreads
    obtain ⟨first, hfirst, hrun, hactions⟩ :=
      exists_sweep pool generation tickNo sweep [] remaining
    by_cases hmany : 1 < remaining.countP readable
    · exact ⟨first, hfirst, by rwa [hactions, ← List.countP_eq_length_filter]⟩
    · -- few are left, so the sweep is the first one of a tick that refreshes
      cases sweep with
      | refresh => exact absurd ⟨_, Nat.le_of_not_lt hmany, rfl⟩ hreads
      | confirm now =>
          have hrefreshes : refreshes tickNo = true := by
            by_contra hrefreshes
            refine hreads ⟨remaining.countP readable, Nat.le_of_not_lt hmany, ?_⟩
            simp only [sweepReads, if_neg hrefreshes]
          let two := [localMembership "a" .active, localMembership "b" .active]
          obtain ⟨second, hsecond, -, hmore⟩ :=
            exists_sweep pool generation tickNo .refresh [] two
          have hnext : overseenStep Poller.step
              ⟨pool, generation, .sweeping tickNo (.confirm now) []⟩ (.body (quietly two)) =
              (⟨pool, generation, .sweeping tickNo .refresh two⟩, none) := by
            simp only [overseenStep, Poller.step, hrefreshes]
            rfl
          refine ⟨first ++ .body (quietly two) :: second, ?_, ?_⟩
          · intro happening hhappening
            rcases List.mem_append.mp hhappening with hfirst' | hrest
            · exact hfirst happening hfirst'
            · rcases List.mem_cons.mp hrest with rfl | hsecond'
              · rfl
              · exact hsecond happening hsecond'
          · have htwo : two.filter readable = two := by
              simp [two, readable_localMembership]
            rw [actions_append, hrun, actions_cons, hnext]
            simp only [List.filterMap_append, hmore, htwo, List.length_append]
            simp [two]
  cases poller with
  | sweeping tickNo sweep remaining => exact hsweep tickNo sweep remaining hleft
  | reading tickNo sweep record remaining =>
      obtain ⟨later, hlater, hmany⟩ := hsweep tickNo sweep remaining hleft
      have hfails : overseenStep Poller.step
          ⟨pool, generation, .reading tickNo sweep record remaining⟩ (.body (quietly [])) =
          (⟨pool, generation, .sweeping tickNo sweep remaining⟩, none) := rfl
      refine ⟨.body (quietly []) :: later, by simpa [Happening.isStart] using hlater, ?_⟩
      rw [actions_cons, hfails]
      exact hmany
  | writing tickNo sweep record write remaining =>
      obtain ⟨later, hlater, hmany⟩ := hsweep tickNo sweep remaining hleft
      have hwrites : overseenStep Poller.step
          ⟨pool, generation, .writing tickNo sweep record write remaining⟩ (.body (quietly [])) =
          (⟨pool, generation, .sweeping tickNo sweep remaining⟩,
            some (.writesRow record write)) := rfl
      refine ⟨.body (quietly []) :: later, by simpa [Happening.isStart] using hlater, ?_⟩
      rw [actions_cons, hwrites]
      exact hmany
  | paths tickNo remaining => exact absurd ⟨1, Nat.le_refl 1, rfl⟩ hleft
  | _ => exact absurd ⟨0, Nat.zero_le 1, rfl⟩ hleft

/-! ## Main result -/

/-- The poller does no more than the read it is at and one more: at most one
further registry read begins, and no row is written for a record whose read was
not in hand at the stop and did not begin after it. -/
def StopsWork (pool : Pool) (generation : ℕ) (poller : Poller) : Prop :=
  ∀ later : List Happening, (∀ happening ∈ later, happening.isStart = false) →
    let done := actions Poller.step ⟨stopSection pool, generation, poller⟩ later
    (done.filterMap begins).length ≤ 1 ∧
      ∀ record write, .writesRow record write ∈ done →
        poller.inHand = some record ∨ record ∈ done.filterMap begins

/-- Whenever `stop` sets its flag and nothing starts again, the refresher begins
at most one more read, both bodies exit, and the poller does no further work
exactly if at most one read is left in the sweep it is in. -/
theorem stopped_module_stops (pool : Pool) (generation : ℕ) :
    (∀ (refresher : Refresher) (later : List Happening),
      (∀ happening ∈ later, happening.isStart = false) →
      (actions Refresher.step ⟨stopSection pool, generation, refresher⟩ later).length ≤ 1) ∧
    (∀ (schedule : ℕ → Happening), (∀ n, (schedule n).isStart = false) →
      (∀ n, ∃ m, n ≤ m ∧ (schedule m).isBody = true) →
      (∀ refresher, ∃ n, (after (overseenStep Refresher.step)
        ⟨stopSection pool, generation, refresher⟩ schedule n).body = .exited) ∧
      ∀ poller, ∃ n, (after (overseenStep Poller.step)
        ⟨stopSection pool, generation, poller⟩ schedule n).body = .exited) ∧
    ∀ poller, StopsWork pool generation poller ↔ ∃ n ≤ 1, poller.readsLeft = some n := by
  have hstopped := stopped_stopSection pool
  refine ⟨fun refresher later hlater => ?_, fun schedule hnostart hfair =>
    ⟨fun refresher => ?_, fun poller => ?_⟩, fun poller => ⟨fun hstops => ?_, ?_⟩⟩
  · have hbound := @length_begun_le_budget Refresher CanonicalRegistryId Refresher.step
      CanonicalRegistryId some (fun refresher => some refresher.readsLeft) ?_
      ⟨stopSection pool, generation, refresher⟩ later refresher.readsLeft hstopped hlater rfl
    · rw [List.filterMap_some] at hbound
      refine hbound.trans ?_
      cases refresher <;> simp [Refresher.readsLeft]
    · intro generation around body n haround hbudget
      cases hbudget
      refine ⟨_, rfl, ?_⟩
      simpa using (Refresher.step_halted haround body).1
  · exact eventually_exits Nat.lt_wfRel.wf Refresher.stepsLeft
      (fun _ _ body haround => (Refresher.step_halted haround body).2) hstopped hnostart hfair
  · exact eventually_exits wellFounded_lt Poller.stepsLeft
      (fun _ _ body haround => Poller.stepsLeft_halted haround body) hstopped hnostart hfair
  · by_contra hleft
    obtain ⟨later, hlater, hmany⟩ := exists_two_reads (stopSection pool) generation hleft
    exact absurd (hstops later hlater).1 (Nat.not_le_of_lt hmany)
  · rintro ⟨n, hn, hbudget⟩ later hlater
    refine ⟨?_, fun record write hwrites => writes_of_reads hwrites⟩
    have hbound := @length_begun_le_budget Poller Action Poller.step MembershipRecord begins
      Poller.readsLeft (fun _ _ _ _ haround hbudget => Poller.pays_halted haround hbudget)
      ⟨stopSection pool, generation, poller⟩ later n hstopped hlater hbudget
    exact hbound.trans hn

/-! ## A stop in the middle of the confirmation sweep -/

def threePending : List MembershipRecord :=
  [localMembership "a1" .pending, localMembership "b2" .pending, localMembership "c3" .pending]

/-- `start` returns, the poller wakes and takes its work list. -/
def beforeSweep : List Happening :=
  [.elsewhere .start, .elsewhere .resumeStart, .elsewhere .resumeStart, .elsewhere .resumeStart,
    .body { quietly threePending with timedOut := true }, .body (quietly threePending)]

/-- The poller among three pending memberships, its first read begun. -/
def midSweep : Overseen Poller :=
  run (overseenStep Poller.step) ⟨{}, 0, .waiting 0⟩
    (beforeSweep ++ [.body (quietly threePending)])

theorem midSweep_body : midSweep.body = .reading 1 (.confirm 0) (localMembership "a1" .pending)
    [localMembership "b2" .pending, localMembership "c3" .pending] := by
  have hsweep : (run (overseenStep Poller.step) ⟨{}, 0, .waiting 0⟩ beforeSweep).body =
      .sweeping 1 (.confirm 0) threePending := rfl
  rw [midSweep, run_append]
  simp only [run_cons, run_nil, overseenStep, hsweep, threePending, Poller.step_sweeping_cons,
    readable_localMembership, if_true]

/-- A stop at this point leaves the poller two more reads to begin. -/
theorem sweep_reads_on : ¬ StopsWork midSweep.pool midSweep.generation midSweep.body := by
  intro hstops
  have hleft : midSweep.body.readsLeft = some 2 := by
    rw [midSweep_body]
    simp [Poller.readsLeft, sweepReads, refreshes, refreshEvery, readable_localMembership]
  have hmore : ¬ ∃ n ≤ 1, midSweep.body.readsLeft = some n := by
    rintro ⟨n, hn, hreads⟩
    rw [hleft, Option.some.injEq] at hreads
    omega
  obtain ⟨later, hlater, hmany⟩ :=
    exists_two_reads (stopSection midSweep.pool) midSweep.generation hmore
  exact absurd (hstops later hlater).1 (Nat.not_le_of_lt hmany)

end LogosRln.Maintenance
