import LogosRln.Core.Run
import LogosRln.Registry.RegisterMember

/-!
# Registrations in flight

Calls and the watchers they leave behind share one table of in-flight
registrations, under one lock, and do everything else on their own.  A thread is
run here from one access of the table to the next; what it reads of the chain
and what its wallet answers are inputs.  A thread that has taken a slot holds a
lease on its membership: while the lease is live no other thread submits for
that membership, and other calls for it are answered what the thread stored.
-/

namespace LogosRln.Registry.Chain

open RegistryId Json Proofs LeaseTable Run Function

variable {Fr : Type} (lez : Module Fr)

/-! ## The watcher -/

def regMaxResubmits : ℕ := 5

/-- What a thread meets between two accesses of the table: what it reads, in its
order, and the wallet it sends through. -/
structure Around where
  reads : RegisterReads
  submitting : Submitting
  /-- `fee_state::tx_included`, of a transaction's hash. -/
  included : String → Option Bool
  /-- The membership's account, looked at a second time. -/
  again : AccountReads

/-- What a watcher does to its slot. -/
inductive SlotWrite where
  | gaveUp
  | refused (why : String)
  | resent (plan : RlnRegisterPlan) (sendResult : String)

def SlotWrite.sent : SlotWrite → Bool
  | .resent _ _ => true
  | _ => false

inductive Round where
  | goOn (resubmits : ℕ)
  | registered
  | writes (write : SlotWrite) (resubmits : ℕ)

/-- One round of `register_watch`, after its sleep. -/
def RegisterWatch.round (watch : RegisterWatch) (resubmits : ℕ) (around : Around) : Round :=
  match resolveConfigContext lez.serde lez.layouts lez.networks around.reads.bound
      around.reads.config watch.configAccountId with
  | none => .goOn resubmits
  | some ctx =>
      match deriveRegisterPlan lez.serde lez.layouts around.reads.plan ctx watch.idCommitment with
      | none => .goOn resubmits
      | some plan =>
          let membershipHex := HexCodec.bytesToHex plan.membershipAccountId.toList
          if (landed lez around.reads.membership ctx membershipHex).isSome then .registered
          else if around.included watch.txHash ≠ some true then .goOn resubmits
          -- Included: it may have applied between the two reads.
          else if (landed lez around.again ctx membershipHex).isSome then .goOn resubmits
          else if regMaxResubmits ≤ resubmits then .writes .gaveUp resubmits
          else
            let located : Located :=
              ⟨ctx, plan, watch.idCommitment, watch.rateLimit, watch.payerHex⟩
            match located.preflight lez around.reads with
            | .error why => .writes (.refused why) resubmits
            | .ok () =>
                match submitRegister lez around.submitting located with
                | none => .goOn (resubmits + 1)
                | some sendResult => .writes (.resent plan sendResult) (resubmits + 1)

/-- A watcher in its loop, with the reply its registration stored last and when. -/
structure Watching where
  watch : RegisterWatch
  resubmits : ℕ
  deadline : ℕ
  reply : String
  since : ℕ

/-! ## Threads -/

/-- A caller, and the watcher that follows its submission. -/
inductive Thread where
  | idle
  | calling (args : RegisterArgs)
  | sending (args : RegisterArgs) (located : Located) (since : ℕ)
  | settling (args : RegisterArgs) (located : Located) (since : ℕ) (sent : Option String)
  | starting (watch : RegisterWatch) (reply : String) (since : ℕ)
  | watching (loop : Watching)
  | looking (loop : Watching)
  | writing (loop : Watching) (write : SlotWrite)
  | finished

inductive Output where
  | silent
  /-- A call answered before it came to its slot. -/
  | refuses (answer : Except Panic String)
  /-- A call that found its slot taken. -/
  | repeats (key reply : String)
  | takes (key : String)
  /-- A transaction was sent for the membership. -/
  | sends (key : String)
  | answers (reply : String)

/-- A call up to its slot: answered, told the prior reply, or holding it. -/
def enterSlot (now : ℕ) (around : Around) (slots : RegInFlightMap) (args : RegisterArgs) :
    Thread × RegInFlightMap × Output :=
  match locate lez args around.reads with
  | .inl answer => (.finished, slots, .refuses answer)
  | .inr located =>
      match located.preflight lez around.reads with
      | .error why => (.finished, slots, .refuses (.ok (lez.serde.toString (refusal why))))
      | .ok () =>
          match takeSlot lez now located slots with
          | (some reply, slots) => (.finished, slots, .repeats located.regKey reply)
          | (none, slots) => (.sending args located now, slots, .takes located.regKey)

/-- A watcher after its sleep. -/
def look (around : Around) (slots : RegInFlightMap) (loop : Watching) :
    Thread × RegInFlightMap × Output :=
  match loop.watch.round lez loop.resubmits around with
  | .goOn resubmits => (.watching { loop with resubmits }, slots, .silent)
  | .registered => (.finished, slots, .silent)
  | .writes write resubmits =>
      (.writing { loop with resubmits } write, slots,
        if write.sent then .sends loop.watch.regKey else .silent)

def Thread.step (now : ℕ) (around : Around) (slots : RegInFlightMap) :
    Thread → Thread × RegInFlightMap × Output
  | .idle => (.idle, slots, .silent)
  | .finished => (.finished, slots, .silent)
  | .calling args => enterSlot lez now around slots args
  | .sending args located since =>
      let sent := submitRegister lez around.submitting located
      (.settling args located since sent, slots,
        if sent.isSome then .sends located.regKey else .silent)
  | .settling args located _ sent =>
      let settled := settle lez now args sent located slots
      (match settled.2.2 with
        | none => .finished
        | some watch => .starting watch settled.1 now,
        settled.2.1, .answers settled.1)
  | .starting watch reply since =>
      (.watching ⟨watch, 0, now + regInFlightTtl, reply, since⟩, slots, .silent)
  | .watching loop => (if now < loop.deadline then .looking loop else .finished, slots, .silent)
  | .looking loop => look lez around slots loop
  | .writing loop write =>
      let slots := regInFlight now slots
      match write with
      | .gaveUp => (.finished, remove loop.watch.regKey slots, .silent)
      | .refused why =>
          (.finished, store loop.watch.regKey (lez.serde.toString (refusal why)) now slots, .silent)
      | .resent plan sendResult =>
          let reply := lez.serde.toString (pendingReply plan sendResult)
          (.watching { loop with
              watch := { loop.watch with txHash := txHashOf lez.serde sendResult }
              reply
              since := now },
            store loop.watch.regKey reply now slots, .silent)

/-- The lease of a thread: the entry it stored last. -/
def Thread.lease : Thread → Option (Lease String String)
  | .sending _ located since => some ⟨located.regKey, located.placeholder lez, since⟩
  | .settling _ located since _ => some ⟨located.regKey, located.placeholder lez, since⟩
  | .starting watch reply since => some ⟨watch.regKey, reply, since⟩
  | .watching loop => some ⟨loop.watch.regKey, loop.reply, loop.since⟩
  | .looking loop => some ⟨loop.watch.regKey, loop.reply, loop.since⟩
  | .writing loop _ => some ⟨loop.watch.regKey, loop.reply, loop.since⟩
  | _ => none

/-! ## The module -/

structure Registrations where
  clock : ℕ := 0
  slots : RegInFlightMap := fun _ => none
  threads : ℕ → Thread := fun _ => .idle

/-- A new call, or a turn of a thread once some time has passed. -/
inductive Turn where
  | calls (position : ℕ) (args : RegisterArgs)
  | steps (position elapsed : ℕ) (around : Around)

def step (state : Registrations) : Turn → Registrations × Output
  | .calls position args =>
      match state.threads position with
      | .idle => ({ state with threads := update state.threads position (.calling args) }, .silent)
      | _ => (state, .silent)
  | .steps position elapsed around =>
      let now := state.clock + elapsed
      let next := (state.threads position).step lez now around state.slots
      (⟨now, next.2.1, update state.threads position next.1⟩, next.2.2)

def Registrations.held (state : Registrations) (position : ℕ) : Option (Lease String String) :=
  (state.threads position).lease lez

/-- The thread is about to write the slot it holds. -/
def Thread.writes : Thread → Bool
  | .settling _ _ _ _ => true
  | .writing _ _ => true
  | _ => false

/-- Whoever sends for its membership, or writes its slot, does so before the entry
it stored last expires. -/
def Timely (state : Registrations) : Turn → Prop
  | .calls _ _ => True
  | .steps position elapsed around =>
      ∀ lease, state.held lez position = some lease →
        ((state.threads position).writes = true ∨
          ∃ key, (step lez state (.steps position elapsed around)).2 = .sends key) →
        lease.Live regInFlightTtl (state.clock + elapsed)

/-- A slot is taken, and a transaction sent, only where no other thread has a live
lease on the membership; a call that finds a slot is answered what was stored less
than the time to live before, by the thread with the live lease if there is one. -/
def Deduplicated (event : Event Registrations Turn Output) : Prop :=
  match event.input with
  | .calls _ _ => True
  | .steps position elapsed _ =>
      let now := event.before.clock + elapsed
      match event.output with
      | .takes key => Clear regInFlightTtl now (event.before.held lez) key position
      | .sends key => Clear regInFlightTtl now (event.before.held lez) key position
      | .repeats key reply =>
          (∃ since, event.before.slots key = some (reply, since) ∧ now - since < regInFlightTtl) ∧
            ∀ other lease, event.before.held lez other = some lease → lease.key = key →
              lease.Live regInFlightTtl now → reply = lease.value
      | _ => True

variable {lez}

theorem held_update (state : Registrations) (position : ℕ) (thread : Thread) (clock : ℕ)
    (slots : RegInFlightMap) :
    Registrations.held lez ⟨clock, slots, update state.threads position thread⟩ =
      update (state.held lez) position (thread.lease lez) := by
  funext other
  by_cases hother : other = position
  · subst hother
    simp [Registrations.held]
  · simp [Registrations.held, update_of_ne hother]

/-- A thread that keeps its lease and leaves the table alone. -/
theorem held_update_same {state : Registrations} {position : ℕ} {thread : Thread}
    (hlease : thread.lease lez = (state.threads position).lease lez) (clock : ℕ)
    (slots : RegInFlightMap) :
    Registrations.held lez ⟨clock, slots, update state.threads position thread⟩ =
      state.held lez := by
  rw [held_update, hlease]
  exact update_eq_self _ _

theorem takeSlot_some {now : ℕ} {located : Located} {slots taken : RegInFlightMap} {reply : String}
    (htaken : takeSlot lez now located slots = (some reply, taken)) :
    taken = regInFlight now slots ∧
      ∃ since, regInFlight now slots located.regKey = some (reply, since) := by
  simp only [takeSlot] at htaken
  split at htaken
  · next entry hentry =>
      cases htaken
      exact ⟨rfl, entry.2, hentry⟩
  · cases htaken

theorem takeSlot_none {now : ℕ} {located : Located} {slots taken : RegInFlightMap}
    (htaken : takeSlot lez now located slots = (none, taken)) :
    regInFlight now slots located.regKey = none ∧
      taken = store located.regKey (located.placeholder lez) now (regInFlight now slots) := by
  simp only [takeSlot] at htaken
  split at htaken
  · cases htaken
  · next hnone =>
      cases htaken
      exact ⟨hnone, rfl⟩

/-- What a step of a thread does with the table and its lease. -/
inductive Moves (lez : Module Fr) (now : ℕ) (slots : RegInFlightMap) (before : Thread) :
    Thread × RegInFlightMap × Output → Prop where
  /-- The table is left alone, and the lease kept or given up. -/
  | idles {after : Thread} {output : Output}
      (hlease : after.lease lez = before.lease lez ∨ after.lease lez = none)
      (hquiet : ∀ key, output ≠ .takes key) (hfound : ∀ key reply, output ≠ .repeats key reply)
      (hsends : ∀ key, output = .sends key → ∃ lease, before.lease lez = some lease ∧
        lease.key = key) : Moves lez now slots before (after, slots, output)
  | finds {key reply : String} {since : ℕ} (hnone : before.lease lez = none)
      (hslot : regInFlight now slots key = some (reply, since)) :
      Moves lez now slots before (.finished, regInFlight now slots, .repeats key reply)
  | takes {args : RegisterArgs} {located : Located} (hnone : before.lease lez = none)
      (hfree : regInFlight now slots located.regKey = none) :
      Moves lez now slots before (.sending args located now,
        store located.regKey (located.placeholder lez) now (regInFlight now slots),
        .takes located.regKey)
  | renews (after : Thread) (lease : Lease String String) (reply : String) {output : Output}
      (hwrites : before.writes = true) (hheld : before.lease lez = some lease)
      (hafter : after.lease lez = some ⟨lease.key, reply, now⟩)
      (houtput : output = .silent ∨ ∃ answer, output = .answers answer) :
      Moves lez now slots before
        (after, store lease.key reply now (regInFlight now slots), output)
  | leaves (lease : Lease String String) {entry : Option (String × ℕ)} {output : Output}
      (hwrites : before.writes = true) (hheld : before.lease lez = some lease)
      (houtput : output = .silent ∨ ∃ answer, output = .answers answer) :
      Moves lez now slots before
        (.finished, update (regInFlight now slots) lease.key entry, output)

theorem enterSlot_moves (lez : Module Fr) (now : ℕ) (around : Around) (slots : RegInFlightMap)
    (args : RegisterArgs) :
    Moves lez now slots (.calling args) (enterSlot lez now around slots args) := by
  delta enterSlot
  split
  · exact .idles (.inl rfl) (by simp) (by simp) (by simp)
  · split
    · exact .idles (.inl rfl) (by simp) (by simp) (by simp)
    · split
      · next reply taken htaken =>
          obtain ⟨rfl, since, hslot⟩ := takeSlot_some htaken
          exact .finds rfl hslot
      · next taken htaken =>
          obtain ⟨hfree, rfl⟩ := takeSlot_none htaken
          exact .takes rfl hfree

/-- A thread that may send for the membership it has a lease on. -/
theorem moves_of_sends {now : ℕ} {slots : RegInFlightMap} {before after : Thread}
    {lease : Lease String String} (hlease : before.lease lez = some lease)
    (hkept : after.lease lez = some lease) (sends : Bool) :
    Moves lez now slots before (after, slots, if sends then .sends lease.key else .silent) := by
  cases sends with
  | false => exact .idles (.inl (hkept.trans hlease.symm)) (by simp) (by simp) (by simp)
  | true =>
      refine .idles (.inl (hkept.trans hlease.symm)) (by simp) (by simp) fun key hsends => ?_
      cases hsends
      exact ⟨lease, hlease, rfl⟩

theorem look_moves (lez : Module Fr) (now : ℕ) (around : Around) (slots : RegInFlightMap)
    (loop : Watching) : Moves lez now slots (.looking loop) (look lez around slots loop) := by
  delta look
  split
  · exact .idles (.inl rfl) (by simp) (by simp) (by simp)
  · exact .idles (.inr rfl) (by simp) (by simp) (by simp)
  · exact @moves_of_sends _ lez now slots (.looking loop) _
      ⟨loop.watch.regKey, loop.reply, loop.since⟩ rfl rfl _

theorem Thread.step_moves (lez : Module Fr) (now : ℕ) (around : Around) (slots : RegInFlightMap)
    (thread : Thread) : Moves lez now slots thread (thread.step lez now around slots) := by
  cases thread with
  | idle => exact .idles (.inl rfl) (by simp) (by simp) (by simp)
  | finished => exact .idles (.inl rfl) (by simp) (by simp) (by simp)
  | calling args => exact enterSlot_moves lez now around slots args
  | sending args located since =>
      exact @moves_of_sends _ lez now slots (.sending args located since) _
        ⟨located.regKey, located.placeholder lez, since⟩ rfl rfl _
  | settling args located since sent =>
      cases sent with
      | none =>
          exact .leaves ⟨located.regKey, located.placeholder lez, since⟩ rfl rfl (.inr ⟨_, rfl⟩)
      | some sendResult =>
          exact .renews _ ⟨located.regKey, located.placeholder lez, since⟩ _ rfl rfl rfl
            (.inr ⟨_, rfl⟩)
  | starting watch reply since => exact .idles (.inl rfl) (by simp) (by simp) (by simp)
  | watching loop =>
      refine .idles ?_ (by simp) (by simp) (by simp)
      split
      · exact .inl rfl
      · exact .inr rfl
  | looking loop => exact look_moves lez now around slots loop
  | writing loop write =>
      cases write with
      | gaveUp => exact .leaves ⟨loop.watch.regKey, loop.reply, loop.since⟩ rfl rfl (.inl rfl)
      | refused why => exact .leaves ⟨loop.watch.regKey, loop.reply, loop.since⟩ rfl rfl (.inl rfl)
      | resent plan sendResult =>
          exact .renews _ ⟨loop.watch.regKey, loop.reply, loop.since⟩ _ rfl rfl rfl (.inl rfl)

/-! ## Runs -/

/-- Every live lease stands in the table, alone on its membership. -/
def Registrations.Leased (lez : Module Fr) (state : Registrations) : Prop :=
  LeaseTable.Leased regInFlightTtl state.clock state.slots (state.held lez)

/-- A thread's lease is live when it has to be. -/
theorem Timely.live {state : Registrations} {position elapsed : ℕ} {around : Around}
    (htimely : Timely lez state (.steps position elapsed around)) {lease : Lease String String}
    (hheld : (state.threads position).lease lez = some lease)
    (hacts : (state.threads position).writes = true ∨ ∃ key,
      ((state.threads position).step lez (state.clock + elapsed) around state.slots).2.2 =
        .sends key) : lease.Live regInFlightTtl (state.clock + elapsed) :=
  htimely lease hheld hacts

theorem leased_step (state : Registrations) (turn : Turn) (hleased : state.Leased lez)
    (htimely : Timely lez state turn) : (step lez state turn).1.Leased lez := by
  cases turn with
  | calls position args =>
      simp only [step]
      split
      · next hidle =>
          rw [Registrations.Leased, held_update_same (by rw [hidle]; rfl)]
          exact hleased
      · exact hleased
  | steps position elapsed around =>
      have hnow : LeaseTable.Leased regInFlightTtl (state.clock + elapsed) state.slots
          (state.held lez) := hleased.later (Nat.le_add_right _ _)
      have hlive := @Timely.live _ _ _ _ _ _ htimely
      have hmoves := (state.threads position).step_moves lez (state.clock + elapsed) around
        state.slots
      simp only [step, Registrations.Leased]
      generalize hnext : (state.threads position).step lez (state.clock + elapsed) around
        state.slots = next at hmoves hlive
      cases hmoves with
      | @idles after output hlease _ _ _ =>
          rcases hlease with hkept | hended
          · rw [held_update_same hkept]
            exact hnow
          · rw [held_update, hended]
            exact hnow.abandon position
      | finds hnone _ =>
          have hended : Thread.lease lez .finished = (state.threads position).lease lez :=
            hnone.symm
          rw [held_update_same hended]
          exact hnow.retain
      | @takes args located _ hfree =>
          rw [held_update]
          exact hnow.retain.lease (hnow.retain.clear_of_free hfree position) _
      | renews after lease reply hwrites hheld hafter _ =>
          rw [held_update, hafter]
          exact hnow.retain.lease
            (hnow.retain.clear_of_live hheld (hlive hheld (.inl hwrites))) _
      | leaves lease hwrites hheld _ =>
          rw [held_update]
          exact hnow.retain.overwrite
            (hnow.retain.clear_of_live hheld (hlive hheld (.inl hwrites))) _

theorem deduplicated_step (state : Registrations) (turn : Turn) (hleased : state.Leased lez)
    (htimely : Timely lez state turn) :
    Deduplicated lez ⟨state, turn, (step lez state turn).2⟩ := by
  cases turn with
  | calls position args => trivial
  | steps position elapsed around =>
      have hnow : LeaseTable.Leased regInFlightTtl (state.clock + elapsed) state.slots
          (state.held lez) := hleased.later (Nat.le_add_right _ _)
      have hlive := @Timely.live _ _ _ _ _ _ htimely
      have hmoves := (state.threads position).step_moves lez (state.clock + elapsed) around
        state.slots
      simp only [step, Deduplicated]
      generalize hnext : (state.threads position).step lez (state.clock + elapsed) around
        state.slots = next at hmoves hlive
      cases hmoves with
      | @idles after output _ hquiet hfound hsends =>
          cases output with
          | sends key =>
              obtain ⟨lease, hheld, rfl⟩ := hsends key rfl
              exact hnow.clear_of_live hheld (hlive hheld (.inr ⟨_, rfl⟩))
          | takes key => exact absurd rfl (hquiet key)
          | repeats key reply => exact absurd rfl (hfound key reply)
          | _ => trivial
      | @finds key reply since _ hslot =>
          constructor
          · obtain ⟨hstored, hfresh⟩ := Option.filter_eq_some_iff.mp hslot
            exact ⟨since, hstored, by simpa using hfresh⟩
          · intro other lease hheld hkey hleaseLive
            exact congrArg Prod.fst (hnow.retain.found hslot hheld hleaseLive hkey)
      | @takes args located _ hfree => exact hnow.retain.clear_of_free hfree position
      | renews _ _ _ _ _ _ houtput =>
          rcases houtput with rfl | ⟨answer, rfl⟩ <;> trivial
      | leaves _ _ _ houtput =>
          rcases houtput with rfl | ⟨answer, rfl⟩ <;> trivial

/-- However calls and watchers interleave, and whatever the chain and the wallet
answer them, a membership is submitted for by one thread at a time: as long as
threads send and write before the entry they stored expires, a slot is taken and a
transaction sent only where no other thread has a live lease on the membership,
and a call that finds a slot is answered what the thread with the lease stored. -/
theorem registrations_deduplicated (lez : Module Fr) (turns : List Turn)
    (htimely : Guarded (step lez) (Timely lez) {} turns) :
    ∀ event ∈ trace (step lez) {} turns, Deduplicated lez event :=
  @trace_forall _ _ _ (step lez) (Timely lez) (Registrations.Leased lez) (Deduplicated lez)
    leased_step deduplicated_step _ turns (leased_empty _ _ _) htimely

/-! ## Runs within the time to live -/

def Turn.elapsed : Turn → ℕ
  | .calls _ _ => 0
  | .steps _ elapsed _ => elapsed

/-- No entry expires in a run that is over before one could. -/
theorem timely_of_short (lez : Module Fr) (state : Registrations) (turns : List Turn)
    (hshort : state.clock + (turns.map Turn.elapsed).sum < regInFlightTtl) :
    Guarded (step lez) (Timely lez) state turns := by
  induction turns generalizing state with
  | nil => trivial
  | cons turn turns ih =>
      rw [List.map_cons, List.sum_cons] at hshort
      refine ⟨?_, ih _ ?_⟩
      · cases turn with
        | calls position args => trivial
        | steps position elapsed around =>
            intro lease _ _
            simp only [Turn.elapsed] at hshort
            simp only [Lease.Live]
            omega
      · cases turn with
        | calls position args =>
            simp only [step]
            split <;> simpa [Turn.elapsed] using hshort
        | steps position elapsed around =>
            simp only [step, Turn.elapsed] at hshort ⊢
            omega

/-- Two calls for one membership, the second while the first one's transaction is
with the wallet. -/
def twoCalls : List Turn :=
  let around : Around :=
    ⟨RegisterSample.reads none, RegisterSample.submitting (.result true "ab"), fun _ => none,
      ChainSample.always "[none]"⟩
  [.calls 0 RegisterSample.args, .steps 0 0 around, .calls 1 RegisterSample.args,
    .steps 0 1 around, .steps 1 1 around, .steps 0 2 around]

theorem registrations_deduplicated_twoCalls :
    twoCalls.length = 6 ∧
      ∀ event ∈ trace (step ChainSample.lez) {} twoCalls, Deduplicated ChainSample.lez event :=
  ⟨rfl, registrations_deduplicated ChainSample.lez twoCalls
    (timely_of_short ChainSample.lez {} twoCalls (by decide))⟩

end LogosRln.Registry.Chain
