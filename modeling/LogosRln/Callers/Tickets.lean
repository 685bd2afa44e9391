import LogosRln.Callers.Interleaving

/-!
# Tickets of the provisioning passes

Each `start` spawns a warm pass behind those of the starts before it.  A pass
takes its ticket when it comes to provisioning, however long its warm-up took,
and one that finds a newer ticket stands down.  So the pass that goes on is the
last to come to provisioning, and not that of the last `start`.
-/

namespace LogosRln.Callers.Tickets

open LogosRln.Lifecycle Provider Json RegistryId Maintenance SealedStore Run

variable {libs : Libraries} {serde : Serde}

/-- The ticket of a pass that has come to provisioning and not to its end. -/
def ticket : Pass → Option UInt64
  | .warming _ | .finished => none
  | .next ticket _ _ => some ticket
  | .presence leg _ | .walletCheck leg _ | .walletRead leg _ | .walletSleep leg _
  | .checkingRegistry leg _ | .pricing leg _ | .quoting leg _ _ | .fundingCheck leg _ _
  | .requoting leg _ _ | .fundingRead leg _ _ | .registering leg _ | .awaiting leg _ _ =>
      some leg.ticket

def bodyTicket : Body → Option UInt64
  | .warm pass => ticket pass
  | .poller _ | .refresher _ => none

/-- The position of the pass that takes a ticket in a step. -/
def taker (libs : Libraries) (serde : Serde) (node : Node) : Input → Option ℕ
  | .body i moment =>
      match demand libs serde node (.body i moment) with
      | .takesTicket => some i
      | _ => none
  | _ => none

/-- The passes that took a ticket on the way, in the order they did. -/
def takers (libs : Libraries) (serde : Serde) (events : List (Event Node Input Report)) :
    List ℕ :=
  events.filterMap fun event => taker libs serde event.before event.input

/-- A pass takes its ticket only while no pass of a later start has the newest
one. -/
def EntersInOrder (libs : Libraries) (serde : Serde) (node : Node) (input : Input) : Prop :=
  ∀ i ∈ taker libs serde node input, ∀ body ∈ node.bodies.drop (i + 1),
    bodyTicket body ≠ some node.epoch

instance (node : Node) (input : Input) : Decidable (EntersInOrder libs serde node input) :=
  inferInstanceAs (Decidable (∀ i ∈ taker libs serde node input, _))

/-- The pass whose ticket came after that of `j` is one of a later start. -/
def FollowedByLater (j : ℕ) (taken : List ℕ) : Prop :=
  ∃ earlier next later, taken = earlier ++ j :: next :: later ∧ j < next

/-- Every pass that stands down, the module not being stopped, does so for a
pass of a later start. -/
def StandDownForLater (taken : List ℕ) (node : Node) : Prop :=
  ∀ j body mine, node.bodies[j]? = some body → bodyTicket body = some mine →
    superseded mine node.view = true → node.pool.stopped = false → FollowedByLater j taken

/-! ## Tickets from step to step -/

/-- A pass keeps its ticket until its end, and takes one on entry. -/
theorem ticket_step {pass : Pass} {moment : Moment} {view : View} {outcome : Outcome}
    {mine : UInt64} (hticket : ticket ((pass.step moment view).2 outcome) = some mine) :
    ticket pass = some mine ∨
      (pass.step moment view).1 = .takesTicket ∧ outcome = .ticket mine := by
  cases pass with
  | warming config =>
      right
      simp only [Pass.step] at hticket ⊢
      split at hticket
      · cases hticket
      · rename_i hnamed
        rw [if_neg hnamed]
        refine ⟨rfl, ?_⟩
        cases outcome with
        | ticket taken => simpa [ticket] using hticket
        | _ => cases hticket
  | next taken rateLimit remaining =>
      left
      cases remaining with
      | nil => cases hticket
      | cons raw remaining =>
          simp only [Pass.step] at hticket
          split at hticket
          · cases hticket
          · split at hticket <;> exact hticket
  | registering leg rateLimit =>
      left
      cases outcome with
      | call i => exact hticket
      | _ => exact hticket
  | finished => cases hticket
  | quoting leg rateLimit price => exact .inl hticket
  | requoting leg rateLimit funding => exact .inl hticket
  | presence leg rateLimit =>
      left
      simp only [Pass.step] at hticket
      split at hticket
      · exact hticket
      · split at hticket <;> exact hticket
  | walletSleep leg rateLimit =>
      left
      simp only [Pass.step] at hticket
      split at hticket
      · exact hticket
      · split at hticket <;> exact hticket
  | fundingCheck leg rateLimit funding =>
      left
      simp only [Pass.step] at hticket
      split at hticket
      · exact hticket
      · split at hticket
        · exact hticket
        · split at hticket <;> exact hticket
  | fundingRead leg rateLimit funding =>
      left
      simp only [Pass.step] at hticket
      split at hticket
      · split at hticket <;> exact hticket
      · exact hticket
  | _ =>
      left
      simp only [Pass.step] at hticket
      split at hticket <;> exact hticket

theorem bodyTicket_of_isFresh {body : Body} (hfresh : body.isFresh = true) :
    bodyTicket body = none := by
  cases body with
  | warm pass =>
      cases pass with
      | warming config => rfl
      | _ => cases hfresh
  | _ => rfl

/-- What a body's ticket after a step comes from. -/
theorem bodyTicket_step {node : Node} {input : Input} {j : ℕ} {body : Body} {mine : UInt64}
    (hbody : (step libs serde node input).1.bodies[j]? = some body)
    (hticket : bodyTicket body = some mine) :
    taker libs serde node input = some j ∧ mine = node.epoch + 1 ∨
      ∃ before, node.bodies[j]? = some before ∧ bodyTicket before = some mine ∧
        taker libs serde node input ≠ some j := by
  rcases getElem?_bodies_step hbody with
    ⟨moment, before, rfl, hbefore, rfl⟩ | ⟨hold, hother⟩ | ⟨-, hfresh⟩
  · cases before with
    | warm pass =>
        have hdemand : demand libs serde node (.body j moment) =
            (pass.step moment node.view).1 := by
          simp only [demand, hbefore]
          rfl
        rcases ticket_step hticket with hkept | ⟨htakes, houtcome⟩
        · refine .inr ⟨_, hbefore, hkept, ?_⟩
          simp only [taker, hdemand]
          rcases Pass.demand_step moment node.view pass with h | ⟨-, config, rfl⟩ | ⟨_, _, -, h⟩
          · simp [h]
          · cases hkept
          · simp [h]
        · left
          refine ⟨by simp only [taker, hdemand, htakes], ?_⟩
          have houtcome' : node.outcome libs serde moment (pass.step moment node.view).1 =
              .ticket mine := houtcome
          rw [htakes] at houtcome'
          exact (Outcome.ticket.inj houtcome').symm
    | poller poller => cases hticket
    | refresher refresher => cases hticket
  · refine .inr ⟨body, hold, hticket, ?_⟩
    cases input with
    | body i moment =>
        simp only [taker]
        split
        · simpa using fun hsame => hother moment (by rw [hsame])
        · simp
    | _ => simp [taker]
  · rw [bodyTicket_of_isFresh hfresh] at hticket
    cases hticket

@[simp]
theorem epoch_section (input : Maintenance.Input) (node : Node) :
    (node.section input).epoch = node.epoch := by
  simp only [Node.section]
  split <;> rfl

theorem epoch_perform {moment : Moment} {demanded : Demand} {node : Node} :
    (perform libs serde moment demanded node).1.epoch = node.epoch ∨
      demanded = .takesTicket ∧
        (perform libs serde moment demanded node).1.epoch = node.epoch + 1 := by
  cases demanded with
  | takesTicket => exact .inr ⟨rfl, rfl⟩
  | ensuresPoller => exact .inl (epoch_section _ _)
  | _ => exact .inl rfl

/-- A call takes no ticket. -/
theorem demand_call {node : Node} {i : ℕ} {moment : Moment} :
    demand libs serde node (.call i moment) ≠ .takesTicket := by
  simp only [demand]
  split
  · rename_i call hcall
    cases call with
    | stateRead call =>
        cases call with
        | entering registryIdRaw rlnIdentifierHex =>
            simp only [Call.step, ThreadStep.map, StateRead.step]
            split <;> simp [goesTo]
        | reading registry record =>
            simp only [Call.step, ThreadStep.map, StateRead.step]
            split
            · simp [goesTo]
            · split <;> simp [goesTo]
        | persisting registry record mergedState report =>
            simp [Call.step, ThreadStep.map, StateRead.step]
        | answered reply => simp [Call.step, ThreadStep.map, StateRead.step, goesTo]
    | register call =>
        intro htakes
        have hdemands := @Register.demands_step libs serde moment node.view call
        rw [show (call.step libs serde moment node.view).1 = .takesTicket from htakes] at hdemands
        cases hdemands
  · simp

/-- The newest ticket changes when a pass takes one. -/
theorem epoch_step (node : Node) (input : Input) :
    (step libs serde node input).1.epoch =
      if taker libs serde node input = none then node.epoch else node.epoch + 1 := by
  cases input with
  | start config =>
      simp only [step, taker, if_true]
      split
      · exact epoch_section _ _
      · rfl
  | «section» input => cases input <;> simp [step, taker]
  | body i moment =>
      cases hbody : node.bodies[i]? with
      | none => simp [step, taker, demand, hbody]
      | some body =>
          rcases @epoch_perform libs serde moment (demand libs serde node (.body i moment)) node
            with hkept | ⟨htakes, hnext⟩
          · have hnot : taker libs serde node (.body i moment) = none := by
              simp only [taker]
              split
              · rename_i htakes
                rw [htakes] at hkept
                exact absurd hkept (by simp [perform])
              · rfl
            simpa [step, hnot, hbody, Node.runBody, demand] using hkept
          · have htaker : taker libs serde node (.body i moment) ≠ none := by
              simp [taker, htakes]
            simpa [step, htaker, hbody, Node.runBody, demand] using hnext
  | call i moment =>
      simp only [step, taker, if_true]
      split
      · rename_i call hcall
        rcases @epoch_perform libs serde moment (demand libs serde node (.call i moment)) node
          with hkept | ⟨htakes, -⟩
        · simpa [Node.runCall, demand, hcall] using hkept
        · exact absurd htakes demand_call
      · rfl
  | getMembershipState registryIdRaw rlnIdentifierHex => rfl
  | registerMembership registryIdRaw rlnIdentifierHex optionsJson => rfl
  | submitReply hash reply moment =>
      simp only [step, taker, if_true]
      split <;> rfl
  | store op => rfl

/-! ## The order of the tickets -/

/-- A pass with a ticket took the newest one, or the ticket after its own went
to a pass of a later start. -/
def Ordered (taken : List ℕ) (node : Node) : Prop :=
  ∀ j body mine, node.bodies[j]? = some body → bodyTicket body = some mine →
    mine = node.epoch ∧ taken.getLast? = some j ∨ FollowedByLater j taken

theorem FollowedByLater.concat {j : ℕ} {taken : List ℕ} (hfollowed : FollowedByLater j taken)
    (i : ℕ) : FollowedByLater j (taken ++ [i]) := by
  obtain ⟨earlier, next, later, rfl, hnext⟩ := hfollowed
  exact ⟨earlier, next, later ++ [i], by simp, hnext⟩

theorem ordered_step {node : Node} {input : Input} {taken : List ℕ} (hnode : Ordered taken node)
    (hguard : EntersInOrder libs serde node input) :
    Ordered (taken ++ (taker libs serde node input).toList)
      (step libs serde node input).1 := by
  intro j body mine hbody hticket
  rw [epoch_step]
  rcases bodyTicket_step hbody hticket with ⟨htakes, rfl⟩ | ⟨before, hbefore, hkept, hother⟩
  · exact .inl ⟨by simp [htakes], by simp [htakes]⟩
  · cases htaker : taker libs serde node input with
    | none => simpa using hnode j before mine hbefore hkept
    | some i =>
        right
        rcases hnode j before mine hbefore hkept with ⟨hnewest, hlast⟩ | hfollowed
        · have hearlier : ¬ i < j := by
            intro hlater
            have hmember : before ∈ node.bodies.drop (i + 1) := by
              have hposition : (node.bodies.drop (i + 1))[j - (i + 1)]? = some before := by
                rw [List.getElem?_drop, show i + 1 + (j - (i + 1)) = j by omega]
                exact hbefore
              exact List.mem_of_getElem? hposition
            exact hguard i htaker before hmember (hnewest ▸ hkept)
          have hdiffers : i ≠ j := fun hsame => hother (hsame ▸ htaker)
          obtain ⟨front, rfl⟩ := List.getLast?_eq_some_iff.mp hlast
          exact ⟨front, i, [], by simp, by omega⟩
        · exact hfollowed.concat i

theorem ordered_run {node : Node} {inputs : List Input} {taken : List ℕ}
    (hnode : Ordered taken node)
    (hguard : Guarded (step libs serde) (EntersInOrder libs serde) node inputs) :
    Ordered (taken ++ takers libs serde (trace (step libs serde) node inputs))
      (run (step libs serde) node inputs) := by
  induction inputs generalizing node taken with
  | nil => simpa [takers, trace] using hnode
  | cons input inputs ih =>
      have hrest := ih (ordered_step hnode hguard.1) hguard.2
      have htakers : takers libs serde (trace (step libs serde) node (input :: inputs)) =
          (taker libs serde node input).toList ++
            takers libs serde (trace (step libs serde) (step libs serde node input).1 inputs) := by
        simp only [takers, trace, List.filterMap_cons]
        cases taker libs serde node input <;> rfl
      rw [htakers, ← List.append_assoc]
      exact hrest

/-! ## Main result -/

/-- In every run in which each pass comes to provisioning while no pass of a
later start has the newest ticket, no pass is made to stand down by one of an
earlier start. -/
theorem latest_start_survives (libs : Libraries) (serde : Serde) (world : World)
    (inputs : List Input)
    (hguard : Guarded (step libs serde) (EntersInOrder libs serde) { world } inputs) :
    StandDownForLater (takers libs serde (trace (step libs serde) { world } inputs))
      (run (step libs serde) { world } inputs) := by
  intro j body mine hbody hticket hsuperseded hrunning
  have hordered := @ordered_run libs serde { world } inputs [] (by simp [Ordered]) hguard
  rcases hordered j body mine hbody hticket with ⟨rfl, -⟩ | hfollowed
  · simp [superseded, Node.view, hrunning] at hsuperseded
  · simpa using hfollowed

/-! ## Two starts -/

/-- `start` twice, each with a registry to provision; the warm passes are at
positions 2 and 3. -/
def twoStarts : List Input :=
  let config : StartConfig := { registries := ["logos:local"] }
  [.start config, .section .resumeStart, .section .resumeStart, .section .resumeStart,
    .start config, .section .resumeStart, .section .resumeStart, .section .resumeStart]

theorem latest_start_survives_twoStarts :
    StandDownForLater
      (takers Reference.libraries sampleSerde (trace (step Reference.libraries sampleSerde) {}
        (twoStarts ++ [.body 2 {}, .body 3 {}])))
      (run (step Reference.libraries sampleSerde) {} (twoStarts ++ [.body 2 {}, .body 3 {}])) := by
  have hguard : Guarded (step Reference.libraries sampleSerde)
      (EntersInOrder Reference.libraries sampleSerde) {}
      (twoStarts ++ [.body 2 {}, .body 3 {}]) := by
    decide +kernel
  exact latest_start_survives Reference.libraries sampleSerde {} _ hguard

/-- The pass of the second start comes to provisioning first and stands down for
that of the first. -/
theorem earlier_start_survives :
    let inputs := twoStarts ++ [.body 3 {}, .body 2 {}]
    let node := run (step Reference.libraries sampleSerde) {} inputs
    takers Reference.libraries sampleSerde
        (trace (step Reference.libraries sampleSerde) {} inputs) = [3, 2] ∧
      (node.bodies[3]?).bind bodyTicket = some 1 ∧ node.pool.stopped = false ∧
      superseded 1 node.view = true ∧
      ((step Reference.libraries sampleSerde node (.body 3 {})).1.bodies[3]?).any Body.exited =
        true := by
  decide +kernel

end LogosRln.Callers.Tickets
