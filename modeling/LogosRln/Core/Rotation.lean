import Mathlib.Data.Finset.Card
import Mathlib.Order.Circular

/-!
# Rotations of a circular order

A rotation answers each turn with the candidate that comes next, in the
circular order, after the one it answered last.  The candidates may change from
turn to turn, and the last answer need not be one of them any more.  A candidate
of every turn is nevertheless met before any other comes round again, and over
fixed candidates each is met once a round.
-/

namespace LogosRln.Rotation

variable {α : Type*} [CircularOrder α]

/-- No candidate lies between the previous choice and this one. -/
def Follows (candidates : Set α) (previous choice : α) : Prop :=
  ∀ candidate ∈ candidates,
    candidate = choice ∨ candidate = previous ∨ sbtw previous choice candidate

/-- The turns of a rotation: each one's candidates and its choice. -/
def Turns : Option α → List (Set α × α) → Prop
  | _, [] => True
  | last, (candidates, choice) :: turns =>
      choice ∈ candidates ∧ (∀ previous, last = some previous →
        Follows candidates previous choice) ∧ Turns (some choice) turns

/-- The choices, oldest first. -/
def choices (turns : List (Set α × α)) : List α :=
  turns.map Prod.snd

variable {last : Option α} {turns : List (Set α × α)} {start goal : α}

theorem Turns.after {before rest : List (Set α × α)} {candidates : Set α} {choice : α}
    (hturns : Turns last (before ++ (candidates, choice) :: rest)) : Turns (some choice) rest := by
  induction before generalizing last with
  | nil => exact hturns.2.2
  | cons turn before ih => exact ih hturns.2.2

theorem Turns.earlier {first second : List (Set α × α)} (hturns : Turns last (first ++ second)) :
    Turns last first := by
  induction first generalizing last with
  | nil => trivial
  | cons turn first ih => exact ⟨hturns.1, hturns.2.1, ih hturns.2.2⟩

theorem Turns.mem (hturns : Turns last turns) {turn : Set α × α} (hturn : turn ∈ turns) :
    turn.2 ∈ turn.1 := by
  induction turns generalizing last with
  | nil => cases hturn
  | cons first turns ih =>
      cases hturn with
      | head => exact hturns.1
      | tail _ hturn => exact ih hturns.2.2 hturn

/-- On the way from `start`, a choice that is not yet `goal` lies before it. -/
theorem Follows.sbtw {candidates : Set α} {previous choice : α}
    (hfollows : Follows candidates previous choice) (hgoal : goal ∈ candidates)
    (hother : choice ≠ goal) (hstart : start ≠ goal)
    (hprevious : previous = start ∨ sbtw start previous goal) : sbtw start choice goal := by
  rcases hfollows goal hgoal with hsame | hsame | hbetween
  · exact absurd hsame.symm hother
  · rcases hprevious with rfl | hprevious
    · exact absurd hsame.symm hstart
    · exact absurd (hsame ▸ btw_rfl_left) hprevious.not_btw
  · rcases hprevious with rfl | hprevious
    · exact hbetween
    · exact sbtw_trans_left hprevious hbetween

/-- Until the goal is met, every choice lies between the start and the goal. -/
theorem Turns.sbtw {previous : α} (hturns : Turns (some previous) turns) (hstart : start ≠ goal)
    (hgoal : ∀ turn ∈ turns, goal ∈ turn.1) (hunmet : goal ∉ choices turns)
    (hprevious : previous = start ∨ sbtw start previous goal) :
    ∀ choice ∈ choices turns, sbtw start choice goal := by
  induction turns generalizing previous with
  | nil =>
      intro choice hchoice
      cases hchoice
  | cons turn turns ih =>
      obtain ⟨candidates, choice⟩ := turn
      obtain ⟨-, hfollows, hrest⟩ := hturns
      rw [choices, List.map_cons, List.mem_cons, not_or] at hunmet
      have hbetween : SBtw.sbtw start choice goal :=
        (hfollows previous rfl).sbtw (hgoal _ List.mem_cons_self) (Ne.symm hunmet.1) hstart hprevious
      have htail := ih hrest (fun turn hturn => hgoal turn (List.mem_cons_of_mem _ hturn)) hunmet.2
        (.inr hbetween)
      intro other hother
      rcases List.mem_cons.mp hother with rfl | hother
      · exact hbetween
      · exact htail other hother

/-- Between two choices of one candidate, every other that was a candidate
throughout is chosen. -/
theorem Turns.visits {before between after : List (Set α × α)} {first second : Set α}
    (hturns : Turns last (before ++ (first, start) :: (between ++ (second, start) :: after)))
    (hstart : start ≠ goal) (hbetween : ∀ turn ∈ between, goal ∈ turn.1) (hsecond : goal ∈ second) :
    goal ∈ choices between := by
  by_contra hunmet
  -- the turns up to the second choice, which is then strictly between itself and the goal
  have hround : Turns (some start) (between ++ [(second, start)]) := by
    have hrest := hturns.after
    rw [List.append_cons] at hrest
    exact hrest.earlier
  have hunmet' : goal ∉ choices (between ++ [(second, start)]) := by
    rw [choices, List.map_append, List.mem_append, not_or]
    exact ⟨hunmet, by simpa using hstart.symm⟩
  have hcandidates : ∀ turn ∈ between ++ [(second, start)], goal ∈ turn.1 := by
    intro turn hturn
    rcases List.mem_append.mp hturn with hturn | hturn
    · exact hbetween turn hturn
    · rw [List.mem_singleton.mp hturn]
      exact hsecond
  have hself := hround.sbtw hstart hcandidates hunmet' (.inl rfl) start (by simp [choices])
  exact hself.not_btw btw_rfl_right

/-- Over fixed candidates no choice returns within a round. -/
theorem Turns.nodup {candidates : Finset α} (hturns : Turns last turns)
    (hfixed : ∀ turn ∈ turns, turn.1 = candidates) (hround : turns.length ≤ candidates.card) :
    (choices turns).Nodup := by
  classical
  induction turns generalizing last with
  | nil => exact List.nodup_nil
  | cons turn turns ih =>
      obtain ⟨first, start⟩ := turn
      rw [List.length_cons] at hround
      have htail := ih hturns.2.2 (fun turn hturn => hfixed turn (List.mem_cons_of_mem _ hturn))
        (by omega)
      refine List.nodup_cons.mpr ⟨fun hagain => ?_, htail⟩
      obtain ⟨⟨second, other⟩, hturn, hother⟩ := List.mem_map.mp hagain
      simp only at hother
      subst hother
      obtain ⟨between, after, rfl⟩ := List.append_of_mem hturn
      -- the choice came round, so all other candidates were met on the way
      have hmet : candidates.erase other ⊆ (choices between).toFinset := by
        intro goal hgoal
        obtain ⟨hne, hgoal⟩ := Finset.mem_erase.mp hgoal
        have hin : ∀ turn ∈ between ++ (second, other) :: after, goal ∈ turn.1 := by
          intro turn hturn
          rw [hfixed turn (List.mem_cons_of_mem _ hturn)]
          exact hgoal
        have hwhole : Turns last ([] ++ (first, other) :: (between ++ (second, other) :: after)) :=
          hturns
        have hvisited := hwhole.visits hne.symm
          (fun turn hturn => hin turn (List.mem_append_left _ hturn))
          (hin _ (List.mem_append_right _ List.mem_cons_self))
        exact List.mem_toFinset.mpr hvisited
      have hmember : other ∈ candidates := by
        have hfirst : first = candidates := hfixed _ List.mem_cons_self
        have hself : other ∈ first := hturns.1
        rw [hfirst] at hself
        exact hself
      have hcard := (Finset.card_le_card hmet).trans (List.toFinset_card_le _)
      rw [Finset.card_erase_of_mem hmember, choices, List.length_map] at hcard
      simp only [List.length_append, List.length_cons] at hround
      omega

/-- Over fixed candidates a round of turns chooses each once. -/
theorem Turns.round [DecidableEq α] {candidates : Finset α} (hturns : Turns last turns)
    (hfixed : ∀ turn ∈ turns, turn.1 = candidates) (hround : turns.length = candidates.card) :
    (choices turns).Nodup ∧ (choices turns).toFinset = candidates := by
  have hnodup := hturns.nodup hfixed hround.le
  have hsubset : (choices turns).toFinset ⊆ candidates := by
    intro choice hchoice
    obtain ⟨turn, hturn, rfl⟩ := List.mem_map.mp (List.mem_toFinset.mp hchoice)
    have hmember := hturns.mem hturn
    rw [hfixed turn hturn] at hmember
    exact hmember
  refine ⟨hnodup, Finset.eq_of_subset_of_card_le hsubset ?_⟩
  rw [List.toFinset_card_of_nodup hnodup, choices, List.length_map, hround]

end LogosRln.Rotation
