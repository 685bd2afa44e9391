import Mathlib.Data.String.Basic
import LogosRln.Core.Rotation
import LogosRln.Core.Run
import LogosRln.Selection

/-!
# Round robin starves nobody

The round-robin selector keeps one cursor a scope, the last hash it answered,
and answers the next usable hash in hash order, around the end.  That is a
rotation of the circular order of the hashes, whatever happens to the records
between two calls and however the calls of other scopes fall in between.
-/

namespace LogosRln.Selection

open Lifecycle Run Rotation

/-- Hash order, wrapped around. -/
local instance hashOrder : CircularOrder String := LinearOrder.toCircularOrder String

/-! ## One selection -/

/-- The hashes of the usable records. -/
def usableHashes (records : List MembershipRecord) : Finset String :=
  ((records.filter usable).map (·.hash)).toFinset

variable {records : List MembershipRecord} {cursors : Cursors} {scope : String × String}

theorem mem_usableHashes {hash : String} :
    hash ∈ usableHashes records ↔ ∃ entry ∈ selectable records, entry.1 = hash := by
  simp [usableHashes, selectable]

theorem pairwise_selectable (records : List MembershipRecord) :
    (selectable records).Pairwise fun first second => first.1 ≤ second.1 := by
  have htotal : Std.Total fun first second : String × UInt64 => first.1 ≤ second.1 :=
    ⟨fun first second => le_total first.1 second.1⟩
  have htrans : IsTrans (String × UInt64) fun first second => first.1 ≤ second.1 :=
    ⟨fun _ _ _ hfirst hsecond => hfirst.trans hsecond⟩
  exact List.pairwise_insertionSort _ _

/-- In hash order the first entry that passes is the lowest that passes. -/
theorem find?_least {entries : List (String × UInt64)} {test : String × UInt64 → Bool}
    (hsorted : entries.Pairwise fun first second => first.1 ≤ second.1) {found : String × UInt64}
    (hfound : entries.find? test = some found) :
    ∀ entry ∈ entries, test entry = true → found.1 ≤ entry.1 := by
  induction entries with
  | nil => cases hfound
  | cons head entries ih =>
      obtain ⟨hhead, hsorted⟩ := List.pairwise_cons.mp hsorted
      intro entry hentry htest
      cases hpasses : test head with
      | true =>
          rw [List.find?_cons_of_pos hpasses, Option.some.injEq] at hfound
          subst hfound
          rcases List.mem_cons.mp hentry with rfl | hentry
          · exact le_rfl
          · exact hhead entry hentry
      | false =>
          rw [List.find?_cons_of_neg (by simp [hpasses])] at hfound
          rcases List.mem_cons.mp hentry with rfl | hentry
          · rw [hpasses] at htest
            cases htest
          · exact ih hsorted hfound entry hentry htest

/-- A selection among usable records answers the hash that follows the scope's
cursor, and moves that cursor only. -/
theorem selectHash_roundRobin (husable : (usableHashes records).Nonempty) :
    ∃ next ∈ usableHashes records,
      selectHash records scope .roundRobin cursors =
        (.ok next, Function.update cursors scope (some next)) ∧
      ∀ previous, cursors scope = some previous →
        Follows (usableHashes records : Set String) previous next := by
  have hsorted := pairwise_selectable records
  cases hselectable : selectable records with
  | nil =>
      obtain ⟨hash, hhash⟩ := husable
      obtain ⟨entry, hentry, -⟩ := mem_usableHashes.mp hhash
      rw [hselectable] at hentry
      cases hentry
  | cons first rest =>
      rw [hselectable] at hsorted
      have hmember : ∀ entry ∈ first :: rest, entry.1 ∈ usableHashes records := by
        intro entry hentry
        exact mem_usableHashes.mpr ⟨entry, hselectable ▸ hentry, rfl⟩
      have hleast : ∀ entry ∈ first :: rest, first.1 ≤ entry.1 := by
        intro entry hentry
        rcases List.mem_cons.mp hentry with rfl | hentry
        · exact le_rfl
        · exact (List.pairwise_cons.mp hsorted).1 entry hentry
      cases hcursor : cursors scope with
      | none =>
          refine ⟨first.1, hmember first List.mem_cons_self, ?_, fun previous hprevious => ?_⟩
          · simp only [selectHash, hselectable, hcursor]
          · cases hprevious
      | some last =>
          cases hfind : (first :: rest).find? (last < ·.1) with
          | some found =>
              refine ⟨found.1, hmember found (List.mem_of_find?_eq_some hfind), ?_, ?_⟩
              · simp only [selectHash, hselectable, hcursor, hfind, Option.getD_some]
              · rintro previous hprevious hash hhash
                obtain rfl := Option.some.inj hprevious
                obtain ⟨entry, hentry, rfl⟩ := mem_usableHashes.mp hhash
                rw [hselectable] at hentry
                have habove : last < found.1 := by simpa using List.find?_some hfind
                rcases lt_or_ge last entry.1 with hlt | hge
                · have hle := find?_least hsorted hfind entry hentry (by simpa using hlt)
                  rcases hle.eq_or_lt with heq | hlt
                  · exact .inl heq.symm
                  · exact .inr (.inr (.inl ⟨habove, hlt⟩))
                · rcases hge.eq_or_lt with heq | hbelow
                  · exact .inr (.inl heq)
                  · exact .inr (.inr (.inr (.inr ⟨hbelow, habove⟩)))
          | none =>
              refine ⟨first.1, hmember first List.mem_cons_self, ?_, ?_⟩
              · simp only [selectHash, hselectable, hcursor, hfind, Option.getD_none]
              · rintro previous hprevious hash hhash
                obtain rfl := Option.some.inj hprevious
                obtain ⟨entry, hentry, rfl⟩ := mem_usableHashes.mp hhash
                rw [hselectable] at hentry
                have hfails := List.find?_eq_none.mp hfind entry hentry
                have hbelow : entry.1 ≤ last :=
                  not_lt.mp fun habove => hfails (decide_eq_true habove)
                rcases (hleast entry hentry).eq_or_lt with heq | hlt
                · exact .inl heq.symm
                · rcases hbelow.eq_or_lt with heq | hbelow
                  · exact .inr (.inl heq)
                  · exact .inr (.inr (.inr (.inl ⟨hlt, hbelow⟩)))

/-! ## Interleaved calls -/

/-- A round-robin call: its scope, and the records as they are then. -/
structure Call where
  records : List MembershipRecord
  scope : String × String

def serve (cursors : Cursors) (call : Call) : Cursors × Except ApiError String :=
  let answered := selectHash call.records call.scope .roundRobin cursors
  (answered.2, answered.1)

/-- What the calls of a scope are answered, oldest first. -/
def answersFor (scope : String × String) (cursors : Cursors) (calls : List Call) :
    List (Except ApiError String) :=
  ((trace serve cursors calls).filter fun event => event.input.scope = scope).map (·.output)

variable {calls : List Call}

theorem answersFor_cons_same (call : Call) (calls : List Call) :
    answersFor call.scope cursors (call :: calls) =
      (serve cursors call).2 :: answersFor call.scope (serve cursors call).1 calls := by
  simp [answersFor, trace]

theorem answersFor_cons_other {call : Call} (calls : List Call) (hother : call.scope ≠ scope) :
    answersFor scope cursors (call :: calls) = answersFor scope (serve cursors call).1 calls := by
  simp [answersFor, trace, hother]

/-- A call moves no other scope's cursor. -/
theorem serve_other {call : Call} (hother : call.scope ≠ scope) :
    (serve cursors call).1 scope = cursors scope := by
  cases hselectable : selectable call.records with
  | nil => simp only [serve, selectHash, hselectable]
  | cons first rest =>
      simp only [serve, selectHash, hselectable]
      exact Function.update_of_ne hother.symm _ _

/-- A call reads and moves its scope's cursor alone. -/
theorem serve_congr {others : Cursors} (call : Call)
    (hsame : others call.scope = cursors call.scope) :
    (serve others call).2 = (serve cursors call).2 ∧
      (serve others call).1 call.scope = (serve cursors call).1 call.scope := by
  cases hselectable : selectable call.records with
  | nil => simp only [serve, selectHash, hselectable, hsame, and_self]
  | cons first rest =>
      simp only [serve, selectHash, hselectable, hsame, Function.update_self, and_self]

/-- The calls of other scopes change nothing for a scope. -/
theorem answersFor_filter (others : Cursors) (hsame : others scope = cursors scope) :
    answersFor scope others (calls.filter (·.scope = scope)) = answersFor scope cursors calls := by
  induction calls generalizing cursors others with
  | nil => rfl
  | cons call calls ih =>
      by_cases hscope : call.scope = scope
      · subst hscope
        obtain ⟨hanswer, hcursor⟩ := serve_congr call hsame
        rw [List.filter_cons_of_pos (by simp), answersFor_cons_same, answersFor_cons_same, hanswer,
          ih _ hcursor]
      · rw [List.filter_cons_of_neg (by simpa using hscope), answersFor_cons_other calls hscope]
        exact ih others (hsame.trans (serve_other hscope).symm)

/-- The calls of a scope that always has a usable record are turns of a rotation
over their usable hashes. -/
theorem turns_of_calls
    (husable : ∀ call ∈ calls, call.scope = scope → (usableHashes call.records).Nonempty) :
    ∃ turns : List (Set String × String), Turns (cursors scope) turns ∧
      answersFor scope cursors calls = (choices turns).map .ok ∧
      turns.map Prod.fst =
        (calls.filter (·.scope = scope)).map fun call => ↑(usableHashes call.records) := by
  induction calls generalizing cursors with
  | nil => exact ⟨[], trivial, rfl, rfl⟩
  | cons call calls ih =>
      have hlater : ∀ other ∈ calls, other.scope = scope → (usableHashes other.records).Nonempty :=
        fun other hother => husable other (List.mem_cons_of_mem _ hother)
      obtain ⟨turns, hturns, hanswers, hcandidates⟩ := @ih (serve cursors call).1 hlater
      by_cases hscope : call.scope = scope
      · subst hscope
        obtain ⟨next, hnext, hselected, hfollows⟩ :=
          @selectHash_roundRobin call.records cursors call.scope
            (husable call List.mem_cons_self rfl)
        have hserved : serve cursors call =
            (Function.update cursors call.scope (some next), .ok next) := by
          simp only [serve, hselected]
        have hmoved : (serve cursors call).1 call.scope = some next := by
          rw [hserved]
          exact Function.update_self _ _ _
        rw [hmoved] at hturns
        refine ⟨(↑(usableHashes call.records), next) :: turns, ⟨hnext, hfollows, hturns⟩, ?_, ?_⟩
        · rw [answersFor_cons_same, hanswers, hserved]
          rfl
        · rw [List.filter_cons_of_pos (by simp), List.map_cons, List.map_cons, hcandidates]
      · rw [serve_other hscope] at hturns
        refine ⟨turns, hturns, ?_, ?_⟩
        · rw [answersFor_cons_other calls hscope, hanswers]
        · rw [List.filter_cons_of_neg (by simpa using hscope), hcandidates]

/-- The turns behind a stretch of answers. -/
theorem append_of_answers {turns : List (Set String × String)}
    {before after : List (Except ApiError String)} {answer : Except ApiError String}
    (hanswers : (choices turns).map .ok = before ++ answer :: after) :
    ∃ earlier candidates choice later, turns = earlier ++ (candidates, choice) :: later ∧
      (choices earlier).map .ok = before ∧ .ok choice = answer ∧
      (choices later).map .ok = after := by
  rw [choices, List.map_map, List.map_eq_append_iff] at hanswers
  obtain ⟨earlier, rest, rfl, hearlier, hrest⟩ := hanswers
  obtain ⟨⟨candidates, choice⟩, later, rfl, hchoice, hlater⟩ := List.map_eq_cons_iff.mp hrest
  refine ⟨earlier, candidates, choice, later, rfl, ?_, hchoice, ?_⟩
  · rw [choices, List.map_map, hearlier]
  · rw [choices, List.map_map, hlater]

/-- A hash that is usable in every call of a scope is answered between any two
answers of another. -/
theorem answered_between {candidate other : String}
    (hcandidate : ∀ call ∈ calls, call.scope = scope → candidate ∈ usableHashes call.records)
    (hother : other ≠ candidate) {before between after : List (Except ApiError String)}
    (hanswers : answersFor scope cursors calls =
      before ++ .ok other :: (between ++ .ok other :: after)) :
    .ok candidate ∈ between := by
  obtain ⟨turns, hturns, hchoices, hcandidates⟩ := @turns_of_calls cursors scope calls
    fun call hcall hscope => ⟨candidate, hcandidate call hcall hscope⟩
  have hmember : ∀ turn ∈ turns, candidate ∈ turn.1 := by
    intro turn hturn
    have hfirst := List.mem_map_of_mem (f := Prod.fst) hturn
    rw [hcandidates] at hfirst
    obtain ⟨call, hcall, hsame⟩ := List.mem_map.mp hfirst
    obtain ⟨hcall, hscope⟩ := List.mem_filter.mp hcall
    rw [← hsame]
    exact hcandidate call hcall (of_decide_eq_true hscope)
  rw [hchoices] at hanswers
  obtain ⟨earlier, first, start, rest, rfl, -, hstart, hrest⟩ := append_of_answers hanswers
  obtain ⟨middle, second, again, later, rfl, hmiddle, hagain, -⟩ := append_of_answers hrest
  obtain rfl := Except.ok.inj hstart
  obtain rfl := Except.ok.inj hagain
  rw [← hmiddle]
  refine List.mem_map_of_mem (hturns.visits hother (fun turn hturn => ?_) ?_)
  · exact hmember turn (by simp [hturn])
  · exact hmember (second, again) (by simp)

/-- As many calls of a scope as it has usable hashes, while these stay the
same, answer each once. -/
theorem round_of_fixed {hashes : Finset String}
    (hfixed : ∀ call ∈ calls, call.scope = scope → usableHashes call.records = hashes)
    (hround : (calls.filter (·.scope = scope)).length = hashes.card) :
    ∀ hash ∈ hashes, (answersFor scope cursors calls).count (.ok hash) = 1 := by
  intro hash hhash
  obtain ⟨turns, hturns, hchoices, hcandidates⟩ := @turns_of_calls cursors scope calls
    fun call hcall hscope => ⟨hash, (hfixed call hcall hscope).symm ▸ hhash⟩
  have hsame : ∀ turn ∈ turns, turn.1 = hashes := by
    intro turn hturn
    have hfirst := List.mem_map_of_mem (f := Prod.fst) hturn
    rw [hcandidates] at hfirst
    obtain ⟨call, hcall, hsame⟩ := List.mem_map.mp hfirst
    obtain ⟨hcall, hscope⟩ := List.mem_filter.mp hcall
    rw [← hsame, hfixed call hcall (of_decide_eq_true hscope)]
  have hlength : turns.length = hashes.card := by
    rw [← hround, ← List.length_map (f := Prod.fst), hcandidates, List.length_map]
  obtain ⟨hnodup, hall⟩ := hturns.round hsame hlength
  have hinjective : Function.Injective (Except.ok : String → Except ApiError String) :=
    fun _ _ hok => Except.ok.inj hok
  rw [hchoices, List.count_map_of_injective _ _ hinjective]
  apply List.count_eq_one_of_mem hnodup
  rw [← List.mem_toFinset, hall]
  exact hhash

/-- Round robin starves nobody.  Over any interleaving of calls, from any
cursors: a hash that stays usable is answered between any two answers of
another; over a stretch of calls with fixed hashes a round answers each once;
and a scope is answered as if its calls were the only ones. -/
theorem round_robin_fair (cursors : Cursors) (calls : List Call) (scope : String × String) :
    (∀ candidate,
      (∀ call ∈ calls, call.scope = scope → candidate ∈ usableHashes call.records) →
      ∀ other, other ≠ candidate → ∀ before between after,
        answersFor scope cursors calls =
          before ++ .ok other :: (between ++ .ok other :: after) →
        .ok candidate ∈ between) ∧
    (∀ earlier stretch later, calls = earlier ++ (stretch ++ later) → ∀ hashes : Finset String,
      (∀ call ∈ stretch, call.scope = scope → usableHashes call.records = hashes) →
      (stretch.filter (·.scope = scope)).length = hashes.card →
      ∀ hash ∈ hashes,
        (answersFor scope (run serve cursors earlier) stretch).count (.ok hash) = 1) ∧
    answersFor scope cursors calls =
      answersFor scope cursors (calls.filter (·.scope = scope)) := by
  refine ⟨fun candidate hcandidate other hother before between after hanswers => ?_,
    fun earlier stretch later _ hashes hfixed hround => ?_, ?_⟩
  · exact answered_between hcandidate hother hanswers
  · exact round_of_fixed hfixed hround
  · exact (answersFor_filter cursors rfl).symm

end LogosRln.Selection
