import Mathlib.Data.List.Sort
import LogosRln.Api
import LogosRln.Lifecycle

/-!
# Membership selection

Which record a call over a scope works with.  `scope_candidates` names the
records that back a scope; `generate_proof`, `get_epoch_quota` and
`get_membership_state` each narrow them down in a way of their own.
-/

namespace LogosRln.Selection

open Lifecycle

/-! ## Candidates of a scope -/

/-- A record backs the scopes of its own identifier, and a record without one
backs every scope of its registry. -/
def scopeMatches (membership : MembershipRecord) (rlnIdHex : String) : Bool :=
  membership.identity.rlnIdentifier == rlnIdHex || membership.identity.rlnIdentifier.isEmpty

/-- Not quarantined and in a usable state. -/
def usable (membership : MembershipRecord) : Bool :=
  !membership.quarantined && membership.cache.state.isUsable

/-- The records backing a scope: its matching ones once one of them is usable,
otherwise every record of the registry. -/
def scopeCandidates (records : List MembershipRecord) (rlnIdHex : String) :
    List MembershipRecord :=
  let hasUsableMatch := records.any fun membership =>
    !membership.quarantined && scopeMatches membership rlnIdHex && membership.cache.state.isUsable
  if hasUsableMatch then records.filter (scopeMatches · rlnIdHex) else records

/-! ## `select_hash` -/

inductive Selector where
  | none
  | byHash (wanted : String)
  | highestRateLimit
  | roundRobin
  deriving DecidableEq

/-- The last hash answered for each scope. -/
abbrev Cursors := String × String → Option String

def noUsableMembership : ApiError :=
  ⟨.noUsableMembership, "no active or grace_period membership for this registry"⟩

def noHashMatch : ApiError := ⟨.unknownMembership, "by_hash matches no usable membership"⟩

def needsSelector : ApiError :=
  ⟨.ambiguousSelection, "multiple usable memberships; provide a selector"⟩

/-- The usable records' hashes and rate limits, in hash order. -/
def selectable (records : List MembershipRecord) : List (String × UInt64) :=
  ((records.filter usable).map fun membership =>
    (membership.hash, membership.cache.rateLimit.getD 0)).insertionSort
      fun first second => first.1 ≤ second.1

/-- `max_by`: the highest rate, and among equals the lowest hash. -/
def higherRate (best candidate : String × UInt64) : String × UInt64 :=
  if candidate.2 < best.2 ∨ candidate.2 = best.2 ∧ best.1 < candidate.1 then best else candidate

def selectHash (records : List MembershipRecord) (scope : String × String) (selector : Selector)
    (cursors : Cursors) : Except ApiError String × Cursors :=
  match selectable records with
  | [] => (.error noUsableMembership, cursors)
  | first :: rest =>
      match selector with
      | .byHash wanted =>
          match (first :: rest).find? (·.1 == wanted) with
          | some found => (.ok found.1, cursors)
          | none => (.error noHashMatch, cursors)
      | .none =>
          if rest.isEmpty then (.ok first.1, cursors) else (.error needsSelector, cursors)
      | .highestRateLimit => (.ok (rest.foldl higherRate first).1, cursors)
      | .roundRobin =>
          let next := match cursors scope with
            | some last => (((first :: rest).find? (last < ·.1)).getD first).1
            | none => first.1
          (.ok next, Function.update cursors scope (some next))

/-! ## What each call resolves -/

def severalMemberships (hint : String) : ApiError :=
  ⟨.ambiguousSelection, s!"multiple memberships back this scope; use {hint}"⟩

/-- The membership `generate_proof` proves with. -/
def generateProofHash (records : List MembershipRecord) (registry rlnIdHex : String)
    (cursors : Cursors) : Except ApiError String :=
  (selectHash (scopeCandidates records rlnIdHex) (registry, rlnIdHex) .none cursors).1

/-- The membership whose budget `get_epoch_quota` answers; without one it
answers zeros. -/
def epochQuotaMembership (records : List MembershipRecord) (rlnIdHex : String) :
    Except ApiError (Option MembershipRecord) :=
  match (scopeCandidates records rlnIdHex).filter usable with
  | [] => .ok none
  | [membership] => .ok (some membership)
  | _ => .error (severalMemberships "select_membership")

/-- The membership whose state `get_membership_state` reads; without one it
answers `unknown`. -/
def membershipStateMembership (records : List MembershipRecord) (rlnIdHex : String) :
    Except ApiError (Option MembershipRecord) :=
  match (scopeCandidates records rlnIdHex).filter (!·.quarantined) with
  | [] => .ok none
  | [membership] => .ok (some membership)
  | _ => .error (severalMemberships "get_memberships / select_membership")

variable {records : List MembershipRecord} {registry rlnIdHex hash : String} {cursors : Cursors}

theorem length_selectable (records : List MembershipRecord) :
    (selectable records).length = (records.filter usable).length := by
  simp [selectable]

/-- Without a selector exactly one usable record is answered. -/
theorem selectHash_none_eq_ok_iff {scope : String × String} :
    (selectHash records scope .none cursors).1 = .ok hash ↔
      ∃ membership, records.filter usable = [membership] ∧ membership.hash = hash := by
  have hlength := length_selectable records
  constructor
  · intro hpicked
    cases husable : records.filter usable with
    | nil => simp [selectHash, selectable, husable] at hpicked
    | cons membership rest =>
        cases rest with
        | nil =>
            simp only [selectHash, selectable, husable, List.map_cons, List.map_nil,
              List.insertionSort_cons, List.insertionSort_nil, List.orderedInsert_nil,
              List.isEmpty_nil, if_true, Except.ok.injEq] at hpicked
            exact ⟨membership, rfl, hpicked⟩
        | cons second rest =>
            exfalso
            rw [husable] at hlength
            cases hsorted : selectable records with
            | nil => simp [hsorted] at hlength
            | cons first others =>
                cases others with
                | nil => simp [hsorted] at hlength
                | cons other others => simp [selectHash, hsorted] at hpicked
  · rintro ⟨membership, husable, rfl⟩
    simp [selectHash, selectable, husable]

theorem standing_of_usable {membership : MembershipRecord}
    (husable : usable membership = true) : (!membership.quarantined) = true := by
  simp only [usable, Bool.and_eq_true] at husable
  exact husable.1

/-- Whenever `generate_proof` picks a membership, `get_epoch_quota` resolves the
same one, and `get_membership_state` resolves it as the only candidate in good
standing or answers that there are several. -/
theorem scope_calls_agree (records : List MembershipRecord) (registry rlnIdHex : String)
    (cursors : Cursors) (hash : String)
    (hpicked : generateProofHash records registry rlnIdHex cursors = .ok hash) :
    (∃ membership, epochQuotaMembership records rlnIdHex = .ok (some membership) ∧
      membership.hash = hash) ∧
    ((∃ membership, (scopeCandidates records rlnIdHex).filter (!·.quarantined) = [membership] ∧
        membershipStateMembership records rlnIdHex = .ok (some membership) ∧
        membership.hash = hash) ∨
      1 < ((scopeCandidates records rlnIdHex).filter (!·.quarantined)).length ∧
        membershipStateMembership records rlnIdHex =
          .error (severalMemberships "get_memberships / select_membership")) := by
  obtain ⟨membership, husable, hhash⟩ := selectHash_none_eq_ok_iff.mp hpicked
  refine ⟨⟨membership, by simp only [epochQuotaMembership, husable], hhash⟩, ?_⟩
  have hpicked : membership ∈ (scopeCandidates records rlnIdHex).filter usable := by
    rw [husable]
    exact List.mem_singleton_self membership
  obtain ⟨hcandidate, hmembership⟩ := List.mem_filter.mp hpicked
  have hstanding : membership ∈ (scopeCandidates records rlnIdHex).filter (!·.quarantined) :=
    List.mem_filter.mpr ⟨hcandidate, standing_of_usable hmembership⟩
  cases hcandidates : (scopeCandidates records rlnIdHex).filter (!·.quarantined) with
  | nil =>
      rw [hcandidates] at hstanding
      cases hstanding
  | cons first rest =>
      cases rest with
      | nil =>
          rw [hcandidates, List.mem_singleton] at hstanding
          subst hstanding
          exact .inl ⟨membership, rfl, by simp only [membershipStateMembership, hcandidates], hhash⟩
      | cons second rest =>
          exact .inr ⟨by simp, by simp only [membershipStateMembership, hcandidates]⟩

/-! ## A scope registered twice -/

def memberIn (hash : String) (state : MembershipState) : MembershipRecord where
  hash
  identity := ⟨"logos:1:00", "aa", "11", 0⟩
  cache := { state, rateLimit := some 100 }
  alloc := {}
  quarantined := false

/-- A failed registration and the one that replaced it. -/
def reregistered : List MembershipRecord := [memberIn "a1" .failed, memberIn "b2" .active]

/-- The failed record of the scope makes the state read ambiguous though the
proof picks the active one. -/
theorem state_read_ambiguous :
    generateProofHash reregistered "logos:1:00" "aa" (fun _ => none) = .ok "b2" ∧
      membershipStateMembership reregistered "aa" =
        .error (severalMemberships "get_memberships / select_membership") := by
  decide +kernel

theorem scope_calls_agree_reregistered :
    ∃ membership, epochQuotaMembership reregistered "aa" = .ok (some membership) ∧
      membership.hash = "b2" :=
  (scope_calls_agree reregistered "logos:1:00" "aa" (fun _ => none) "b2"
    state_read_ambiguous.1).1

end LogosRln.Selection
