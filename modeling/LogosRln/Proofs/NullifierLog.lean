import LogosRln.RegistryId

/-!
# The nullifier log

Every nullifier a verifier accepted, with the share it was accepted under: a
second proof under it is a retransmission when its `share_x` is the recorded
one and a double signal otherwise.
-/

namespace LogosRln.Proofs

open RegistryId

/-- An accepted proof's `(share_x, share_y)`. -/
abbrev Shares := Bytes32 × Bytes32

/-- epoch → nullifier → the first accepted proof's shares. -/
abbrev NullifierLog := UInt64 → Bytes32 → Option Shares

inductive RecordOutcome where
  | fresh
  | duplicate
  | collision (prior : Shares)
  deriving DecidableEq

/-- The buckets at or above the floor. -/
def retain (retainFloor : UInt64) (log : NullifierLog) : NullifierLog := fun epoch nullifier =>
  if retainFloor ≤ epoch then log epoch nullifier else none

/-- Put the first shares of a nullifier on record. -/
def recordShares (epoch : UInt64) (nullifier : Bytes32) (shares : Shares) (log : NullifierLog) :
    NullifierLog := fun otherEpoch otherNullifier =>
  if otherEpoch = epoch ∧ otherNullifier = nullifier then some shares
  else log otherEpoch otherNullifier

/-- Judge the nullifier of a proof that has passed every validity check: the
stale buckets go first, and a recorded share stays on record. -/
def recordVerified (epoch : UInt64) (nullifier shareX shareY : Bytes32) (retainFloor : UInt64)
    (log : NullifierLog) : RecordOutcome × NullifierLog :=
  let log := retain retainFloor log
  match log epoch nullifier with
  | none => (.fresh, recordShares epoch nullifier (shareX, shareY) log)
  | some prior => if prior.1 = shareX then (.duplicate, log) else (.collision prior, log)

end LogosRln.Proofs
