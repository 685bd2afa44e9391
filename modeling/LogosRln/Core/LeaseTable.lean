import Mathlib.Data.Nat.Notation
import Mathlib.Logic.Function.Basic

/-!
# Tables of expiring leases

A table keeps at most one value by key, with the time it was stored, and every
access drops what has expired.  Whoever stored a value holds a lease on its key
and may overwrite or remove it later.  Nothing in the table says whose a value
is: that a live lease is still in the table, and is alone on its key, is an
invariant which needs every holder to write before its own lease expires.
-/

namespace LogosRln.LeaseTable

open Function

variable {Key Value Holder : Type*}

/-- A value and when it was stored, by key. -/
abbrev Table (Key Value : Type*) := Key → Option (Value × ℕ)

/-- What is younger than `ttl` at `now`. -/
def retain (ttl now : ℕ) (table : Table Key Value) : Table Key Value :=
  fun key => (table key).filter fun entry => now - entry.2 < ttl

def store [DecidableEq Key] (key : Key) (value : Value) (now : ℕ) (table : Table Key Value) :
    Table Key Value :=
  update table key (some (value, now))

def remove [DecidableEq Key] (key : Key) (table : Table Key Value) : Table Key Value :=
  update table key none

/-- What a holder stored last. -/
structure Lease (Key Value : Type*) where
  key : Key
  value : Value
  since : ℕ
  deriving DecidableEq

def Lease.Live (ttl now : ℕ) (lease : Lease Key Value) : Prop := now - lease.since < ttl

instance (ttl now : ℕ) (lease : Lease Key Value) : Decidable (lease.Live ttl now) :=
  inferInstanceAs (Decidable (_ < _))

/-- The entry of a lease. -/
def Lease.entry (lease : Lease Key Value) : Value × ℕ := (lease.value, lease.since)

theorem Lease.Live.earlier {ttl now later : ℕ} {lease : Lease Key Value} (hle : now ≤ later)
    (hlive : lease.Live ttl later) : lease.Live ttl now :=
  Nat.lt_of_le_of_lt (Nat.sub_le_sub_right hle _) hlive

/-- A live lease is in the table, and is the only one on its key. -/
structure Leased (ttl now : ℕ) (table : Table Key Value)
    (held : Holder → Option (Lease Key Value)) : Prop where
  standing : ∀ holder lease, held holder = some lease → lease.Live ttl now →
    table lease.key = some lease.entry
  alone : ∀ first second left right, held first = some left → held second = some right →
    left.key = right.key → left.Live ttl now → right.Live ttl now → first = second

/-- No one but `holder` has a live lease on the key. -/
def Clear (ttl now : ℕ) (held : Holder → Option (Lease Key Value)) (key : Key) (holder : Holder) :
    Prop :=
  ∀ other lease, other ≠ holder → held other = some lease → lease.Live ttl now → lease.key ≠ key

variable {ttl now : ℕ} {table : Table Key Value} {held : Holder → Option (Lease Key Value)}

theorem Leased.later {later : ℕ} (hleased : Leased ttl now table held) (hle : now ≤ later) :
    Leased ttl later table held where
  standing holder lease hheld hlive := hleased.standing holder lease hheld (hlive.earlier hle)
  alone first second left right hleft hright hkey hliveLeft hliveRight :=
    hleased.alone first second left right hleft hright hkey (hliveLeft.earlier hle)
      (hliveRight.earlier hle)

/-- Dropping what has expired drops no live lease. -/
theorem Leased.retain (hleased : Leased ttl now table held) :
    Leased ttl now (retain ttl now table) held where
  standing holder lease hheld hlive := by
    rw [LeaseTable.retain, hleased.standing holder lease hheld hlive]
    exact Option.filter_some_pos (decide_eq_true hlive)
  alone := hleased.alone

/-- A key that is free is clear of live leases. -/
theorem Leased.clear_of_free (hleased : Leased ttl now table held) {key : Key}
    (hfree : table key = none) (holder : Holder) : Clear ttl now held key holder := by
  intro other lease _ hheld hlive hkey
  have hstanding := hleased.standing other lease hheld hlive
  rw [hkey, hfree] at hstanding
  cases hstanding

/-- The key of a live lease is clear of others. -/
theorem Leased.clear_of_live (hleased : Leased ttl now table held) {holder : Holder}
    {lease : Lease Key Value} (hheld : held holder = some lease) (hlive : lease.Live ttl now) :
    Clear ttl now held lease.key holder := by
  intro other otherLease hother hotherHeld hotherLive hkey
  exact hother (hleased.alone other holder otherLease lease hotherHeld hheld hkey hotherLive hlive)

/-- What is found under the key of a live lease is that lease. -/
theorem Leased.found (hleased : Leased ttl now table held) {key : Key} {entry : Value × ℕ}
    (hfound : table key = some entry) {holder : Holder} {lease : Lease Key Value}
    (hheld : held holder = some lease) (hlive : lease.Live ttl now) (hkey : lease.key = key) :
    entry = lease.entry := by
  have hstanding := hleased.standing holder lease hheld hlive
  rw [hkey, hfound] at hstanding
  exact Option.some.inj hstanding

/-- Without holders there is nothing to keep. -/
theorem leased_empty (ttl now : ℕ) (table : Table Key Value) :
    Leased ttl now table (fun _ : Holder => none) where
  standing := by simp
  alone := by simp

variable [DecidableEq Holder]

/-- A holder that gives its lease up leaves the others as they were. -/
theorem Leased.abandon (hleased : Leased ttl now table held) (holder : Holder) :
    Leased ttl now table (update held holder none) where
  standing other lease hheld hlive := by
    by_cases hother : other = holder
    · simp [hother] at hheld
    · rw [update_of_ne hother] at hheld
      exact hleased.standing other lease hheld hlive
  alone first second left right hleft hright hkey hliveLeft hliveRight := by
    by_cases hfirst : first = holder
    · simp [hfirst] at hleft
    · by_cases hsecond : second = holder
      · simp [hsecond] at hright
      · rw [update_of_ne hfirst] at hleft
        rw [update_of_ne hsecond] at hright
        exact hleased.alone first second left right hleft hright hkey hliveLeft hliveRight

variable [DecidableEq Key]

/-- On a clear key a holder may leave what it likes, without a lease on it. -/
theorem Leased.overwrite (hleased : Leased ttl now table held) {key : Key} {holder : Holder}
    (hclear : Clear ttl now held key holder) (entry : Option (Value × ℕ)) :
    Leased ttl now (update table key entry) (update held holder none) where
  standing other lease hheld hlive := by
    by_cases hother : other = holder
    · simp [hother] at hheld
    · rw [update_of_ne hother] at hheld
      rw [update_of_ne (hclear other lease hother hheld hlive)]
      exact hleased.standing other lease hheld hlive
  alone := (hleased.abandon holder).alone

/-- On a clear key a holder may store a value and lease it. -/
theorem Leased.lease (hleased : Leased ttl now table held) {key : Key} {holder : Holder}
    (hclear : Clear ttl now held key holder) (value : Value) :
    Leased ttl now (store key value now table) (update held holder (some ⟨key, value, now⟩)) where
  standing other lease hheld hlive := by
    by_cases hother : other = holder
    · subst hother
      rw [update_self] at hheld
      obtain rfl := Option.some.inj hheld
      exact update_self _ _ _
    · rw [update_of_ne hother] at hheld
      rw [store, update_of_ne (hclear other lease hother hheld hlive)]
      exact hleased.standing other lease hheld hlive
  alone first second left right hleft hright hkey hliveLeft hliveRight := by
    by_cases hfirst : first = holder
    · by_cases hsecond : second = holder
      · exact hfirst.trans hsecond.symm
      · subst hfirst
        rw [update_self] at hleft
        obtain rfl := Option.some.inj hleft
        rw [update_of_ne hsecond] at hright
        exact absurd hkey.symm (hclear second right hsecond hright hliveRight)
    · by_cases hsecond : second = holder
      · subst hsecond
        rw [update_self] at hright
        obtain rfl := Option.some.inj hright
        rw [update_of_ne hfirst] at hleft
        exact absurd hkey (hclear first left hfirst hleft hliveLeft)
      · rw [update_of_ne hfirst] at hleft
        rw [update_of_ne hsecond] at hright
        exact hleased.alone first second left right hleft hright hkey hliveLeft hliveRight

end LogosRln.LeaseTable
