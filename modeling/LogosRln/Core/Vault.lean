import LogosRln.Core.OrderedMap

/-!
# A vault of records

Records behind one password.  Each is a secret beside counters, and a spend takes a
slot from the counters of one record.  A vault is shut, locked or unlocked; only an
unlocked one is written to, and shutting it keeps what it holds.  Any password
unlocks an empty vault and becomes its password.
-/

namespace LogosRln

inductive Vault.Phase where
  | shut
  | locked
  | unlocked
  deriving DecidableEq

structure Vault.Record (Secret Counters : Type*) where
  secret : Secret
  counters : Counters

structure Vault (Key Secret Counters Password : Type*) [Ord Key] where
  phase : Vault.Phase := .shut
  password : Option Password := none
  records : Std.ExtTreeMap Key (Vault.Record Secret Counters) := ∅

namespace Vault

inductive Op (Key Secret Password Request : Type*) where
  | opens
  | shuts
  | locks
  | unlocks (password : Password)
  | inserts (key : Key) (secret : Secret)
  | spends (key : Key) (request : Request)
  /-- Something is noted beside the records. -/
  | notes
  /-- The holder dies, and what it was inserting is in or is not. -/
  | dies (inserting : Option (Key × Secret))
  /-- The environment fails the call. -/
  | fails

inductive Reply (Slot : Type*) where
  | done
  | refused
  | unlocked (count : ℕ)
  | spent (slot : Slot)
  /-- Nobody is there to receive it. -/
  | lost
  deriving DecidableEq

variable {Key Secret Counters Password Request Slot : Type*} [Ord Key] [Std.TransOrd Key]

/-- The secret is in, with the counters it had or with fresh ones. -/
def put (fresh : Counters) (key : Key) (secret : Secret)
    (vault : Vault Key Secret Counters Password) : Vault Key Secret Counters Password :=
  { vault with
    records := vault.records.insert key
      ⟨secret, ((vault.records[key]?).map Record.counters).getD fresh⟩ }

/-- A slot is taken from the counters of one record. -/
def take (spend : Request → Counters → Option (Slot × Counters)) (key : Key)
    (request : Request) (vault : Vault Key Secret Counters Password) :
    Option (Slot × Vault Key Secret Counters Password) :=
  (vault.records[key]?).bind fun record => (spend request record.counters).map fun spent =>
    (spent.1, { vault with records := vault.records.insert key ⟨record.secret, spent.2⟩ })

def step [DecidableEq Password] (fresh : Counters)
    (spend : Request → Counters → Option (Slot × Counters))
    (vault : Vault Key Secret Counters Password) :
    Op Key Secret Password Request → Vault Key Secret Counters Password × Reply Slot
  | .opens =>
      if vault.phase = .shut then ({ vault with phase := .locked }, .done) else (vault, .refused)
  | .shuts => ({ vault with phase := .shut }, .done)
  | .locks =>
      ({ vault with phase := if vault.phase = .unlocked then .locked else vault.phase }, .done)
  | .unlocks password =>
      if vault.phase = .shut then (vault, .refused)
      else if vault.records.size = 0 then
        ({ vault with phase := .unlocked, password := some password }, .unlocked 0)
      else if vault.password = some password then
        ({ vault with phase := .unlocked }, .unlocked vault.records.size)
      else (vault, .refused)
  | .inserts key secret =>
      if vault.phase = .unlocked then (vault.put fresh key secret, .done) else (vault, .refused)
  | .spends key request =>
      if vault.phase = .unlocked then
        match vault.take spend key request with
        | some (slot, vault) => (vault, .spent slot)
        | none => (vault, .refused)
      else (vault, .refused)
  | .notes => (vault, .done)
  | .dies inserting =>
      (match inserting with
        | some (key, secret) => { vault.put fresh key secret with phase := .shut }
        | none => { vault with phase := .shut }, .lost)
  | .fails => (vault, .refused)

end Vault

end LogosRln
