import LogosRln.SealedStore.Reference

/-!
# No slot is issued twice

Two proofs under one `(epoch, message_id)` disclose the identity secret, so the
store must never answer two reservations of a membership with the same slot.
Alongside the directory and the store runs the history of slots already issued.
The invariant is one containment, for the counters in memory, for the sections
last loaded or written, and for the ledger on disk: whatever was issued for a
membership is spent there.  Memory may run ahead of the disk after a failed
write; what it is ahead by was never issued.
-/

namespace LogosRln.SealedStore.NoReissue

open RegistryId Crypto Format Lifecycle RateLimit Files

/-- One successful reservation. -/
structure Issue where
  hash : String
  slot : Slot
  rateLimit : UInt64
  epochSizeSec : UInt64
  deriving DecidableEq

/-- The reservation an answered call amounts to, if it succeeded. -/
def issueOf : Op → Answer → Option Issue
  | .reserve args _, .reserved (.ok messageId) =>
      some ⟨args.hash, ⟨args.rlnIdentifierHex, args.epoch, messageId⟩, args.rateLimit,
        args.epochSizeSec⟩
  | _, _ => none

/-- The store machine with the slots it has issued. -/
structure Audited where
  world : World
  issued : List Issue := []

def auditedStep (libs : Libraries) (audited : Audited) (op : Op) : Audited × Answer :=
  let answered := step libs audited.world op
  (⟨answered.1, audited.issued ++ (issueOf op answered.2).toList⟩, answered.2)

/-- An insert is of a hash in good standing that still has its counters in
memory, or was never issued a slot.  Every other call is admissible. -/
def admissible (audited : Audited) : Op → Bool
  | .insert registration _ _ => audited.world.store.all fun store =>
      !store.inner.isQuarantined registration.hash &&
        (store.inner.sections.contains registration.hash ||
          audited.issued.all fun issue => issue.hash != registration.hash)
  | _ => true

/-- What a history of issued slots must satisfy.  An epoch size of zero stands
for no size at all. -/
structure Sound (issued : List Issue) : Prop where
  distinct : issued.Pairwise fun left right => left.hash = right.hash → left.slot ≠ right.slot
  limited : ∀ issue ∈ issued, issue.slot.messageId < issue.rateLimit
  oneSize : ∀ left ∈ issued, ∀ right ∈ issued, left.hash = right.hash →
    left.epochSizeSec ≠ 0 → right.epochSizeSec ≠ 0 → left.epochSizeSec = right.epochSizeSec

/-! ## Covering the history -/

/-- Everything issued for the membership is spent in its counters, and was
issued under their epoch size. -/
def Covers (issued : List Issue) (hash : String) (alloc : AllocationState) : Prop :=
  ∀ issue ∈ issued, issue.hash = hash → issue.slot ∈ alloc.spent ∧
    (issue.epochSizeSec = 0 ∨ alloc.epochSizeSec = issue.epochSizeSec)

def CoversSections (issued : List Issue) (sections : StringMap Section) : Prop :=
  ∀ (hash : String) (stored : Section), sections[hash]? = some stored →
    Covers issued hash (toAllocationState stored)

def CoversCounters (issued : List Issue) (sections : StringMap AllocationState) : Prop :=
  ∀ (hash : String) (alloc : AllocationState), sections[hash]? = some alloc →
    Covers issued hash alloc

def OnDisk (issued : List Issue) (disk : Disk) : Prop :=
  ∀ file, readLedger disk.allocations = some file → CoversSections issued file.sections

structure InMemory (issued : List Issue) (inner : Inner) : Prop where
  counters : CoversCounters issued inner.sections
  raw : CoversSections issued inner.rawSections

theorem Covers.of_forall_ne {issued : List Issue} {hash : String} (alloc : AllocationState)
    (hnone : ∀ issue ∈ issued, issue.hash ≠ hash) : Covers issued hash alloc :=
  fun issue hissue hhash => absurd hhash (hnone issue hissue)

variable {libs : Libraries}

/-- A ledger write covers the history when the counters it stamps do and the
sections it carries do. -/
theorem coversSections_writtenSections {issued : List Issue} {keys : SubKeys} {uuid : Bytes16}
    {inner : Inner} (hcounters : CoversCounters issued inner.sections)
    (hcarried : ∀ hash stored, inner.isQuarantined hash = true →
      inner.rawSections[hash]? = some stored → Covers issued hash (toAllocationState stored)) :
    CoversSections issued (writtenSections libs keys uuid inner) := by
  intro hash stored hstored
  obtain ⟨alloc, halloc, ⟨hquarantined, hraw⟩ | ⟨-, rfl⟩⟩ := writtenSections_cases libs hstored
  · exact hcarried hash stored hquarantined hraw
  · rw [toAllocationState_stampSection]
    exact hcounters hash alloc halloc

theorem onDisk_ledgerDisk {issued : List Issue} {write : WriteOutcome} {keys : SubKeys}
    {uuid : Bytes16} {inner : Inner} {disk : Disk}
    (hold : write.lands = false → OnDisk issued disk)
    (hwritten : CoversSections issued (writtenSections libs keys uuid inner)) :
    OnDisk issued (ledgerDisk libs write keys uuid inner disk) := by
  intro file hread
  rcases readLedger_writeText hread with ⟨rfl, -⟩ | ⟨hread, hlands⟩
  · exact hwritten
  · exact hold hlands file hread

theorem inMemory_ledgerInner {issued : List Issue} {write : WriteOutcome} {keys : SubKeys}
    {uuid : Bytes16} {inner : Inner} (hcounters : CoversCounters issued inner.sections)
    (hraw : write ≠ .ok → CoversSections issued inner.rawSections)
    (hwritten : CoversSections issued (writtenSections libs keys uuid inner)) :
    InMemory issued (ledgerInner libs write keys uuid inner) := by
  refine ⟨by simpa using hcounters, ?_⟩
  by_cases hok : write = .ok
  · simpa only [ledgerInner, if_pos hok] using hwritten
  · simpa only [ledgerInner, if_neg hok] using hraw hok

/-- An admissible insert gives fresh counters only to a hash without a
history. -/
theorem inMemory_insertSection {issued : List Issue} {inner : Inner} {hash : String}
    (hinner : InMemory issued inner) (hstanding : inner.isQuarantined hash = false)
    (hfresh : hash ∈ inner.sections ∨ ∀ issue ∈ issued, issue.hash ≠ hash) :
    InMemory issued (insertSection hash inner) := by
  refine ⟨fun other alloc halloc => ?_, hinner.raw⟩
  simp only [insertSection, hstanding, Bool.false_eq_true, if_false,
    Std.ExtTreeMap.getElem?_insertIfNew] at halloc
  split at halloc
  · rename_i hnew
    obtain rfl := Option.some.inj halloc
    obtain ⟨hsame, habsent⟩ := hnew
    have hsame : hash = other := by simpa using hsame
    subst hsame
    exact Covers.of_forall_ne _ (hfresh.resolve_left habsent)
  · exact hinner.counters other alloc halloc

/-! ## The reservation -/

/-- A reservation advances counters that still cover the history. -/
theorem coversCounters_withCounters {issued : List Issue} {inner : Inner} {args : ReserveArgs}
    {slot : UInt64} {alloc' : AllocationState} (hcounters : CoversCounters issued inner.sections)
    (hchosen : chooseSlot args inner = .ok (slot, alloc')) :
    CoversCounters issued (withCounters inner args.hash alloc').sections := by
  obtain ⟨alloc, taken, hchosen⟩ := chooseSlot_spec hchosen
  obtain ⟨-, -, hspent, -, hsize⟩ := reserveSlot_spec hchosen.reserves
  intro hash counters hsome
  simp only [withCounters, Std.ExtTreeMap.getElem?_insert] at hsome
  split at hsome
  · rename_i hsame
    have hsame : args.hash = hash := by simpa using hsame
    subst hsame
    obtain rfl := Option.some.inj hsome
    intro issue hissue hhash
    obtain ⟨hold, hbound⟩ := hcounters args.hash alloc hchosen.counters issue hissue hhash
    rw [hchosen.adopted]
    refine ⟨hspent hold, ?_⟩
    rcases hbound with hzero | hbound
    · exact .inl hzero
    · rcases hchosen.size with hunset | hset
      · exact .inl (hbound.symm.trans hunset)
      · exact .inr (hset.symm.trans hbound)
  · exact hcounters hash counters hsome

/-- The slot a reservation issues is spent in the counters it leaves, and was
not spent in those it found. -/
theorem sound_append {issued : List Issue} {inner : Inner} {args : ReserveArgs} {slot : UInt64}
    {alloc' : AllocationState} (hcounters : CoversCounters issued inner.sections)
    (hchosen : chooseSlot args inner = .ok (slot, alloc')) (hsound : Sound issued) :
    let issue : Issue := ⟨args.hash, ⟨args.rlnIdentifierHex, args.epoch, slot⟩, args.rateLimit,
      args.epochSizeSec⟩
    Sound (issued ++ [issue]) ∧
      CoversCounters (issued ++ [issue]) (withCounters inner args.hash alloc').sections := by
  intro issue
  have hcovered := coversCounters_withCounters hcounters hchosen
  obtain ⟨alloc, taken, hchosen⟩ := chooseSlot_spec hchosen
  obtain ⟨hunspent, hspent, -, hlimit, -⟩ := reserveSlot_spec hchosen.reserves
  have hold := hcounters args.hash alloc hchosen.counters
  have hsizes : ∀ other ∈ issued, other.hash = args.hash → other.epochSizeSec ≠ 0 →
      other.epochSizeSec = args.epochSizeSec := by
    intro other hother hhash hnonzero
    have hbound := (hold other hother hhash).2.resolve_left hnonzero
    rcases hchosen.size with hunset | hset
    · exact absurd (hbound.symm.trans hunset) hnonzero
    · exact hbound.symm.trans hset
  refine ⟨⟨?_, ?_, ?_⟩, ?_⟩
  · rw [List.pairwise_append]
    refine ⟨hsound.distinct, List.pairwise_singleton _ _, fun other hother _ hissue => ?_⟩
    obtain rfl := List.mem_singleton.mp hissue
    intro hhash hslot
    have hreused : issue.slot ∈ alloc.spent := hslot ▸ (hold other hother hhash).1
    exact hunspent hreused
  · intro other hother
    rcases List.mem_append.mp hother with hother | hother
    · exact hsound.limited other hother
    · obtain rfl := List.mem_singleton.mp hother
      exact hlimit
  · intro left hleft right hright hhash hleftSize hrightSize
    rcases List.mem_append.mp hleft with hleft | hleft <;>
      rcases List.mem_append.mp hright with hright | hright
    · exact hsound.oneSize left hleft right hright hhash hleftSize hrightSize
    · obtain rfl := List.mem_singleton.mp hright
      exact hsizes left hleft hhash hleftSize
    · obtain rfl := List.mem_singleton.mp hleft
      exact (hsizes right hright hhash.symm hrightSize).symm
    · rw [List.mem_singleton.mp hleft, List.mem_singleton.mp hright]
  · intro hash counters hsome other hother hhash
    rcases List.mem_append.mp hother with hother | hother
    · exact hcovered hash counters hsome other hother hhash
    · obtain rfl := List.mem_singleton.mp hother
      subst hhash
      have hcurrent : counters = alloc' := by
        simpa [withCounters, issue] using hsome.symm
      subst hcurrent
      rw [hchosen.adopted]
      exact ⟨hspent, .inr rfl⟩

/-! ## Every run -/

theorem onDisk_of_readLedger_eq {issued : List Issue} {disk disk' : Disk}
    (hledger : readLedger disk'.allocations = readLedger disk.allocations)
    (hdisk : OnDisk issued disk) : OnDisk issued disk' :=
  fun file hread => hdisk file (hledger ▸ hread)

theorem inMemory_openedInner {issued : List Issue} {sealedStore : Option SealedFile}
    {ledger : Option AllocationsFile} {cache : StringMap CacheState}
    (hledger : ∀ file, ledger = some file → CoversSections issued file.sections) :
    InMemory issued (openedInner libs sealedStore ledger cache) := by
  constructor
  · intro hash alloc halloc
    obtain ⟨read, stored, hread, hstored, rfl⟩ := openedInner_sections halloc
    exact hledger read hread hash stored hstored
  · intro hash stored hstored
    obtain ⟨read, hread, hstored⟩ := openedInner_rawSections hstored
    exact hledger read hread hash stored hstored

/-- One ledger write of unissued counters keeps the history covered, landed or
not. -/
theorem covered_ledger {issued : List Issue} (write : WriteOutcome) {keys : SubKeys}
    {uuid : Bytes16} {inner : Inner} {disk : Disk} (hdisk : OnDisk issued disk)
    (hinner : InMemory issued inner) :
    OnDisk issued (ledgerDisk libs write keys uuid inner disk) ∧
      InMemory issued (ledgerInner libs write keys uuid inner) := by
  have hwritten : CoversSections issued (writtenSections libs keys uuid inner) :=
    coversSections_writtenSections hinner.counters fun hash stored _ => hinner.raw hash stored
  exact ⟨onDisk_ledgerDisk (fun _ => hdisk) hwritten,
    inMemory_ledgerInner hinner.counters (fun _ => hinner.raw) hwritten⟩

/-- Every effect but a successful reservation keeps a covered history
covered. -/
theorem covered_effect {issued : List Issue} {inner inner' : Inner} {disk disk' : Disk} {op : Op}
    {answer : Answer} (hdisk : OnDisk issued disk) (hinner : InMemory issued inner)
    (hinsert : ∀ registration nonce writes, op = .insert registration nonce writes →
      inner.isQuarantined registration.hash = false ∧
        (registration.hash ∈ inner.sections ∨ ∀ issue ∈ issued, issue.hash ≠ registration.hash))
    (hunissued : issueOf op answer = none)
    (heffect : Effect libs inner disk op answer inner' disk') :
    OnDisk issued disk' ∧ InMemory issued inner' := by
  have hsectioned : ∀ registration nonce writes, op = .insert registration nonce writes →
      InMemory issued (insertSection registration.hash inner) := by
    intro registration nonce writes hop
    obtain ⟨hstanding, hfresh⟩ := hinsert registration nonce writes hop
    exact inMemory_insertSection hinner hstanding hfresh
  cases heffect with
  | refused => exact ⟨hdisk, hinner⟩
  | closed => exact ⟨hdisk, hinner.counters, hinner.raw⟩
  | locked => exact ⟨hdisk, hinner.counters, hinner.raw⟩
  | provisionFailed => exact ⟨hdisk, hinner⟩
  | provisioned => exact ⟨hdisk, hinner.counters, hinner.raw⟩
  | authenticated => exact ⟨hdisk, hinner.counters, hinner.raw⟩
  | @insertLedgerFailed registration nonce writes session uuid error hunlocked hfailed =>
      have hinserted := hsectioned registration nonce writes rfl
      exact ⟨(covered_ledger writes.allocations hdisk hinserted).1, hinserted⟩
  | @insertSectioned registration nonce writes session uuid error hunlocked hledger =>
      obtain ⟨hdisk', hinner'⟩ := covered_ledger .ok hdisk
        (hsectioned registration nonce writes rfl)
      exact ⟨hdisk', hinner'.counters, hinner'.raw⟩
  | @insertSealFailed registration nonce writes session uuid file entry error =>
      obtain ⟨hdisk', hinner'⟩ := covered_ledger .ok hdisk
        (hsectioned registration nonce writes rfl)
      exact ⟨hdisk', hinner'.counters, hinner'.raw⟩
  | @inserted registration nonce writes session uuid file entry =>
      obtain ⟨hdisk', hinner'⟩ := covered_ledger .ok hdisk
        (hsectioned registration nonce writes rfl)
      exact ⟨hdisk', hinner'.counters, hinner'.raw⟩
  | reserveFailed error hunlocked hchosen hfailed =>
      exact covered_ledger _ hdisk ⟨coversCounters_withCounters hinner.counters hchosen, hinner.raw⟩
  | reserved => simp [issueOf] at hunissued
  | cacheUpdated => exact ⟨hdisk, hinner.counters, hinner.raw⟩

theorem standing_of_admissible {audited : Audited} {store : Store}
    (hstore : audited.world.store = some store) {op : Op} (hadmissible : admissible audited op)
    (registration : Registration) (nonce : Option Bytes24) (writes : InsertWrites)
    (hop : op = .insert registration nonce writes) :
    store.inner.isQuarantined registration.hash = false ∧
      (registration.hash ∈ store.inner.sections ∨
        ∀ issue ∈ audited.issued, issue.hash ≠ registration.hash) := by
  subst hop
  simpa [admissible, hstore] using hadmissible

/-- A history without a flaw, covered by memory and by the ledger on disk. -/
structure Covered (libs : Libraries) (audited : Audited) : Prop where
  sound : Sound audited.issued
  world : audited.world.Satisfies libs (OnDisk audited.issued)
    fun inner _ => InMemory audited.issued inner

/-- Only a reservation on a store can issue. -/
theorem exists_of_issueOf {world : World} {op : Op} {issue : Issue}
    (hissue : issueOf op (step libs world op).2 = some issue) :
    ∃ args write slot store, op = .reserve args write ∧ world.store = some store ∧
      (step libs world op).2 = .reserved (.ok slot) ∧
      issue = ⟨args.hash, ⟨args.rlnIdentifierHex, args.epoch, slot⟩, args.rateLimit,
        args.epochSizeSec⟩ := by
  cases op with
  | reserve args write =>
      cases hstore : world.store with
      | none => simp [step, hstore, issueOf] at hissue
      | some store =>
          cases hresult : (reserveMessageId libs args write store world.disk).result with
          | error error => simp [step, hstore, withReply, hresult, issueOf] at hissue
          | ok slot =>
              refine ⟨args, write, slot, store, rfl, rfl, ?_, ?_⟩
              · simp [step, hstore, withReply, hresult]
              · simpa [step, hstore, withReply, hresult, issueOf] using hissue.symm
  | _ => simp [issueOf] at hissue

/-- A successful reservation extends a covered history by the slot it
answers. -/
theorem covered_reserved {issued : List Issue} {inner : Inner} {disk : Disk} {args : ReserveArgs}
    {session : Session} {uuid : Bytes16} {slot : UInt64} {alloc : AllocationState}
    (hsound : Sound issued) (hinner : InMemory issued inner)
    (hchosen : chooseSlot args inner = .ok (slot, alloc)) :
    let issued' := issued ++ [⟨args.hash, ⟨args.rlnIdentifierHex, args.epoch, slot⟩,
      args.rateLimit, args.epochSizeSec⟩]
    Sound issued' ∧
      OnDisk issued' (ledgerDisk libs .ok session.keys uuid
        (withCounters inner args.hash alloc) disk) ∧
      InMemory issued' (ledgerInner libs .ok session.keys uuid
        (withCounters inner args.hash alloc)) := by
  intro issued'
  obtain ⟨hsound', hcounters⟩ := sound_append hinner.counters hchosen hsound
  obtain ⟨before, taken, hspec⟩ := chooseSlot_spec hchosen
  -- a carried section belongs to another membership, whose history did not grow
  have hcarried : ∀ hash stored, (withCounters inner args.hash alloc).isQuarantined hash = true →
      (withCounters inner args.hash alloc).rawSections[hash]? = some stored →
      Covers issued' hash (toAllocationState stored) := by
    intro hash stored hquarantined hraw issue hissue hhash
    rcases List.mem_append.mp hissue with hold | hnew
    · exact hinner.raw hash stored hraw issue hold hhash
    · obtain rfl := List.mem_singleton.mp hnew
      subst hhash
      have hstanding : (withCounters inner args.hash alloc).isQuarantined args.hash = false :=
        hspec.standing
      rw [hstanding] at hquarantined
      cases hquarantined
  have hwritten := @coversSections_writtenSections libs issued' session.keys uuid _ hcounters
    hcarried
  exact ⟨hsound', onDisk_ledgerDisk (by simp [WriteOutcome.lands]) hwritten,
    inMemory_ledgerInner hcounters (by simp) hwritten⟩

/-- Every admissible call keeps the history sound and covered. -/
theorem covered_step (audited : Audited) (op : Op) (hcovered : Covered libs audited)
    (hadmissible : admissible audited op = true) :
    Covered libs (auditedStep libs audited op).1 := by
  obtain ⟨hsound, hworld⟩ := hcovered
  cases hissue : issueOf op (step libs audited.world op).2 with
  | none =>
      have hsame : (auditedStep libs audited op).1 =
          ⟨(step libs audited.world op).1, audited.issued⟩ := by
        simp [auditedStep, hissue]
      rw [hsame]
      refine ⟨hsound, step_satisfies hworld (fun _ hdisk => hdisk)
        (fun _ _ _ hinner => hinner) ?_ ?_⟩
      · intro env disk disk' cache hdisk hopened
        exact ⟨onDisk_of_readLedger_eq hopened.allocations hdisk, inMemory_openedInner hdisk⟩
      · intro store inner' disk' hstore _ hdisk hinner heffect
        exact covered_effect hdisk hinner (standing_of_admissible hstore hadmissible) hissue heffect
  | some issue =>
      obtain ⟨args, write, slot, store, rfl, hstore, hanswer, rfl⟩ := exists_of_issueOf hissue
      obtain ⟨hcoherent, hinner⟩ := hworld.store store hstore
      obtain ⟨store', disk', answer, hstep, heffect⟩ : ∃ store' disk' answer,
          step libs audited.world (.reserve args write) = (⟨disk', some store'⟩, answer) ∧
            Effect libs store.inner audited.world.disk (.reserve args write) answer store'.inner
              disk' :=
        step_effect hstore hcoherent (by simp) (by simp)
      have hsame : (auditedStep libs audited (.reserve args write)).1 =
          ⟨⟨disk', some store'⟩, audited.issued ++ [⟨args.hash,
            ⟨args.rlnIdentifierHex, args.epoch, slot⟩, args.rateLimit, args.epochSizeSec⟩]⟩ := by
        rw [hstep] at hissue
        simp [auditedStep, hstep, hissue]
      rw [hsame]
      have hcoherent' := hcoherent.effect heffect
      rw [hstep] at hanswer
      obtain rfl : answer = .reserved (.ok slot) := hanswer
      generalize hinner' : store'.inner = inner' at heffect hcoherent'
      cases heffect with
      | refused _ _ herror => simp [Answer.isError, isOk] at herror
      | reserved hunlocked hchosen =>
          obtain ⟨hsound', hdisk', hinner''⟩ := covered_reserved hsound hinner hchosen
          refine ⟨hsound', hdisk', fun other hother => ?_⟩
          obtain rfl := Option.some.inj hother
          rw [hinner']
          exact ⟨hcoherent', hinner''⟩

/-- From any directory, in any run whose inserts are of hashes in good standing
that have their counters in memory or were never issued a slot: no slot of a
membership is answered twice, every slot is below its call's limit, and the
calls of a membership agree on every epoch size that was set. -/
theorem slots_never_reissued (libs : Libraries) (disk : Disk) (ops : List Op)
    (hguard : Run.Guarded (auditedStep libs) (fun audited op => admissible audited op = true)
      ⟨{ disk }, []⟩ ops) :
    Sound (Run.run (auditedStep libs) ⟨{ disk }, []⟩ ops).issued := by
  have hstart : Covered libs ⟨{ disk }, []⟩ := by
    refine ⟨⟨List.Pairwise.nil, by simp, by simp⟩, fun file _ hash stored _ issue hissue => ?_,
      by simp⟩
    exact absurd hissue (List.not_mem_nil)
  exact (Run.invariant_run covered_step hstart hguard).sound

/-! ## Concrete runs -/

def slotArgs (hash : String) (epochSizeSec : UInt64) : ReserveArgs :=
  ⟨hash, "aa", 1, 0, 10, epochSizeSec⟩

/-- A fresh membership reserved once without and once with an epoch size. -/
def resizedOps : List Op :=
  [.openStore Reference.env, Reference.unlockOp,
    .insert { Reference.registration 1 with hash := "ab" } Reference.nonce Reference.writes,
    .reserve (slotArgs "ab" 0) .ok, .reserve (slotArgs "ab" 600) .ok]

/-- The guarded theorem on a run with a reservation. -/
theorem slots_never_reissued_resizedOps :
    Sound (Run.run (auditedStep Reference.libraries) ⟨{}, []⟩ resizedOps).issued :=
  slots_never_reissued Reference.libraries {} resizedOps (by decide +kernel)

/-- A slot issued on the section of an insert that never reached the sealed
file, and the same insert again after a crash. -/
def recurredOps : List Op :=
  let insertWith (writes : InsertWrites) : Op :=
    .insert { Reference.registration 2 with hash := "cd" } Reference.nonce writes
  [.openStore Reference.env, Reference.unlockOp, insertWith ⟨.ok, .failed false "disk full", .ok⟩,
    .reserve (slotArgs "cd" 600) .ok, .crash, .openStore Reference.env, Reference.unlockOp,
    insertWith Reference.writes, .reserve (slotArgs "cd" 600) .ok]

def issuedBy (ops : List Op) : List Issue :=
  (Run.run (auditedStep Reference.libraries) ⟨{}, []⟩ ops).issued

def standingInsert (audited : Audited) : Op → Bool
  | .insert registration _ _ => audited.world.store.all fun store =>
      !store.inner.isQuarantined registration.hash
  | _ => true

/-- Though every insert is of a hash that is not quarantined, two epoch sizes
serve one membership, and one slot is answered twice. -/
theorem slot_reissued :
    (∀ ops ∈ [resizedOps, recurredOps], Run.Guarded (auditedStep Reference.libraries)
      (fun audited op => standingInsert audited op = true) ⟨{}, []⟩ ops) ∧
    issuedBy resizedOps = [⟨"ab", ⟨"aa", 1, 0⟩, 10, 0⟩, ⟨"ab", ⟨"aa", 1, 1⟩, 10, 600⟩] ∧
    issuedBy recurredOps = [⟨"cd", ⟨"aa", 1, 0⟩, 10, 600⟩, ⟨"cd", ⟨"aa", 1, 0⟩, 10, 600⟩] := by
  decide +kernel

end LogosRln.SealedStore.NoReissue
