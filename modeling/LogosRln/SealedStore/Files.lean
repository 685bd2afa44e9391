import LogosRln.Lifecycle

/-!
# The store's directory

What the three files of the persistence directory hold as far as the module can
tell, what a durable write leaves behind, and what the open-time loaders make
of each file.  JSON itself is a third-party crate: a file's text is known by its
length and by what it parses to, and a written file parses to the value
written.
-/

namespace LogosRln.SealedStore.Files

open RegistryId Format Lifecycle RateLimit

/-- A path: nothing there, metadata or content that cannot be read, or a text
of a known length. -/
inductive StoreFile (A : Type) where
  | missing
  | statError (error : String)
  | readError (size : ℕ) (error : String)
  | text (size : ℕ) (parsed : Except String A)

/-- `Path::exists`, which reads unreadable metadata as absent. -/
def StoreFile.present {A : Type} : StoreFile A → Bool
  | .missing | .statError _ => false
  | .readError _ _ | .text _ _ => true

structure Disk where
  sealedText : StoreFile SealedFile := .missing
  allocations : StoreFile AllocationsFile := .missing
  cache : StoreFile CacheFile := .missing
  oldFormat : Bool := false
  aside : List String := []

/-! ## Writes -/

/-- A whole-file write: it lands, or it fails leaving the old or the new
file. -/
inductive WriteOutcome where
  | ok
  | failed (landed : Bool) (error : String)
  deriving DecidableEq

def WriteOutcome.result : WriteOutcome → Except String Unit
  | .ok => .ok ()
  | .failed _ error => .error error

def WriteOutcome.lands : WriteOutcome → Bool
  | .ok => true
  | .failed landed _ => landed

/-- `to_string_pretty` and rename: the file after the write. -/
def writeText {A : Type} (outcome : WriteOutcome) (size : ℕ) (value : A) (old : StoreFile A) :
    StoreFile A :=
  if outcome.lands then .text size (.ok value) else old

/-! ## Opening -/

inductive OpenError where
  | dirLockHeld (message : String)
  | oldFormatPresent (message : String)
  | unreadable (message : String)
  deriving DecidableEq

inductive LockOutcome where
  | taken
  | wouldBlock (error : String)
  | failed (error : String)

/-- What `open` meets besides the files: the directory's name, the lock
attempt, the clock that stamps files moved aside, and which renames work. -/
structure OpenEnv where
  dir : String
  lock : LockOutcome
  now : UInt64
  canRename : String → Bool

def asideName (env : OpenEnv) (fileName : String) : String :=
  s!"{fileName}.bad.{env.now}"

/-- `quarantine_file`: the file is moved aside unless the rename fails. -/
def quarantineFile {A : Type} (env : OpenEnv) (fileName : String) (file : StoreFile A)
    (aside : List String) : StoreFile A × List String :=
  if env.canRename fileName then (.missing, aside ++ [asideName env fileName]) else (file, aside)

def quarantineSealed (env : OpenEnv) (disk : Disk) : Disk :=
  let moved := quarantineFile env sealedFile disk.sealedText disk.aside
  { disk with sealedText := moved.1, aside := moved.2 }

def quarantineAllocations (env : OpenEnv) (disk : Disk) : Disk :=
  let moved := quarantineFile env allocationsFile disk.allocations disk.aside
  { disk with allocations := moved.1, aside := moved.2 }

def quarantineCache (env : OpenEnv) (disk : Disk) : Disk :=
  let moved := quarantineFile env cacheFile disk.cache disk.aside
  { disk with cache := moved.1, aside := moved.2 }

/-- `quarantine_all`. -/
def quarantineAll (sealedStore : Option SealedFile) (census : Finset String) : Finset String :=
  match sealedStore with
  | none => census
  | some file => census ∪ OrderedMap.keySet file.credentials

def overCap (fileName : String) : OpenError :=
  .unreadable s!"{fileName} exceeds the {maxFileBytes}-byte size cap; refusing to parse it — restore the file from a backup"

def foreignSealed (file : SealedFile) : OpenError :=
  .unreadable s!"{sealedFile} declares format \"{file.format}\" version {file.version} but this build speaks {formatSealed} version {formatVersion}; refusing to adopt it — run a module version matching the file, or restore the file from a backup"

/-- `load_sealed`: `none` is unprovisioned.  A corrupt file is moved aside and
read as unprovisioned; a foreign one is refused. -/
def loadSealed (env : OpenEnv) (disk : Disk) : Except OpenError (Option SealedFile) × Disk :=
  match disk.sealedText with
  | .missing => (.ok none, disk)
  | .statError error => (.error (.unreadable s!"{sealedFile}: {error}"), disk)
  | .readError size error =>
      if size ≤ maxFileBytes then (.error (.unreadable s!"{sealedFile}: {error}"), disk)
      else (.error (overCap sealedFile), disk)
  | .text size parsed =>
      if size ≤ maxFileBytes then
        match parsed.bind fun file => (checkSealedCaps file).map fun _ => file with
        | .error _ => (.ok none, quarantineSealed env disk)
        | .ok file =>
            if file.format ≠ formatSealed ∨ file.version ≠ formatVersion then
              (.error (foreignSealed file), disk)
            else (.ok (some file), disk)
      else (.error (overCap sealedFile), disk)

structure LoadedAllocations where
  sections : StringMap AllocationState
  rawSections : StringMap Section
  rootMacRaw : Option Bytes32

def LoadedAllocations.empty : LoadedAllocations := ⟨∅, ∅, none⟩

def checkAllocationsFormat (file : AllocationsFile) : Except String AllocationsFile :=
  if file.format = formatAllocations ∧ file.version = formatVersion then .ok file
  else .error s!"foreign format \"{file.format}\" version {file.version}"

def toAllocation (row : AllocRow) : EpochAllocation :=
  ⟨row.rlnIdentifier, row.epoch, row.used⟩

def toAllocationState (stored : Section) : AllocationState where
  allocations := stored.allocations.map toAllocation
  epochSizeSec := stored.epochSizeSec
  pruneFloor := stored.pruneFloor

/-- What a parsed ledger contributes: the sections of known credentials as
counters, every section raw, and the credentials it does not mention. -/
def adoptAllocations (sealedStore : Option SealedFile) (census : Finset String)
    (file : AllocationsFile) : LoadedAllocations × Finset String :=
  match sealedStore with
  | none => (⟨∅, file.sections, hexToBytes32 file.rootMac⟩, quarantineAll none census)
  | some store =>
      if store.storeUuid ≠ file.storeUuid then
        (⟨∅, file.sections, hexToBytes32 file.rootMac⟩, quarantineAll (some store) census)
      else
        (⟨file.sections.filterMap fun hash stored =>
            if hash ∈ store.credentials then some (toAllocationState stored) else none,
          file.sections, hexToBytes32 file.rootMac⟩,
        census ∪ OrderedMap.keysWhere store.credentials fun hash _ => hash ∉ file.sections)

/-- `load_allocations`: an absent, unreadable or corrupt ledger quarantines
every credential. -/
def loadAllocations (env : OpenEnv) (sealedStore : Option SealedFile) (census : Finset String)
    (disk : Disk) : (LoadedAllocations × Finset String) × Disk :=
  let nothing := (LoadedAllocations.empty, quarantineAll sealedStore census)
  match disk.allocations with
  | .missing => (nothing, disk)
  | .statError _ => (nothing, disk)
  | .readError size _ =>
      if size ≤ maxFileBytes then (nothing, disk) else (nothing, quarantineAllocations env disk)
  | .text size parsed =>
      if size ≤ maxFileBytes then
        match (parsed.bind fun file => (checkAllocationsCaps file).map fun _ => file).bind
            checkAllocationsFormat with
        | .error _ => (nothing, quarantineAllocations env disk)
        | .ok file => (adoptAllocations sealedStore census file, disk)
      else (nothing, quarantineAllocations env disk)

/-- The rows of known credentials, a default row for a credential without
one. -/
def retainCache (sealedStore : Option SealedFile) (entries : StringMap CacheState) :
    StringMap CacheState :=
  match sealedStore with
  | none => ∅
  | some file => file.credentials.map fun hash _ => (entries[hash]?).getD {}

/-- `load_cache`: every failure degrades to defaults. -/
def loadCache (env : OpenEnv) (sealedStore : Option SealedFile) (disk : Disk) :
    StringMap CacheState × Disk :=
  match disk.cache with
  | .missing => (retainCache sealedStore ∅, disk)
  | .statError _ => (retainCache sealedStore ∅, disk)
  | .readError size _ =>
      if size ≤ maxFileBytes then (retainCache sealedStore ∅, disk)
      else (retainCache sealedStore ∅, quarantineCache env disk)
  | .text size parsed =>
      if size ≤ maxFileBytes then
        match parsed with
        | .ok file => (retainCache sealedStore file.entries, disk)
        | .error _ => (retainCache sealedStore ∅, quarantineCache env disk)
      else (retainCache sealedStore ∅, quarantineCache env disk)

/-! ## What the loaders read -/

/-- The sealed file `open` adopts from a path, if any. -/
def readSealed : StoreFile SealedFile → Option SealedFile
  | .text size (.ok file) =>
      if size ≤ maxFileBytes ∧ file.credentials.size ≤ maxCredentials ∧
          file.format = formatSealed ∧ file.version = formatVersion then some file
      else none
  | _ => none

/-- The ledger `open` adopts from a path, if any. -/
def readLedger : StoreFile AllocationsFile → Option AllocationsFile
  | .text size (.ok file) =>
      if size ≤ maxFileBytes ∧ checkAllocationsCaps file = .ok () ∧
          file.format = formatAllocations ∧ file.version = formatVersion then some file
      else none
  | _ => none

@[simp]
theorem readSealed_missing : readSealed .missing = none := rfl

@[simp]
theorem readLedger_missing : readLedger .missing = none := rfl

theorem readSealed_text {size : ℕ} {file : SealedFile} (hsize : size ≤ maxFileBytes)
    (hcount : file.credentials.size ≤ maxCredentials) (hformat : file.format = formatSealed)
    (hversion : file.version = formatVersion) : readSealed (.text size (.ok file)) = some file := by
  simp [readSealed, hsize, hcount, hformat, hversion]

theorem readLedger_text {size : ℕ} {file : AllocationsFile} (hsize : size ≤ maxFileBytes)
    (hcaps : checkAllocationsCaps file = .ok ()) (hformat : file.format = formatAllocations)
    (hversion : file.version = formatVersion) : readLedger (.text size (.ok file)) = some file := by
  simp [readLedger, hsize, hcaps, hformat, hversion]

/-- An adopted file is what the text parses to, and within the caps. -/
theorem readSealed_eq_some {text : StoreFile SealedFile} {file : SealedFile}
    (hread : readSealed text = some file) :
    ∃ size, text = .text size (.ok file) ∧ size ≤ maxFileBytes ∧
      file.credentials.size ≤ maxCredentials ∧ file.format = formatSealed ∧
      file.version = formatVersion := by
  cases text with
  | text size parsed =>
      cases parsed with
      | ok parsed =>
          simp only [readSealed, Option.ite_none_right_eq_some, Option.some.injEq] at hread
          obtain ⟨⟨hsize, hcount, hformat, hversion⟩, rfl⟩ := hread
          exact ⟨size, rfl, hsize, hcount, hformat, hversion⟩
      | error why => simp [readSealed] at hread
  | missing => simp at hread
  | statError error => simp [readSealed] at hread
  | readError size error => simp [readSealed] at hread

/-- An adopted ledger is what the text parses to, and within the caps. -/
theorem readLedger_eq_some {text : StoreFile AllocationsFile} {file : AllocationsFile}
    (hread : readLedger text = some file) :
    ∃ size, text = .text size (.ok file) ∧ size ≤ maxFileBytes ∧
      checkAllocationsCaps file = .ok () := by
  cases text with
  | text size parsed =>
      cases parsed with
      | ok parsed =>
          simp only [readLedger, Option.ite_none_right_eq_some, Option.some.injEq] at hread
          obtain ⟨⟨hsize, hcaps, -, -⟩, rfl⟩ := hread
          exact ⟨size, rfl, hsize, hcaps⟩
      | error why => simp [readLedger] at hread
  | missing => simp at hread
  | statError error => simp [readLedger] at hread
  | readError size error => simp [readLedger] at hread

theorem checkSealedCaps_map_eq (file : SealedFile) :
    ((checkSealedCaps file).map fun _ => file) =
      if file.credentials.size ≤ maxCredentials then .ok file
      else .error "too many credentials" := by
  simp only [checkSealedCaps]
  split <;> split <;> first | rfl | omega

/-- An adopted sealed file leaves the directory alone. -/
theorem loadSealed_of_readSealed {env : OpenEnv} {disk : Disk} {file : SealedFile}
    (hread : readSealed disk.sealedText = some file) :
    loadSealed env disk = (.ok (some file), disk) := by
  cases htext : disk.sealedText with
  | text size parsed =>
      cases parsed with
      | ok parsed =>
          simp only [htext, readSealed, Option.ite_none_right_eq_some, Option.some.injEq] at hread
          obtain ⟨⟨hsize, hcount, hformat, hversion⟩, rfl⟩ := hread
          simp [loadSealed, htext, hsize, Except.bind, checkSealedCaps_map_eq, hcount, hformat,
            hversion]
      | error why => simp [htext, readSealed] at hread
  | missing => simp [htext, readSealed] at hread
  | statError error => simp [htext, readSealed] at hread
  | readError size error => simp [htext, readSealed] at hread

/-- Without an adopted file, `load_sealed` refuses and changes nothing, or
reads the directory as unprovisioned and leaves nothing to adopt. -/
theorem loadSealed_of_readSealed_none (env : OpenEnv) {disk : Disk}
    (hread : readSealed disk.sealedText = none) :
    (∃ error, loadSealed env disk = (.error error, disk)) ∨
      ∃ sealedText aside, readSealed sealedText = none ∧
        loadSealed env disk = (.ok none, { disk with sealedText, aside }) := by
  cases htext : disk.sealedText with
  | missing =>
      have hload : loadSealed env disk = (.ok none, disk) := by simp [loadSealed, htext]
      exact .inr ⟨disk.sealedText, disk.aside, hread, hload⟩
  | statError error => exact .inl ⟨_, by simp [loadSealed, htext]; rfl⟩
  | readError size error =>
      by_cases hsize : size ≤ maxFileBytes
      · exact .inl ⟨_, by simp [loadSealed, htext, hsize]; rfl⟩
      · exact .inl ⟨_, by simp [loadSealed, htext, hsize]; rfl⟩
  | text size parsed =>
      by_cases hsize : size ≤ maxFileBytes
      · cases hcaps : parsed.bind fun file => (checkSealedCaps file).map fun _ => file with
        | error why =>
            refine .inr ⟨(quarantineSealed env disk).sealedText, (quarantineSealed env disk).aside,
              ?_, by simp [loadSealed, htext, hsize, hcaps, quarantineSealed]⟩
            simp only [quarantineSealed, quarantineFile]
            split
            · rfl
            · exact hread
        | ok file =>
            cases parsed with
            | error why => simp [Except.bind] at hcaps
            | ok parsed =>
                simp only [Except.bind, checkSealedCaps_map_eq] at hcaps
                split at hcaps
                · rename_i hcount
                  cases hcaps
                  by_cases hformat : file.format ≠ formatSealed ∨ file.version ≠ formatVersion
                  · exact .inl ⟨foreignSealed file, by
                      simp [loadSealed, htext, hsize, Except.bind, checkSealedCaps_map_eq, hcount,
                        hformat]⟩
                  · simp only [not_or, not_not] at hformat
                    simp [htext, readSealed, hsize, hcount, hformat] at hread
                · cases hcaps
      · exact .inl ⟨_, by simp [loadSealed, htext, hsize]; rfl⟩

theorem checkAllocations_bind_eq (file : AllocationsFile) :
    (((checkAllocationsCaps file).map fun _ => file).bind checkAllocationsFormat).toOption =
      if checkAllocationsCaps file = .ok () ∧ file.format = formatAllocations ∧
          file.version = formatVersion then some file
      else none := by
  cases hcaps : checkAllocationsCaps file with
  | error why => simp [Except.map, Except.bind, Except.toOption]
  | ok _ =>
      by_cases hformat : file.format = formatAllocations ∧ file.version = formatVersion
      · simp [Except.map, Except.bind, Except.toOption, checkAllocationsFormat, hformat]
      · simp [Except.map, Except.bind, Except.toOption, checkAllocationsFormat, hformat]

/-- The ledger's contribution: the adopted file's, or nothing and every
credential quarantined. -/
theorem loadAllocations_eq (env : OpenEnv) (sealedStore : Option SealedFile)
    (census : Finset String) (disk : Disk) :
    (∃ file, readLedger disk.allocations = some file ∧
      loadAllocations env sealedStore census disk =
        (adoptAllocations sealedStore census file, disk)) ∨
      ∃ allocations aside, readLedger disk.allocations = none ∧ readLedger allocations = none ∧
        loadAllocations env sealedStore census disk =
          ((.empty, quarantineAll sealedStore census), { disk with allocations, aside }) := by
  have hmoved : readLedger disk.allocations = none →
      readLedger (quarantineAllocations env disk).allocations = none := by
    intro hread
    simp only [quarantineAllocations, quarantineFile]
    split
    · rfl
    · exact hread
  have hkept : ∀ {text : StoreFile AllocationsFile}, readLedger text = none →
      readLedger disk.allocations = none →
      loadAllocations env sealedStore census disk =
        ((.empty, quarantineAll sealedStore census), disk) →
      (∃ file, readLedger text = some file ∧ loadAllocations env sealedStore census disk =
        (adoptAllocations sealedStore census file, disk)) ∨
      ∃ allocations aside, readLedger text = none ∧ readLedger allocations = none ∧
        loadAllocations env sealedStore census disk =
          ((.empty, quarantineAll sealedStore census), { disk with allocations, aside }) :=
    fun htext hread hload => .inr ⟨disk.allocations, disk.aside, htext, hread, hload⟩
  cases htext : disk.allocations with
  | missing =>
      exact hkept rfl (by rw [htext]; rfl) (by simp [loadAllocations, htext])
  | statError error =>
      exact hkept rfl (by rw [htext]; rfl) (by simp [loadAllocations, htext])
  | readError size error =>
      by_cases hsize : size ≤ maxFileBytes
      · exact hkept rfl (by rw [htext]; rfl) (by simp [loadAllocations, htext, hsize])
      · exact .inr ⟨_, (quarantineAllocations env disk).aside, rfl, hmoved (by rw [htext]; rfl),
          by simp [loadAllocations, htext, hsize, quarantineAllocations]⟩
  | text size parsed =>
      have hunread : readLedger (.text size parsed) = none →
          (∃ why, size ≤ maxFileBytes → (parsed.bind fun file =>
            (checkAllocationsCaps file).map fun _ => file).bind checkAllocationsFormat =
              .error why) →
          ∃ allocations aside, readLedger (.text size parsed) = none ∧
            readLedger allocations = none ∧
            loadAllocations env sealedStore census disk =
              ((.empty, quarantineAll sealedStore census), { disk with allocations, aside }) := by
        rintro hread ⟨why, hwhy⟩
        refine ⟨_, (quarantineAllocations env disk).aside, hread, hmoved (by rw [htext, hread]), ?_⟩
        by_cases hsize : size ≤ maxFileBytes
        · simp [loadAllocations, htext, hsize, hwhy hsize, quarantineAllocations]
        · simp [loadAllocations, htext, hsize, quarantineAllocations]
      cases parsed with
      | error why => exact .inr (hunread rfl ⟨why, fun _ => rfl⟩)
      | ok file =>
          have hchecked := checkAllocations_bind_eq file
          cases hbind : ((checkAllocationsCaps file).map fun _ => file).bind
              checkAllocationsFormat with
          | error why =>
              refine .inr (hunread ?_ ⟨why, fun _ => hbind⟩)
              simp only [hbind, Except.toOption] at hchecked
              simp only [readLedger]
              grind
          | ok checked =>
              simp only [hbind, Except.toOption] at hchecked
              by_cases hsize : size ≤ maxFileBytes
              · have hread : readLedger (.text size (.ok file)) = some checked := by
                  simp only [readLedger, hsize, true_and]
                  exact hchecked.symm
                exact .inl ⟨checked, hread, by
                  simp [loadAllocations, htext, hsize, Except.bind] at hbind ⊢
                  simp [hbind]⟩
              · have hread : readLedger (.text size (.ok file)) = none := by
                  simp [readLedger, hsize]
                exact .inr (hunread hread ⟨"", fun h => absurd h hsize⟩)

/-- The cache sidecar is the only file `load_cache` can move. -/
theorem loadCache_disk (env : OpenEnv) (sealedStore : Option SealedFile) (disk : Disk) :
    ∃ cache aside, (loadCache env sealedStore disk).2 = { disk with cache, aside } := by
  simp only [loadCache]
  split
  · exact ⟨disk.cache, disk.aside, rfl⟩
  · exact ⟨disk.cache, disk.aside, rfl⟩
  · split
    · exact ⟨disk.cache, disk.aside, rfl⟩
    · exact ⟨_, _, rfl⟩
  · split
    · split
      · exact ⟨disk.cache, disk.aside, rfl⟩
      · exact ⟨_, _, rfl⟩
    · exact ⟨_, _, rfl⟩

/-- A write that does not land leaves what could be read before; one that lands
leaves at most the file written. -/
theorem readLedger_writeText {write : WriteOutcome} {size : ℕ} {file read : AllocationsFile}
    {old : StoreFile AllocationsFile}
    (hread : readLedger (writeText write size file old) = some read) :
    read = file ∧ write.lands = true ∨ readLedger old = some read ∧ write.lands = false := by
  cases hlands : write.lands with
  | true =>
      simp only [writeText, hlands, if_true, readLedger, Option.ite_none_right_eq_some,
        Option.some.injEq] at hread
      exact .inl ⟨hread.2.symm, rfl⟩
  | false =>
      simp only [writeText, hlands] at hread
      exact .inr ⟨hread, rfl⟩

theorem readSealed_writeText {write : WriteOutcome} {size : ℕ} {file read : SealedFile}
    {old : StoreFile SealedFile}
    (hread : readSealed (writeText write size file old) = some read) :
    read = file ∧ write.lands = true ∨ readSealed old = some read ∧ write.lands = false := by
  cases hlands : write.lands with
  | true =>
      simp only [writeText, hlands, if_true, readSealed, Option.ite_none_right_eq_some,
        Option.some.injEq] at hread
      exact .inl ⟨hread.2.symm, rfl⟩
  | false =>
      simp only [writeText, hlands] at hread
      exact .inr ⟨hread, rfl⟩

end LogosRln.SealedStore.Files
