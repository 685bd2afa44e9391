import LogosRln.Core.Run
import LogosRln.SealedStore.Specs

/-!
# Auto-unlock

The module keeps the keystore password itself, in a secret file beside the
store or in the platform's keychain, and provisions a fresh store with a secret
of its own.  The walk below is the source's, with the order of what it does to
the file and to the store on record; every answer of the surroundings is an
input.  It never invents a secret over a store that somebody else keyed.
-/

namespace LogosRln.Keychain

open RegistryId SealedStore Crypto Format Files

/-! ## Secret sources -/

def autoSecretFile : String := "rln_autounlock.secret"

/-- What a read of the secret file meets. -/
inductive SecretFile where
  | absent
  | unreadable (error : String)
  | text (content : String)

/-- The secret, and a note about a file that holds none. -/
def readFileSecret : SecretFile → Option String × Option String
  | .absent => (none, none)
  | .unreadable error => (none, some s!"{autoSecretFile}: {error}")
  | .text raw =>
      let trimmed := String.ofList (trim raw.toList)
      if trimmed.isEmpty then (none, some s!"{autoSecretFile} is present but empty")
      else (some trimmed, none)

def keychainErr (message : String) : ApiError := ⟨.keychainUnavailable, message⟩

/-- The keychain's item is the password's bytes in hex; a failed read is noted
and counts as no item. -/
def readKeychainSecret : Except String (Option String) →
    Except ApiError (Option String × Option String)
  | .ok (some payload) =>
      match hexToVec payload with
      | none => .error (keychainErr "keychain item payload is not hex — foreign item?")
      | some bytes =>
          match String.fromUTF8? bytes.toByteArray with
          | none => .error (keychainErr "keychain item payload is not a utf-8 password")
          | some password => .ok (some password, none)
  | .ok none => .ok (none, none)
  | .error error => .ok (none, some error)

def noteSuffix (file keychain : Option String) : String :=
  let parts := file.toList ++ (keychain.map fun note => s!"keychain: {note}").toList
  if parts.isEmpty then "" else " (" ++ "; ".intercalate parts ++ ")"

inductive Platform where
  | macos
  | other

def rememberHint : Platform → String
  | .macos => "unlock manually once and it will be remembered"
  | .other => "unlock manually — this platform has no keychain sink, so remember_keystore_password cannot persist the password for the next launch"

/-! ## The walk -/

/-- The store, its directory and the secret file in it. -/
structure Home where
  store : Store
  disk : Disk
  secret : SecretFile

/-- What one call of `unlock` draws, and how its write ends. -/
structure Attempt where
  random : UnlockRandom
  write : WriteOutcome

/-- Everything the walk asks for. -/
structure Surroundings where
  platform : Platform
  keychain : Except String (Option String)
  entropy : Except String Bytes32
  canRename : Bool
  secretWrite : WriteOutcome
  fileUnlock : Attempt
  keychainUnlock : Attempt
  createdUnlock : Attempt

inductive Action where
  | unlock (password : String)
  | moveAside
  | generate
  | writeSecret (secret : String)

inductive Answer where
  | unlocked (result : Except ApiError ℕ)
  | moved (renamed : Bool)
  | generated (result : Except String Bytes32)
  | written (result : Except String Unit)

/-- The reply, what is left behind, and what was done on the way. -/
structure Walk where
  result : Except ApiError (ℕ × String × String)
  home : Home
  events : List (Run.Event Home Action Answer)

def finish (result : Except ApiError (ℕ × String × String)) (home : Home) : Walk :=
  ⟨result, home, []⟩

def Walk.after (event : Run.Event Home Action Answer) (walk : Walk) : Walk :=
  { walk with events := event :: walk.events }

variable (libs : Libraries) (env : Surroundings)

def tryUnlock (attempt : Attempt) (password : String) (home : Home)
    (next : Home → Except ApiError ℕ → Walk) : Walk :=
  let reply := unlock libs password attempt.random attempt.write home.store home.disk
  (next { home with store := reply.store, disk := reply.disk } reply.result).after
    ⟨home, .unlock password, .unlocked reply.result⟩

/-- `quarantine_secret_file`; a rename that fails leaves the file in place. -/
def quarantineSecretFile (home : Home) (next : Home → Walk) : Walk :=
  (next { home with secret := if env.canRename then .absent else home.secret }).after
    ⟨home, .moveAside, .moved env.canRename⟩

def writeSecret (secret : String) (home : Home) (next : Home → Except String Unit → Walk) : Walk :=
  (next { home with secret := if env.secretWrite.lands then .text secret else home.secret }
    env.secretWrite.result).after ⟨home, .writeSecret secret, .written env.secretWrite.result⟩

def isProvisioned (store : Store) : Bool :=
  store.inner.sealedStore.isSome

/-- Read off the published records. -/
def hasCredentials (store : Store) : Bool :=
  !store.snapshot.isEmpty

/-- The reply of an unlock that ends the walk. -/
def unlockedReply (source password : String) (home : Home) (result : Except ApiError ℕ) : Walk :=
  match result with
  | .ok count => finish (.ok (count, source, password)) home
  | .error error => finish (.error error) home

/-- A new secret: drawn, written, and only then adopted. -/
def createSecret (home : Home) : Walk :=
  match env.entropy with
  | .error error =>
      (finish (.error (.internal s!"no entropy for secret: {error}")) home).after
        ⟨home, .generate, .generated env.entropy⟩
  | .ok raw =>
      let secret := bytesToHex raw.toList
      (writeSecret env secret home fun home written =>
        match written with
        | .error error =>
            finish (.error (.internal s!"could not persist the generated secret: {error}")) home
        | .ok () =>
            tryUnlock libs env.createdUnlock secret home (unlockedReply "created" secret)).after
        ⟨home, .generate, .generated env.entropy⟩

/-- The walk once no secret is found; `rejectedFile` is the store's refusal of
the file's. -/
def withoutSecret (rejectedFile : Option ApiError) (fileNote keychainNote : Option String)
    (home : Home) : Walk :=
  let note := noteSuffix fileNote keychainNote
  let hint := rememberHint env.platform
  match rejectedFile with
  | some error =>
      finish (.error ⟨.badPassword, s!"{error.message} — the {autoSecretFile} that held it was moved aside; {hint}{note}"⟩) home
  | none =>
      if isProvisioned home.store then
        let what :=
          if hasCredentials home.store then "already has credentials"
          else "is already provisioned with a password (no credentials yet)"
        finish (.error (keychainErr s!"no stored auto-unlock secret, but the keystore {what} — {hint} (restoring the keystore files from a backup first if entries are quarantined){note}")) home
      else if fileNote.isSome then
        finish (.error (keychainErr s!"the auto-unlock secret file cannot be read, so the module will not self-provision over it — move it aside or repair it first{note}")) home
      else createSecret libs env home

/-- The walk after the secret file. -/
def keychainWalk (rejectedFile : Option ApiError) (fileNote : Option String) (home : Home) : Walk :=
  match readKeychainSecret env.keychain with
  | .error error => finish (.error error) home
  | .ok (some password, _) =>
      tryUnlock libs env.keychainUnlock password home (unlockedReply "existing" password)
  | .ok (none, keychainNote) => withoutSecret libs env rejectedFile fileNote keychainNote home

def autoUnlockCore (home : Home) : Walk :=
  match readFileSecret home.secret with
  | (some password, fileNote) =>
      tryUnlock libs env.fileUnlock password home fun home result =>
        match result with
        | .ok count => finish (.ok (count, "existing", password)) home
        | .error error =>
            if error.kind = .badPassword then
              quarantineSecretFile env home (keychainWalk libs env (some error) fileNote)
            else finish (.error error) home
  | (none, fileNote) => keychainWalk libs env none fileNote home

/-! ## What the store's unlock decides -/

/-- The store's verifier does not match the password. -/
structure Rejects (store : Store) (password : String) (file : SealedFile) (keys : SubKeys) :
    Prop where
  sealedStore : store.inner.sealedStore = some file
  holdsCredentials : 0 < store.inner.credentialCount
  derived : deriveKeys libs password file.kdf = .ok keys
  verifier : keys.verify.toList ≠ (hexToVec file.verifier).getD []

variable {libs env} {store : Store} {disk : Disk} {password : String} {attempt : Attempt}

theorem deriveKeys_error {params : KdfParams} {error : ApiError}
    (hderive : deriveKeys libs password params = .error error) : error.kind = .internal := by
  cases hmaster : Crypto.MasterKey.derive libs.toPrimitives password params with
  | ok masterKey => simp [deriveKeys, hmaster] at hderive
  | error failure =>
      simp only [deriveKeys, hmaster, Except.error.injEq] at hderive
      rw [← hderive]
      rfl

/-- The provisioning branch never answers that the password is bad. -/
theorem provisionStore_error {error : ApiError}
    (hrefused : (provisionStore libs password attempt.random attempt.write store disk).result =
      .error error) : error.kind = .internal := by
  cases hparams : KdfParams.generate attempt.random.salt with
  | error failure =>
      simp only [provisionStore, hparams, refuse, Except.error.injEq] at hrefused
      rw [← hrefused]
      rfl
  | ok params =>
      cases hkeys : deriveKeys libs password params with
      | error failure =>
          simp only [provisionStore, hparams, hkeys, refuse, Except.error.injEq] at hrefused
          rw [← hrefused]
          exact deriveKeys_error hkeys
      | ok keys =>
          cases huuid : store.inner.storeUuid.or attempt.random.uuid with
          | none =>
              simp only [provisionStore, hparams, hkeys, huuid, refuse, Except.error.injEq]
                at hrefused
              rw [← hrefused]
              rfl
          | some uuid =>
              cases hwrite : attempt.write.result with
              | ok =>
                  simp only [provisionStore, hparams, hkeys, huuid, hwrite, reduceCtorEq]
                    at hrefused
              | error failure =>
                  simp only [provisionStore, hparams, hkeys, huuid, hwrite, refuse,
                    Except.error.injEq] at hrefused
                  rw [← hrefused]
                  rfl

/-- Only the verifier answers that the password is bad. -/
theorem rejects_of_badPassword {error : ApiError}
    (hrefused : (unlock libs password attempt.random attempt.write store disk).result =
      .error error) (hkind : error.kind = .badPassword) :
    ∃ file keys, Rejects libs store password file keys := by
  have hother : ∀ refusal : ApiError, refusal.kind = .internal → error ≠ refusal := by
    rintro refusal hinternal rfl
    rw [hinternal] at hkind
    cases hkind
  cases hheld : store.inner.lockHeld with
  | false =>
      simp only [unlock, hheld, Bool.not_false, if_true, refuse, Except.error.injEq] at hrefused
      exact absurd hrefused.symm (hother _ rfl)
  | true =>
      by_cases hempty : store.inner.credentialCount = 0
      · simp only [unlock, hheld, hempty, Bool.not_true, Bool.false_eq_true, if_false,
          gt_iff_lt, lt_self_iff_false, false_and, if_true] at hrefused
        exact absurd rfl (hother error (provisionStore_error hrefused))
      · by_cases hall : allQuarantined store.inner = true
        · simp only [unlock, hheld, Bool.not_true, Bool.false_eq_true, if_false,
            if_pos (And.intro (Nat.pos_of_ne_zero hempty) hall), refuse, Except.error.injEq]
            at hrefused
          exact absurd hrefused.symm (hother _ rfl)
        · have hverifies : (authenticate libs password store disk).result = .error error := by
            simpa [unlock, hheld, hempty, hall] using hrefused
          cases hsealed : store.inner.sealedStore with
          | none =>
              simp only [authenticate, hsealed, refuse, Except.error.injEq] at hverifies
              exact absurd hverifies.symm (hother _ rfl)
          | some file =>
              cases huuid : store.inner.storeUuid with
              | none =>
                  simp only [authenticate, hsealed, huuid, refuse, Except.error.injEq] at hverifies
                  exact absurd hverifies.symm (hother _ rfl)
              | some uuid =>
                  cases hkeys : deriveKeys libs password file.kdf with
                  | error failure =>
                      simp only [authenticate, hsealed, huuid, hkeys, refuse, Except.error.injEq]
                        at hverifies
                      exact absurd hverifies.symm (hother _ (deriveKeys_error hkeys))
                  | ok keys =>
                      refine ⟨file, keys, hsealed, Nat.pos_of_ne_zero hempty, hkeys, ?_⟩
                      intro hmatch
                      have hequal : ctEq keys.verify.toList ((hexToVec file.verifier).getD []) =
                          true := ctEq_iff.mpr hmatch
                      simp only [authenticate, hsealed, huuid, hkeys, hequal, Bool.not_true,
                        Bool.false_eq_true, if_false, reduceCtorEq] at hverifies

/-- A successful unlock leaves the password in the session. -/
theorem session_of_unlocked {count : ℕ}
    (hunlocked : (unlock libs password attempt.random attempt.write store disk).result =
      .ok count) :
    (unlock libs password attempt.random attempt.write store disk).store.inner.session.map
      (·.password) = some password := by
  rcases unlock_cases libs password attempt.random attempt.write store disk with
    ⟨error, hrefused⟩ | ⟨params, keys, uuid, -, ⟨error, -, hfailed⟩ | ⟨-, hprovisioned⟩⟩ |
    ⟨file, uuid, keys, unlocked, -, -, hauthenticated⟩
  · rw [hrefused] at hunlocked
    cases hunlocked
  · rw [hfailed] at hunlocked
    cases hunlocked
  · rw [hprovisioned]
    rfl
  · rw [hauthenticated]
    rfl

/-- Unlocking a store with credentials leaves its header alone. -/
theorem header_of_unlock (hcount : 0 < store.inner.credentialCount) :
    let reply := unlock libs password attempt.random attempt.write store disk
    reply.store.inner.sealedStore = store.inner.sealedStore ∧ reply.disk = disk := by
  rcases unlock_cases libs password attempt.random attempt.write store disk with
    ⟨error, hrefused⟩ | ⟨params, keys, uuid, hprovisions, -⟩ |
    ⟨file, uuid, keys, unlocked, -, -, hauthenticated⟩
  · rw [hrefused]
    exact ⟨rfl, rfl⟩
  · exact absurd hprovisions.empty hcount.ne'
  · rw [hauthenticated]
    exact ⟨rfl, rfl⟩

/-! ## What the walk may do -/

/-- Nobody keyed the store: it is unprovisioned, there is no secret file, read
or not, and the keychain did not answer an item. -/
structure Fresh (env : Surroundings) (home : Home) : Prop where
  unprovisioned : home.store.inner.sealedStore = none
  noFile : home.secret = .absent
  noItem : ∀ payload, env.keychain ≠ .ok (some payload)

/-- What may be done after `earlier`, from `start` on: a password is tried that
the file or the keychain holds, or that was just written to the file; the file
is moved aside once the store refused its password; a secret is drawn or written
for a store that nobody keyed. -/
def Permitted (libs : Libraries) (env : Surroundings) (start : Home)
    (earlier : List (Run.Event Home Action Answer)) (event : Run.Event Home Action Answer) : Prop :=
  match event.input with
  | .unlock password =>
      (readFileSecret start.secret).1 = some password ∨
      (∃ note, readKeychainSecret env.keychain = .ok (some password, note)) ∨
      ∃ front before, earlier = front ++ [⟨before, .writeSecret password, .written (.ok ())⟩] ∧
        event.before.secret = .text password
  | .moveAside =>
      ∃ password error file keys,
        earlier = [⟨start, .unlock password, .unlocked (.error error)⟩] ∧
        error.kind = .badPassword ∧ (readFileSecret start.secret).1 = some password ∧
        Rejects libs start.store password file keys
  | .generate => Fresh env start
  | .writeSecret _ => Fresh env start

/-- Each step of a walk is permitted after the ones before it. -/
def AllPermitted (libs : Libraries) (env : Surroundings) (start : Home) :
    List (Run.Event Home Action Answer) → List (Run.Event Home Action Answer) → Prop
  | _, [] => True
  | earlier, event :: events =>
      Permitted libs env start earlier event ∧
        AllPermitted libs env start (earlier ++ [event]) events

/-- The header in memory and on disk is the one at the start. -/
structure SameHeader (start home : Home) : Prop where
  sealedStore : home.store.inner.sealedStore = start.store.inner.sealedStore
  disk : home.disk = start.disk

/-- A walk that keeps to its rules, continued from `earlier`. -/
structure Careful (libs : Libraries) (env : Surroundings) (start : Home)
    (earlier : List (Run.Event Home Action Answer)) (walk : Walk) : Prop where
  permitted : AllPermitted libs env start earlier walk.events
  session : ∀ count source secret, walk.result = .ok (count, source, secret) →
    walk.home.store.inner.session.map (·.password) = some secret
  header : 0 < start.store.inner.credentialCount →
    SameHeader start walk.home ∧ ∀ event ∈ walk.events, SameHeader start event.before

variable {start home : Home} {earlier : List (Run.Event Home Action Answer)}

/-- The header is followed through a walk only while there are credentials. -/
def HeaderKept (start home : Home) : Prop :=
  0 < start.store.inner.credentialCount → SameHeader start home

theorem careful_refused {error : ApiError} (hheader : HeaderKept start home) :
    Careful libs env start earlier (finish (.error error) home) where
  permitted := trivial
  session := fun _ _ _ hresult => by cases hresult
  header := fun hcount => ⟨hheader hcount, fun _ hevent => by cases hevent⟩

theorem careful_after {event : Run.Event Home Action Answer} {walk : Walk}
    (hpermitted : Permitted libs env start earlier event)
    (hheader : HeaderKept start event.before)
    (hwalk : Careful libs env start (earlier ++ [event]) walk) :
    Careful libs env start earlier (walk.after event) where
  permitted := ⟨hpermitted, hwalk.permitted⟩
  session := hwalk.session
  header := by
    intro hcount
    obtain ⟨hhome, hevents⟩ := hwalk.header hcount
    refine ⟨hhome, fun other hother => ?_⟩
    rcases List.mem_cons.mp hother with rfl | hother
    · exact hheader hcount
    · exact hevents other hother

/-- A reply of `unlock` leaves the header that was there. -/
theorem headerKept_unlock (hheader : HeaderKept start home) :
    let reply := unlock libs password attempt.random attempt.write home.store home.disk
    HeaderKept start { home with store := reply.store, disk := reply.disk } := by
  intro reply hcount
  have hsame := hheader hcount
  have hpositive : 0 < home.store.inner.credentialCount := by
    rw [Inner.credentialCount, hsame.sealedStore]
    exact hcount
  obtain ⟨hsealed, hdisk⟩ := @header_of_unlock libs home.store home.disk password attempt hpositive
  exact ⟨hsealed.trans hsame.sealedStore, hdisk.trans hsame.disk⟩

/-- The header is no part of the secret file. -/
theorem headerKept_secret (hheader : HeaderKept start home) (secret : SecretFile) :
    HeaderKept start { home with secret } :=
  fun hcount => ⟨(hheader hcount).sealedStore, (hheader hcount).disk⟩

/-- The unlock that ends a walk. -/
theorem careful_lastUnlock {source : String}
    (hpermitted : ∀ answer,
      Permitted libs env start earlier ⟨home, .unlock password, answer⟩)
    (hheader : HeaderKept start home) :
    Careful libs env start earlier
      (tryUnlock libs attempt password home (unlockedReply source password)) := by
  refine careful_after (hpermitted _) hheader ?_
  have hkept := @headerKept_unlock libs password attempt start home hheader
  cases hresult : (unlock libs password attempt.random attempt.write home.store home.disk).result with
  | error error => exact careful_refused hkept
  | ok count =>
      refine ⟨trivial, fun count' source' secret hok => ?_, fun hcount =>
        ⟨hkept hcount, fun _ hevent => by cases hevent⟩⟩
      have hsecret : password = secret := congrArg (·.2.2) (Except.ok.inj hok)
      rw [← hsecret]
      exact session_of_unlocked hresult

/-- A new secret is drawn for a fresh store, and tried only once its write
succeeded. -/
theorem careful_createSecret (hfresh : Fresh env start) (hheader : HeaderKept start home) :
    Careful libs env start earlier (createSecret libs env home) := by
  cases hentropy : env.entropy with
  | error error =>
      simp only [createSecret, hentropy]
      exact careful_after hfresh hheader (careful_refused hheader)
  | ok raw =>
      simp only [createSecret, hentropy]
      refine careful_after hfresh hheader (careful_after hfresh hheader ?_)
      cases hwrite : env.secretWrite with
      | failed landed error => exact careful_refused (headerKept_secret hheader _)
      | ok =>
          refine careful_lastUnlock (fun _ => ?_) (headerKept_secret hheader _)
          exact .inr (.inr ⟨_, _, rfl, rfl⟩)

theorem careful_withoutSecret {rejectedFile : Option ApiError}
    {fileNote keychainNote : Option String}
    (hfresh : rejectedFile = none → home.store.inner.sealedStore = none → fileNote = none →
      Fresh env start)
    (hheader : HeaderKept start home) :
    Careful libs env start earlier
      (withoutSecret libs env rejectedFile fileNote keychainNote home) := by
  cases rejectedFile with
  | some error => exact careful_refused hheader
  | none =>
      cases hsealed : home.store.inner.sealedStore with
      | some file =>
          simp only [withoutSecret, isProvisioned, hsealed, Option.isSome_some, if_true]
          exact careful_refused hheader
      | none =>
          cases fileNote with
          | some note =>
              simp only [withoutSecret, isProvisioned, hsealed, Option.isSome_none,
                Bool.false_eq_true, if_false, Option.isSome_some, if_true]
              exact careful_refused hheader
          | none =>
              simp only [withoutSecret, isProvisioned, hsealed, Option.isSome_none,
                Bool.false_eq_true, if_false]
              exact careful_createSecret (hfresh rfl hsealed rfl) hheader

/-- An item that decodes was found. -/
theorem noItem_of_none {note : Option String}
    (hread : readKeychainSecret env.keychain = .ok (none, note)) :
    ∀ payload, env.keychain ≠ .ok (some payload) := by
  intro payload hitem
  rw [hitem] at hread
  simp only [readKeychainSecret] at hread
  split at hread
  · cases hread
  · split at hread
    · cases hread
    · cases hread

theorem careful_keychainWalk {rejectedFile : Option ApiError} {fileNote : Option String}
    (hfresh : rejectedFile = none → home.store.inner.sealedStore = none → fileNote = none →
      start.store.inner.sealedStore = none ∧ start.secret = .absent)
    (hheader : HeaderKept start home) :
    Careful libs env start earlier (keychainWalk libs env rejectedFile fileNote home) := by
  cases hread : readKeychainSecret env.keychain with
  | error error =>
      simp only [keychainWalk, hread]
      exact careful_refused hheader
  | ok found =>
      obtain ⟨password, keychainNote⟩ := found
      cases password with
      | some password =>
          simp only [keychainWalk, hread]
          exact careful_lastUnlock (fun _ => .inr (.inl ⟨keychainNote, hread⟩)) hheader
      | none =>
          simp only [keychainWalk, hread]
          refine careful_withoutSecret (fun hrejected hsealed hnote => ?_) hheader
          obtain ⟨hunprovisioned, habsent⟩ := hfresh hrejected hsealed hnote
          exact ⟨hunprovisioned, habsent, noItem_of_none hread⟩

/-- A file without a secret and without a note is not there. -/
theorem absent_of_no_note {secret : SecretFile} (hread : readFileSecret secret = (none, none)) :
    secret = .absent := by
  cases secret with
  | absent => rfl
  | unreadable error => cases hread
  | text raw =>
      simp only [readFileSecret] at hread
      split at hread
      · cases hread
      · cases hread

theorem careful_autoUnlockCore (libs : Libraries) (env : Surroundings) (start : Home) :
    Careful libs env start [] (autoUnlockCore libs env start) := by
  have hheader : HeaderKept start start := fun _ => ⟨rfl, rfl⟩
  cases hread : readFileSecret start.secret with
  | mk fileSecret fileNote =>
      cases fileSecret with
      | none =>
          simp only [autoUnlockCore, hread]
          refine careful_keychainWalk (fun _ hsealed hnote => ⟨hsealed, ?_⟩) hheader
          subst hnote
          exact absent_of_no_note hread
      | some password =>
          simp only [autoUnlockCore, hread]
          have hfile : (readFileSecret start.secret).1 = some password := by rw [hread]
          refine careful_after (.inl hfile) hheader ?_
          have hkept := @headerKept_unlock libs password env.fileUnlock start start hheader
          cases hresult : (unlock libs password env.fileUnlock.random env.fileUnlock.write
              start.store start.disk).result with
          | ok count =>
              refine ⟨trivial, fun count' source secret hok => ?_, fun hcount =>
                ⟨hkept hcount, fun _ hevent => by cases hevent⟩⟩
              have hsecret : password = secret := congrArg (·.2.2) (Except.ok.inj hok)
              rw [← hsecret]
              exact session_of_unlocked hresult
          | error error =>
              by_cases hkind : error.kind = .badPassword
              · simp only [hkind, if_true]
                obtain ⟨file, keys, hrejects⟩ := rejects_of_badPassword hresult hkind
                refine careful_after ⟨password, error, file, keys, rfl, hkind, hfile, hrejects⟩
                  hkept ?_
                exact careful_keychainWalk (fun hnone => by cases hnone)
                  (headerKept_secret hkept _)
              · simp only [hkind, if_false]
                exact careful_refused hkept

theorem permitted_of_all {events : List (Run.Event Home Action Answer)}
    (hall : AllPermitted libs env start earlier events) {before after : List _}
    {event : Run.Event Home Action Answer} (hevents : events = before ++ event :: after) :
    Permitted libs env start (earlier ++ before) event := by
  induction events generalizing earlier before with
  | nil => simp at hevents
  | cons first events ih =>
      cases before with
      | nil =>
          obtain ⟨rfl, -⟩ := List.cons.inj hevents
          simpa using hall.1
      | cons second before =>
          obtain ⟨rfl, hrest⟩ := List.cons.inj hevents
          simpa using ih hall.2 hrest

/-- Auto-unlock never takes over a store.  Each step of its walk is permitted
after the ones before it, the header of a store that holds credentials is the
same throughout, and a success leaves the returned secret as the session's
password. -/
theorem auto_unlock_never_takes_over (libs : Libraries) (env : Surroundings) (start : Home) :
    (∀ earlier event later,
      (autoUnlockCore libs env start).events = earlier ++ event :: later →
        Permitted libs env start earlier event) ∧
    (0 < start.store.inner.credentialCount →
      SameHeader start (autoUnlockCore libs env start).home ∧
        ∀ event ∈ (autoUnlockCore libs env start).events, SameHeader start event.before) ∧
    (∀ count source secret,
      (autoUnlockCore libs env start).result = .ok (count, source, secret) →
        (autoUnlockCore libs env start).home.store.inner.session.map (·.password) =
          some secret) := by
  have hcareful := careful_autoUnlockCore libs env start
  refine ⟨fun earlier event later hevents => ?_, hcareful.header, hcareful.session⟩
  simpa using permitted_of_all hcareful.permitted hevents

end LogosRln.Keychain
