import LogosRln.Core.Run
import LogosRln.Registry.ChainReads

/-!
# The network of a wallet home

A wallet home is configured once.  Two files say where it points: the config the
wallet opens, and a marker that names the network.  Which network that is comes
from the environment at bring-up or from the first consumer that names one; a
process can fail at every write and stop between any two of them.
-/

namespace LogosRln.Registry.Home

open RegistryId Json Chain Run

/-! ## Homes and bindings -/

/-- Who decided which network a home talks to. -/
inductive Source where
  | table
  | env
  deriving DecidableEq

def Source.asStr : Source → String
  | .table => "table"
  | .env => "env"

/-- What a home is known to be pointed at. -/
inductive Binding where
  | operator
  | recorded (network : String) (source : Source)
  deriving DecidableEq

/-- The files of a home: `wallet_config.json` and `network.json`. -/
structure HomeFiles where
  config : Option String := none
  marker : Option String := none
  deriving DecidableEq

/-- The environment `plan_home` reads, trimmed; the network is lowercased. -/
structure EnvView where
  sequencer : String
  network : String

def EnvView.fromEnv (sequencer network : Option String) : EnvView where
  sequencer := trimmed (sequencer.getD "")
  network := asciiLower (trimmed (network.getD ""))

/-- How bring-up should treat a home. -/
inductive Plan where
  | adopt (binding : Binding)
  | provision (sequencer : String) (binding : Binding)
  | awaitSelection
  | failed (reason : String)
  deriving DecidableEq

def networkNamed (networks : List Network) (reference : String) : Option Network :=
  networks.find? fun network => network.reference = reference

def unknownNetwork (networks : List Network) (reference : String) : String :=
  s!"unknown network '{reference}' (known: " ++
    String.intercalate ", " (networks.map Network.reference) ++
    "); set LEZ_RLN_SEQUENCER or LEE_WALLET_HOME_DIR"

def configPath (home : String) : String := home ++ "/wallet_config.json"
def markerPath (home : String) : String := home ++ "/network.json"

/-- The `Debug` text of an optional string. -/
def debugText : Option String → String
  | none => "None"
  | some text => "Some(\"" ++ text ++ "\")"

/-- A marker that exists and does not parse is an error.  A read can also fail. -/
def readMarker (serde : Serde) (home : String) (readError : Option String) (files : HomeFiles) :
    Except String (Option Binding) :=
  match readError with
  | some error => .error s!"read {markerPath home}: {error}"
  | none =>
      match files.marker with
      | none => .ok none
      | some raw =>
          match serde.fromStr raw with
          | .error error => .error s!"{markerPath home} is not JSON: {error}"
          | .ok doc =>
              let network := ((doc.get "network").bind Value.asStr).getD ""
              match (doc.get "source").bind Value.asStr with
              | some "table" => named network .table
              | some "env" => named network .env
              | other => .error (markerPath home ++ ": unknown source " ++ debugText other)
where
  named (network : String) (source : Source) : Except String (Option Binding) :=
    if network = "" then .error s!"{markerPath home} names no network"
    else .ok (some (.recorded network source))

def planHome (serde : Serde) (networks : List Network) (home : String) (readError : Option String)
    (files : HomeFiles) (env : EnvView) : Plan :=
  if files.config.isSome then
    match readMarker serde home readError files with
    | .ok binding => .adopt (binding.getD .operator)
    | .error error => .failed error
  else if env.sequencer ≠ "" then
    .provision env.sequencer
      (if env.network = "" then .operator else .recorded env.network .env)
  else if env.network ≠ "" then
    match networkNamed networks env.network with
    | some network => .provision network.sequencer (.recorded network.reference .table)
    | none => .failed ("LEZ_RLN_NETWORK: " ++ unknownNetwork networks env.network)
  else .awaitSelection

/-! ## Writing a home -/

/-- A file operation is done, is refused, or the process stops before it. -/
inductive Outcome where
  | done
  | refused (error : String)
  | stopped
  deriving DecidableEq

/-- A file is written beside its place and renamed into it. -/
structure AtomicIo where
  write : Outcome := .done
  rename : Outcome := .done

structure ProvisionIo where
  createDir : Outcome := .done
  marker : AtomicIo := {}
  removeMarker : Outcome := .done
  config : AtomicIo := {}

/-- How a sequence of file operations ends. -/
inductive Finish where
  | ok
  | failed (error : String)
  | stopped
  deriving DecidableEq

/-- One operation, and the files it leaves if it is done. -/
def attempt (outcome : Outcome) (describe : String → String) (files written : HomeFiles) :
    HomeFiles × Finish :=
  match outcome with
  | .done => (written, .ok)
  | .refused error => (files, .failed (describe error))
  | .stopped => (files, .stopped)

/-- The next operations run once the first ones are done. -/
def andThen (first : HomeFiles × Finish) (next : HomeFiles → HomeFiles × Finish) :
    HomeFiles × Finish :=
  match first.2 with
  | .ok => next first.1
  | .failed error => (first.1, .failed error)
  | .stopped => (first.1, .stopped)

def writeAtomic (io : AtomicIo) (path : String) (files written : HomeFiles) :
    HomeFiles × Finish :=
  andThen (attempt io.write (fun error => s!"write {path}.tmp: {error}") files files)
    fun files => attempt io.rename (fun error => s!"rename to {path}: {error}") files written

def walletConfig (sequencer : String) : Value :=
  .object [("gas_limit", .uint 10000000),
    ("multi_sequencer_client_config",
      .object [("calibration_limit", .uint 3), ("distribution_limit", .uint 1)]),
    ("seq_block_poll_max_amount", .uint 100),
    ("seq_poll_max_retries", .uint 10),
    ("seq_poll_timeout", .str "30s"),
    ("seq_tx_poll_max_blocks", .uint 15),
    ("sequencer", .object [("sequencer_addr", .str sequencer)]),
    ("sequencer_addr", .str sequencer),
    ("sequencers", .array [.object [("sequencer_addr", .str sequencer)]])]

def walletConfigJson (serde : Serde) (sequencer : String) : String :=
  serde.toString (walletConfig sequencer)

def markerJson (serde : Serde) (network : String) (source : Source) : String :=
  serde.toString (.object [("network", .str network), ("source", .str source.asStr)])

/-- The marker goes first: stopped between the two, a home has a marker without a
config, which the next start ignores. -/
def provisionHome (serde : Serde) (io : ProvisionIo) (home : String) (files : HomeFiles)
    (sequencer : String) (binding : Binding) : HomeFiles × Finish :=
  andThen (attempt io.createDir (fun error => s!"create {home}: {error}") files files)
    fun files =>
      andThen
        (match binding with
          | .recorded network source =>
              writeAtomic io.marker (markerPath home) files
                { files with marker := some (markerJson serde network source) }
          | .operator =>
              if files.marker.isNone then (files, .ok)
              else attempt io.removeMarker (fun error => s!"remove {markerPath home}: {error}")
                files { files with marker := none })
        fun files => writeAtomic io.config (configPath home) files
          { files with config := some (walletConfigJson serde sequencer) }

/-! ## Selection -/

/-- Where network selection stands. -/
inductive Selection where
  | unresolved
  | awaiting (home : String)
  | bound (home : String) (binding : Binding)
  | failed (reason : String)
  deriving DecidableEq

structure NetworkReply where
  accepted : Bool
  detail : String
  network : String
  retry : Bool
  source : String
  deriving DecidableEq

def NetworkReply.refused (detail network : String) : NetworkReply :=
  ⟨false, detail, network, false, ""⟩

/-- A process with the disk it runs on.  `written` is what this module wrote into a
home's config, and `started` the homes whose bring-up this process has started. -/
structure World where
  disk : String → HomeFiles
  selection : Selection := .unresolved
  bringUpStarted : Bool := false
  started : List String := []
  written : String → Option (String × Binding) := fun _ => none

/-- What the outside does to a call. -/
structure CallIo where
  markerRead : Option String := none
  provision : ProvisionIo := {}
  /-- The bring-up thread could be spawned. -/
  spawned : Bool := true

variable (serde : Serde) (networks : List Network)

/-- The process is gone; the disk stays. -/
def World.restarted (world : World) : World where
  disk := world.disk
  written := world.written

def World.withFiles (home : String) (files : HomeFiles) (world : World) : World :=
  { world with disk := Function.update world.disk home files }

/-- A home this module has just configured. -/
def World.provisioned (home sequencer : String) (binding : Binding) (world : World) : World :=
  { world with
    selection := .bound home binding
    written := Function.update world.written home (some (sequencer, binding)) }

/-- One bring-up per process, unless its thread cannot be spawned. -/
def startBringUp (io : CallIo) (home : String) (world : World) : World :=
  if world.bringUpStarted || !io.spawned then world
  else { world with bringUpStarted := true, started := home :: world.started }

/-- Record a plan's outcome and act on it; `none` when the process stopped on the
way. -/
def applyPlan (io : CallIo) (home : String) (plan : Plan) (world : World) :
    World × Option Finish :=
  match plan with
  | .adopt binding =>
      (startBringUp io home { world with selection := .bound home binding }, some .ok)
  | .provision sequencer binding =>
      let provisioned := provisionHome serde io.provision home (world.disk home) sequencer binding
      let after := world.withFiles home provisioned.1
      match provisioned.2 with
      | .ok =>
          (startBringUp io home (after.provisioned home sequencer binding), some .ok)
      | .failed error => ({ after with selection := .failed error }, some (.failed error))
      | .stopped => (after.restarted, none)
  | .awaitSelection => ({ world with selection := .awaiting home }, some .ok)
  | .failed reason => ({ world with selection := .failed reason }, some (.failed reason))

def answerBound (home : String) (binding : Binding) (reference : String) : NetworkReply :=
  match binding with
  | .operator =>
      ⟨true, "operator-configured home; the network is not checked", reference, false, "operator"⟩
  | .recorded network source =>
      if network = reference then ⟨true, "", network, false, source.asStr⟩
      else .refused (s!"wallet home {home} is bound to network {network}; refusing to re-point " ++
        s!"it to {reference}") network

/-- The answer once selection has been decided again. -/
def answerDecided (selection : Selection) (reference : String) : NetworkReply :=
  match selection with
  | .bound home binding => answerBound home binding reference
  | .failed reason => .refused s!"the wallet cannot come up: {reason}" ""
  | .unresolved | .awaiting _ => .refused "the wallet home changed under selection" ""

/-- A CAIP-2 reference as it is compared. -/
def normalized (reference : String) : String := asciiLower (trimmed reference)

/-- `use_network`: `none` when the process stopped on the way. -/
def useNetwork (io : CallIo) (reference : String) (world : World) : World × Option NetworkReply :=
  let reference := normalized reference
  match world.selection with
  | .unresolved => (world, some ⟨false, "the wallet home is not resolved yet", "", true, ""⟩)
  | .failed reason => (world, some (.refused s!"the wallet cannot come up: {reason}" ""))
  | .bound home binding => (world, some (answerBound home binding reference))
  | .awaiting home =>
      if (world.disk home).config.isSome then
        let applied := applyPlan serde io home
          (planHome serde networks home io.markerRead (world.disk home) ⟨"", ""⟩) world
        (applied.1, applied.2.map fun _ => answerDecided applied.1.selection reference)
      else
        match networkNamed networks reference with
        | none => (world, some (.refused (unknownNetwork networks reference) ""))
        | some network =>
            let applied := applyPlan serde io home
              (.provision network.sequencer (.recorded network.reference .table)) world
            (applied.1, applied.2.map fun finish =>
              match finish with
              | .failed error => .refused error ""
              | .ok | .stopped => ⟨true, "", network.reference, false, "table"⟩)

def homeOf (homeEnv : Option String) (persistencePath : String) : Option String :=
  match homeEnv with
  | some dir =>
      if trimmed dir ≠ "" then some (trimmed dir)
      else if persistencePath = "" then none
      else some (persistencePath ++ "/wallet-home")
  | none =>
      if persistencePath = "" then none
      else some (persistencePath ++ "/wallet-home")

/-- What a process is started with. -/
structure Environment where
  home : Option String := none
  sequencer : Option String := none
  network : Option String := none

def spawnBringUp (io : CallIo) (env : Environment) (persistencePath : String) (world : World) :
    World :=
  match world.selection with
  | .unresolved =>
      match homeOf env.home persistencePath with
      | none =>
          { world with selection := .failed ("no instance_persistence_path from the host and " ++
              "no LEE_WALLET_HOME_DIR — the wallet has nowhere to live") }
      | some home =>
          (applyPlan serde io home (planHome serde networks home io.markerRead (world.disk home)
            (EnvView.fromEnv env.sequencer env.network)) world).1
  | .awaiting _ | .bound _ _ | .failed _ => world

/-- The network the home is recorded as bound to. -/
def boundNetwork (world : World) : Option String :=
  match world.selection with
  | .bound _ (.recorded network _) => some network
  | _ => none

/-- The sequencer a config names, in the shapes an adopted home may carry. -/
def sequencerOfConfig (serde : Serde) (raw : String) : Option String := do
  let config ← (serde.fromStr raw).toOption
  let nested := (config.get "sequencer").bind (Value.get "sequencer_addr")
  let listed := (config.get "sequencers").bind fun sequencers =>
    sequencers.asArray.bind fun items => items.head?.bind (Value.get "sequencer_addr")
  let addr ← ((nested.or listed).or (config.get "sequencer_addr")).bind Value.asStr
  if trimmed addr = "" then none else some (trimmed addr)

/-- Read from the file, so it answers while bring-up is still opening the wallet. -/
def sequencerAddr (serde : Serde) (world : World) : Option String :=
  match world.selection with
  | .bound home _ => (world.disk home).config.bind (sequencerOfConfig serde)
  | _ => none

inductive Input where
  | spawnBringUp (io : CallIo) (env : Environment) (persistencePath : String)
  | useNetwork (io : CallIo) (reference : String)
  | restart

def step (world : World) : Input → World × Option NetworkReply
  | .spawnBringUp io env persistencePath =>
      (spawnBringUp serde networks io env persistencePath world, none)
  | .useNetwork io reference => useNetwork serde networks io reference world
  | .restart => (world.restarted, none)

@[simp]
theorem disk_withFiles_self (home : String) (files : HomeFiles) (world : World) :
    (world.withFiles home files).disk home = files := Function.update_self _ _ _

theorem disk_withFiles_of_ne {home other : String} (hother : other ≠ home) (files : HomeFiles)
    (world : World) : (world.withFiles home files).disk other = world.disk other :=
  Function.update_of_ne hother _ _

@[simp]
theorem written_provisioned_self (home sequencer : String) (binding : Binding) (world : World) :
    (world.provisioned home sequencer binding).written home = some (sequencer, binding) :=
  Function.update_self _ _ _

theorem written_provisioned_of_ne {home other : String} (hother : other ≠ home)
    (sequencer : String) (binding : Binding) (world : World) :
    (world.provisioned home sequencer binding).written other = world.written other :=
  Function.update_of_ne hother _ _

/-! ## What a write leaves -/

variable {serde networks}

/-- The files of a home this module has configured. -/
def configured (serde : Serde) (sequencer : String) (binding : Binding) : HomeFiles where
  config := some (walletConfigJson serde sequencer)
  marker :=
    match binding with
    | .operator => none
    | .recorded network source => some (markerJson serde network source)

/-- What a home's files say it is bound to. -/
def bindingOf (serde : Serde) (home : String) (files : HomeFiles) : Except String Binding :=
  (readMarker serde home none files).map fun binding => binding.getD .operator

theorem attempt_cases (outcome : Outcome) (describe : String → String)
    (files written : HomeFiles) :
    attempt outcome describe files written = (written, .ok) ∨
      ∃ finish, finish ≠ .ok ∧ attempt outcome describe files written = (files, finish) := by
  cases outcome with
  | done => exact .inl rfl
  | refused error => exact .inr ⟨.failed (describe error), by simp, rfl⟩
  | stopped => exact .inr ⟨.stopped, by simp, rfl⟩

theorem andThen_ok {first : HomeFiles × Finish} {next : HomeFiles → HomeFiles × Finish}
    (hfirst : first.2 = .ok) : andThen first next = next first.1 := by
  simp [andThen, hfirst]

theorem andThen_other {first : HomeFiles × Finish} {next : HomeFiles → HomeFiles × Finish}
    (hfirst : first.2 ≠ .ok) : andThen first next = first := by
  obtain ⟨files, finish⟩ := first
  cases finish with
  | ok => exact absurd rfl hfirst
  | failed error => rfl
  | stopped => rfl

theorem writeAtomic_cases (io : AtomicIo) (path : String) (files written : HomeFiles) :
    writeAtomic io path files written = (written, .ok) ∨
      ∃ finish, finish ≠ .ok ∧ writeAtomic io path files written = (files, finish) := by
  rw [writeAtomic]
  rcases attempt_cases io.write (fun error => s!"write {path}.tmp: {error}") files files with
    hdone | ⟨finish, hfinish, hwrite⟩
  · rw [hdone, andThen_ok rfl]
    exact attempt_cases _ _ _ _
  · rw [hwrite, andThen_other hfinish]
    exact .inr ⟨finish, hfinish, rfl⟩

/-- A finished provisioning leaves a configured home; any other leaves the config
as it was. -/
theorem provisionHome_spec (serde : Serde) (io : ProvisionIo) (home : String) (files : HomeFiles)
    (sequencer : String) (binding : Binding) :
    provisionHome serde io home files sequencer binding =
        (configured serde sequencer binding, .ok) ∨
      ∃ after finish, finish ≠ .ok ∧ after.config = files.config ∧
        provisionHome serde io home files sequencer binding = (after, finish) := by
  rw [provisionHome]
  rcases attempt_cases io.createDir (fun error => s!"create {home}: {error}") files files with
    hdone | ⟨finish, hfinish, hcreate⟩
  · rw [hdone, andThen_ok rfl]
    cases binding with
    | recorded network source =>
        rcases writeAtomic_cases io.marker (markerPath home) files
            { files with marker := some (markerJson serde network source) } with
          hmarker | ⟨finish, hfinish, hmarker⟩
        · simp only [hmarker]
          rw [andThen_ok rfl]
          rcases writeAtomic_cases io.config (configPath home)
              { files with marker := some (markerJson serde network source) }
              ⟨some (walletConfigJson serde sequencer),
                some (markerJson serde network source)⟩ with
            hconfig | ⟨finish, hfinish, hconfig⟩
          · exact .inl hconfig
          · exact .inr ⟨{ files with marker := some (markerJson serde network source) }, finish,
              hfinish, rfl, hconfig⟩
        · simp only [hmarker]
          rw [andThen_other hfinish]
          exact .inr ⟨files, finish, hfinish, rfl, rfl⟩
    | operator =>
        have hremoved : (if files.marker.isNone then (files, Finish.ok)
              else attempt io.removeMarker (fun error => s!"remove {markerPath home}: {error}")
                files { files with marker := none }) =
              ({ files with marker := none }, .ok) ∨
            ∃ finish, finish ≠ .ok ∧ (if files.marker.isNone then (files, Finish.ok)
              else attempt io.removeMarker (fun error => s!"remove {markerPath home}: {error}")
                files { files with marker := none }) = (files, finish) := by
          split
          · next hnone =>
              rw [Option.isNone_iff_eq_none] at hnone
              exact .inl (by rw [← hnone])
          · exact attempt_cases _ _ _ _
        simp only
        rcases hremoved with hremoved | ⟨finish, hfinish, hremoved⟩
        · rw [hremoved, andThen_ok rfl]
          rcases writeAtomic_cases io.config (configPath home) { files with marker := none }
              ⟨some (walletConfigJson serde sequencer), none⟩ with
            hconfig | ⟨finish, hfinish, hconfig⟩
          · exact .inl hconfig
          · exact .inr ⟨{ files with marker := none }, finish, hfinish, rfl, hconfig⟩
        · rw [hremoved, andThen_other hfinish]
          exact .inr ⟨files, finish, hfinish, rfl, rfl⟩
  · rw [hcreate, andThen_other hfinish]
    exact .inr ⟨files, finish, hfinish, rfl, rfl⟩

/-- The marker of a configured home is read back. -/
theorem bindingOf_configured (hserde : Lawful serde) (home sequencer : String) {binding : Binding}
    (hnamed : ∀ network source, binding = .recorded network source → network ≠ "") :
    bindingOf serde home (configured serde sequencer binding) = .ok binding := by
  cases binding with
  | operator => rfl
  | recorded network source =>
      have hread := hserde.roundTrips
        (.object [("network", .str network), ("source", .str source.asStr)])
      have hnetwork : ((Value.object [("network", .str network),
          ("source", .str source.asStr)]).get "network").bind Value.asStr = some network := rfl
      have hsource : ((Value.object [("network", .str network),
          ("source", .str source.asStr)]).get "source").bind Value.asStr = some source.asStr := rfl
      simp only [bindingOf, readMarker, configured, markerJson, hread, hnetwork, hsource,
        Option.getD_some]
      cases source <;>
        simp [Source.asStr, readMarker.named, hnamed network _ rfl, Except.map]

theorem sequencerOfConfig_walletConfigJson (hserde : Lawful serde) (sequencer : String) :
    sequencerOfConfig serde (walletConfigJson serde sequencer) =
      if trimmed sequencer = "" then none else some (trimmed sequencer) := by
  rw [sequencerOfConfig, walletConfigJson, hserde.roundTrips]
  rfl

/-! ## The invariant -/

structure Consistent (serde : Serde) (networks : List Network) (world : World) : Prop where
  /-- A home whose config this module wrote is as it wrote it. -/
  written : ∀ home sequencer binding, world.written home = some (sequencer, binding) →
    world.disk home = configured serde sequencer binding
  /-- A home written for a table network has that network's sequencer. -/
  listed : ∀ home sequencer network,
    world.written home = some (sequencer, .recorded network .table) →
      ∃ listed ∈ networks, listed.reference = network ∧ listed.sequencer = sequencer
  /-- A home is bound to what its files say. -/
  bound : ∀ home binding, world.selection = .bound home binding →
    (world.disk home).config.isSome ∧ bindingOf serde home (world.disk home) = .ok binding
  /-- Bring-up is of the bound home, and was started once at most. -/
  startedOnce : world.started.length ≤ 1
  startedBound : ∀ home ∈ world.started, ∃ binding, world.selection = .bound home binding

/-- What a plan must fulfil before it is applied to a home. -/
def Fits (serde : Serde) (networks : List Network) (home : String) (files : HomeFiles) :
    Plan → Prop
  | .adopt binding => files.config.isSome ∧ bindingOf serde home files = .ok binding
  | .provision sequencer binding => files.config = none ∧
      (∀ network source, binding = .recorded network source → network ≠ "") ∧
      ∀ network, binding = .recorded network .table →
        ∃ listed ∈ networks, listed.reference = network ∧ listed.sequencer = sequencer
  | .awaitSelection => True
  | .failed _ => True

theorem networkNamed_spec {reference : String} {network : Network}
    (hfound : networkNamed networks reference = some network) :
    network ∈ networks ∧ network.reference = reference := by
  exact ⟨List.mem_of_find?_eq_some hfound, by simpa using List.find?_some hfound⟩

theorem fits_planHome (home : String) (readError : Option String) (files : HomeFiles)
    (env : EnvView) :
    Fits serde networks home files (planHome serde networks home readError files env) := by
  rw [planHome]
  split
  · next hconfig =>
      cases hread : readMarker serde home readError files with
      | error error => trivial
      | ok binding =>
          cases readError with
          | some error => simp [readMarker] at hread
          | none => exact ⟨hconfig, by rw [bindingOf, hread]; rfl⟩
  · next hconfig =>
      have hnone : files.config = none := by simpa using hconfig
      split
      · refine ⟨hnone, fun network source hbinding => ?_, fun network hbinding => ?_⟩
        · split at hbinding
          · cases hbinding
          · next hnetwork =>
              cases hbinding
              exact hnetwork
        · split at hbinding <;> cases hbinding
      · split
        · next hnetwork =>
            cases hfound : networkNamed networks env.network with
            | none => trivial
            | some network =>
                obtain ⟨hmem, href⟩ := networkNamed_spec hfound
                refine ⟨hnone, fun named source hbinding => ?_, fun named hbinding => ?_⟩
                · cases hbinding
                  rw [href]
                  exact hnetwork
                · cases hbinding
                  exact ⟨network, hmem, rfl, rfl⟩
        · trivial

theorem disk_startBringUp (io : CallIo) (home : String) (world : World) :
    (startBringUp io home world).disk = world.disk := by
  simp only [startBringUp]
  split <;> rfl

/-- Starting the bring-up of a home that has just been bound. -/
theorem consistent_startBringUp {io : CallIo} {home : String} {binding : Binding} {world : World}
    (hconsistent : Consistent serde networks world) (hbound : world.selection = .bound home binding)
    (hstarted : world.started = []) :
    Consistent serde networks (startBringUp io home world) := by
  simp only [startBringUp]
  split
  · exact hconsistent
  · refine ⟨hconsistent.written, hconsistent.listed, hconsistent.bound, by simp [hstarted], ?_⟩
    intro started hmem
    simp only [hstarted, List.mem_singleton] at hmem
    subst hmem
    exact ⟨binding, hbound⟩

/-- Applying a fitting plan to a home while none is bound. -/
theorem consistent_applyPlan (hserde : Lawful serde) {io : CallIo} {home : String} {plan : Plan}
    {world : World} (hconsistent : Consistent serde networks world)
    (hunbound : ∀ home binding, world.selection ≠ .bound home binding)
    (hfits : Fits serde networks home (world.disk home) plan) :
    Consistent serde networks (applyPlan serde io home plan world).1 := by
  have hstarted : world.started = [] := by
    cases hhomes : world.started with
    | nil => rfl
    | cons started rest =>
        obtain ⟨binding, hbound⟩ := hconsistent.startedBound started (by simp [hhomes])
        exact absurd hbound (hunbound _ _)
  cases plan with
  | adopt binding =>
      refine @consistent_startBringUp serde networks io home binding _ ⟨hconsistent.written,
        hconsistent.listed, fun other bound hbound => ?_, by simp [hstarted],
        by simp [hstarted]⟩ rfl hstarted
      cases hbound
      exact hfits
  | awaitSelection =>
      exact ⟨hconsistent.written, hconsistent.listed, (fun _ _ hbound => by cases hbound),
        by simp [applyPlan, hstarted], by simp [applyPlan, hstarted]⟩
  | failed reason =>
      exact ⟨hconsistent.written, hconsistent.listed, (fun _ _ hbound => by cases hbound),
        by simp [applyPlan, hstarted], by simp [applyPlan, hstarted]⟩
  | provision sequencer binding =>
      obtain ⟨hconfig, hnamed, hlisted⟩ := hfits
      have hunwritten : world.written home = none := by
        cases hwritten : world.written home with
        | none => rfl
        | some wrote =>
            rw [hconsistent.written home wrote.1 wrote.2 hwritten] at hconfig
            cases hconfig
      have hkept : ∀ files other sequencer binding,
          world.written other = some (sequencer, binding) →
            (world.withFiles home files).disk other = configured serde sequencer binding := by
        intro files other sequencer binding hwritten
        have hother : other ≠ home := by
          rintro rfl
          rw [hunwritten] at hwritten
          cases hwritten
        rw [disk_withFiles_of_ne hother]
        exact hconsistent.written other sequencer binding hwritten
      rcases provisionHome_spec serde io.provision home (world.disk home) sequencer binding with
        hdone | ⟨after, finish, hfinish, -, hstopped⟩
      · simp only [applyPlan, hdone]
        refine @consistent_startBringUp serde networks io home binding _ ⟨?_, ?_, ?_, by
          simp [World.provisioned, World.withFiles, hstarted], by
          simp [World.provisioned, World.withFiles, hstarted]⟩ rfl hstarted
        · intro other wrote bound hwritten
          by_cases hother : other = home
          · subst hother
            rw [written_provisioned_self, Option.some.injEq, Prod.mk.injEq] at hwritten
            obtain ⟨rfl, rfl⟩ := hwritten
            exact disk_withFiles_self _ _ _
          · rw [written_provisioned_of_ne hother] at hwritten
            exact hkept _ other wrote bound hwritten
        · intro other wrote network hwritten
          by_cases hother : other = home
          · subst hother
            rw [written_provisioned_self, Option.some.injEq, Prod.mk.injEq] at hwritten
            obtain ⟨rfl, hbinding⟩ := hwritten
            exact hlisted network hbinding
          · rw [written_provisioned_of_ne hother] at hwritten
            exact hconsistent.listed other wrote network hwritten
        · intro other bound hbound
          cases hbound
          have hfiles : ((world.withFiles home (configured serde sequencer binding)).provisioned
              home sequencer binding).disk home = configured serde sequencer binding :=
            disk_withFiles_self _ _ _
          exact ⟨by rw [hfiles]; rfl, by
            rw [hfiles]
            exact bindingOf_configured hserde home sequencer hnamed⟩
      · simp only [applyPlan, hstopped]
        cases finish with
        | ok => exact absurd rfl hfinish
        | failed error =>
            exact ⟨hkept after, hconsistent.listed, (fun _ _ hbound => by cases hbound),
              by simp [World.withFiles, hstarted], by simp [World.withFiles, hstarted]⟩
        | stopped =>
            exact ⟨hkept after, hconsistent.listed, (fun _ _ hbound => by cases hbound),
              by simp [World.restarted], by simp [World.restarted]⟩

/-- A fitting plan leaves every configured home as it is. -/
theorem applyPlan_keeps {io : CallIo} {home : String} {plan : Plan} {world : World}
    (hfits : Fits serde networks home (world.disk home) plan) {other : String}
    (hother : (world.disk other).config.isSome) :
    (applyPlan serde io home plan world).1.disk other = world.disk other := by
  cases plan with
  | adopt binding => rw [applyPlan, disk_startBringUp]
  | awaitSelection => rfl
  | failed reason => rfl
  | provision sequencer binding =>
      have hne : other ≠ home := by
        rintro rfl
        rw [hfits.1] at hother
        cases hother
      simp only [applyPlan]
      split
      · rw [disk_startBringUp]
        exact Function.update_of_ne hne _ _
      · exact Function.update_of_ne hne _ _
      · exact Function.update_of_ne hne _ _

/-! ## Steps -/

/-- The plan `use_network` applies to a home it finds unconfigured. -/
theorem fits_selected (hnamed : ∀ listed ∈ networks, listed.reference ≠ "") {reference : String}
    {network : Network} (hfound : networkNamed networks reference = some network) {home : String}
    {files : HomeFiles} (hconfig : files.config = none) :
    Fits serde networks home files
      (.provision network.sequencer (.recorded network.reference .table)) := by
  obtain ⟨hmem, -⟩ := networkNamed_spec hfound
  refine ⟨hconfig, fun named source hbinding => ?_, fun named hbinding => ?_⟩
  · cases hbinding
    exact hnamed network hmem
  · cases hbinding
    exact ⟨network, hmem, rfl, rfl⟩

/-- A step applies a fitting plan while no home is bound, restarts the process, or
leaves the world as it is but for a failed selection. -/
inductive Effect (serde : Serde) (networks : List Network) (world : World) : World → Prop where
  | same : Effect serde networks world world
  | noHome (reason : String) (hunresolved : world.selection = .unresolved) :
      Effect serde networks world { world with selection := .failed reason }
  | restarted : Effect serde networks world world.restarted
  | applied (io : CallIo) (home : String) (plan : Plan)
      (hunbound : ∀ home binding, world.selection ≠ .bound home binding)
      (hfits : Fits serde networks home (world.disk home) plan) :
      Effect serde networks world (applyPlan serde io home plan world).1

theorem effect_step (hnamed : ∀ listed ∈ networks, listed.reference ≠ "") (world : World)
    (input : Input) : Effect serde networks world (step serde networks world input).1 := by
  cases input with
  | restart => exact .restarted
  | spawnBringUp io env persistencePath =>
      simp only [step, spawnBringUp]
      cases hselection : world.selection with
      | unresolved =>
          cases homeOf env.home persistencePath with
          | none => exact .noHome _ hselection
          | some home =>
              exact .applied io home _ (fun _ _ hbound => by simp [hselection] at hbound)
                (fits_planHome home io.markerRead (world.disk home) _)
      | awaiting home => exact .same
      | bound home binding => exact .same
      | failed reason => exact .same
  | useNetwork io reference =>
      simp only [step, useNetwork]
      cases hselection : world.selection with
      | unresolved => exact .same
      | bound home binding => exact .same
      | failed reason => exact .same
      | awaiting home =>
          have hunbound : ∀ home binding, world.selection ≠ .bound home binding :=
            fun _ _ hbound => by simp [hselection] at hbound
          simp only
          split
          · exact .applied io home _ hunbound
              (fits_planHome home io.markerRead (world.disk home) ⟨"", ""⟩)
          · next hconfig =>
              cases hfound : networkNamed networks (normalized reference) with
              | none => exact .same
              | some network =>
                  exact .applied io home _ hunbound
                    (fits_selected hnamed hfound (by simpa using hconfig))

theorem Effect.consistent (hserde : Lawful serde) {world after : World}
    (heffect : Effect serde networks world after) (hconsistent : Consistent serde networks world) :
    Consistent serde networks after := by
  cases heffect with
  | same => exact hconsistent
  | noHome reason hunresolved =>
      refine ⟨hconsistent.written, hconsistent.listed, (fun _ _ hbound => by cases hbound),
        hconsistent.startedOnce, fun home hmem => ?_⟩
      obtain ⟨binding, hbound⟩ := hconsistent.startedBound home hmem
      rw [hunresolved] at hbound
      cases hbound
  | restarted =>
      exact ⟨hconsistent.written, hconsistent.listed, (fun _ _ hbound => by cases hbound),
        by simp [World.restarted], by simp [World.restarted]⟩
  | applied io home plan hunbound hfits =>
      exact consistent_applyPlan hserde hconsistent hunbound hfits

/-- No step touches the files of a home that has a config. -/
theorem Effect.keeps {world after : World} (heffect : Effect serde networks world after)
    {home : String} (hconfig : (world.disk home).config.isSome) :
    after.disk home = world.disk home := by
  cases heffect with
  | same => rfl
  | noHome reason hunresolved => rfl
  | restarted => rfl
  | applied io other plan hunbound hfits => exact applyPlan_keeps hfits hconfig

theorem run_keeps (hnamed : ∀ listed ∈ networks, listed.reference ≠ "") (inputs : List Input)
    (world : World) {home : String} (hconfig : (world.disk home).config.isSome) :
    (run (step serde networks) world inputs).disk home = world.disk home := by
  induction inputs generalizing world with
  | nil => rfl
  | cons input inputs ih =>
      have hkept := (@effect_step serde networks hnamed world input).keeps hconfig
      rw [run_cons, ih _ (by rw [hkept]; exact hconfig), hkept]

/-- What a `use_network` is answered, as far as its acceptance and its retry go. -/
structure Answered (event : Event World Input (Option NetworkReply)) : Prop where
  /-- A recorded home takes its own network and no other. -/
  bound : ∀ io reference home network source, event.input = .useNetwork io reference →
    event.before.selection = .bound home (.recorded network source) →
      ∃ reply, event.output = some reply ∧ (reply.accepted = true ↔ normalized reference = network)
  /-- Only a home that is not known yet is to be asked again. -/
  retry : ∀ io reference, event.input = .useNetwork io reference →
    ∀ reply, event.output = some reply →
      (reply.retry = true ↔ event.before.selection = .unresolved)

theorem retry_answerBound (home : String) (binding : Binding) (reference : String) :
    (answerBound home binding reference).retry = false := by
  cases binding with
  | operator => rfl
  | recorded network source =>
      simp only [answerBound]
      split <;> rfl

theorem answered_step (world : World) (input : Input) :
    Answered ⟨world, input, (step serde networks world input).2⟩ where
  bound := by
    rintro io reference home network source rfl hbound
    change world.selection = _ at hbound
    refine ⟨answerBound home (.recorded network source) (normalized reference), ?_, ?_⟩
    · simp only [step, useNetwork, hbound]
    · simp only [answerBound]
      split
      · next hsame => exact ⟨fun _ => hsame.symm, fun _ => rfl⟩
      · next hother =>
          exact ⟨(fun haccepted => by cases haccepted), fun hsame => absurd hsame.symm hother⟩
  retry := by
    rintro io reference rfl reply hreply
    change _ ↔ world.selection = _
    simp only [step, useNetwork] at hreply
    cases hselection : world.selection with
    | unresolved =>
        simp only [hselection, Option.some.injEq] at hreply
        subst hreply
        simp
    | failed reason =>
        simp only [hselection, Option.some.injEq] at hreply
        subst hreply
        simp [NetworkReply.refused]
    | bound home binding =>
        simp only [hselection, Option.some.injEq] at hreply
        subst hreply
        simp [retry_answerBound]
    | awaiting home =>
        simp only [hselection] at hreply
        simp only [reduceCtorEq, iff_false, Bool.not_eq_true]
        split at hreply
        · obtain ⟨finish, -, rfl⟩ := Option.map_eq_some_iff.mp hreply
          simp only [answerDecided]
          split
          · exact retry_answerBound _ _ _
          · rfl
          · rfl
          · rfl
        · split at hreply
          · obtain rfl := Option.some.inj hreply
            rfl
          · obtain ⟨finish, -, rfl⟩ := Option.map_eq_some_iff.mp hreply
            cases finish <;> rfl

/-- Over any calls, refused writes, stops and restarts: the files of a configured
home never change; a home this module wrote for a network of its table has that
network's config and marker, and reads that network's chain; a recorded home takes
its own network only; asking again is said of an unresolved home only; a process
starts one bring-up at most; and a home is bound to one network for good. -/
theorem home_never_repointed (hserde : Lawful serde)
    (hnamed : ∀ listed ∈ networks, listed.reference ≠ "") (disk : String → HomeFiles)
    (inputs : List Input) :
    (∀ event ∈ trace (step serde networks) { disk } inputs, Answered event ∧
      ∀ home, (event.before.disk home).config.isSome →
        (step serde networks event.before event.input).1.disk home = event.before.disk home) ∧
    (∀ home sequencer network,
      (run (step serde networks) { disk } inputs).written home =
          some (sequencer, .recorded network .table) →
        (run (step serde networks) { disk } inputs).disk home =
            ⟨some (walletConfigJson serde sequencer), some (markerJson serde network .table)⟩ ∧
          (∃ listed ∈ networks, listed.reference = network ∧ listed.sequencer = sequencer) ∧
          ∀ binding, (run (step serde networks) { disk } inputs).selection = .bound home binding →
            boundNetwork (run (step serde networks) { disk } inputs) = some network ∧
              sequencerAddr serde (run (step serde networks) { disk } inputs) =
                if trimmed sequencer = "" then none else some (trimmed sequencer)) ∧
    (run (step serde networks) { disk } inputs).started.length ≤ 1 ∧
    ∀ later home binding binding',
      (run (step serde networks) { disk } inputs).selection = .bound home binding →
      (run (step serde networks) { disk } (inputs ++ later)).selection = .bound home binding' →
        binding' = binding := by
  have hinitial : Consistent serde networks { disk } :=
    ⟨(fun _ _ _ hwritten => by cases hwritten),
      (fun _ _ _ hwritten => by cases hwritten),
      (fun _ _ hbound => by cases hbound), by simp, by simp⟩
  have hrun : ∀ inputs, Consistent serde networks (run (step serde networks) { disk } inputs) :=
    fun inputs => invariant_run (fun world input hconsistent _ =>
      (effect_step hnamed world input).consistent hserde hconsistent) hinitial (guarded_true _ _)
  refine ⟨?_, fun home sequencer network hwritten => ?_, (hrun inputs).startedOnce, ?_⟩
  · exact @trace_forall _ _ _ (step serde networks) (fun _ _ => True) (fun _ => True) _
      (fun _ _ _ _ => trivial) (fun world input _ _ => ⟨answered_step world input,
        fun home hconfig => (effect_step hnamed world input).keeps hconfig⟩) _ _ trivial
      (guarded_true _ _)
  · have hfiles := (hrun inputs).written home sequencer _ hwritten
    refine ⟨hfiles, (hrun inputs).listed home sequencer network hwritten, fun binding hbound => ?_⟩
    obtain ⟨listed, hmem, rfl, -⟩ := (hrun inputs).listed home sequencer network hwritten
    have hbinding := ((hrun inputs).bound home binding hbound).2
    rw [hfiles, bindingOf_configured hserde home sequencer (by
      intro network source hrecorded
      cases hrecorded
      exact hnamed listed hmem)] at hbinding
    obtain rfl := Except.ok.inj hbinding
    simp only [boundNetwork, sequencerAddr, hbound, hfiles, configured, Option.bind_some,
      sequencerOfConfig_walletConfigJson hserde, and_self]
  · intro later home binding binding' hbound hbound'
    obtain ⟨hconfig, hfiles⟩ := (hrun inputs).bound home binding hbound
    have hfiles' := ((hrun (inputs ++ later)).bound home binding' hbound').2
    rw [run_append, run_keeps hnamed later _ hconfig, hfiles] at hfiles'
    exact (Except.ok.inj hfiles').symm

/-! ## A home that is written in two attempts -/

/-- The networks of the embedded table. -/
def embeddedNetworks : List Network := [
  ⟨"devnet", "http://209.38.241.182:3140/", ["BbWaV7mqVx3kAk1h8rsjZ3cACzPrT4M2J7RVQSCXrDUU"]⟩,
  ⟨"testnet", "https://testnet.lez.logos.co/", ["J3NXPWUspX2zqJU3tUbR6MHmm83aJc5AzvidEaBBKnat"]⟩]

/-- Bring-up waits; a selection stops before the config is in place; the next
process selects again, and is then asked for another network. -/
def twoAttempts : List Input :=
  [.spawnBringUp {} { home := some "/home" } "",
    .useNetwork { provision := { config := { rename := .stopped } } } "testnet",
    .spawnBringUp {} { home := some "/home" } "",
    .useNetwork {} " TestNet ", .useNetwork {} "devnet"]

theorem home_never_repointed_twoAttempts :
    (run (step sampleSerde embeddedNetworks) { disk := fun _ => {} } twoAttempts).disk "/home" =
        ⟨some (walletConfigJson sampleSerde "https://testnet.lez.logos.co/"),
          some (markerJson sampleSerde "testnet" .table)⟩ ∧
      ((trace (step sampleSerde embeddedNetworks) { disk := fun _ => {} } twoAttempts).map
        fun event => event.output.map NetworkReply.accepted) =
          [none, none, none, some true, some false] := by
  have hwritten : (run (step sampleSerde embeddedNetworks) { disk := fun _ => {} }
      twoAttempts).written "/home" =
        some ("https://testnet.lez.logos.co/", .recorded "testnet" .table) := by decide +kernel
  exact ⟨((home_never_repointed sampleSerde_lawful (by decide) _ _).2.1 "/home" _ _ hwritten).1,
    by decide +kernel⟩

end LogosRln.Registry.Home
