import LogosRln.Core.Run
import LogosRln.Proofs.Handlers

/-!
# Generations in flight

The handlers run concurrently with each other and with the poller, and share
the path cache and the store.  A generation gives way where it waits for the
registry, where it looks its path up again, and before it reserves.
-/

namespace LogosRln.Proofs

open RegistryId Json Run SealedStore Selection

variable {Fr Proof : Type}

/-- How far a generation has come. -/
inductive Generation where
  | fetching (prepared : Prepared)
  | rehitting (prepared : Prepared)
  | reserving (prepared : Prepared) (path : List String × List UInt8)
  | answered (result : Except ApiError Value)

structure GenerateNode where
  config : Option ModuleConfig := none
  cursors : Cursors := fun _ => none
  world : World := {}
  caches : Caches := {}
  generations : List Generation := []

/-- `refreshPath` is the poller's or the warm-up's fill; `storeCall` is any other
handler's use of the store. -/
inductive GenerateInput where
  | configure (config : ModuleConfig)
  | storeCall (op : Op)
  | refreshPath (registry : CanonicalRegistryId) (hash : String) (leafIndex : UInt64)
      (reply : Except ApiError Value) (now : UInt64)
  | generateProof (args : GenerateArgs) (now : UInt64)
  | advance (i : ℕ) (moment : GenerateMoment)

/-- A generation up to its first look into the cache. -/
def enter (prepared : Except ApiError Prepared) (caches : Caches) : Generation :=
  match prepared with
  | .error error => .answered (.error error)
  | .ok prepared =>
      match hit prepared.hash prepared.leafIndex caches with
      | some path => .reserving prepared path
      | none => .fetching prepared

/-- One section of a generation: where it stands then, the store and the caches
it leaves, and the witness material it spent a slot on. -/
structure Section where
  generation : Generation
  world : World
  caches : Caches
  spent : Option WitnessMaterial := none

def Generation.advance (zk : Zerokit Fr Proof) (libs : Libraries) (moment : GenerateMoment)
    (world : World) (caches : Caches) : Generation → Section
  | .fetching prepared =>
      match fillPathCache zk.toFieldCoding prepared.registry prepared.hash prepared.leafIndex
          moment.merkleProof moment.fetchedAt caches with
      | (.error error, caches) => ⟨.answered (.error error), world, caches, none⟩
      | (.ok (), caches) => ⟨.rehitting prepared, world, caches, none⟩
  | .rehitting prepared =>
      match hit prepared.hash prepared.leafIndex caches with
      | some path => ⟨.reserving prepared path, world, caches, none⟩
      | none => ⟨.answered (.error pathVanished), world, caches, none⟩
  | .reserving prepared path =>
      let spending := reserveAndProve zk libs prepared path moment.write world
      ⟨.answered spending.result, spending.world, caches, spending.spent⟩
  | .answered result => ⟨.answered result, world, caches, none⟩

/-- The step's output is the material of the witness it spent a slot on. -/
def GenerateNode.step (zk : Zerokit Fr Proof) (libs : Libraries) (node : GenerateNode) :
    GenerateInput → GenerateNode × Option WitnessMaterial
  | .configure config => ({ node with config := some config }, none)
  | .storeCall op => ({ node with world := (SealedStore.step libs node.world op).1 }, none)
  | .refreshPath registry hash leafIndex reply now =>
      ({ node with
          caches := (fillPathCache zk.toFieldCoding registry hash leafIndex reply now
            node.caches).2 }, none)
  | .generateProof args now =>
      ({ node with
          generations := node.generations ++
            [enter (prepare libs node.config node.cursors args now node.world.store)
              node.caches] }, none)
  | .advance i moment =>
      match node.generations[i]? with
      | none => (node, none)
      | some generation =>
          let next := generation.advance zk libs moment node.world node.caches
          ({ node with
              world := next.world
              caches := next.caches
              generations := node.generations.set i next.generation }, next.spent)

/-- With nothing in between, the sections of a generation are `generateProof`. -/
theorem generateProof_eq_sections (zk : Zerokit Fr Proof) (libs : Libraries)
    (config : Option ModuleConfig) (cursors : Cursors) (args : GenerateArgs)
    (moment : GenerateMoment) (world : World) (caches : Caches) :
    let advance (at_ : Section) := at_.generation.advance zk libs moment at_.world at_.caches
    let start : Section :=
      ⟨enter (prepare libs config cursors args moment.now world.store) caches, world, caches, none⟩
    let last := advance (advance (advance start))
    let whole := generateProof zk libs config cursors args moment world caches
    last.generation = .answered whole.1 ∧ last.world = whole.2.1 ∧ last.caches = whole.2.2 := by
  cases hprepared : prepare libs config cursors args moment.now world.store with
  | error error => simp [generateProof, hprepared, enter, Generation.advance]
  | ok prepared =>
      cases hhit : hit prepared.hash prepared.leafIndex caches with
      | some path => simp [generateProof, hprepared, enter, servePath, hhit, Generation.advance]
      | none =>
          rcases hfilled : fillPathCache zk.toFieldCoding prepared.registry prepared.hash
            prepared.leafIndex moment.merkleProof moment.fetchedAt caches with ⟨result, filled⟩
          cases result with
          | error error =>
              simp [generateProof, hprepared, enter, servePath, hhit, hfilled, Generation.advance]
          | ok _ =>
              cases hagain : hit prepared.hash prepared.leafIndex filled with
              | some path =>
                  simp [generateProof, hprepared, enter, servePath, hhit, hfilled, hagain,
                    Generation.advance]
              | none =>
                  simp [generateProof, hprepared, enter, servePath, hhit, hfilled, hagain,
                    Generation.advance]

end LogosRln.Proofs
