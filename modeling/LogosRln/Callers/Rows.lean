import LogosRln.Callers.Node

/-!
# What a step does to the store

A thread reaches the store through one demand, so a step leaves the store alone,
writes one row, inserts one credential, or is a call of the store of another
kind.  From there on a claim about a row or a published record needs to look at
the write only.
-/

namespace LogosRln.Callers

open LogosRln.Lifecycle Provider Json RegistryId Maintenance SealedStore

variable {libs : Libraries} {serde : Serde}

/-! ## The demand of a step -/

def Input.moment : Input → Moment
  | .body _ moment | .call _ moment | .submitReply _ _ moment => moment
  | _ => {}

def Input.isStore : Input → Bool
  | .store _ => true
  | _ => false

/-- What a step demands. -/
def demand (libs : Libraries) (serde : Serde) (node : Node) : Input → Demand
  | .body i moment =>
      match node.bodies[i]? with
      | some body =>
          (body.step (((node.pool.workers[i]?).map Worker.generation).getD 0) moment node.view).1
      | none => .nothing
  | .call i moment =>
      match node.calls[i]? with
      | some call => (call.step libs serde moment node.view).1
      | none => .nothing
  | .submitReply hash reply _ =>
      if reply.isSubmitReply then .writesRow hash none reply else .nothing
  | _ => .nothing

def worldAfter (libs : Libraries) (serde : Serde) (moment : Moment) (world : World) :
    Demand → World
  | .writesRow hash _ write => (SealedStore.step libs world (writeOp serde moment hash write)).1
  | .inserts registration => (SealedStore.step libs world (insertOp moment registration)).1
  | _ => world

def reportAfter (libs : Libraries) (serde : Serde) (moment : Moment) (world : World) :
    Demand → Report
  | .writesRow hash announcing write =>
      { wrote := some (hash, write)
        event := announcement announcing write
          (SealedStore.step libs world (writeOp serde moment hash write)).2 }
  | .inserts registration => { inserted := some registration }
  | _ => {}

@[simp]
theorem world_withPool (pool : Pool) (node : Node) : (node.withPool pool).world = node.world := rfl

@[simp]
theorem world_section (input : Maintenance.Input) (node : Node) :
    (node.section input).world = node.world := by
  simp only [Node.section]
  split <;> rfl

theorem perform_world (moment : Moment) (demanded : Demand) (node : Node) :
    (perform libs serde moment demanded node).1.world =
      worldAfter libs serde moment node.world demanded := by
  cases demanded <;> simp [perform, worldAfter]

theorem perform_report (moment : Moment) (demanded : Demand) (node : Node) :
    (perform libs serde moment demanded node).2.2 =
      reportAfter libs serde moment node.world demanded := by
  cases demanded <;> rfl

/-- The store changes through the demand of a step, or by a call of its own. -/
theorem step_world (node : Node) (input : Input) :
    (∃ op, input = .store op ∧
      (step libs serde node input).1.world = (SealedStore.step libs node.world op).1 ∧
      (step libs serde node input).2 = {}) ∨
    (step libs serde node input).1.world =
        worldAfter libs serde input.moment node.world (demand libs serde node input) ∧
      (step libs serde node input).2 =
        reportAfter libs serde input.moment node.world (demand libs serde node input) := by
  cases input with
  | store op => exact .inl ⟨op, rfl, rfl, rfl⟩
  | start config =>
      right
      simp only [step]
      split <;> simp [demand, worldAfter, reportAfter]
  | «section» input =>
      right
      cases input <;> simp [step, demand, worldAfter, reportAfter]
  | body i moment =>
      right
      cases hbody : node.bodies[i]? with
      | none => simp [step, demand, hbody, worldAfter, reportAfter]
      | some body =>
          simp only [step, demand, hbody, Node.runBody, Input.moment]
          exact ⟨perform_world _ _ _, perform_report _ _ _⟩
  | call i moment =>
      right
      cases hcall : node.calls[i]? with
      | none => simp [step, demand, hcall, worldAfter, reportAfter]
      | some call =>
          simp only [step, demand, hcall, Node.runCall, Input.moment]
          exact ⟨perform_world _ _ _, perform_report _ _ _⟩
  | getMembershipState registryIdRaw rlnIdentifierHex => exact .inr ⟨rfl, rfl⟩
  | registerMembership registryIdRaw rlnIdentifierHex optionsJson => exact .inr ⟨rfl, rfl⟩
  | submitReply hash reply moment =>
      right
      simp only [step, demand, Input.moment]
      split
      · exact ⟨perform_world _ _ _, perform_report _ _ _⟩
      · exact ⟨rfl, rfl⟩

/-! ## Rows and published records -/

/-- The cache row of a membership, in memory. -/
def row (hash : String) (world : World) : CacheState :=
  (world.store.bind fun store => store.inner.cache[hash]?).getD {}

/-- The published record of a membership. -/
def published (hash : String) (world : World) : Option MembershipRecord :=
  world.store.bind (Store.membership hash)

theorem state_observeRow (mutate : CacheState → CacheState) (now : UInt64) (row : CacheState) :
    (observeRow mutate now row).state = (mutate row).state := by
  simp only [observeRow]
  split <;> rfl

/-- The store takes row writes for the membership. -/
def acceptsRow (hash : String) (world : World) : Bool :=
  world.store.any fun store => store.inner.lockHeld && store.inner.hasCredential hash

/-- A row write is refused, changes the row in memory only, or changes it and
publishes every row. -/
inductive RowEffect (hash : String) (mutate : CacheState → CacheState) (now : UInt64)
    (world : World) : Files.WriteOutcome → World → Answer → Prop
  | refused {write} (error : ApiError) (hrefused : acceptsRow hash world = false) :
      RowEffect hash mutate now world write world (.cacheUpdated (.error error))
  | unsaved {write world'} (error : ApiError) (haccepts : acceptsRow hash world = true)
      (hfailed : write ≠ .ok)
      (hrows : ∀ other, row other world' =
        if other = hash then observeRow mutate now (row hash world) else row other world)
      (hpublished : ∀ other, published other world' = published other world) :
      RowEffect hash mutate now world write world' (.cacheUpdated (.error error))
  | saved {world' prior} (hprior : prior = (row hash world).state) (haccepts : acceptsRow hash world = true)
      (hrows : ∀ other, row other world' =
        if other = hash then observeRow mutate now (row hash world) else row other world)
      (hpublished : ∀ other record, published other world' = some record →
        record.hash = other ∧ record.cache = row other world')
      (hlisted : (published hash world').isSome) :
      RowEffect hash mutate now world .ok world' (.cacheUpdated (.ok prior))

theorem snapshot_publish {inner : Inner} {hash : String} {record : MembershipRecord}
    (hrecord : (publish inner).snapshot[hash]? = some record) :
    record.hash = hash ∧ record.cache = (inner.cache[hash]?).getD {} := by
  simp only [publish, buildSnapshot] at hrecord
  cases hsealed : inner.sealedStore with
  | none => simp [hsealed] at hrecord
  | some file =>
      simp only [hsealed, Std.ExtTreeMap.getElem?_map, Option.map_eq_some_iff] at hrecord
      obtain ⟨entry, -, rfl⟩ := hrecord
      exact ⟨rfl, rfl⟩

/-- The credentials in memory are what is published. -/
theorem isSome_publish (inner : Inner) (hash : String) :
    ((publish inner).snapshot[hash]?).isSome = inner.hasCredential hash := by
  cases hsealed : inner.sealedStore with
  | none => simp [publish, buildSnapshot, Inner.hasCredential, hsealed]
  | some file =>
      simp [publish, buildSnapshot, Inner.hasCredential, hsealed, Std.ExtTreeMap.getElem?_map]

theorem updateCache_effect (world : World) (hash : String) (mutate : CacheState → CacheState)
    (now : UInt64) (write : Files.WriteOutcome) :
    RowEffect hash mutate now world write
      (SealedStore.step libs world (.updateCache hash mutate now write)).1
      (SealedStore.step libs world (.updateCache hash mutate now write)).2 := by
  cases hstore : world.store with
  | none =>
      simp only [SealedStore.step, hstore]
      exact .refused _ (by simp [acceptsRow, hstore])
  | some store =>
      simp only [SealedStore.step, hstore, withReply, updateCache]
      split
      · rename_i hheld
        have hrefused : acceptsRow hash world = false := by simp_all [acceptsRow]
        have hworld : (⟨world.disk, some store⟩ : World) = world := by rw [← hstore]
        simpa only [refuse, hworld] using RowEffect.refused closedError hrefused
      · rename_i hheld
        split
        · rename_i hmember
          have hrefused : acceptsRow hash world = false := by simp_all [acceptsRow]
          have hworld : (⟨world.disk, some store⟩ : World) = world := by rw [← hstore]
          simpa only [refuse, hworld] using RowEffect.refused noSuchMembership hrefused
        · rename_i hmember
          have haccepts : acceptsRow hash world = true := by simp_all [acceptsRow]
          have hrow : (store.inner.cache[hash]?).getD {} = row hash world := by
            simp [row, hstore]
          have hupdated : ∀ other, ((store.inner.cache.insert hash (observeRow mutate now
              ((store.inner.cache[hash]?).getD {})))[other]?).getD {} =
              if other = hash then observeRow mutate now (row hash world)
              else row other world := by
            intro other
            by_cases hsame : other = hash
            · subst hsame
              simp [hrow]
            · simp [Std.ExtTreeMap.getElem?_insert, hsame, Ne.symm hsame, row, hstore]
          let inner := { store.inner with
            cache := store.inner.cache.insert hash
              (observeRow mutate now ((store.inner.cache[hash]?).getD {})) }
          have hmember : inner.hasCredential hash = true := by
            simpa [inner, Inner.hasCredential] using hmember
          rcases writeCache_cases libs write inner world.disk with
            ⟨error, hfailed, hwrite⟩ | ⟨rfl, hwrite⟩
          · rw [hwrite]
            refine .unsaved error haccepts hfailed hupdated fun other => ?_
            simp only [published, hstore]
            rfl
          · rw [hwrite]
            exact .saved (by rw [hrow]) haccepts hupdated (fun other record hrecord => snapshot_publish hrecord)
              ((isSome_publish inner hash).trans hmember)

/-- A row write that reaches the disk publishes every credential in memory. -/
theorem isSome_published_updateCache {world : World} {hash : String}
    (haccepts : acceptsRow hash world = true) (mutate : CacheState → CacheState) (now : UInt64)
    (other : String) :
    (published other (SealedStore.step libs world (.updateCache hash mutate now .ok)).1).isSome =
      acceptsRow other world := by
  cases hstore : world.store with
  | none => simp [acceptsRow, hstore] at haccepts
  | some store =>
      simp only [acceptsRow, hstore, Option.any_some, Bool.and_eq_true] at haccepts ⊢
      obtain ⟨hheld, hmember⟩ := haccepts
      let inner := { store.inner with
        cache := store.inner.cache.insert hash
          (observeRow mutate now ((store.inner.cache[hash]?).getD {})) }
      rcases writeCache_cases libs .ok inner world.disk with ⟨error, hfailed, -⟩ | ⟨-, hwrite⟩
      · exact absurd rfl hfailed
      · have hpublish : (updateCache libs hash mutate now .ok store world.disk).store =
            publish inner := by
          simp only [updateCache]
          rw [if_neg (by simp [hheld]), if_neg (by simp [hmember]), hwrite]
        simp only [SealedStore.step, hstore, withReply, published, Option.bind_some,
          Store.membership, hpublish, isSome_publish, hheld, Bool.true_and]
        rfl

/-! ## Inserting -/

theorem cache_writeAllocations (write : Files.WriteOutcome) (inner : Inner) (disk : Files.Disk) :
    (writeAllocations libs write inner disk).inner.cache = inner.cache := by
  simp only [writeAllocations]
  split
  · rfl
  · split
    · rfl
    · split <;> rfl

theorem cache_insertCredential (registration : Registration) (nonce : Option Bytes24)
    (write : Files.WriteOutcome) (inner : Inner) (disk : Files.Disk) :
    (insertCredential libs registration nonce write inner disk).inner.cache = inner.cache := by
  simp only [insertCredential]
  split
  · rfl
  · split
    · rfl
    · split
      · rfl
      · split
        · rfl
        · split
          · rfl
          · split <;> rfl

/-- An insert changes no row but its own. -/
theorem row_insert {world : World} {registration : Registration} {hash : String}
    (hother : registration.hash ≠ hash) (nonce : Option Bytes24) (writes : InsertWrites) :
    row hash (SealedStore.step libs world (.insert registration nonce writes)).1 =
      row hash world := by
  have hrow : ∀ inner : Inner, (insertCacheRow registration inner).cache[hash]? =
      inner.cache[hash]? := by
    intro inner
    simp [insertCacheRow, Std.ExtTreeMap.getElem?_insert, hother]
  cases hstore : world.store with
  | none => simp [SealedStore.step, hstore]
  | some store =>
      simp only [SealedStore.step, hstore, withReply, row, Option.bind_some]
      congr 1
      simp only [SealedStore.insert]
      split
      · rfl
      · split
        · rfl
        · split
          · simp only [cache_writeAllocations]
            rfl
          · split
            · simp only [hrow, cache_writeAllocations]
              rfl
            · split
              · simp only [cache_insertCredential, hrow, cache_writeAllocations]
                rfl
              · simp only [publish, cache_insertCredential, hrow, cache_writeAllocations]
                rfl

/-- An insert publishes the rows in memory, or publishes nothing new. -/
theorem published_insert (world : World) (registration : Registration) (nonce : Option Bytes24)
    (writes : InsertWrites) :
    let world' := (SealedStore.step libs world (.insert registration nonce writes)).1
    (∀ other, published other world' = published other world) ∨
      ∀ other record, published other world' = some record → record.cache = row other world' := by
  cases hstore : world.store with
  | none =>
      left
      simp [SealedStore.step, hstore]
  | some store =>
      simp only [SealedStore.step, hstore, withReply, published, row, Option.bind_some,
        Store.membership]
      simp only [SealedStore.insert]
      split
      · exact .inl fun other => rfl
      · split
        · exact .inl fun other => rfl
        · split
          · exact .inl fun other => rfl
          · split
            · exact .inl fun other => rfl
            · split
              · exact .inl fun other => rfl
              · exact .inr fun other record hrecord => (snapshot_publish hrecord).2

/-! ## Listed records -/

/-- The published records, as a reader of the current store lists them. -/
def listed (world : World) : List MembershipRecord :=
  (world.store.map Store.records).getD []

theorem insertCredential_ok {registration : Registration} {nonce : Option Bytes24}
    {write : Files.WriteOutcome} {inner : Inner} {disk : Files.Disk}
    (hok : (insertCredential libs registration nonce write inner disk).result = .ok ()) :
    ∃ file entry,
      (insertCredential libs registration nonce write inner disk).inner.sealedStore = some file ∧
        file.credentials[registration.hash]? = some entry ∧
        entry.identity = registration.identity := by
  simp only [insertCredential] at hok ⊢
  split at hok
  · cases hok
  · split at hok
    · cases hok
    · split at hok
      · cases hok
      · split at hok
        · cases hok
        · split at hok
          · cases hok
          · split at hok
            · cases hok
            · exact ⟨_, _, rfl, Std.ExtTreeMap.getElem?_insert_self, rfl⟩

/-- An insert lists the records as before, or the one inserted as it was
requested. -/
theorem listed_insert (world : World) (registration : Registration) (nonce : Option Bytes24)
    (writes : InsertWrites) :
    let world' := (SealedStore.step libs world (.insert registration nonce writes)).1
    listed world' = listed world ∨
      ∀ record ∈ listed world', record.hash = registration.hash →
        record.identity = registration.identity := by
  cases hstore : world.store with
  | none =>
      left
      simp [SealedStore.step, hstore]
  | some store =>
      simp only [SealedStore.step, hstore, withReply, listed, Option.map_some, Option.getD_some]
      simp only [SealedStore.insert]
      split
      · exact .inl rfl
      · split
        · exact .inl rfl
        · split
          · exact .inl rfl
          · split
            · exact .inl rfl
            · split
              · exact .inl rfl
              · rename_i hcommit
                right
                intro record hrecord hhash
                obtain ⟨file, entry, hfile, hentry, hidentity⟩ := insertCredential_ok hcommit
                obtain ⟨hash, hlisted⟩ := mem_records.mp hrecord
                obtain ⟨hsame, -⟩ := snapshot_publish hlisted
                rw [← hsame, hhash] at hlisted
                simp only [publish, buildSnapshot, hfile, Std.ExtTreeMap.getElem?_map, hentry,
                  Option.map_some, Option.some.injEq] at hlisted
                rw [← hlisted]
                exact hidentity

end LogosRln.Callers
