import LogosRln.Core.Run
import LogosRln.Proofs.Handlers
import LogosRln.Proofs.Sample
import LogosRln.ReferenceJson

/-!
# Two writers of the root window

The refresher and every path fill read the registry on their own and install
what they bring back as the whole window.  The refresher installs even a reply
that holds no root, and neither writer knows whether a later read has already
been installed.
-/

namespace LogosRln.Proofs

open RegistryId Json Provider Run SealedStore.Format

variable {Fr Proof : Type}

/-! ## Reads in flight -/

/-- A registry read whose reply may write the window. -/
inductive RegistryRead where
  | refresh (registry : CanonicalRegistryId)
  | fill (registry : CanonicalRegistryId) (hash : String) (leafIndex : UInt64)

def RegistryRead.registry : RegistryRead → CanonicalRegistryId
  | .refresh registry => registry
  | .fill registry _ _ => registry

/-- A root set that a reply brought: the number of its read, counted in the
order of their starts, and when it was installed. -/
structure Arrival where
  number : ℕ
  canonical : String
  roots : List Bytes32
  now : UInt64

/-- The caches, the reads in flight, and what has arrived, newest first. -/
structure Board where
  caches : Caches := {}
  started : ℕ := 0
  pending : ℕ → Option RegistryRead := fun _ => none
  arrivals : List Arrival := []

/-- A read starts; the reply to a read arrives, after whatever time. -/
inductive BoardInput where
  | start (read : RegistryRead)
  | reply (number : ℕ) (answer : Except ApiError String) (now : UInt64)

variable (field : FieldCoding Fr) (serde : Serde)

/-- What the caller of a read does with the provider's answer. -/
def land (read : RegistryRead) (answer : Except ApiError String) (now : UInt64)
    (caches : Caches) : Caches :=
  match read with
  | .refresh registry =>
      { caches with
        windows := (refreshOne registry (answer.bind (getValidRoots field serde)) now
          caches.windows).2 }
  | .fill registry hash leafIndex =>
      (fillPathCache field registry hash leafIndex (answer.bind (getMerkleProof serde)) now
        caches).2

/-- The root set an answer installs. -/
def carriedRoots (read : RegistryRead) (answer : Except ApiError String) : Option (List Bytes32) :=
  match read with
  | .refresh registry =>
      if !providerFor registry.registryNamespace then none
      else
        match answer.bind (getValidRoots field serde) with
        | .error _ => none
        | .ok rootsHex => some (rootsHex.filterMap hexToBytes32)
  | .fill _ _ _ =>
      match answer.bind (getMerkleProof serde) with
      | .error _ => none
      | .ok merkle =>
          match jsonStrArray merkle "path_elements", jsonU8Array merkle "path_indices",
              jsonStrArray merkle "valid_roots" with
          | .ok elements, .ok _, .ok rootsHex =>
              let roots := (rootsHex.map (foldRoot field · (replyDepth merkle elements))).filterMap
                hexToBytes32
              if roots.isEmpty then none else some roots
          | _, _, _ => none

/-- What a reply brings to the board. -/
def arrivalOf (board : Board) : BoardInput → Option Arrival
  | .start _ => none
  | .reply number answer now =>
      (board.pending number).bind fun read =>
        (carriedRoots field serde read answer).map fun roots =>
          ⟨number, read.registry.canonical, roots, now⟩

def boardStep (board : Board) (input : BoardInput) : Board × Unit :=
  match input with
  | .start read =>
      ({ board with
        started := board.started + 1
        pending := Function.update board.pending board.started (some read) }, ())
  | .reply number answer now =>
      match board.pending number with
      | none => (board, ())
      | some read =>
          ({ board with
            caches := land field serde read answer now board.caches
            pending := Function.update board.pending number none
            arrivals := (arrivalOf field serde board input).toList ++ board.arrivals }, ())

/-- The newest arrival for a registry. -/
def installed (canonical : String) (board : Board) : Option Arrival :=
  board.arrivals.find? (·.canonical = canonical)

/-! ## The window is the newest arrival -/

variable {field serde}

theorem windows_refreshOne (registry : CanonicalRegistryId)
    (reply : Except ApiError (List String)) (now : UInt64) (windows : StringMap Window) :
    (refreshOne registry reply now windows).2 =
      match (if !providerFor registry.registryNamespace then none
        else match reply with
          | .error _ => none
          | .ok rootsHex => some (rootsHex.filterMap hexToBytes32)) with
      | none => windows
      | some roots => windows.insert registry.canonical ⟨roots, now⟩ := by
  cases hprovider : providerFor registry.registryNamespace <;> cases reply <;>
    simp [refreshOne, hprovider]

theorem windows_fillPathCache (registry : CanonicalRegistryId) (hash : String) (leafIndex : UInt64)
    (answer : Except ApiError String) (now : UInt64) (caches : Caches) :
    (fillPathCache field registry hash leafIndex (answer.bind (getMerkleProof serde)) now
        caches).2.windows =
      match carriedRoots field serde (.fill registry hash leafIndex) answer with
      | none => caches.windows
      | some roots => caches.windows.insert registry.canonical ⟨roots, now⟩ := by
  cases hreply : answer.bind (getMerkleProof serde) with
  | error error => simp only [fillPathCache, carriedRoots, hreply]
  | ok merkle =>
      cases helements : jsonStrArray merkle "path_elements" with
      | error error => simp only [fillPathCache, carriedRoots, hreply, helements]
      | ok elements =>
          cases hindices : jsonU8Array merkle "path_indices" with
          | error error => simp only [fillPathCache, carriedRoots, hreply, helements, hindices]
          | ok indices =>
              cases hroots : jsonStrArray merkle "valid_roots" with
              | error error =>
                  simp only [fillPathCache, carriedRoots, hreply, helements, hindices, hroots]
              | ok rootsHex =>
                  simp only [fillPathCache, carriedRoots, hreply, helements, hindices, hroots,
                    adopt]
                  split <;> rfl

/-- An answer replaces the window by what it carries, or leaves all windows. -/
theorem windows_land (read : RegistryRead) (answer : Except ApiError String) (now : UInt64)
    (caches : Caches) :
    (land field serde read answer now caches).windows =
      match carriedRoots field serde read answer with
      | none => caches.windows
      | some roots => caches.windows.insert read.registry.canonical ⟨roots, now⟩ := by
  cases read with
  | refresh registry => exact windows_refreshOne registry _ now caches.windows
  | fill registry hash leafIndex =>
      exact windows_fillPathCache registry hash leafIndex answer now caches

/-- Every window is the root set of its registry's newest arrival. -/
def WindowsInstalled (board : Board) : Prop :=
  ∀ canonical, board.caches.windows[canonical]? =
    (installed canonical board).map fun arrival => ⟨arrival.roots, arrival.now⟩

theorem windowsInstalled_step (board : Board) (input : BoardInput)
    (hinstalled : WindowsInstalled board) :
    WindowsInstalled (boardStep field serde board input).1 := by
  cases input with
  | start read => exact hinstalled
  | reply number answer now =>
      cases hpending : board.pending number with
      | none =>
          simp only [boardStep, hpending]
          exact hinstalled
      | some read =>
          simp only [boardStep, hpending, arrivalOf, Option.bind_some]
          intro canonical
          rw [windows_land]
          cases hcarried : carriedRoots field serde read answer with
          | none => exact hinstalled canonical
          | some roots =>
              simp only [Std.ExtTreeMap.getElem?_insert, Option.map_some, Option.toList_some,
                List.singleton_append, installed, List.find?_cons]
              by_cases hsame : read.registry.canonical = canonical
              · simp [hsame]
              · simpa [hsame, installed] using hinstalled canonical

theorem windowsInstalled_run (inputs : List BoardInput) :
    WindowsInstalled (run (boardStep field serde) {} inputs) := by
  refine @invariant_run _ _ _ (boardStep field serde) (fun _ _ => True) WindowsInstalled
    (fun board input hinstalled _ => windowsInstalled_step board input hinstalled) {} inputs ?_
    (guarded_true _ _)
  intro canonical
  simp [installed]

/-- The arrivals of a step. -/
theorem arrivals_step (board : Board) (input : BoardInput) :
    (boardStep field serde board input).1.arrivals =
      (arrivalOf field serde board input).toList ++ board.arrivals := by
  cases input with
  | start read => rfl
  | reply number answer now =>
      cases hpending : board.pending number with
      | none => simp [boardStep, arrivalOf, hpending]
      | some read => simp [boardStep, hpending]

/-- What arrived in a run came with one of its replies. -/
theorem mem_arrivals_run {board : Board} {inputs : List BoardInput} {arrival : Arrival}
    (harrival : arrival ∈ (run (boardStep field serde) board inputs).arrivals) :
    arrival ∈ board.arrivals ∨
      ∃ event ∈ trace (boardStep field serde) board inputs,
        arrivalOf field serde event.before event.input = some arrival := by
  induction inputs generalizing board with
  | nil => exact .inl harrival
  | cons input inputs ih =>
      rcases ih harrival with hbefore | ⟨event, hevent, hbrought⟩
      · rw [arrivals_step, List.mem_append, Option.mem_toList] at hbefore
        rcases hbefore with hnow | hearlier
        · exact .inr ⟨_, List.mem_cons_self, hnow⟩
        · exact .inl hearlier
      · exact .inr ⟨event, List.mem_cons_of_mem _ hevent, hbrought⟩

/-! ## When the window is honest -/

/-- The refresher's reply holds a root; a fill skips an empty set itself. -/
def HoldsRoot (field : FieldCoding Fr) (serde : Serde) (read : RegistryRead)
    (answer : Except ApiError String) : Prop :=
  match read with
  | .refresh registry =>
      ∀ rootsHex, providerFor registry.registryNamespace = true →
        answer.bind (getValidRoots field serde) = .ok rootsHex →
          ∃ hex ∈ rootsHex, (hexToBytes32 hex).isSome
  | .fill _ _ _ => True

/-- Replies with roots arrive in the order in which their registry's reads were
started. -/
def InOrder (field : FieldCoding Fr) (serde : Serde) (board : Board) (number : ℕ)
    (read : RegistryRead) (answer : Except ApiError String) : Prop :=
  (carriedRoots field serde read answer).isSome →
    ∀ arrival ∈ board.arrivals, arrival.canonical = read.registry.canonical →
      arrival.number < number

def Timely (field : FieldCoding Fr) (serde : Serde) (board : Board) (input : BoardInput) : Prop :=
  match input with
  | .start _ => True
  | .reply number answer _ =>
      ∀ read, board.pending number = some read →
        HoldsRoot field serde read answer ∧ InOrder field serde board number read answer

theorem carriedRoots_ne_nil {read : RegistryRead} {answer : Except ApiError String}
    (hholds : HoldsRoot field serde read answer) {roots : List Bytes32}
    (hcarried : carriedRoots field serde read answer = some roots) : roots ≠ [] := by
  cases read with
  | refresh registry =>
      cases hprovider : providerFor registry.registryNamespace with
      | false => simp [carriedRoots, hprovider] at hcarried
      | true =>
          cases hreply : answer.bind (getValidRoots field serde) with
          | error error => simp [carriedRoots, hprovider, hreply] at hcarried
          | ok rootsHex =>
              simp only [carriedRoots, hprovider, hreply, Bool.not_true, Bool.false_eq_true,
                if_false, Option.some.injEq] at hcarried
              obtain ⟨hex, hhex, hparses⟩ := hholds rootsHex hprovider hreply
              obtain ⟨root, hroot⟩ := Option.isSome_iff_exists.mp hparses
              rw [← hcarried]
              exact List.ne_nil_of_mem (List.mem_filterMap.mpr ⟨hex, hhex, hroot⟩)
  | fill registry hash leafIndex =>
      simp only [carriedRoots] at hcarried
      split at hcarried
      · cases hcarried
      · split at hcarried
        · split at hcarried
          · cases hcarried
          · next hnonempty =>
              obtain rfl := Option.some.inj hcarried
              intro hempty
              exact hnonempty (by rw [hempty]; rfl)
        · cases hcarried

/-- What arrives in time holds a root and was read after what arrived before. -/
theorem arrivalOf_of_timely {board : Board} {input : BoardInput}
    (htimely : Timely field serde board input) {arrival : Arrival}
    (harrival : arrivalOf field serde board input = some arrival) :
    arrival.roots ≠ [] ∧ ∀ earlier ∈ board.arrivals, earlier.canonical = arrival.canonical →
      earlier.number < arrival.number := by
  cases input with
  | start read => cases harrival
  | reply number answer now =>
      obtain ⟨read, hread, hbrought⟩ := Option.bind_eq_some_iff.mp harrival
      obtain ⟨roots, hcarried, rfl⟩ := Option.map_eq_some_iff.mp hbrought
      obtain ⟨hholds, horder⟩ := htimely read hread
      exact ⟨carriedRoots_ne_nil hholds hcarried, horder (by rw [hcarried]; rfl)⟩

theorem installed_mem {canonical : String} {board : Board} {arrival : Arrival}
    (hinstalled : installed canonical board = some arrival) :
    arrival ∈ board.arrivals ∧ arrival.canonical = canonical :=
  ⟨List.mem_of_find?_eq_some hinstalled, by simpa using List.find?_some hinstalled⟩

/-- What a fresh window holds was installed by the newest arrival. -/
theorem window_eq_some {board : Board} (hwindows : WindowsInstalled board) {canonical : String}
    {now : UInt64} {roots : List Bytes32}
    (hwindow : window canonical now board.caches.windows = some roots) :
    ∃ arrival, installed canonical board = some arrival ∧ arrival.roots = roots := by
  rw [window, hwindows canonical] at hwindow
  cases hinstalled : installed canonical board with
  | none => simp [hinstalled] at hwindow
  | some arrival =>
      refine ⟨arrival, rfl, ?_⟩
      simp only [hinstalled, Option.map_some, Option.bind_eq_bind, Option.bind_some] at hwindow
      split at hwindow
      · cases hwindow
      · exact Option.some.inj hwindow

theorem screen_cold (zk : Zerokit Fr Proof) {presented : Presented} {windows : StringMap Window}
    {now : UInt64}
    (hbound : epochBindingHolds zk presented.rlp.epoch presented.rlp.externalNullifier
      presented.rlnIdentifier presented.expectedEpoch presented.nowEpoch presented.gap = true)
    (hcold : window presented.registry.canonical now windows = none) :
    screen zk presented windows now =
      .refused ⟨.notReady, "valid-root window not warm yet; retry"⟩ := by
  simp [screen, hbound, hcold]

namespace WindowSample

def registry : CanonicalRegistryId := ⟨"logos", "local", "aa", "logos:local:aa"⟩

def olderRoot : Bytes32 := epochToBytes 1

def newerRoot : Bytes32 := epochToBytes 2

/-- The texts that the registry answers. -/
def replies : Serde :=
  Json.Reference.serde
    [("[]", .array []), ("older", .array [.str (bytesToHex olderRoot.toList)]),
      ("newer", .array [.str (bytesToHex newerRoot.toList)])]

/-- One refresh is answered. -/
def refreshed (text : String) : List BoardInput :=
  [.start (.refresh registry), .reply 0 (.ok text) 5]

/-- Two refreshes are answered, the later one first. -/
def overtaken : List BoardInput :=
  [.start (.refresh registry), .start (.refresh registry), .reply 1 (.ok "newer") 5,
    .reply 0 (.ok "older") 6]

def reached (inputs : List BoardInput) : Board :=
  run (boardStep Sample.field replies) {} inputs

/-- A proof bound to its epoch. -/
def presented : Presented where
  registry := registry
  rlnIdentifier := olderRoot
  expectedEpoch := 0
  nowEpoch := 0
  gap := 1
  signal := []
  derived := false
  rlp := {
    canonical := []
    root := olderRoot
    externalNullifier := expectedExternalNullifier Sample.zerokit 0 olderRoot
    shareX := olderRoot
    shareY := olderRoot
    nullifier := olderRoot
    epoch := none }

end WindowSample

open WindowSample in
theorem getValidRoots_older :
    getValidRoots Sample.field replies "older" = .ok [bytesToHex olderRoot.toList] := by
  decide +kernel

end LogosRln.Proofs
