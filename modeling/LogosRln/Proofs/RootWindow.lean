import LogosRln.Api
import LogosRln.Json
import LogosRln.Proofs.DepthBridge
import LogosRln.Provider
import LogosRln.RateLimit
import LogosRln.SealedStore.Format

/-!
# The valid-root window

The roots a verifier accepts, per registry: lifted to the circuit's depth from
what the registry reports, and trusted for a minute after they were read.
-/

namespace LogosRln.Proofs

open RegistryId Json Provider RateLimit SealedStore.Format

variable {Fr : Type} (field : FieldCoding Fr)

/-! ## Reading the roots -/

def providerFailure (method : String) : ApiError :=
  ⟨.providerFailure, s!"liblogos_lez_rln_module.{method} failed (empty reply)"⟩

/-- The sibling answers every failure with an empty text. -/
def readReply (method reply : String) : Except ApiError String :=
  if reply.isEmpty then .error (providerFailure method) else .ok reply

def rootsFault (what : String) : ApiError := ⟨.providerFailure, s!"roots reply {what}"⟩

/-- The depth a `get_valid_roots` reply names and its roots.  A bare array
cannot say how deep its tree is and is read at the circuit's depth. -/
def repliedRoots (parsed : Value) : Except ApiError (ℕ × List Value) :=
  match parsed with
  | .array roots => .ok (rlnTreeDepth, roots)
  | .object _ =>
      match (parsed.get "depth").bind Value.asU64 with
      | none => .error (rootsFault "has no depth")
      | some depth =>
          if depth = 0 ∨ rlnTreeDepth < depth.toNat then
            .error (rootsFault s!"declares an impossible depth {depth}")
          else
            match (parsed.get "valid_roots").bind Value.asArray with
            | none => .error (rootsFault "has no valid_roots")
            | some roots => .ok (depth.toNat, roots)
  | _ => .error (rootsFault "is neither an array nor an object")

/-- The roots of a reply at the circuit's depth. -/
def liftRootsReply (parsed : Value) : Except ApiError (List String) :=
  (repliedRoots parsed).map fun (depth, roots) =>
    (roots.filterMap Value.asStr).map fun hex => foldRoot field hex depth

/-- `get_valid_roots` on the sibling's answered text. -/
def getValidRoots (serde : Serde) (reply : String) : Except ApiError (List String) := do
  let raw ← readReply "get_valid_roots" reply
  match serde.fromStr raw with
  | .error error => .error ⟨.providerFailure, s!"roots reply parse: {error}"⟩
  | .ok parsed => liftRootsReply field parsed

/-! ## The window -/

structure Window where
  roots : List Bytes32
  updatedAt : UInt64

def staleAfterSecs : UInt64 := 60

/-- Adopt a root set that came with a Merkle path; an empty one is skipped. -/
def adopt (canonical : String) (roots : List Bytes32) (now : UInt64)
    (windows : StringMap Window) : StringMap Window :=
  if roots.isEmpty then windows else windows.insert canonical ⟨roots, now⟩

/-- The fresh window of a registry. -/
def window (canonical : String) (now : UInt64) (windows : StringMap Window) :
    Option (List Bytes32) := do
  let found ← windows[canonical]?
  if saturatingSub now found.updatedAt > staleAfterSecs then none else some found.roots

/-- One registry's refresh; texts that are not 32-byte hex are skipped. -/
def refreshOne (registry : CanonicalRegistryId) (reply : Except ApiError (List String))
    (now : UInt64) (windows : StringMap Window) : Except ApiError Unit × StringMap Window :=
  if !providerFor registry.registryNamespace then
    (.error
      ⟨.unknownRegistry, s!"no registry provider for namespace {registry.registryNamespace}"⟩,
      windows)
  else
    match reply with
    | .error error => (.error error, windows)
    | .ok rootsHex =>
        (.ok (), windows.insert registry.canonical ⟨rootsHex.filterMap hexToBytes32, now⟩)

end LogosRln.Proofs
