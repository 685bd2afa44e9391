import LogosRln.Proofs.RootWindow

/-!
# Merkle proof paths

The per-membership path cache.  A reply's arrays are decoded, lifted to the
circuit's depth and cached together with the leaf index they were fetched for.
The decoder skips entries of the wrong kind and trusts the reply's own depth,
so a cached path is a usable one exactly for the replies this file
characterizes.
-/

namespace LogosRln.Proofs

open RegistryId Json SealedStore.Format

variable {Fr : Type} (field : FieldCoding Fr)

/-! ## Decoding a reply -/

def missingArray (key : String) : ApiError := ⟨.providerFailure, s!"merkle proof missing {key}"⟩

/-- The strings of an array field; other entries are dropped. -/
def jsonStrArray (reply : Value) (key : String) : Except ApiError (List String) :=
  match (reply.get key).bind Value.asArray with
  | some items => .ok (items.filterMap Value.asStr)
  | none => .error (missingArray key)

/-- The numbers of an array field, cut to a byte; other entries are dropped. -/
def jsonU8Array (reply : Value) (key : String) : Except ApiError (List UInt8) :=
  match (reply.get key).bind Value.asArray with
  | some items => .ok ((items.filterMap Value.asU64).map UInt64.toUInt8)
  | none => .error (missingArray key)

structure CachedPath where
  pathElementsHex : List String
  pathIndices : List UInt8
  leafIndex : UInt64

/-- The path cache and the root windows, both filled by one fetch. -/
structure Caches where
  paths : StringMap CachedPath := ∅
  windows : StringMap Window := ∅

/-- The depth a path was built at: the reply's, or else its number of elements. -/
def replyDepth (reply : Value) (elements : List String) : ℕ :=
  (((reply.get "depth").bind Value.asU64).map UInt64.toNat).getD elements.length

/-- The cached path, unless its leaf index is another one. -/
def hit (hash : String) (currentLeafIndex : UInt64) (caches : Caches) :
    Option (List String × List UInt8) := do
  let entry ← caches.paths[hash]?
  if entry.leafIndex = currentLeafIndex then some (entry.pathElementsHex, entry.pathIndices)
  else none

/-- Cache a membership's path from the registry's reply, and adopt the roots
that came with it. -/
def fillPathCache (registry : CanonicalRegistryId) (hash : String) (leafIndex : UInt64)
    (reply : Except ApiError Value) (now : UInt64) (caches : Caches) :
    Except ApiError Unit × Caches :=
  match reply with
  | .error error => (.error error, caches)
  | .ok merkle =>
      match jsonStrArray merkle "path_elements" with
      | .error error => (.error error, caches)
      | .ok elements =>
          match jsonU8Array merkle "path_indices" with
          | .error error => (.error error, caches)
          | .ok indices =>
              let depth := replyDepth merkle elements
              let path := padPath field elements indices depth
              -- Older providers may omit the roots.
              let windows := match jsonStrArray merkle "valid_roots" with
                | .error _ => caches.windows
                | .ok rootsHex =>
                    adopt registry.canonical
                      ((rootsHex.map (foldRoot field · depth)).filterMap hexToBytes32) now
                      caches.windows
              (.ok (),
                { paths := caches.paths.insert hash ⟨path.1, path.2, leafIndex⟩, windows })

/-- `get_merkle_proof` on the sibling's answered text. -/
def getMerkleProof (serde : Serde) (reply : String) : Except ApiError Value := do
  let raw ← readReply "get_merkle_proofs" reply
  match serde.fromStr raw with
  | .error error => .error ⟨.providerFailure, s!"proofs reply parse: {error}"⟩
  | .ok parsed =>
      match parsed.asArray.bind List.head? with
      | some proof => .ok proof
      | none => .error ⟨.providerFailure, "empty proof array (leaf out of range?)"⟩

end LogosRln.Proofs
