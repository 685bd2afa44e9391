import LogosRln.Api
import LogosRln.Json
import LogosRln.Lifecycle

/-!
# Registry providers

What a registry read answers, and which namespaces have a provider.
-/

namespace LogosRln.Provider

open Lifecycle Json

structure ProviderMembership where
  registered : Bool
  state : MembershipState
  leafIndex : UInt64
  rateLimit : UInt64
  deriving DecidableEq

/-- Namespaces `provider_for` routes. -/
def providerFor (registryNamespace : String) : Bool :=
  registryNamespace == "logos"

def membershipFault (message : String) : ApiError := ⟨.providerFailure, message⟩

def requiredField (reply : Value) (key : String) : Except ApiError UInt64 :=
  match (reply.get key).bind Value.asU64 with
  | some value => .ok value
  | none => .error (membershipFault s!"get_membership: registered member missing {key}")

/-- Reading a state from its JSON value; a unit variant may also be spelled as an
object whose value is `null`. -/
def stateFromValue : Value → Option MembershipState
  | .str name => MembershipState.fromWire name
  | .object [(name, .null)] => MembershipState.fromWire name
  | _ => none

/-- Decode a `get_membership` reply; every promised field is required. -/
def parseMembershipReply (serde : Serde) (raw : String) : Except ApiError ProviderMembership :=
  match serde.fromStr raw with
  | .error error => .error (membershipFault s!"get_membership reply parse: {error}")
  | .ok reply =>
      match (reply.get "registered").bind Value.asBool with
      | none => .error (membershipFault "get_membership: reply carries no registered flag")
      | some false => .ok ⟨false, .unknown, 0, 0⟩
      | some true =>
          match (reply.get "state").bind stateFromValue with
          | none => .error (membershipFault "get_membership: unrecognized state")
          | some state => do
              let leafIndex ← requiredField reply "leaf_index"
              let rateLimit ← requiredField reply "rate_limit"
              return ⟨true, state, leafIndex, rateLimit⟩

end LogosRln.Provider
