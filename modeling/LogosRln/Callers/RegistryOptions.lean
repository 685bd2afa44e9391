import Mathlib.Data.List.Sort
import LogosRln.Api
import LogosRln.Json
import LogosRln.RegistryId

/-!
# Registration options

The wire's options are an array of string pairs.  They name the rate limit, and
for a delegated registration the gifter and the caller's authorization; a
malformed request is refused before a credential is made.
-/

namespace LogosRln.Callers

open Json RegistryId

def defaultRateLimit : UInt64 := 100

def invalidArgument (message : String) : ApiError := ⟨.invalidArgument, message⟩

/-- `str::parse::<u64>`. -/
def parseU64 (text : String) : Option UInt64 :=
  let digits := match text.toList with
    | '+' :: rest => rest
    | digits => digits
  if digits.isEmpty ∨ ¬ digits.all Char.isDigit then none
  else
    let value := digits.foldl (fun total digit => 10 * total + (digit.toNat - 48)) 0
    if value < 2 ^ 64 then some (UInt64.ofNat value) else none

/-- Insertion into an object, whose fields stay in key order. -/
def insertField (key : String) (value : Value) (fields : List (String × Value)) :
    List (String × Value) :=
  (key, value) :: fields |>.insertionSort fun first second => first.1 ≤ second.1

/-- The option pairs, collected from the entries; a key may come once. -/
def collectOptions : List Value → List (String × Value) →
    Except ApiError (List (String × Value))
  | [], fields => .ok fields
  | entry :: entries, fields =>
      match ((entry.get "key").bind Value.asStr).filter (· ≠ "") with
      | none => .error (invalidArgument "every RegistryOptions entry needs a string \"key\"")
      | some key =>
          match (entry.get "value").bind Value.asStr with
          | none =>
              .error (invalidArgument
                s!"RegistryOptions value for '{key}' must be a string (char* pair)")
          | some value =>
              if fields.any (·.1 == key) then
                .error (invalidArgument s!"duplicate RegistryOptions key '{key}'")
              else collectOptions entries (insertField key (.str value) fields)

def optionEntries (serde : Serde) (optionsJson : String) : Except ApiError (List Value) :=
  let trimmed := String.ofList (trim optionsJson.toList)
  if trimmed.isEmpty then .ok []
  else
    match serde.fromStr trimmed with
    | .ok (.array entries) => .ok entries
    | .ok _ => .error (invalidArgument
        "options_json must be a RegistryOptions array of \x7b\"key\",\"value\"\x7d string pairs")
    | .error error => .error (invalidArgument s!"options_json: {error}")

/-- The rate limit the options name; a blank one is the default. -/
def optionsRateLimit (fields : List (String × Value)) : Except ApiError UInt64 :=
  let given := (((Value.object fields).get "rate_limit").bind Value.asStr).map fun text =>
    String.ofList (trim text.toList)
  match given.filter (· ≠ "") with
  | none => .ok defaultRateLimit
  | some text =>
      match (parseU64 text).filter (0 < ·) with
      | some rateLimit => .ok rateLimit
      | none => .error (invalidArgument "rate_limit option must be a positive decimal string")

/-- The rate limit and the remaining pairs as an object. -/
def parseRegistryOptions (serde : Serde) (optionsJson : String) :
    Except ApiError (UInt64 × Value) := do
  let entries ← optionEntries serde optionsJson
  let fields ← collectOptions entries []
  let rateLimit ← optionsRateLimit fields
  return (rateLimit, .object (fields.filter (·.1 != "rate_limit")))

def flatBoolOption (key : String) (options : Value) : Bool :=
  (options.get key).bind Value.asStr == some "true"

/-- Absent and empty both mean unset. -/
def flatStrOption (key : String) (options : Value) : Option String :=
  ((options.get key).bind Value.asStr).filter (· ≠ "")

structure DelegatedOptions where
  gifterPeerId : String
  gifterMultiaddr : String
  authType : Option String
  authPayload : Option String
  authProvider : Option String
  authArgs : Option String
  deriving DecidableEq

/-- `trim_start_matches("0x")`. -/
def trimHexPrefixes : List Char → List Char
  | '0' :: 'x' :: rest => trimHexPrefixes rest
  | text => text

def isHexPayload (payload : String) : Bool :=
  let hex := trimHexPrefixes payload.toList
  !hex.isEmpty && hex.length % 2 == 0 && hex.all fun c => c.isDigit ||
    ('a' ≤ c && c ≤ 'f') || ('A' ≤ c && c ≤ 'F')

/-- Shape checks of a delegated request; the vocabulary of vectors is open. -/
def checkDelegated (delegated : DelegatedOptions) : Except ApiError Unit :=
  if delegated.gifterPeerId.isEmpty ∨ delegated.gifterMultiaddr.isEmpty then
    .error (invalidArgument "delegated registration needs gifter_peer_id and gifter_multiaddr")
  else if delegated.authType.isNone ∧ (delegated.authPayload.isSome ∨
      delegated.authProvider.isSome ∨ delegated.authArgs.isSome) then
    .error (invalidArgument "auth_payload/auth_provider/auth_args need auth_type")
  else
    match delegated.authType, delegated.authPayload, delegated.authProvider with
    | some _, some _, some _ =>
        .error (invalidArgument "auth_payload and auth_provider are mutually exclusive")
    | some vector, none, none =>
        .error (invalidArgument s!"auth_type '{vector}' needs auth_payload or auth_provider")
    | _, payload, _ =>
        if payload.all isHexPayload then .ok ()
        else .error (invalidArgument "auth_payload must be hex-encoded bytes")

/-- The delegated part of the options, checked. -/
def delegatedOptions (options : Value) : Except ApiError (Option DelegatedOptions) :=
  if flatBoolOption "delegated" options then
    let delegated : DelegatedOptions :=
      { gifterPeerId := ((options.get "gifter_peer_id").bind Value.asStr).getD ""
        gifterMultiaddr := ((options.get "gifter_multiaddr").bind Value.asStr).getD ""
        authType := flatStrOption "auth_type" options
        authPayload := flatStrOption "auth_payload" options
        authProvider := flatStrOption "auth_provider" options
        authArgs := flatStrOption "auth_args" options }
    (checkDelegated delegated).map fun _ => some delegated
  else if ["auth_type", "auth_payload", "auth_provider", "auth_args"].any fun key =>
      (options.get key).isSome then
    .error (invalidArgument
      "auth_* options apply to delegated registration only — set \"delegated\":\"true\"")
  else .ok none

/-- The gifter's request: the commitment and the caller's selection. -/
def delegatedRequestArgs (serde : Serde) (delegated : DelegatedOptions) (commitmentHex : String)
    (rateLimit : UInt64) : String :=
  let optional (key : String) (field : Option String) : List (String × Value) :=
    (field.map fun text => (key, Value.str text)).toList
  serde.toString (.object (optional "authArgs" delegated.authArgs ++
    optional "authPayload" delegated.authPayload ++
    optional "authProvider" delegated.authProvider ++
    optional "authType" delegated.authType ++
    [("gifterMultiaddr", .str delegated.gifterMultiaddr),
      ("gifterPeerId", .str delegated.gifterPeerId),
      ("identityCommitment", .str commitmentHex), ("rate", .uint rateLimit)]))

end LogosRln.Callers
