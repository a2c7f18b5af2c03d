import ConfluxQuery.Lib.Codecs
import ConfluxQuery.Lib.Json
import ConfluxQuery.Service.Types

/-!
# Signed tokens of the Flight frontend

Query tickets and session cookies. A token is a payload as JSON and its HMAC, each in base64url,
with a dot between them. What `serde_json`, base64url, HMAC-SHA-256 and UTF-8 do is what a `Wire`
supplies, over any type of byte strings; `Wire.Exact` says that encodings are exact. How a payload
is taken from a JSON value is the derived deserialiser: an object has to hold every field once and
may hold others, an array has to hold the fields in order. Times are seconds since the epoch.
-/

namespace ConfluxQuery

/-- Status codes of gRPC the frontend answers with. -/
inductive Code
  | cancelled | invalidArgument | notFound | permissionDenied | aborted | resourceExhausted
  | failedPrecondition | unavailable | unimplemented | internal | unauthenticated
  deriving DecidableEq, Repr

/-- A failed request of the Flight frontend. -/
structure Status where
  code : Code
  message : String
  deriving DecidableEq, Repr

/-- What a query ticket says. -/
structure TicketPayload where
  version : Nat
  queryId : String
  owner : String
  /-- Last second it is accepted in. -/
  expiresAt : Nat
  partition : Nat
  /-- Parts of the result there are. -/
  partitions : Nat
  deriving DecidableEq, Repr

namespace TicketPayload

/-- A ticket as a JSON value. -/
def toJson (payload : TicketPayload) : JsonValue :=
  .object [("version", .integer (.ofNat payload.version)), ("query_id", .string payload.queryId),
    ("owner", .string payload.owner), ("expires_at", .integer (.ofNat payload.expiresAt)),
    ("partition", .integer (.ofNat payload.partition)), ("partitions",
      .integer (.ofNat payload.partitions))]

/-- A ticket from a JSON value. -/
def fromJson (json : JsonValue) : Option TicketPayload := do
  match ← json.fields ["version", "query_id", "owner", "expires_at", "partition", "partitions"] with
  | [version, queryId, owner, expiresAt, partition, partitions] =>
    return ⟨← version.asUnsigned? 8, ← queryId.asString?, ← owner.asString?,
      ← expiresAt.asUnsigned? 64,
      ← partition.asUnsigned? 64, ← partitions.asUnsigned? 64⟩
  | _ => none

end TicketPayload

/-- What a session cookie says. -/
structure SessionTokenPayload where
  formatVersion : Nat
  sessionVersion : Nat
  sessionId : String
  owner : String
  /-- Last second it is accepted in. -/
  expiresAt : Nat
  deriving DecidableEq, Repr

namespace SessionTokenPayload

/-- A cookie as a JSON value. -/
def toJson (payload : SessionTokenPayload) : JsonValue :=
  .object [("format_version", .integer (.ofNat payload.formatVersion)),
    ("session_version", .integer (.ofNat payload.sessionVersion)), ("session_id",
      .string payload.sessionId),
    ("owner", .string payload.owner), ("expires_at", .integer (.ofNat payload.expiresAt))]

/-- A cookie from a JSON value. -/
def fromJson (json : JsonValue) : Option SessionTokenPayload := do
  match ← json.fields ["format_version", "session_version", "session_id", "owner", "expires_at"]
    with
  | [formatVersion, sessionVersion, sessionId, owner, expiresAt] =>
    return ⟨← formatVersion.asUnsigned? 8, ← sessionVersion.asUnsigned? 64, ← sessionId.asString?,
      ← owner.asString?, ← expiresAt.asUnsigned? 64⟩
  | _ => none

end SessionTokenPayload

/-- The libraries behind tokens. -/
structure Wire (Bytes : Type) extends Base64 Bytes Bytes where
  toVec : JsonValue → Bytes
  fromSlice : Bytes → Option JsonValue
  /-- Authentication code of a message under a key. -/
  mac : Bytes → Bytes → Bytes
  /-- A key, a message and a code belong together. -/
  verifies : Bytes → Bytes → Bytes → Bool
  /-- Two texts with a dot between them. -/
  join : Bytes → Bytes → Bytes
  /-- The texts before and after the first dot. -/
  splitOnce : Bytes → Option (Bytes × Bytes)
  /-- The bytes are UTF-8. -/
  isUtf8 : Bytes → Bool

/-- Encodings are exact: what was written is read back, and base64url has one spelling. -/
structure Wire.Exact {Bytes : Type} (wire : Wire Bytes) : Prop where
  ticket : ∀ payload : TicketPayload,
    wire.fromSlice (wire.toVec payload.toJson) = some payload.toJson
  session : ∀ payload : SessionTokenPayload,
    wire.fromSlice (wire.toVec payload.toJson) = some payload.toJson
  /-- Only base64url is decoded. -/
  canonical : ∀ text bytes, wire.decode text = some bytes → text = wire.encode bytes
  split : ∀ left right, wire.splitOnce (wire.join (wire.encode left) (wire.encode right)) =
    some (wire.encode left, wire.encode right)
  joined : ∀ text left right, wire.splitOnce text = some (left, right) → text = wire.join left right
  text : ∀ left right, wire.isUtf8 (wire.join (wire.encode left) (wire.encode right)) = true

section

variable {Bytes α : Type} (wire : Wire Bytes)

/-- Sign a payload. -/
def signPayload (key : Bytes) (payload : JsonValue) : Bytes :=
  let message := wire.toVec payload
  wire.join (wire.encode message) (wire.encode (wire.mac key message))

/-- Take a payload from a token whose code belongs to it. -/
def verifyPayload (key : Bytes) (label : String) (fromJson : JsonValue → Option α) (token : Bytes) :
    Except Status α :=
  if wire.isUtf8 token then
    match wire.splitOnce token with
    | none => .error ⟨.invalidArgument, label ++ " has an invalid format"⟩
    | some (payload, signature) =>
      match wire.decode payload with
      | none => .error ⟨.invalidArgument, label ++ " payload is invalid"⟩
      | some payload =>
        match wire.decode signature with
        | none => .error ⟨.invalidArgument, label ++ " signature is invalid"⟩
        | some signature =>
          if wire.verifies key payload signature then
            match (wire.fromSlice payload).bind fromJson with
            | none => .error ⟨.invalidArgument, label ++ " payload is invalid"⟩
            | some payload => .ok payload
          else .error ⟨.permissionDenied, label ++ " signature is invalid"⟩
  else .error ⟨.invalidArgument, label ++ " is not valid UTF-8"⟩

end

/-- Signs query tickets. -/
structure TicketSigner (Bytes : Type) where
  key : Bytes

namespace TicketSigner

variable {Bytes : Type} (wire : Wire Bytes) (signer : TicketSigner Bytes)

/-- The payload of a ticket issued at a time. -/
def payload (owner queryId : String) (partition partitions now ttl : Nat) : TicketPayload :=
  ⟨1, queryId, owner, saturatingAdd now ttl, partition, partitions⟩

/-- Issue a ticket for a part of a result. -/
def issuePartition (owner queryId : String) (partition partitions now ttl : Nat) : Bytes :=
  signPayload wire signer.key (payload owner queryId partition partitions now ttl).toJson

/-- Issue a ticket for a whole result. -/
def issue (owner queryId : String) (now ttl : Nat) : Bytes :=
  signer.issuePartition wire owner queryId 0 1 now ttl

/-- Accept a ticket of a principal. -/
def verify (ticket : Bytes) (owner : String) (now : Nat) : Except Status TicketPayload := do
  let payload ← verifyPayload wire signer.key "query ticket" TicketPayload.fromJson ticket
  if payload.version ≠ 1 then
    throw ⟨.invalidArgument, "query ticket version is not supported"⟩
  if payload.owner ≠ owner then
    throw ⟨.permissionDenied, "query ticket belongs to another principal"⟩
  if payload.partitions = 0 ∨ payload.partitions ≤ payload.partition then
    throw ⟨.invalidArgument, "query ticket has an invalid result partition"⟩
  if payload.expiresAt < now then
    throw ⟨.notFound, "query ticket has expired"⟩
  return payload

end TicketSigner

/-- Signs session cookies. -/
structure SessionSigner (Bytes : Type) where
  key : Bytes

namespace SessionSigner

variable {Bytes : Type} (wire : Wire Bytes) (signer : SessionSigner Bytes)

/-- The payload of a cookie issued at a time. -/
def payload (owner sessionId : String) (version now ttl : Nat) : SessionTokenPayload :=
  ⟨1, version, sessionId, owner, saturatingAdd now ttl⟩

/-- Issue a cookie for a version of a session. -/
def issue (owner sessionId : String) (version now ttl : Nat) : Bytes :=
  signPayload wire signer.key (payload owner sessionId version now ttl).toJson

/-- Accept a cookie of a principal. -/
def verify (token : Bytes) (owner : String) (now : Nat) : Except Status SessionTokenPayload := do
  let payload ← verifyPayload wire signer.key "session token" SessionTokenPayload.fromJson token
  if payload.formatVersion ≠ 1 then
    throw ⟨.invalidArgument, "Flight session token version is not supported"⟩
  if payload.owner ≠ owner then
    throw ⟨.permissionDenied, "Flight session belongs to another principal"⟩
  if payload.expiresAt < now then
    throw ⟨.notFound, "Flight session token has expired"⟩
  return payload

end SessionSigner

end ConfluxQuery
