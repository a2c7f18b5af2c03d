import ConfluxQuery.Flight.Tokens
import ConfluxQuery.Lib.Prog

/-!
# Soundness of signed tokens

What the two signers accept, when a code verifies only for a message that a signer with the key has
signed: a ticket or a cookie they accept is one that was issued, byte for byte, and neither takes
the other's tokens even under one key. The kinds are kept apart by the fields their payloads
require. What is issued is accepted from its owner until it expires.
-/

namespace ConfluxQuery

/-- A call of a signer that issues a token. -/
inductive Issue
  | ticket (owner queryId : String) (partition partitions now ttl : Nat)
  | session (owner sessionId : String) (version now ttl : Nat)

/-- The payload a call signs. -/
def Issue.payload : Issue → JsonValue
  | ticket owner queryId partition partitions now ttl =>
    (TicketSigner.payload owner queryId partition partitions now ttl).toJson
  | session owner sessionId version now ttl =>
    (SessionSigner.payload owner sessionId version now ttl).toJson

/-- The idealised authentication code: it verifies only for a message that was signed under the key,
and no other code verifies for that message. -/
def Wire.Ideal {Bytes : Type} (wire : Wire Bytes) (issued : Bytes → Issue → Prop) : Prop :=
  ∀ key message code, wire.verifies key message code = true →
    code = wire.mac key message ∧
      ∃ issue, issued key issue ∧ message = wire.toVec issue.payload

/-- A ticket is taken from its own JSON value as it is. -/
theorem TicketPayload.fromJson_toJson {payload read : TicketPayload}
    (parsed : fromJson payload.toJson = some read) : read = payload := by
  have fields : payload.toJson.fields
      ["version", "query_id", "owner", "expires_at", "partition", "partitions"] =
      some [.integer (.ofNat payload.version), .string payload.queryId, .string payload.owner,
        .integer (.ofNat payload.expiresAt), .integer (.ofNat payload.partition),
          .integer (.ofNat payload.partitions)] := rfl
  simp only [fromJson, fields, Option.bind_eq_bind, Option.bind_some, Option.bind_eq_some_iff,
    JsonValue.asUnsigned?, JsonValue.asString?, Option.ite_none_right_eq_some,
      Option.some.injEq] at parsed
  obtain ⟨_, ⟨_, rfl⟩, _, ⟨_, rfl⟩, _, ⟨_, rfl⟩, _, ⟨_, rfl⟩, same⟩ := parsed
  exact (Option.some.inj same).symm

/-- A cookie is taken from its own JSON value as it is. -/
theorem SessionTokenPayload.fromJson_toJson {payload read : SessionTokenPayload}
    (parsed : fromJson payload.toJson = some read) : read = payload := by
  have fields : payload.toJson.fields
      ["format_version", "session_version", "session_id", "owner", "expires_at"] =
      some [.integer (.ofNat payload.formatVersion), .integer (.ofNat payload.sessionVersion),
        .string payload.sessionId, .string payload.owner, .integer (.ofNat payload.expiresAt)] :=
          rfl
  simp only [fromJson, fields, Option.bind_eq_bind, Option.bind_some, Option.bind_eq_some_iff,
    JsonValue.asUnsigned?, JsonValue.asString?, Option.ite_none_right_eq_some,
      Option.some.injEq] at parsed
  obtain ⟨_, ⟨_, rfl⟩, _, ⟨_, rfl⟩, _, ⟨_, rfl⟩, same⟩ := parsed
  exact (Option.some.inj same).symm

/-- The JSON value of a cookie lacks a field of tickets. -/
theorem TicketPayload.fromJson_session (payload : SessionTokenPayload) :
    fromJson payload.toJson = none := rfl

/-- The JSON value of a ticket lacks a field of cookies. -/
theorem SessionTokenPayload.fromJson_ticket (payload : TicketPayload) :
    fromJson payload.toJson = none := rfl

section

variable {Bytes α : Type} {wire : Wire Bytes} {key token : Bytes} {label : String}
  {fromJson : JsonValue → Option α} {value : α}

/-- An accepted token is a message and a code that belongs to it, and the message is a payload. -/
theorem verifyPayload_ok (exact : wire.Exact)
    (accepted : verifyPayload wire key label fromJson token = .ok value) :
    ∃ message code, token = wire.join (wire.encode message) (wire.encode code) ∧
      wire.verifies key message code = true ∧
      (wire.fromSlice message).bind fromJson = some value := by
  unfold verifyPayload at accepted
  split at accepted
  · split at accepted
    · cases accepted
    next left right split =>
    split at accepted
    · cases accepted
    next message decoded =>
    split at accepted
    · cases accepted
    next code decoded' =>
    split at accepted
    · next verified =>
      split at accepted
      · cases accepted
      next read parsed =>
      cases accepted
      refine ⟨message, code, ?_, verified, parsed⟩
      rw [exact.joined token left right split, exact.canonical left message decoded,
        exact.canonical right code decoded']
    · cases accepted
  · cases accepted

/-- What a signer has signed is what its token is read as. -/
theorem verifyPayload_signed (exact : wire.Exact) {signer : Bytes} {json : JsonValue}
    (written : wire.fromSlice (wire.toVec json) = some json)
    (accepted : verifyPayload wire key label fromJson (signPayload wire signer json) = .ok value) :
    fromJson json = some value := by
  obtain ⟨message, code, same, _, parsed⟩ := verifyPayload_ok exact accepted
  have halves := exact.split (wire.toVec json) (wire.mac signer (wire.toVec json))
  have others := exact.split message code
  rw [← same] at others
  have first : wire.encode (wire.toVec json) = wire.encode message := by
    have both := halves.symm.trans others
    simp only [Option.some.injEq, Prod.mk.injEq] at both
    exact both.1
  have message_eq : wire.toVec json = message := by
    have decoded := wire.decode_encode (wire.toVec json)
    rw [first, wire.decode_encode, Option.some.injEq] at decoded
    exact decoded.symm
  subst message_eq
  rwa [written] at parsed

/-- Under the ideal code, an accepted token is one that was issued, and its payload is read from
what was signed. -/
theorem verifyPayload_issued (exact : wire.Exact) {issued : Bytes → Issue → Prop}
    (ideal : wire.Ideal issued)
    (accepted : verifyPayload wire key label fromJson token = .ok value) :
    ∃ issue, issued key issue ∧ token = signPayload wire key issue.payload ∧
      fromJson issue.payload = some value := by
  obtain ⟨message, code, rfl, verified, parsed⟩ := verifyPayload_ok exact accepted
  obtain ⟨rfl, issue, member, rfl⟩ := ideal key message code verified
  refine ⟨issue, member, rfl, ?_⟩
  cases issue with
  | ticket => rwa [Issue.payload, exact.ticket] at parsed
  | session => rwa [Issue.payload, exact.session] at parsed

end

section

variable {Bytes : Type} {wire : Wire Bytes} {key token : Bytes} {owner : String} {now : Nat}

theorem TicketSigner.verify_ok {payload : TicketPayload}
    (accepted : (TicketSigner.mk key).verify wire token owner now = .ok payload) :
    verifyPayload wire key "query ticket" TicketPayload.fromJson token = .ok payload ∧
      payload.owner = owner ∧ payload.partition < payload.partitions ∧
      now ≤ payload.expiresAt := by
  obtain ⟨found, read, accepted⟩ := Except.bind_eq_ok.mp accepted
  simp only [bind, Except.bind] at accepted
  split at accepted
  · cases accepted
  split at accepted
  · cases accepted
  next mine =>
  split at accepted
  · cases accepted
  next inside =>
  split at accepted
  · cases accepted
  next valid =>
  cases accepted
  exact ⟨read, not_not.mp mine, by omega, by omega⟩

theorem SessionSigner.verify_ok {payload : SessionTokenPayload}
    (accepted : (SessionSigner.mk key).verify wire token owner now = .ok payload) :
    verifyPayload wire key "session token" SessionTokenPayload.fromJson token = .ok payload ∧
      payload.owner = owner ∧ now ≤ payload.expiresAt := by
  obtain ⟨found, read, accepted⟩ := Except.bind_eq_ok.mp accepted
  simp only [bind, Except.bind] at accepted
  split at accepted
  · cases accepted
  split at accepted
  · cases accepted
  next mine =>
  split at accepted
  · cases accepted
  next valid =>
  cases accepted
  exact ⟨read, not_not.mp mine, by omega⟩

end

/-- Signed tokens are sound, for exact encodings and an ideal authentication code: a signer accepts
only what was issued under its key to the principal that presents it and has not expired, and
returns the payload that was issued; a ticket names an existing part of its result. Whatever the
keys, no cookie is accepted as a ticket and no ticket as a cookie. -/
theorem signed_tokens_sound {Bytes : Type} (wire : Wire Bytes) (exact : wire.Exact)
    (issued : Bytes → Issue → Prop) (ideal : wire.Ideal issued) (key token : Bytes)
    (owner : String) (now : Nat) :
    (∀ payload, (TicketSigner.mk key).verify wire token owner now = .ok payload →
      ∃ queryId partition partitions issuedAt ttl,
        issued key (.ticket owner queryId partition partitions issuedAt ttl) ∧
        token = (TicketSigner.mk key).issuePartition wire owner queryId partition partitions
          issuedAt ttl ∧
        payload = TicketSigner.payload owner queryId partition partitions issuedAt ttl ∧
        partition < partitions ∧ now ≤ payload.expiresAt) ∧
    (∀ payload, (SessionSigner.mk key).verify wire token owner now = .ok payload →
      ∃ sessionId version issuedAt ttl,
        issued key (.session owner sessionId version issuedAt ttl) ∧
        token = (SessionSigner.mk key).issue wire owner sessionId version issuedAt ttl ∧
        payload = SessionSigner.payload owner sessionId version issuedAt ttl ∧
        now ≤ payload.expiresAt) ∧
    (∀ signer holder sessionId version issuedAt ttl payload,
      (TicketSigner.mk key).verify wire
        ((SessionSigner.mk signer).issue wire holder sessionId version issuedAt ttl) owner now ≠
          .ok payload) ∧
    ∀ signer holder queryId partition partitions issuedAt ttl payload,
      (SessionSigner.mk key).verify wire
        ((TicketSigner.mk signer).issuePartition wire holder queryId partition partitions
          issuedAt ttl) owner now ≠ .ok payload := by
  refine ⟨fun payload accepted => ?_, fun payload accepted => ?_, ?_, ?_⟩
  · obtain ⟨read, mine, inside, valid⟩ := TicketSigner.verify_ok accepted
    obtain ⟨issue, member, rfl, parsed⟩ := verifyPayload_issued exact ideal read
    cases issue with
    | session holder sessionId version issuedAt ttl =>
      rw [Issue.payload, TicketPayload.fromJson_session] at parsed
      cases parsed
    | ticket holder queryId partition partitions issuedAt ttl =>
      obtain rfl := TicketPayload.fromJson_toJson parsed
      obtain rfl : holder = owner := mine
      exact ⟨queryId, partition, partitions, issuedAt, ttl, member, rfl, rfl, inside, valid⟩
  · obtain ⟨read, mine, valid⟩ := SessionSigner.verify_ok accepted
    obtain ⟨issue, member, rfl, parsed⟩ := verifyPayload_issued exact ideal read
    cases issue with
    | ticket holder queryId partition partitions issuedAt ttl =>
      rw [Issue.payload, SessionTokenPayload.fromJson_ticket] at parsed
      cases parsed
    | session holder sessionId version issuedAt ttl =>
      obtain rfl := SessionTokenPayload.fromJson_toJson parsed
      obtain rfl : holder = owner := mine
      exact ⟨sessionId, version, issuedAt, ttl, member, rfl, rfl, valid⟩
  · intro signer holder sessionId version issuedAt ttl payload accepted
    have read := verifyPayload_signed exact (exact.session _) (TicketSigner.verify_ok accepted).1
    rw [TicketPayload.fromJson_session] at read
    cases read
  · intro signer holder queryId partition partitions issuedAt ttl payload accepted
    have read := verifyPayload_signed exact (exact.ticket _) (SessionSigner.verify_ok accepted).1
    rw [SessionTokenPayload.fromJson_ticket] at read
    cases read

namespace Sample

/-- Byte strings as the terms that built them. -/
inductive Term
  | key
  | json (value : JsonValue)
  | mac (signer message : Term)
  | encoded (bytes : Term)
  | joined (left right : Term)

/-- The one token that has been issued. -/
def issuedTicket (signer : Term) (issue : Issue) : Prop :=
  signer = .key ∧ issue = .ticket "alice" "qcli_1" 0 1 100 900

/-- A wire on which every encoding can be taken apart again, and on which only the code of the
issued ticket verifies. -/
def wire : Wire Term where
  toVec := .json
  fromSlice
    | .json value => some value
    | _ => none
  mac := .mac
  verifies
    | .key, .json (.object [("version", .integer 1), ("query_id", .string "qcli_1"),
        ("owner", .string "alice"), ("expires_at", .integer 1000), ("partition", .integer 0),
        ("partitions", .integer 1)]),
      .mac .key (.json (.object [("version", .integer 1), ("query_id", .string "qcli_1"),
        ("owner", .string "alice"), ("expires_at", .integer 1000), ("partition", .integer 0),
        ("partitions", .integer 1)])) => true
    | _, _, _ => false
  encode := .encoded
  decode
    | .encoded bytes => some bytes
    | _ => none
  decode_encode _ := rfl
  join := .joined
  splitOnce
    | .joined left right => some (left, right)
    | _ => none
  isUtf8 _ := true

/-- The sample wire is exact. -/
theorem wire_exact : wire.Exact where
  ticket _ := rfl
  session _ := rfl
  canonical text bytes decoded := by
    cases text <;> cases decoded
    rfl
  split _ _ := rfl
  joined text left right split := by
    cases text <;> cases split
    rfl
  text _ _ := rfl

/-- On the sample wire a code verifies only for the issued ticket. -/
theorem wire_ideal : wire.Ideal issuedTicket := by
  intro signer message code verified
  simp only [wire] at verified
  split at verified
  · exact ⟨rfl, _, ⟨rfl, rfl⟩, rfl⟩
  · cases verified

end Sample

/-- The issued ticket is accepted from its owner before it expires, and is what
`signed_tokens_sound` says. -/
theorem issued_ticket_accepted :
    (TicketSigner.mk Sample.Term.key).verify Sample.wire
      ((TicketSigner.mk Sample.Term.key).issue Sample.wire "alice" "qcli_1" 100 900) "alice" 500 =
        .ok (TicketSigner.payload "alice" "qcli_1" 0 1 100 900) ∧
    ∃ queryId partition partitions issuedAt ttl,
      Sample.issuedTicket .key (.ticket "alice" queryId partition partitions issuedAt ttl) ∧
      (TicketSigner.mk Sample.Term.key).issue Sample.wire "alice" "qcli_1" 100 900 =
        (TicketSigner.mk Sample.Term.key).issuePartition Sample.wire "alice" queryId partition
          partitions issuedAt ttl ∧
      TicketSigner.payload "alice" "qcli_1" 0 1 100 900 =
        TicketSigner.payload "alice" queryId partition partitions issuedAt ttl ∧
      partition < partitions ∧
      500 ≤ (TicketSigner.payload "alice" "qcli_1" 0 1 100 900).expiresAt :=
  ⟨rfl, (signed_tokens_sound Sample.wire Sample.wire_exact Sample.issuedTicket Sample.wire_ideal
    .key _ "alice" 500).1 _ rfl⟩

section

variable {Bytes α : Type} {wire : Wire Bytes} {key : Bytes}

/-- The code of every message under a key verifies. -/
def Wire.Signs (wire : Wire Bytes) (key : Bytes) : Prop :=
  ∀ message, wire.verifies key message (wire.mac key message) = true

/-- A token is read as what was signed. -/
theorem verifyPayload_signPayload (exact : wire.Exact) (signs : wire.Signs key) {json : JsonValue}
    (written : wire.fromSlice (wire.toVec json) = some json) {label : String}
    {fromJson : JsonValue → Option α} {value : α} (parsed : fromJson json = some value) :
    verifyPayload wire key label fromJson (signPayload wire key json) = .ok value := by
  simp only [verifyPayload, signPayload, exact.text, exact.split, wire.decode_encode, signs _,
    written,
    Option.bind_some, parsed, if_true]

theorem TicketPayload.fromJson_fits {payload : TicketPayload} (version : payload.version < 2 ^ 8)
    (expiry : payload.expiresAt < 2 ^ 64) (inside : payload.partition < 2 ^ 64)
    (parts : payload.partitions < 2 ^ 64) : fromJson payload.toJson = some payload := by
  have fields : payload.toJson.fields
      ["version", "query_id", "owner", "expires_at", "partition", "partitions"] =
      some [.integer (.ofNat payload.version), .string payload.queryId, .string payload.owner,
        .integer (.ofNat payload.expiresAt), .integer (.ofNat payload.partition),
          .integer (.ofNat payload.partitions)] := rfl
  simp only [fromJson, fields, JsonValue.asUnsigned?, JsonValue.asString?, if_pos version,
    if_pos expiry,
    if_pos inside, if_pos parts, Option.bind_eq_bind, Option.bind_some, Option.pure_def]

theorem SessionTokenPayload.fromJson_fits {payload : SessionTokenPayload}
    (format : payload.formatVersion < 2 ^ 8) (version : payload.sessionVersion < 2 ^ 64)
    (expiry : payload.expiresAt < 2 ^ 64) : fromJson payload.toJson = some payload := by
  have fields : payload.toJson.fields
      ["format_version", "session_version", "session_id", "owner", "expires_at"] =
      some [.integer (.ofNat payload.formatVersion), .integer (.ofNat payload.sessionVersion),
        .string payload.sessionId, .string payload.owner, .integer (.ofNat payload.expiresAt)] :=
          rfl
  simp only [fromJson, fields, JsonValue.asUnsigned?, JsonValue.asString?, if_pos format,
    if_pos version,
    if_pos expiry, Option.bind_eq_bind, Option.bind_some, Option.pure_def]

end

/-- Tokens issued under a key are accepted by every signer with the key: a ticket for a part of a
result just where its owner presents it, the part exists and it has not expired, a cookie just where
its owner presents it and it has not expired. What is returned is the payload that was issued. -/
theorem issued_tokens_accepted_iff {Bytes : Type} (wire : Wire Bytes) (exact : wire.Exact)
    (key : Bytes) (signs : wire.Signs key) (owner holder id : String) (issuedAt ttl now : Nat)
    (partition partitions version : Nat) (inside : partition < 2 ^ 64)
    (parts : partitions < 2 ^ 64) (fits : version < 2 ^ 64) :
    (∀ payload, (TicketSigner.mk key).verify wire ((TicketSigner.mk key).issuePartition wire owner
        id partition partitions issuedAt ttl) holder now = .ok payload ↔
      payload = TicketSigner.payload owner id partition partitions issuedAt ttl ∧
        holder = owner ∧ partition < partitions ∧ now ≤ saturatingAdd issuedAt ttl) ∧
    ∀ payload, (SessionSigner.mk key).verify wire
        ((SessionSigner.mk key).issue wire owner id version issuedAt ttl) holder now = .ok payload ↔
      payload = SessionSigner.payload owner id version issuedAt ttl ∧
        holder = owner ∧ now ≤ saturatingAdd issuedAt ttl := by
  have expiry : saturatingAdd issuedAt ttl < 2 ^ 64 := by
    simp only [saturatingAdd, usizeMax]
    omega
  have ticket : verifyPayload wire key "query ticket" TicketPayload.fromJson
      ((TicketSigner.mk key).issuePartition wire owner id partition partitions issuedAt ttl) =
        .ok (TicketSigner.payload owner id partition partitions issuedAt ttl) :=
    verifyPayload_signPayload exact signs (exact.ticket _)
      (TicketPayload.fromJson_fits (show 1 < 2 ^ 8 by decide) expiry inside parts)
  have cookie : verifyPayload wire key "session token" SessionTokenPayload.fromJson
      ((SessionSigner.mk key).issue wire owner id version issuedAt ttl) =
        .ok (SessionSigner.payload owner id version issuedAt ttl) :=
    verifyPayload_signPayload exact signs (exact.session _)
      (SessionTokenPayload.fromJson_fits (show 1 < 2 ^ 8 by decide) fits expiry)
  refine ⟨fun payload => ⟨fun accepted => ?_, ?_⟩, fun payload => ⟨fun accepted => ?_, ?_⟩⟩
  · obtain ⟨read, mine, part, valid⟩ := TicketSigner.verify_ok accepted
    cases ticket.symm.trans read
    exact ⟨rfl, mine.symm, part, valid⟩
  · rintro ⟨rfl, rfl, part, valid⟩
    have real : ¬ (partitions = 0 ∨ partitions ≤ partition) := by omega
    simp only [TicketSigner.verify, ticket, bind, Except.bind, TicketSigner.payload]
    simp [real, Nat.not_lt.mpr valid, pure, Except.pure]
  · obtain ⟨read, mine, valid⟩ := SessionSigner.verify_ok accepted
    cases cookie.symm.trans read
    exact ⟨rfl, mine.symm, valid⟩
  · rintro ⟨rfl, rfl, valid⟩
    simp only [SessionSigner.verify, cookie, bind, Except.bind, SessionSigner.payload]
    simp [Nat.not_lt.mpr valid, pure, Except.pure]

namespace Sample

/-- The wire, with codes that all verify. -/
def openWire : Wire Term := { wire with verifies := fun _ _ _ => true }

theorem openWire_exact : openWire.Exact := { wire_exact with }

end Sample

/-- A ticket is accepted in its last second. -/
theorem issued_ticket_last_second :
    (TicketSigner.mk Sample.Term.key).verify Sample.openWire
      ((TicketSigner.mk Sample.Term.key).issuePartition Sample.openWire "alice" "qcli_1" 0 1 100
        900) "alice" 1000 = .ok (TicketSigner.payload "alice" "qcli_1" 0 1 100 900) :=
  ((issued_tokens_accepted_iff Sample.openWire Sample.openWire_exact .key (fun _ => rfl) "alice"
    "alice" "qcli_1" 100 900 1000 0 1 0 (by decide) (by decide) (by decide)).1 _).mpr
      ⟨rfl, rfl, by decide, by decide⟩

end ConfluxQuery
