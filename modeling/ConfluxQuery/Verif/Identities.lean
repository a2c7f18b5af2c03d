import ConfluxQuery.Auth.Authenticators

/-!
# Who an authenticated principal is

An authenticated identity is flat text made of free-form parts, and nothing keeps the parts from
holding the separators. `Identity` says who is behind a request; a server tells all of those it
knows apart exactly when none of their names, issuers and subjects run into each other: a name like
an issuer with a subject, an issuer that continues another issuer, or a name or a subject that ends
like one with a certificate.
-/

namespace ConfluxQuery

/-- Who a provider has accepted. -/
inductive Provenance
  | apiKey (name : String)
  | oidc (issuer subject : String)
  deriving DecidableEq, Repr

/-- How the providers spell it. -/
def Provenance.id : Provenance → String
  | apiKey name => name
  | oidc issuer subject => issuer ++ "#" ++ subject

/-- Who is behind a name or a subject that ends like one with a certificate. -/
def Provenance.marked (fingerprint : String) : Provenance → Provenance
  | apiKey name => .apiKey (name ++ "@mtls:" ++ fingerprint)
  | oidc issuer subject => .oidc issuer (subject ++ "@mtls:" ++ fingerprint)

/-- Two run into each other: a name is an issuer with a subject, or an issuer goes on after another
one as a subject of that one begins. -/
def Provenance.Clashes : Provenance → Provenance → Prop
  | apiKey name, oidc issuer subject | oidc issuer subject, apiKey name =>
    name = issuer ++ "#" ++ subject
  | oidc issuer subject, oidc issuer' subject' =>
    (∃ more, issuer' = issuer ++ "#" ++ more ∧ subject = more ++ "#" ++ subject') ∨
      ∃ more, issuer = issuer' ++ "#" ++ more ∧ subject' = more ++ "#" ++ subject
  | apiKey _, apiKey _ => False

/-- Who a credential stands for at a provider. -/
def Provider.provenance (now : Nat) (bearer : String) : Provider → Option Provenance
  | apiKey authenticator => do
    let (keyId, _) ← parseApiKey bearer
    let key ← authenticator.keys.lookup keyId
    return .apiKey key.principal
  | oidc authenticator => do
    let claims ← (authenticator.decode now bearer).toOption
    let subject ← claims.sub
    return .oidc authenticator.issuer subject

/-- Whom a provider vouches for: the principal of a key of the file that is enabled and has not
expired, when the secret is right and the file has the principal; or the subject of a valid token
whose groups may use a target. -/
def Provider.Vouches (now : Nat) (bearer : String) : Provider → Provenance → Prop
  | apiKey authenticator, .apiKey name => ∃ keyId secret key,
    parseApiKey bearer = some (keyId, secret) ∧ authenticator.keys.lookup keyId = some key ∧
    authenticator.hashing.parses key.secretHash = true ∧
    authenticator.hashing.verifyPassword secret key.secretHash = true ∧ key.enabled = true ∧
    (key.expiresAt.any fun expiry => decide (expiry ≤ now)) = false ∧
    (authenticator.principals.lookup key.principal).isSome = true ∧ key.principal = name
  | oidc authenticator, .oidc issuer subject => ∃ claims,
    authenticator.decode now bearer = .ok claims ∧ authenticator.issuer = issuer ∧
    claims.sub = some subject ∧ subject ≠ "" ∧
    (claims.groups.foldl authenticator.withGroup authenticator.defaults).targets ≠ ∅
  | _, _ => False

/-- Someone is behind a credential: a provider vouches for them, and those before it found the
credential invalid. -/
def Behind (now : Nat) (bearer : String) (source : Provenance) : List Provider → Prop
  | [] => False
  | provider :: rest => provider.Vouches now bearer source ∨
    (∃ error, provider.authenticateImmediate now bearer = .error error ∧ error.kind = .invalid) ∧
      Behind now bearer source rest

/-- Who a credential stands for at the provider that accepts it. -/
def provenance (now : Nat) (bearer : String) : List Provider → Option Provenance
  | [] => none
  | provider :: rest =>
    match provider.authenticateImmediate now bearer with
    | .ok _ => provider.provenance now bearer
    | .error _ => provenance now bearer rest

/-- A provider accepts who it vouches for, and spells it so. -/
theorem Provider.accepts_of_vouches {now : Nat} {bearer : String} {provider : Provider}
    {source : Provenance} (vouches : provider.Vouches now bearer source) :
    ∃ principal, provider.authenticateImmediate now bearer = .ok principal ∧
      provider.provenance now bearer = some source := by
  cases provider with
  | apiKey authenticator =>
    cases source with
    | oidc => cases vouches
    | apiKey name =>
      obtain ⟨keyId, secret, key, parsed, found, parses, verified, enabled, current, held, rfl⟩ :=
        vouches
      obtain ⟨policy, held⟩ := Option.isSome_iff_exists.mp held
      refine ⟨policy.principal key.principal, ?_, ?_⟩
      · simp [authenticateImmediate, ApiKeyAuthenticator.authenticateImmediate, parsed, found,
          parses, verified, enabled, current, held]
      · simp [provenance, parsed, found]
  | oidc authenticator =>
    cases source with
    | apiKey => cases vouches
    | oidc issuer subject =>
      obtain ⟨claims, decoded, rfl, named, present, allowed⟩ := vouches
      have kept : claims.sub.filter (· ≠ "") = some subject := by
        rw [named, Option.filter_some_pos (by simpa using present)]
      refine ⟨(claims.groups.foldl authenticator.withGroup authenticator.defaults).principal
        (authenticator.issuer ++ "#" ++ subject), ?_, ?_⟩
      · simp only [authenticateImmediate, OidcAuthenticator.authenticateImmediate, decoded, kept,
          if_neg allowed]
      · simp [provenance, decoded, named, Except.toOption]

/-- A provider vouches for whom it accepts, who is spelled so. -/
theorem Provider.vouches_of_accepts {now : Nat} {bearer : String} {provider : Provider}
    {principal : AuthenticatedPrincipal}
    (accepted : provider.authenticateImmediate now bearer = .ok principal) :
    ∃ source, provider.Vouches now bearer source ∧
      provider.provenance now bearer = some source ∧ principal.id = source.id := by
  cases provider with
  | apiKey authenticator =>
    simp only [authenticateImmediate, ApiKeyAuthenticator.authenticateImmediate] at accepted
    split at accepted
    · cases accepted
    next keyId secret parsed =>
    split at accepted
    · cases accepted
    next parses =>
    split at accepted
    · cases accepted
    next key found =>
    split at accepted
    · cases accepted
    next valid =>
    split at accepted
    · cases accepted
    next policy held =>
    cases accepted
    rw [found, Option.map_some, Option.getD_some] at parses valid
    simp only [Bool.not_eq_true', Bool.not_eq_false, Bool.or_eq_true, not_or] at parses valid
    obtain ⟨⟨verified, enabled⟩, current⟩ := valid
    refine ⟨.apiKey key.principal, ⟨keyId, secret, key, parsed, found, parses, verified, enabled,
      by simpa using current, by rw [held]; rfl, rfl⟩, ?_, rfl⟩
    simp [provenance, parsed, found]
  | oidc authenticator =>
    simp only [authenticateImmediate, OidcAuthenticator.authenticateImmediate] at accepted
    split at accepted
    · cases accepted
    next claims decoded =>
    split at accepted
    · cases accepted
    next subject named =>
    split at accepted
    · cases accepted
    next allowed =>
    cases accepted
    obtain ⟨named, present⟩ := Option.filter_eq_some_iff.mp named
    refine ⟨.oidc authenticator.issuer subject,
      ⟨claims, decoded, rfl, named, by simpa using present, allowed⟩, ?_, rfl⟩
    simp [provenance, decoded, named, Except.toOption]

/-- A principal a composite accepts is spelled as who is behind the credential. -/
theorem behind_of_accepts {now : Nat} {bearer : String} {providers : List Provider}
    {principal : AuthenticatedPrincipal}
    (accepted : authenticateImmediate now bearer providers = .ok principal) :
    ∃ source, Behind now bearer source providers ∧
      provenance now bearer providers = some source ∧ principal.id = source.id := by
  induction providers with
  | nil => cases accepted
  | cons provider rest step =>
    simp only [authenticateImmediate] at accepted
    simp only [provenance, Behind]
    cases answered : provider.authenticateImmediate now bearer with
    | ok found =>
      rw [answered] at accepted
      cases accepted
      obtain ⟨source, vouches, named, spelled⟩ := Provider.vouches_of_accepts answered
      exact ⟨source, .inl vouches, named, spelled⟩
    | error error =>
      rw [answered] at accepted
      dsimp only at accepted
      split at accepted
      · next invalid =>
        obtain ⟨source, behind, named, spelled⟩ := step accepted
        exact ⟨source, .inr ⟨⟨error, rfl, invalid⟩, behind⟩, named, spelled⟩
      · cases accepted

/-- A composite accepts a credential that someone is behind. -/
theorem accepts_of_behind {now : Nat} {bearer : String} {providers : List Provider}
    {source : Provenance} (behind : Behind now bearer source providers) :
    ∃ principal, authenticateImmediate now bearer providers = .ok principal ∧
      provenance now bearer providers = some source := by
  induction providers with
  | nil => cases behind
  | cons provider rest step =>
    rw [authenticateImmediate, provenance]
    rcases behind with vouches | ⟨⟨error, refused, invalid⟩, behind⟩
    · obtain ⟨principal, accepted, named⟩ := Provider.accepts_of_vouches vouches
      exact ⟨principal, by rw [accepted], by rw [accepted]; exact named⟩
    · obtain ⟨principal, accepted, named⟩ := step behind
      exact ⟨principal, by rw [refused]; simp [invalid, accepted], by rw [refused]; exact named⟩

/-- Who is behind a request: whom a provider has accepted, and the certificate the principal is
bound to. -/
structure Identity (Certificate : Type) where
  /-- Whom a provider has accepted. -/
  source : Provenance
  certificate : Option Certificate
  deriving DecidableEq

namespace Authentication

variable {Certificate : Type} (authentication : Authentication Certificate)

/-- Who is behind a request. -/
def identity (arrival : Arrival Certificate) : Option (Identity Certificate) :=
  (provenance arrival.now arrival.bearer authentication.providers).map fun source =>
    ⟨source, if arrival.flight && authentication.requireClientCertificate then arrival.certificate
      else none⟩

/-- How an identity is spelled. -/
def spell (identity : Identity Certificate) : String :=
  match identity.certificate with
  | none => identity.source.id
  | some certificate =>
    mtlsBoundPrincipalId (authentication.fingerprint certificate) identity.source.id

/-- Someone who is behind a credential at some time. -/
def Knows (source : Provenance) : Prop :=
  ∃ now bearer, Behind now bearer source authentication.providers

/-- No two of those the server knows run into each other, also when one of them is bound to a
certificate. -/
structure Unambiguous : Prop where
  /-- Their names, issuers and subjects do not. -/
  plain : ∀ source other, authentication.Knows source → authentication.Knows other →
    ¬source.Clashes other
  /-- No name and no subject is another one with a certificate, nor runs into one. -/
  bound : authentication.requireClientCertificate = true → ∀ source other certificate,
    authentication.Knows source → authentication.Knows other →
      source ≠ other.marked (authentication.fingerprint certificate) ∧
        ¬source.Clashes (other.marked (authentication.fingerprint certificate))

variable {authentication}

/-- A principal is spelled as who is behind its request. -/
theorem identity_id {arrival : Arrival Certificate} {principal : AuthenticatedPrincipal}
    (accepted : authentication.principal arrival = some principal) :
    ∃ identity, authentication.identity arrival = some identity ∧
      authentication.Knows identity.source ∧
      (identity.certificate.isSome = true → authentication.requireClientCertificate = true) ∧
      principal.id = authentication.spell identity := by
  unfold Authentication.principal at accepted
  split at accepted
  · next atFlight =>
    unfold interceptor at accepted
    split at accepted
    · cases accepted
    next found answered =>
    obtain ⟨source, behind, named, spelled⟩ := behind_of_accepts answered
    split at accepted
    · next asked =>
      split at accepted
      · cases accepted
      next certificate presented =>
      cases accepted
      refine ⟨⟨source, some certificate⟩, ?_, ⟨_, _, behind⟩, fun _ => asked,
        by rw [spell, ← spelled]⟩
      simp [identity, named, atFlight, asked, presented]
    · next open_ =>
      cases accepted
      refine ⟨⟨source, none⟩, ?_, ⟨_, _, behind⟩, by simp, by rw [spell, ← spelled]⟩
      simp [identity, named, open_]
  · next atHttp =>
    cases answered : authentication.authenticateRequest arrival.now arrival.bearer with
    | error error =>
      rw [answered] at accepted
      cases accepted
    | ok found =>
      rw [answered] at accepted
      cases accepted
      obtain ⟨source, behind, named, spelled⟩ := behind_of_accepts answered
      refine ⟨⟨source, none⟩, ?_, ⟨_, _, behind⟩, by simp, by rw [spell, ← spelled]⟩
      simp [identity, named, atHttp]

/-- Everyone the server knows gets a principal: without a certificate, and with any where one is
asked for. -/
theorem Knows.principal {source : Provenance} (knows : authentication.Knows source)
    {certificate : Option Certificate}
    (asked : certificate.isSome = true → authentication.requireClientCertificate = true) :
    ∃ arrival principal, authentication.principal arrival = some principal ∧
      authentication.identity arrival = some ⟨source, certificate⟩ ∧
      principal.id = authentication.spell ⟨source, certificate⟩ := by
  obtain ⟨now, bearer, behind⟩ := knows
  obtain ⟨found, accepted, named⟩ := accepts_of_behind behind
  have some : ∃ arrival, (authentication.principal arrival).isSome = true ∧
      authentication.identity arrival = some ⟨source, certificate⟩ := by
    cases certificate with
    | none =>
      refine ⟨⟨now, bearer, false, none⟩, ?_, by simp [identity, named]⟩
      simp [Authentication.principal, authenticateRequest, accepted, Except.toOption]
    | some certificate =>
      have asked := asked rfl
      refine ⟨⟨now, bearer, true, some certificate⟩, ?_, by simp [identity, named, asked]⟩
      simp [Authentication.principal, interceptor, accepted, asked, Except.toOption]
  obtain ⟨arrival, some, known⟩ := some
  obtain ⟨principal, accepted⟩ := Option.isSome_iff_exists.mp some
  obtain ⟨other, known', -, -, spelled⟩ := identity_id accepted
  cases known.symm.trans known'
  exact ⟨arrival, principal, accepted, known, spelled⟩

end Authentication

/-- Lists joined by a separator agree part by part, unless one first part goes on after the other
with the separator. -/
theorem append_cons_cases {α : Type} {separator : α} {first second other another : List α}
    (same : first ++ separator :: second = other ++ separator :: another) :
    (first = other ∧ second = another) ∨
      (∃ more, other = first ++ separator :: more ∧ second = more ++ separator :: another) ∨
      ∃ more, first = other ++ separator :: more ∧ another = more ++ separator :: second := by
  obtain ⟨rest, longer, tails⟩ | ⟨rest, longer, tails⟩ := List.append_eq_append_iff.mp same
  · cases rest with
    | nil => exact .inl ⟨by simpa using longer.symm, (List.cons.inj tails).2⟩
    | cons head more =>
      obtain ⟨rfl, rests⟩ := List.cons.inj tails
      exact .inr (.inl ⟨more, longer, rests⟩)
  · cases rest with
    | nil => exact .inl ⟨by simpa using longer, (List.cons.inj tails).2.symm⟩
    | cons head more =>
      obtain ⟨rfl, rests⟩ := List.cons.inj tails
      exact .inr (.inr ⟨more, longer, rests⟩)

theorem joined_cases {first second other another : String}
    (same : first ++ "#" ++ second = other ++ "#" ++ another) :
    (first = other ∧ second = another) ∨
      (∃ more, other = first ++ "#" ++ more ∧ second = more ++ "#" ++ another) ∨
      ∃ more, first = other ++ "#" ++ more ∧ another = more ++ "#" ++ second := by
  have lists : first.toList ++ '#' :: second.toList = other.toList ++ '#' :: another.toList := by
    have lists := congrArg String.toList same
    simpa using lists
  have text : ∀ {left right more : String} {rest : List Char}, more = String.ofList rest →
      left.toList = right.toList ++ '#' :: rest → left = right ++ "#" ++ more := by
    rintro left right _ rest rfl agree
    exact String.toList_injective (by simpa using agree)
  obtain ⟨one, two⟩ | ⟨more, longer, tails⟩ | ⟨more, longer, tails⟩ := append_cons_cases lists
  · exact .inl ⟨String.toList_injective one, String.toList_injective two⟩
  · refine .inr (.inl ⟨String.ofList more, text rfl longer, ?_⟩)
    exact String.toList_injective (by simpa using tails)
  · refine .inr (.inr ⟨String.ofList more, text rfl longer, ?_⟩)
    exact String.toList_injective (by simpa using tails)

/-- Two are spelled alike when they are the same or run into each other. -/
theorem Provenance.id_eq_iff {source other : Provenance} :
    source.id = other.id ↔ source = other ∨ source.Clashes other := by
  cases source with
  | apiKey name =>
    cases other with
    | apiKey name' => simp [id, Clashes]
    | oidc issuer subject => simp [id, Clashes]
  | oidc issuer subject =>
    cases other with
    | apiKey name => simp [id, Clashes, eq_comm]
    | oidc issuer' subject' =>
      constructor
      · intro same
        obtain ⟨rfl, rfl⟩ | continued | continued := joined_cases same
        · exact .inl rfl
        · exact .inr (.inl continued)
        · exact .inr (.inr continued)
      · rintro (same | ⟨more, rfl, rfl⟩ | ⟨more, rfl, rfl⟩)
        · rw [same]
        · simp [id, String.append_assoc]
        · simp [id, String.append_assoc]

/-- Nobody runs into themselves. -/
theorem Provenance.not_clashes_self (source : Provenance) : ¬source.Clashes source := by
  cases source with
  | apiKey name => exact not_false
  | oidc issuer subject =>
    have longer : ∀ more : String, issuer ≠ issuer ++ "#" ++ more := by
      intro more same
      have lengths := congrArg String.length same
      have separator : "#".length = 1 := rfl
      simp only [String.length_append] at lengths
      omega
    rintro (⟨more, same, -⟩ | ⟨more, same, -⟩)
    · exact longer more same
    · exact longer more same

theorem Provenance.id_marked (fingerprint : String) (source : Provenance) :
    (source.marked fingerprint).id = mtlsBoundPrincipalId fingerprint source.id := by
  cases source <;> simp [marked, id, mtlsBoundPrincipalId, String.append_assoc]

namespace Authentication

variable {Certificate : Type} {authentication : Authentication Certificate}

/-- Without ambiguity, those the server knows are told apart by their spelling. -/
theorem Unambiguous.source_eq (unambiguous : authentication.Unambiguous)
    {source other : Provenance} (one : authentication.Knows source)
    (two : authentication.Knows other) (same : source.id = other.id) : source = other :=
  (Provenance.id_eq_iff.mp same).resolve_right (unambiguous.plain source other one two)

/-- Without ambiguity, nobody is spelled like someone with a certificate. -/
theorem Unambiguous.id_ne (unambiguous : authentication.Unambiguous)
    (asked : authentication.requireClientCertificate = true) {source other : Provenance}
    (one : authentication.Knows source) (two : authentication.Knows other)
    (certificate : Certificate) :
    source.id ≠ mtlsBoundPrincipalId (authentication.fingerprint certificate) other.id := by
  obtain ⟨differ, apart⟩ := unambiguous.bound asked source other certificate one two
  rw [← Provenance.id_marked]
  intro same
  exact (Provenance.id_eq_iff.mp same).elim differ apart

/-- A bound spelling determines what was bound to which fingerprint, since fingerprints have one
length. -/
theorem bound_inj {one other id id' : String} (width : one.length = other.length)
    (same : mtlsBoundPrincipalId one id = mtlsBoundPrincipalId other id') :
    one = other ∧ id = id' := by
  have lists : (id.toList ++ "@mtls:".toList) ++ one.toList =
      (id'.toList ++ "@mtls:".toList) ++ other.toList := by
    simpa [mtlsBoundPrincipalId] using congrArg String.toList same
  obtain ⟨firsts, seconds⟩ := List.append_inj' lists (by
    rwa [String.length_toList, String.length_toList])
  exact ⟨String.toList_injective seconds,
    String.toList_injective (List.append_cancel_right firsts)⟩

theorem Unambiguous.identity_eq (unambiguous : authentication.Unambiguous)
    (injective : Function.Injective authentication.fingerprint)
    (width : ∀ certificate, (authentication.fingerprint certificate).length = 64)
    {one other : Identity Certificate} (knows : authentication.Knows one.source)
    (knows' : authentication.Knows other.source)
    (asked : one.certificate.isSome = true → authentication.requireClientCertificate = true)
    (asked' : other.certificate.isSome = true → authentication.requireClientCertificate = true)
    (same : authentication.spell one = authentication.spell other) : one = other := by
  obtain ⟨source, certificate⟩ := one
  obtain ⟨source', certificate'⟩ := other
  cases certificate with
  | none =>
    cases certificate' with
    | none => exact congrArg (Identity.mk · none) (unambiguous.source_eq knows knows' same)
    | some certificate' =>
      exact absurd same (unambiguous.id_ne (asked' rfl) knows knows' certificate')
  | some certificate =>
    cases certificate' with
    | none =>
      exact absurd same.symm (unambiguous.id_ne (asked rfl) knows' knows certificate)
    | some certificate' =>
      obtain ⟨prints, ids⟩ := bound_inj ((width certificate).trans (width certificate').symm) same
      cases injective prints
      exact congrArg (Identity.mk · (some certificate)) (unambiguous.source_eq knows knows' ids)

end Authentication

/-- Where SHA-256 is injective, two requests get the same principal only from the same identity (an
API key's principal, or an issuer and a subject, with the same certificate or none) exactly when no
names, issuers and subjects the server knows run into each other. -/
theorem principal_ids_distinct_iff {Certificate : Type}
    (authentication : Authentication Certificate)
    (injective : Function.Injective authentication.fingerprint)
    (width : ∀ certificate, (authentication.fingerprint certificate).length = 64) :
    (∀ one other principal principal', authentication.principal one = some principal →
      authentication.principal other = some principal' → principal.id = principal'.id →
      authentication.identity one = authentication.identity other) ↔
      authentication.Unambiguous := by
  constructor
  · intro distinct
    have apart : ∀ {source other : Provenance} {certificate certificate' : Option Certificate},
        authentication.Knows source → authentication.Knows other →
        (certificate.isSome = true → authentication.requireClientCertificate = true) →
        (certificate'.isSome = true → authentication.requireClientCertificate = true) →
        authentication.spell ⟨source, certificate⟩ = authentication.spell ⟨other, certificate'⟩ →
          source = other ∧ certificate = certificate' := by
      intro source other certificate certificate' knows knows' asked asked' same
      obtain ⟨arrival, principal, accepted, known, spelled⟩ := knows.principal asked
      obtain ⟨arrival', principal', accepted', known', spelled'⟩ := knows'.principal asked'
      have agree := distinct arrival arrival' principal principal' accepted accepted'
        (spelled.trans (same.trans spelled'.symm))
      rw [known, known', Option.some.injEq, Identity.mk.injEq] at agree
      exact agree
    refine ⟨fun source other knows knows' clash => ?_,
      fun asked source other certificate knows knows' => ?_⟩
    · obtain ⟨rfl, -⟩ := @apart source other none none knows knows' (by simp) (by simp)
        (Provenance.id_eq_iff.mpr (.inr clash))
      exact source.not_clashes_self clash
    · have differ : source.id ≠
          (other.marked (authentication.fingerprint certificate)).id := by
        rw [Provenance.id_marked]
        intro same
        obtain ⟨-, same⟩ := @apart source other none (some certificate) knows knows' (by simp)
          (fun _ => asked) same
        cases same
      refine ⟨fun same => differ (by rw [same]), fun clash => ?_⟩
      exact differ (Provenance.id_eq_iff.mpr (.inr clash))
  · intro unambiguous one other principal principal' accepted accepted' same
    obtain ⟨identity, known, knows, asked, spelled⟩ := Authentication.identity_id accepted
    obtain ⟨identity', known', knows', asked', spelled'⟩ := Authentication.identity_id accepted'
    rw [known, known', unambiguous.identity_eq injective width knows knows' asked asked'
      (spelled.symm.trans (same.trans spelled'))]

namespace Sample

/-- Hashes that are the secrets themselves. -/
def hashing : PasswordHashing := ⟨fun _ => true, fun secret hash => decide (secret = hash)⟩

/-- A key file with one key, `qcli_k1_k_s`, for a principal of a name. -/
def keyFile (name : String) : Provider :=
  .apiKey ⟨AList.insert name ⟨{"demo"}, 8, 4⟩ ∅, AList.insert "k" ⟨name, "s", true, none⟩ ∅, "",
    hashing⟩

/-- An issuer with one token, for a subject. -/
def tokenOf (issuer token subject : String) : Provider :=
  .oidc ⟨issuer, ⟨{"demo"}, 8, 4⟩, ∅, fun _ bearer =>
    if bearer = token then .ok ⟨some subject, []⟩ else .error .invalid⟩

/-- The fingerprint of one of two certificates. -/
def fingerprint (certificate : Bool) : String :=
  String.ofList (List.replicate 64 (if certificate then '1' else '0'))

/-- A fingerprint has 64 digits. -/
theorem fingerprint_length (certificate : Bool) : (fingerprint certificate).length = 64 :=
  String.length_ofList.trans List.length_replicate

theorem fingerprint_injective : Function.Injective fingerprint := by decide +kernel

/-- A server that accepts identities of one spelling. -/
def confusing : Authentication Bool where
  providers := [keyFile "idp#alice", tokenOf "idp" "one" "alice", tokenOf "idp" "two" "alice#home",
    tokenOf "idp#alice" "three" "home",
    tokenOf "idp" "four" (mtlsBoundPrincipalId (fingerprint false) "alice")]
  requireClientCertificate := true
  fingerprint := fingerprint

/-- A request to the HTTP frontend. -/
def request (bearer : String) : Arrival Bool := ⟨0, bearer, false, none⟩

/-- Two requests get one principal. -/
def confused (one other : Arrival Bool) : Bool :=
  decide ((confusing.principal one).map AuthenticatedPrincipal.id =
    (confusing.principal other).map AuthenticatedPrincipal.id) &&
  (confusing.principal one).isSome && decide (confusing.identity one ≠ confusing.identity other)

/-- A server with an API key, two issuers and certificates. -/
def distinct : Authentication Bool where
  providers := [keyFile "alice", tokenOf "idp" "one" "alice", tokenOf "corp" "two" "bob"]
  requireClientCertificate := true
  fingerprint := fingerprint

/-- Those the server knows. -/
def members : List Provenance := [.apiKey "alice", .oidc "idp" "alice", .oidc "corp" "bob"]

variable {source : Provenance}

theorem keyFile_vouches {name bearer : String} {now : Nat}
    (vouches : (keyFile name).Vouches now bearer source) : source = .apiKey name := by
  cases source with
  | oidc => cases vouches
  | apiKey other =>
    obtain ⟨keyId, secret, key, -, found, -, -, -, -, -, rfl⟩ := vouches
    rw [Registry.lookup_insert_ite] at found
    split at found
    · cases found
      rfl
    · cases found

theorem tokenOf_vouches {issuer token subject bearer : String} {now : Nat}
    (vouches : (tokenOf issuer token subject).Vouches now bearer source) :
    source = .oidc issuer subject := by
  cases source with
  | apiKey => cases vouches
  | oidc other another =>
    obtain ⟨claims, decoded, rfl, named, -⟩ := vouches
    dsimp only at decoded
    split at decoded
    · cases decoded
      cases named
      rfl
    · cases decoded

theorem mem_of_knows (knows : distinct.Knows source) : source ∈ members := by
  obtain ⟨now, bearer, first | ⟨-, second | ⟨-, third | ⟨-, none⟩⟩⟩⟩ := knows
  · simp [members, keyFile_vouches first]
  · simp [members, tokenOf_vouches second]
  · simp [members, tokenOf_vouches third]
  · cases none

theorem distinct_unambiguous : distinct.Unambiguous where
  plain source other knows knows' clash := by
    have apart : ∀ source ∈ members, ∀ other ∈ members, source.id = other.id → source = other := by
      decide
    have same := apart source (mem_of_knows knows) other (mem_of_knows knows')
      (Provenance.id_eq_iff.mpr (.inr clash))
    exact source.not_clashes_self (same ▸ clash)
  bound _ source other certificate knows knows' := by
    have apart : ∀ certificate, ∀ source ∈ members, ∀ other ∈ members,
        source.id ≠ (other.marked (fingerprint certificate)).id := by decide +kernel
    have differ := apart certificate source (mem_of_knows knows) other (mem_of_knows knows')
    refine ⟨fun same => differ (by rw [same]; rfl), fun clash => ?_⟩
    exact differ (Provenance.id_eq_iff.mpr (.inr clash))

end Sample

/-- Over a server with keys, issuers and certificates the condition of `principal_ids_distinct_iff`
is met: a token without a certificate and with each of two stands for three principals. -/
theorem token_principals_distinct :
    Sample.distinct.Unambiguous ∧
    ∀ one ∈ [none, some false, some true], ∀ other ∈ [none, some false, some true],
      (Sample.distinct.principal ⟨0, "one", one.isSome, one⟩).isSome = true ∧
      ((Sample.distinct.principal ⟨0, "one", one.isSome, one⟩).map AuthenticatedPrincipal.id =
          (Sample.distinct.principal ⟨0, "one", other.isSome, other⟩).map
            AuthenticatedPrincipal.id →
        one = other) := by
  refine ⟨Sample.distinct_unambiguous, fun one first other second => ?_⟩
  have accepted : ∀ certificate ∈ [none, some false, some true],
      (Sample.distinct.principal ⟨0, "one", certificate.isSome, certificate⟩).isSome = true := by
    decide +kernel
  have known : ∀ certificate ∈ [none, some false, some true],
      Sample.distinct.identity ⟨0, "one", certificate.isSome, certificate⟩ =
        some ⟨.oidc "idp" "alice", certificate⟩ := by
    decide +kernel
  refine ⟨accepted one first, fun same => ?_⟩
  obtain ⟨principal, found⟩ := Option.isSome_iff_exists.mp (accepted one first)
  obtain ⟨principal', found'⟩ := Option.isSome_iff_exists.mp (accepted other second)
  rw [found, found', Option.map_some, Option.map_some, Option.some_inj] at same
  have agree := (principal_ids_distinct_iff Sample.distinct Sample.fingerprint_injective
    Sample.fingerprint_length).mpr Sample.distinct_unambiguous _ _ _ _ found found' same
  rw [known one first, known other second, Option.some_inj, Identity.mk.injEq] at agree
  exact agree.2

/-- Three times two identities get one principal: a name of the key file like an issuer with a
subject, two issuers of which one continues the other, and a subject without a certificate like
another one with it. -/
theorem principal_ids_collide :
    Sample.confused (Sample.request "qcli_k1_k_s") (Sample.request "one") = true ∧
    Sample.confused (Sample.request "two") (Sample.request "three") = true ∧
    Sample.confused (Sample.request "four") ⟨0, "one", true, some false⟩ = true := by
  decide +kernel

end ConfluxQuery
