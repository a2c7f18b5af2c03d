import ConfluxQuery.Core.Session
import ConfluxQuery.Flight.Tokens

/-!
# Authentication

The providers of `qcli-auth` and how the two frontends make a principal of what a provider accepts.
An API key stands for a principal of the key file; a token of an OpenID provider stands for its
issuer and subject, with the policy of its groups. A composite asks its providers in order. The
Flight frontend may bind the principal to the client's certificate. Argon2, the validation of tokens
and SHA-256 are parameters.
-/

namespace ConfluxQuery

/-- What kind of failure an authentication error is. -/
inductive AuthenticationErrorKind
  | missing | invalid | configuration
  deriving DecidableEq, Repr

/-- A failed authentication. -/
structure AuthenticationError where
  kind : AuthenticationErrorKind
  message : String
  deriving DecidableEq, Repr

/-- A credential that is not accepted. -/
def AuthenticationError.invalid : AuthenticationError :=
  ⟨.invalid, "invalid or expired bearer credential"⟩

/-- What a principal may do. -/
structure Policy where
  targets : Finset String
  /-- Sessions it may hold at once. -/
  maxSessions : Nat := 8
  maxConcurrentQueries : Nat := 4

/-- An entry of the key file. -/
structure KeyEntry where
  /-- Principal the key stands for. -/
  principal : String
  secretHash : String
  enabled : Bool
  expiresAt : Option Nat

/-- Hashes of secrets. -/
structure PasswordHashing where
  parses : String → Bool
  verifyPassword : String → String → Bool

/-- API keys from a file. -/
structure ApiKeyAuthenticator where
  principals : Registry String Policy
  keys : Registry String KeyEntry
  /-- Hash that is checked for an unknown key. -/
  dummyHash : String
  /-- How secrets are hashed. -/
  hashing : PasswordHashing

/-- The identifier and the secret of an API key. -/
def parseApiKey (key : String) : Option (String × String) :=
  match key.toList with
  | 'q' :: 'c' :: 'l' :: 'i' :: '_' :: 'k' :: '1' :: '_' :: rest =>
    match rest.span (· ≠ '_') with
    | (keyId, '_' :: secret) =>
      if keyId ≠ [] ∧ secret ≠ [] then some (String.ofList keyId, String.ofList secret) else none
    | _ => none
  | _ => none

/-- A principal with a policy. -/
def Policy.principal (policy : Policy) (id : String) : AuthenticatedPrincipal :=
  ⟨id, policy.targets, policy.maxSessions, policy.maxConcurrentQueries⟩

/-- Accept an API key. -/
def ApiKeyAuthenticator.authenticateImmediate (authenticator : ApiKeyAuthenticator) (now : Nat)
    (bearer : String) : Except AuthenticationError AuthenticatedPrincipal :=
  match parseApiKey bearer with
  | none => .error .invalid
  | some (keyId, secret) =>
    let key := authenticator.keys.lookup keyId
    let hash := (key.map KeyEntry.secretHash).getD authenticator.dummyHash
    if !authenticator.hashing.parses hash then .error .invalid
    else
      let verified := authenticator.hashing.verifyPassword secret hash
      match key with
      | none => .error .invalid
      | some key =>
        if !verified || !key.enabled || key.expiresAt.any fun expiry => decide (expiry ≤ now) then
          .error .invalid
        else
          match authenticator.principals.lookup key.principal with
          | none => .error .invalid
          | some policy => .ok (policy.principal key.principal)

/-- What a validated token says. -/
structure Claims where
  /-- Claim `sub`, when it is a text. -/
  sub : Option String
  /-- Texts of the claim of groups. -/
  groups : List String

/-- Tokens of an OpenID provider. -/
structure OidcAuthenticator where
  issuer : String
  defaults : Policy
  groupPolicies : Registry String Policy
  /-- Validate a token at a time, with the keys of the issuer and for the configured issuer,
  audiences and algorithms. -/
  decode : Nat → String → Except AuthenticationError Claims

/-- The policy of someone in a group besides those before. -/
def OidcAuthenticator.withGroup (authenticator : OidcAuthenticator) (policy : Policy)
    (group : String) : Policy :=
  match authenticator.groupPolicies.lookup group with
  | none => policy
  | some other =>
    ⟨policy.targets ∪ other.targets, max policy.maxSessions other.maxSessions,
      max policy.maxConcurrentQueries other.maxConcurrentQueries⟩

/-- Accept a token. -/
def OidcAuthenticator.authenticateImmediate (authenticator : OidcAuthenticator) (now : Nat)
    (bearer : String) : Except AuthenticationError AuthenticatedPrincipal :=
  match authenticator.decode now bearer with
  | .error error => .error error
  | .ok claims =>
    match claims.sub.filter (· ≠ "") with
    | none => .error .invalid
    | some subject =>
      let policy := claims.groups.foldl authenticator.withGroup authenticator.defaults
      if policy.targets = ∅ then .error .invalid
      else .ok (policy.principal (authenticator.issuer ++ "#" ++ subject))

/-- A provider of principals. -/
inductive Provider
  | apiKey (authenticator : ApiKeyAuthenticator)
  | oidc (authenticator : OidcAuthenticator)

/-- Ask a provider. -/
def Provider.authenticateImmediate (now : Nat) (bearer : String) :
    Provider → Except AuthenticationError AuthenticatedPrincipal
  | apiKey authenticator => authenticator.authenticateImmediate now bearer
  | oidc authenticator => authenticator.authenticateImmediate now bearer

/-- Ask providers in order; an error other than an invalid credential ends the search. -/
def authenticateImmediate (now : Nat) (bearer : String) :
    List Provider → Except AuthenticationError AuthenticatedPrincipal
  | [] => .error .invalid
  | provider :: rest =>
    match provider.authenticateImmediate now bearer with
    | .ok principal => .ok principal
    | .error error =>
      if error.kind = .invalid then authenticateImmediate now bearer rest else .error error

/-- The status of an authentication error. -/
def authenticationStatus (error : AuthenticationError) : Status :=
  match error.kind with
  | .configuration => ⟨.internal, error.message⟩
  | .missing | .invalid => ⟨.unauthenticated, error.message⟩

/-- How a server authenticates: its providers, whether the Flight frontend asks for a certificate,
and the fingerprint of one in hexadecimal digits. -/
structure Authentication (Certificate : Type) where
  providers : List Provider
  /-- The Flight frontend asks for a certificate. -/
  requireClientCertificate : Bool
  /-- SHA-256 of a certificate. -/
  fingerprint : Certificate → String

/-- A principal's identity with a certificate. -/
def mtlsBoundPrincipalId (fingerprint id : String) : String := id ++ "@mtls:" ++ fingerprint

/-- A request to be authenticated: when it arrives, its bearer credential and the frontend it
arrives at, with the verified certificate of the connection. -/
structure Arrival (Certificate : Type) where
  now : Nat
  bearer : String
  /-- The request arrives at the Flight frontend. -/
  flight : Bool
  /-- Certificate of the connection. -/
  certificate : Option Certificate

/-- The principal of a request to the HTTP frontend. -/
def Authentication.authenticateRequest {Certificate : Type}
    (authentication : Authentication Certificate) (now : Nat) (bearer : String) :
    Except AuthenticationError AuthenticatedPrincipal :=
  ConfluxQuery.authenticateImmediate now bearer authentication.providers

/-- The principal of a request to the Flight frontend. -/
def Authentication.interceptor {Certificate : Type} (authentication : Authentication Certificate)
    (now : Nat) (bearer : String) (certificate : Option Certificate) :
    Except Status AuthenticatedPrincipal :=
  match ConfluxQuery.authenticateImmediate now bearer authentication.providers with
  | .error error => .error (authenticationStatus error)
  | .ok principal =>
    if authentication.requireClientCertificate then
      match certificate with
      | none => .error ⟨.unauthenticated, "a verified client certificate is required"⟩
      | some certificate =>
        .ok { principal with
          id := mtlsBoundPrincipalId (authentication.fingerprint certificate) principal.id }
    else .ok principal

/-- The principal a request gets, at either frontend. -/
def Authentication.principal {Certificate : Type} (authentication : Authentication Certificate)
    (arrival : Arrival Certificate) : Option AuthenticatedPrincipal :=
  if arrival.flight then
    (authentication.interceptor arrival.now arrival.bearer arrival.certificate).toOption
  else (authentication.authenticateRequest arrival.now arrival.bearer).toOption

end ConfluxQuery
