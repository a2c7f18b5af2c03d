import ConfluxQuery.Lib.Registry
import ConfluxQuery.Lib.Uris

/-!
# JDBC URLs

The JDBC driver reads a URL that names a gateway and a target, and makes two others of it: the URL
of the Flight SQL driver it delegates to, and the URL it shows. Both are put together from the host,
the port and the decoded target. What the driver uses of Java's library is a parameter.
-/

namespace ConfluxQuery

namespace Jdbc

/-- What the driver uses of Java's library. -/
structure Java where
  uris : Uris.Grammar
  /-- `URLDecoder.decode`, in UTF-8. -/
  urlDecode : String → String
  /-- `toLowerCase`, in the root locale. -/
  toLowerCase : String → String

/-- Where the driver's own URLs begin. -/
def urlPrefix : List Char := "jdbc:qcli://".toList

/-- Where the delegate's URLs begin. -/
def arrowPrefix : List Char := "jdbc:arrow-flight-sql://".toList

/-- Properties that are secret, in lower case. -/
def urlSecrets : List String :=
  ["token", "jwt", "password", "truststorepassword", "oauth.clientsecret",
    "oauth.exchange.subjecttoken", "oauth.exchange.actortoken"]

/-- Properties of a URL, in lower case. -/
def urlProperties : List String :=
  ["tls", "certificateverification", "truststore", "usesystemtruststore", "tlsrootcerts",
    "clientcertificate", "clientkey", "connecttimeoutms", "retaincookies", "retainauth", "catalog",
    "schema"]

/-- Properties whose name is not in lower case. -/
def canonicalNames : List (String × String) :=
  [("certificateverification", "certificateVerification"), ("truststore", "trustStore"),
    ("usesystemtruststore", "useSystemTrustStore"), ("tlsrootcerts", "tlsRootCerts"),
    ("clientcertificate", "clientCertificate"), ("clientkey", "clientKey"),
    ("connecttimeoutms", "connectTimeoutMs"), ("retaincookies", "retainCookies"),
    ("retainauth", "retainAuth")]

/-- What is made of a URL. -/
structure ParsedUrl where
  delegateUrl : String
  publicUrl : String
  target : String
  schema : Option String
  /-- Properties of the connection. -/
  properties : Registry String String

/-- What `isBlank` takes for white space. -/
def isWhitespace (letter : Char) : Bool :=
  let code := letter.toNat
  (9 ≤ code && code ≤ 13) || (28 ≤ code && code ≤ 32) || code == 0x1680 ||
    (0x2000 ≤ code && code ≤ 0x2006) || (0x2008 ≤ code && code ≤ 0x200A) || code == 0x2028 ||
    code == 0x2029 || code == 0x205F || code == 0x3000

/-- A text without a character that is not white space. -/
def isBlank (text : List Char) : Bool := text.all isWhitespace

/-- The gateway and the target of a URL, and its query. -/
structure Location where
  /-- Host, an IPv6 address with its brackets. -/
  host : List Char
  port : Nat
  target : List Char
  query : Option (List Char)

section

variable (java : Java)

/-- The parts of a URL after the beginning that is common to all. -/
def uriOf (start : List Char) (url : String) : Option Uris.Uri :=
  if start.isPrefixOf url.toList then java.uris.read (url.toList.drop start.length) else none

/-- The checks of `parse` on a URI that names a server. -/
def vet (server : Uris.Server) (uri : Uris.Uri) : Except String Location :=
  let path := java.uris.decode uri.path
  let port := server.port.getD 32010
  if isBlank server.host then .error "jdbc:qcli URL requires a Gateway host"
  else if server.userInfo.isSome || uri.fragment.isSome then
    .error "jdbc:qcli URL cannot contain user info or a fragment"
  else if path.length < 2 || path.tail.contains '/' then
    .error "jdbc:qcli URL requires exactly one target path segment"
  else if isBlank path.tail then .error "jdbc:qcli target cannot be empty"
  else if port < 1 || 65535 < port then .error "jdbc:qcli Gateway port is out of range"
  else .ok ⟨server.host, port, path.tail, uri.query⟩

/-- The first half of `parse`: the location a URL names. The scheme is right in every URL that
begins as it should. -/
def locate (url : String) : Except String Location :=
  if !urlPrefix.isPrefixOf url.toList then .error "URL must start with jdbc:qcli://"
  else match uriOf java urlPrefix url with
    | none => .error "Invalid jdbc:qcli URL"
    | some uri => match uri.server with
      | none => .error "jdbc:qcli URL requires a Gateway host"
      | some server => vet java server uri

/-- The loop of `parseQuery`, after the properties found so far. -/
def parsePairs (found : List (String × String)) :
    List (List Char) → Except String (List (String × String))
  | [] => .ok found
  | pair :: rest =>
    let separator := pair.idxOf '='
    if separator < 1 || !pair.contains '=' then
      .error "jdbc:qcli URL query properties require name=value"
    else
      let name := java.urlDecode (String.ofList (pair.take separator))
      let value := java.urlDecode (String.ofList (pair.drop (separator + 1)))
      if found.any fun entry => java.toLowerCase entry.1 == java.toLowerCase name then
        .error ("Duplicate jdbc:qcli URL property: " ++ name)
      else parsePairs (found ++ [(name, value)]) rest

/-- The properties in a query. Java's `split` drops empty parts at the end. -/
def parseQuery : Option (List Char) → Except String (List (String × String))
  | none => .ok []
  | some rawQuery =>
    if isBlank rawQuery then .ok []
    else parsePairs java [] ((rawQuery.splitOn '&').reverse.dropWhile List.isEmpty).reverse

/-- The name of a property as the delegate knows it. -/
def canonicalProperty (name : String) : String :=
  (canonicalNames.lookup (java.toLowerCase name)).getD (java.toLowerCase name)

/-- The loop of `parse` over the properties of the query. -/
def readProperties (properties : Registry String String) :
    List (String × String) → Except String (Registry String String)
  | [] => .ok properties
  | (name, value) :: rest =>
    let normalized := java.toLowerCase name
    if normalized ∈ urlSecrets then
      .error "Credentials are not allowed in a jdbc:qcli URL; use connection properties"
    else if normalized ∉ urlProperties then
      .error ("Unsupported jdbc:qcli URL property: " ++ name)
    else readProperties (properties.insert (canonicalProperty java name) value) rest

/-- Set a property that is not there. -/
def putIfAbsent (properties : Registry String String) (name value : String) :
    Registry String String :=
  if (properties.lookup name).isSome then properties else properties.insert name value

/-- Two bearer credentials that differ. -/
def ambiguous (properties : Registry String String) : Bool :=
  let jwt := properties.lookup "jwt"
  let token := properties.lookup "token"
  jwt.isSome && token.isSome && jwt != token

/-- The initial schema and the properties of a connection to a target. -/
def connectionOf (target : List Char) (properties : Registry String String) :
    Option String × Registry String String :=
  let properties := match properties.lookup "jwt" with
    | some jwt => properties.insert "token" jwt
    | none => properties
  let properties := properties.erase "jwt"
  let schema := properties.lookup "schema"
  let properties := properties.erase "schema"
  let tls := (properties.lookup "tls").getD "true"
  let properties := (properties.erase "tls").insert "useEncryption" tls
  let properties := putIfAbsent properties "connectTimeoutMs" "10000"
  let properties := putIfAbsent properties "retainCookies" "true"
  let properties := putIfAbsent properties "retainAuth" "true"
  (schema, properties.insert "qcli-target" (String.ofList target))

/-- The second half of `parse`: the initial schema and the properties of the connection. -/
def settle (location : Location) (info : Registry String String) :
    Except String (Option String × Registry String String) := do
  let query ← parseQuery java location.query
  let found ← readProperties java ∅ query
  if ambiguous (found.extend info) then
    .error "Specify only one bearer credential: token or jwt"
  else .ok (connectionOf location.target (found.extend info))

end

/-- A host and a port in a URL. -/
def Location.authority (location : Location) : List Char :=
  (if location.host.contains ':' then '[' :: location.host ++ [']'] else location.host) ++
    ':' :: Numeral.print location.port

/-- Read a URL with the properties a caller gives. -/
def parse (java : Java) (url : String) (info : Registry String String) :
    Except String ParsedUrl := do
  let location ← locate java url
  let (schema, properties) ← settle java location info
  return ⟨String.ofList (arrowPrefix ++ location.authority ++ ['/']),
    String.ofList (urlPrefix ++ location.authority ++ '/' :: location.target),
    String.ofList location.target, schema, properties⟩

end Jdbc

end ConfluxQuery
