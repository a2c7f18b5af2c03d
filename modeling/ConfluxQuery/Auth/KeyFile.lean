import ConfluxQuery.Auth.Authenticators
import ConfluxQuery.Lib.Listing

/-!
# Loading API keys

`ApiKeyAuthenticator::load` checks that every key has a principal and a hash; it does not look at
the identifiers of the keys, which `generate_api_key_material` restricts. The permissions of the
file, its text and TOML are behind the file that was read.
-/

namespace ConfluxQuery

/-- An authentication file. -/
structure AuthFile where
  principals : Registry String Policy
  keys : Registry String KeyEntry

/-- The text of an API key. -/
def apiKey (keyId secret : String) : String := "qcli_k1_" ++ keyId ++ "_" ++ secret

/-- A new API key and its hash, from a random secret and what hashing it gives. -/
def generateApiKeyMaterial (keyId secret : String) (hashed : Except AuthenticationError String) :
    Except AuthenticationError (String × String) := do
  if keyId.toList.isEmpty ||
      !keyId.toList.all fun character => character.isAlphanum || character == '-' then
    .error ⟨.configuration, "key ID must contain only letters, digits, and '-'"⟩
  else
    let hash ← hashed
    pure (apiKey keyId secret, hash)

/-- What `load` asks of a key. -/
def checkKey (path : String) (hashing : PasswordHashing) (principals : Registry String Policy)
    (key : String × KeyEntry) : Except AuthenticationError Unit :=
  if key.2.principal ∉ principals then
    .error ⟨.configuration, path ++ ": key '" ++ key.1 ++ "' references missing principal '" ++
      key.2.principal ++ "'"⟩
  else if hashing.parses key.2.secretHash = false then
    .error ⟨.configuration, path ++ ": key '" ++ key.1 ++ "' has an invalid hash"⟩
  else .ok ()

/-- Load the keys of a file that was read, with a random secret and its hash for unknown keys. -/
def ApiKeyAuthenticator.load (path : String) (hashing : PasswordHashing)
    (read : Except AuthenticationError AuthFile) (secret : String)
    (hashed : Except AuthenticationError String) :
    Except AuthenticationError ApiKeyAuthenticator := do
  let file ← read
  let _ ← (Registry.inOrder file.keys).mapM (checkKey path hashing file.principals)
  let (_, dummyHash) ← generateApiKeyMaterial "dummy" secret hashed
  pure ⟨file.principals, file.keys, dummyHash, hashing⟩

end ConfluxQuery
