import ConfluxQuery.Auth.KeyFile
import ConfluxQuery.Lib.Text

/-!
# Who an API key stands for

The bearer of a key is split at the first underscore after the common beginning. So a key stands for
its own principal just where its identifier has no underscore, unless the text happens to be the
bearer of another key of the same principal. No bearer is accepted without the secret of a key of
the principal it stands for.
-/

namespace ConfluxQuery

/-- An identifier that the bearer can be split behind. -/
def Separable (keyId : String) : Prop := keyId ≠ "" ∧ '_' ∉ keyId.toList

instance (keyId : String) : Decidable (Separable keyId) := inferInstanceAs (Decidable (_ ∧ _))

/-- The letters of a bearer. -/
theorem toList_apiKey (keyId secret : String) :
    (apiKey keyId secret).toList =
      'q' :: 'c' :: 'l' :: 'i' :: '_' :: 'k' :: '1' :: '_' ::
        (keyId.toList ++ '_' :: secret.toList) := by
  simp [apiKey]

theorem span_underscore {text keyId secret : List Char} :
    text.span (· ≠ '_') = (keyId, '_' :: secret) ↔ '_' ∉ keyId ∧ text = keyId ++ '_' :: secret := by
  rw [List.span_eq_takeWhile_dropWhile, Prod.mk.injEq]
  exact Text.cut_iff fun letter => decide_eq_true_iff

/-- What a bearer is read as: an identifier without underscores and a secret, neither empty. -/
theorem parseApiKey_eq_some {bearer keyId secret : String} :
    parseApiKey bearer = some (keyId, secret) ↔
      bearer = apiKey keyId secret ∧ Separable keyId ∧ secret ≠ "" := by
  constructor
  · intro parsed
    rw [parseApiKey] at parsed
    split at parsed
    · next rest shape =>
      split at parsed
      · next key word split =>
        split at parsed
        · next present =>
          cases parsed
          obtain ⟨absent, rfl⟩ := span_underscore.mp split
          refine ⟨?_, ⟨?_, ?_⟩, ?_⟩
          · rw [← String.toList_inj, toList_apiKey, shape, String.toList_ofList,
              String.toList_ofList]
          · rw [Ne, ← String.toList_eq_nil_iff, String.toList_ofList]
            exact present.1
          · rw [String.toList_ofList]
            exact absent
          · rw [Ne, ← String.toList_eq_nil_iff, String.toList_ofList]
            exact present.2
        · cases parsed
      · cases parsed
    · cases parsed
  · rintro ⟨rfl, separable, present⟩
    have split : (keyId.toList ++ '_' :: secret.toList).span (· ≠ '_') =
        (keyId.toList, '_' :: secret.toList) := span_underscore.mpr ⟨separable.2, rfl⟩
    simp only [parseApiKey, toList_apiKey, split]
    simp [separable.1, present]

/-- Passwords are verified exactly: a hash belongs to one secret. -/
def PasswordHashing.Exact (hashing : PasswordHashing) (secretOf : String → String) : Prop :=
  ∀ hash secret, hashing.parses hash = true →
    (hashing.verifyPassword secret hash = true ↔ secret = secretOf hash)

namespace ApiKeyAuthenticator

variable {authenticator : ApiKeyAuthenticator} {now : Nat}

/-- A key that is enabled and has not expired. -/
def Usable (authenticator : ApiKeyAuthenticator) (now : Nat) (keyId : String) (entry : KeyEntry) :
    Prop :=
  authenticator.keys.lookup keyId = some entry ∧ entry.enabled = true ∧
    ∀ expiry, entry.expiresAt = some expiry → now < expiry

/-- Every key has a principal and a hash. -/
def Checked (authenticator : ApiKeyAuthenticator) : Prop :=
  ∀ keyId entry, authenticator.keys.lookup keyId = some entry →
    entry.principal ∈ authenticator.principals ∧
      authenticator.hashing.parses entry.secretHash = true

/-- Loaded keys are checked. -/
theorem load_checked {path secret : String} {hashing : PasswordHashing}
    {read : Except AuthenticationError AuthFile} {hashed : Except AuthenticationError String}
    (loaded : load path hashing read secret hashed = .ok authenticator) :
    authenticator.Checked ∧ authenticator.hashing = hashing := by
  rw [load] at loaded
  obtain ⟨file, -, loaded⟩ := Except.bind_eq_ok.mp loaded
  obtain ⟨units, checked, loaded⟩ := Except.bind_eq_ok.mp loaded
  obtain ⟨material, -, loaded⟩ := Except.bind_eq_ok.mp loaded
  cases loaded
  refine ⟨fun keyId entry found => ?_, rfl⟩
  have member : (keyId, entry) ∈ Registry.inOrder file.keys :=
    (Registry.inOrder_perm _).mem_iff.mpr (Registry.mem_toList.mpr found)
  obtain ⟨_, passed⟩ := List.ok_of_mapM_eq_ok checked member
  rw [checkKey] at passed
  split at passed
  · cases passed
  split at passed
  · cases passed
  · next known parses => exact ⟨not_not.mp known, Bool.not_eq_false _ ▸ parses⟩

/-- A bearer is accepted just where it is an identifier and the verified secret of a usable key. -/
theorem authenticateImmediate_eq_ok {bearer : String} {principal : AuthenticatedPrincipal}
    (checked : authenticator.Checked) {secretOf : String → String}
    (exact : authenticator.hashing.Exact secretOf) :
    authenticator.authenticateImmediate now bearer = .ok principal ↔
      ∃ keyId entry policy, authenticator.Usable now keyId entry ∧ Separable keyId ∧
        secretOf entry.secretHash ≠ "" ∧ bearer = apiKey keyId (secretOf entry.secretHash) ∧
        authenticator.principals.lookup entry.principal = some policy ∧
        principal = policy.principal entry.principal := by
  constructor
  · intro accepted
    simp only [authenticateImmediate] at accepted
    split at accepted
    · cases accepted
    next keyId secret parsed =>
    split at accepted
    · cases accepted
    next parses =>
    split at accepted
    · cases accepted
    next entry found =>
    split at accepted
    · cases accepted
    next allowed =>
    split at accepted
    · cases accepted
    next policy known =>
    cases accepted
    obtain ⟨rfl, separable, present⟩ := parseApiKey_eq_some.mp parsed
    obtain ⟨-, hash⟩ := checked keyId entry found
    simp only [found, Option.map_some, Option.getD_some, Bool.or_eq_true, Bool.not_eq_true',
      Option.any_eq_true, decide_eq_true_eq, not_or, Bool.not_eq_false, not_exists, not_and,
      Nat.not_le] at allowed
    obtain rfl := (exact _ _ hash).mp allowed.1.1
    exact ⟨keyId, entry, policy, ⟨found, allowed.1.2, allowed.2⟩, separable, present, rfl, known,
      rfl⟩
  · rintro ⟨keyId, entry, policy, ⟨found, enabled, unexpired⟩, separable, present, rfl, known, rfl⟩
    have parsed := parseApiKey_eq_some.mpr ⟨rfl, separable, present⟩
    obtain ⟨-, hash⟩ := checked keyId entry found
    have verified := (exact _ _ hash).mpr rfl
    have current : (entry.expiresAt.any fun expiry => decide (expiry ≤ now)) = false := by
      rw [Option.any_eq_false]
      intro expiry expires
      simpa using unexpired expiry expires
    simp [authenticateImmediate, parsed, found, hash, verified, enabled, current, known]

end ApiKeyAuthenticator

open ApiKeyAuthenticator in
/-- With exact hashes, a usable key of a file that loads stands for its own principal just where its
identifier is not empty and has no underscore and its secret is not empty, or its bearer is that of
another usable key of the principal. A bearer is accepted only with the secret of a key of the
principal it is accepted as. -/
theorem api_key_resolves_iff (path secret : String) (hashing : PasswordHashing)
    (secretOf : String → String) (exact : hashing.Exact secretOf)
    (read : Except AuthenticationError AuthFile) (hashed : Except AuthenticationError String)
    (authenticator : ApiKeyAuthenticator)
    (loaded : load path hashing read secret hashed = .ok authenticator) (now : Nat)
    (keyId : String) (entry : KeyEntry) (usable : authenticator.Usable now keyId entry) :
    ((∃ policy, authenticator.principals.lookup entry.principal = some policy ∧
      authenticator.authenticateImmediate now (apiKey keyId (secretOf entry.secretHash)) =
        .ok (policy.principal entry.principal)) ↔
      (Separable keyId ∧ secretOf entry.secretHash ≠ "") ∨
        ∃ otherId other, otherId ≠ keyId ∧ authenticator.Usable now otherId other ∧
          Separable otherId ∧ secretOf other.secretHash ≠ "" ∧
          other.principal = entry.principal ∧
          apiKey keyId (secretOf entry.secretHash) = apiKey otherId (secretOf other.secretHash)) ∧
    ∀ anyId word principal,
      authenticator.authenticateImmediate now (apiKey anyId word) = .ok principal →
        ∃ otherId other, authenticator.Usable now otherId other ∧ principal.id = other.principal ∧
          apiKey anyId word = apiKey otherId (secretOf other.secretHash) := by
  obtain ⟨checked, rfl⟩ := load_checked loaded
  have listed : ∃ policy, authenticator.principals.lookup entry.principal = some policy :=
    Option.isSome_iff_exists.mp (AList.lookup_isSome.mpr (checked keyId entry usable.1).1)
  refine ⟨⟨?_, ?_⟩, ?_⟩
  · rintro ⟨policy, known, accepted⟩
    obtain ⟨otherId, other, found, current, separable, present, same, named, principal⟩ :=
      (authenticateImmediate_eq_ok checked exact).mp accepted
    have principals : entry.principal = other.principal :=
      congrArg AuthenticatedPrincipal.id principal
    by_cases itself : otherId = keyId
    · subst itself
      cases Option.some.inj (current.1.symm.trans usable.1)
      exact .inl ⟨separable, present⟩
    · exact .inr ⟨otherId, other, itself, current, separable, present, principals.symm, same⟩
  · obtain ⟨policy, known⟩ := listed
    rintro (⟨separable, present⟩ | ⟨otherId, other, -, current, separable, present, principals,
      same⟩)
    · exact ⟨policy, known, (authenticateImmediate_eq_ok checked exact).mpr
        ⟨keyId, entry, policy, usable, separable, present, rfl, known, rfl⟩⟩
    · refine ⟨policy, known, (authenticateImmediate_eq_ok checked exact).mpr
        ⟨otherId, other, policy, current, separable, present, same, ?_, ?_⟩⟩
      · rw [principals]
        exact known
      · rw [principals]
  · intro anyId word principal accepted
    obtain ⟨otherId, other, policy, current, -, -, same, -, rfl⟩ :=
      (authenticateImmediate_eq_ok checked exact).mp accepted
    exact ⟨otherId, other, current, rfl, same⟩

/-- Hashing that leaves a secret as it is. -/
def plainHashing : PasswordHashing := ⟨fun _ => true, fun secret hash => secret == hash⟩

/-- A file with one key of one principal. -/
def keyFile (keyId : String) : AuthFile :=
  ⟨AList.insert "ci" ⟨{"*"}, 8, 4⟩ ∅, AList.insert keyId ⟨"ci", "s3", true, none⟩ ∅⟩

/-- The key `build` stands for its principal. -/
theorem api_key_resolves_build : ∃ authenticator,
    ApiKeyAuthenticator.load "f" plainHashing (.ok (keyFile "build")) "d" (.ok "d") =
        .ok authenticator ∧
      ∃ policy : Policy, authenticator.authenticateImmediate 0 (apiKey "build" "s3") =
        .ok (policy.principal "ci") := by
  refine ⟨_, rfl, ?_⟩
  have exact : plainHashing.Exact id := fun hash secret _ => beq_iff_eq
  obtain ⟨policy, -, accepted⟩ := ((api_key_resolves_iff "f" "d" plainHashing id exact
    (.ok (keyFile "build")) (.ok "d") _ rfl 0 "build" ⟨"ci", "s3", true, none⟩
    ⟨rfl, rfl, fun _ expires => by cases expires⟩).1).mpr (.inl ⟨by decide, by decide⟩)
  exact ⟨policy, accepted⟩

/-- The key `ci_bot` is loaded and never accepted. -/
theorem api_key_underscore_refused : ∃ authenticator,
    ApiKeyAuthenticator.load "f" plainHashing (.ok (keyFile "ci_bot")) "d" (.ok "d") =
        .ok authenticator ∧
      authenticator.authenticateImmediate 0 (apiKey "ci_bot" "s3") =
        .error AuthenticationError.invalid :=
  ⟨_, rfl, rfl⟩

end ConfluxQuery
