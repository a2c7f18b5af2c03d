import ConfluxQuery.Jdbc.Driver
import ConfluxQuery.Lib.Prog

/-!
# JDBC URLs name the same gateway

An accepted URL is translated to URLs of the same gateway and target just where its host is a name
and every character of its decoded target may stand for itself in a path. The brackets of an IPv6
address are part of the host, and the driver puts others around them; the target is not encoded
again. No credential comes from a URL.
-/

namespace ConfluxQuery

namespace Jdbc

open Uris

variable {java : Java} {url : String} {info : Registry String String}

/-- The host and the effective port of a URL. -/
def endpoint (java : Java) (start : List Char) (url : String) : Option (List Char × Nat) :=
  (uriOf java start url).bind fun uri =>
    uri.server.map fun server => (server.host, server.port.getD 32010)

theorem vet_ok_iff {server : Server} {uri : Uri} {location : Location} :
    vet java server uri = .ok location ↔
      isBlank server.host = false ∧ (server.userInfo = none ∧ uri.fragment = none) ∧
        (2 ≤ (java.uris.decode uri.path).length ∧ '/' ∉ (java.uris.decode uri.path).tail) ∧
        isBlank (java.uris.decode uri.path).tail = false ∧
        (1 ≤ server.port.getD 32010 ∧ server.port.getD 32010 ≤ 65535) ∧
        location = ⟨server.host, server.port.getD 32010, (java.uris.decode uri.path).tail,
          uri.query⟩ := by
  simp only [vet]
  constructor
  · intro accepted
    split_ifs at accepted with blank extra segment empty range
    cases accepted
    simp only [Bool.or_eq_true, Option.isSome_iff_ne_none, not_or, not_not, decide_eq_true_eq,
      List.contains_iff_mem] at extra segment range
    exact ⟨Bool.not_eq_true _ ▸ blank, extra, ⟨by omega, segment.2⟩, Bool.not_eq_true _ ▸ empty,
      ⟨by omega, by omega⟩, rfl⟩
  · rintro ⟨blank, extra, segment, empty, range, rfl⟩
    have short : ¬ (java.uris.decode uri.path).length < 2 := by omega
    have least : ¬ server.port.getD 32010 < 1 := by omega
    have most : ¬ 65535 < server.port.getD 32010 := by omega
    simp [blank, extra, segment.2, short, empty, least, most]

theorem locate_ok_iff {location : Location} :
    locate java url = .ok location ↔ ∃ uri server, uriOf java urlPrefix url = some uri ∧
      uri.server = some server ∧ vet java server uri = .ok location := by
  rw [locate]
  cases begins : urlPrefix.isPrefixOf url.toList with
  | false => simp [uriOf, begins]
  | true =>
    simp only [Bool.not_true, Bool.false_eq_true, if_false]
    cases uriOf java urlPrefix url with
    | none => simp
    | some uri => cases found : uri.server <;> simp [found]

/-- What the location of an accepted URL is like. -/
structure Location.Valid (java : Java) (location : Location) : Prop where
  host : isBlank location.host = false
  /-- It is a name, or an address in brackets. -/
  form : java.uris.host location.host = true ∨ ∃ address, java.uris.address address = true ∧
    location.host = '[' :: address ++ [']']
  segment : '/' ∉ location.target
  target : isBlank location.target = false
  port : 1 ≤ location.port ∧ location.port ≤ 65535

/-- The target of a URL is its decoded path after the slash. -/
theorem target_of_locate {location : Location} (located : locate java url = .ok location) :
    ∃ uri, uriOf java urlPrefix url = some uri ∧
      location.target = (java.uris.decode uri.path).tail := by
  obtain ⟨uri, server, read, known, vetted⟩ := locate_ok_iff.mp located
  obtain ⟨-, -, -, -, -, rfl⟩ := vet_ok_iff.mp vetted
  exact ⟨uri, read, rfl⟩

theorem endpoint_of_locate {location : Location} (located : locate java url = .ok location) :
    endpoint java urlPrefix url = some (location.host, location.port) ∧ location.Valid java := by
  obtain ⟨uri, server, read, known, vetted⟩ := locate_ok_iff.mp located
  obtain ⟨host, _, segment, target, range, rfl⟩ := vet_ok_iff.mp vetted
  refine ⟨by simp [endpoint, read, known], host, ?_, segment.2, target, range⟩
  rw [uriOf] at read
  split at read
  · exact Grammar.host_of_read read known
  · cases read

/-- A target is not empty. -/
theorem Location.Valid.target_ne_nil {location : Location} (valid : location.Valid java) :
    location.target ≠ [] := by
  intro nothing
  have solid := valid.target
  rw [nothing] at solid
  cases solid

section Parts

variable {location : Location}

/-- A host and a port in a URL end before its path. -/
theorem Location.Valid.authority_clean (valid : location.Valid java) {letter : Char}
    (member : letter ∈ location.authority) : "/?#".toList.contains letter = false := by
  by_contra delimits
  rw [Bool.not_eq_false] at delimits
  have one : letter = '/' ∨ letter = '?' ∨ letter = '#' := by simpa using delimits
  have digits : letter ∉ Numeral.print location.port := by
    rcases one with rfl | rfl | rfl <;> exact Grammar.print_apart _ rfl
  have absent : letter ∉ location.host := by
    rcases valid.form with known | ⟨address, known, bracketed⟩
    · rcases one with rfl | rfl | rfl <;> exact Grammar.host_apart known rfl
    · have apart := (java.uris.address_letters address known).2 letter
      rw [bracketed]
      rcases one with rfl | rfl | rfl <;> simpa using apart
  rw [Location.authority] at member
  split at member <;> rcases one with rfl | rfl | rfl <;> simp [absent, digits] at member

/-- A URL that was put together is read part by part. -/
theorem uriOf_parts (valid : location.Valid java) (start text : List Char) :
    uriOf java start (String.ofList (start ++ location.authority ++ '/' :: text)) =
      (java.uris.readAuthority location.authority).bind (readRest ('/' :: text)) := by
  have begins : start.isPrefixOf (start ++ (location.authority ++ '/' :: text)) = true :=
    List.isPrefixOf_iff_prefix.mpr (List.prefix_append start _)
  rw [uriOf, String.toList_ofList, List.append_assoc, begins, if_pos rfl, List.drop_left]
  exact Grammar.read_append (by simp [Location.authority]) fun _ => valid.authority_clean

theorem readAuthority_name (valid : location.Valid java)
    (known : java.uris.host location.host = true) :
    java.uris.readAuthority location.authority =
      some (some ⟨none, location.host, some location.port⟩) := by
  have absent : ':' ∉ location.host := Grammar.host_apart known rfl
  have range := valid.port.2
  rw [Location.authority, if_neg (by simpa using absent)]
  exact Grammar.readAuthority_name known (by omega)

theorem readAuthority_address {address : List Char} (known : java.uris.address address = true)
    (bracketed : location.host = '[' :: address ++ [']']) :
    java.uris.readAuthority location.authority = none := by
  have colon := (java.uris.address_letters address known).1
  rw [Location.authority, bracketed, if_pos (by simp [colon]), List.append_assoc]
  exact Grammar.readAuthority_brackets known _

/-- A target whose characters may stand for themselves is located again. -/
theorem locate_again (valid : location.Valid java) (known : java.uris.host location.host = true)
    (direct : ∀ letter ∈ location.target, isPathCharacter letter = true) :
    locate java (String.ofList (urlPrefix ++ location.authority ++ '/' :: location.target)) =
      .ok ⟨location.host, location.port, location.target, none⟩ := by
  have read := uriOf_parts valid urlPrefix location.target
  rw [readAuthority_name valid known, Option.bind_some, readRest_path _ direct] at read
  have plain : '%' ∉ '/' :: location.target := by
    rw [List.mem_cons, not_or]
    exact ⟨by decide, fun member => absurd (direct '%' member) (by decide)⟩
  have decoded := java.uris.decode_plain _ plain
  refine locate_ok_iff.mpr ⟨_, _, read, rfl, vet_ok_iff.mpr ?_⟩
  rw [decoded]
  have present := List.length_pos_of_ne_nil valid.target_ne_nil
  exact ⟨valid.host, ⟨rfl, rfl⟩, ⟨by rw [List.length_cons]; omega, valid.segment⟩, valid.target,
    valid.port, rfl⟩

end Parts

section

variable {key : String}

/-- No URL can set the property. -/
def Unnamed (key : String) : Prop :=
  ∀ normalized ∈ urlProperties, (canonicalNames.lookup normalized).getD normalized ≠ key

theorem lookup_readProperties_unnamed (unnamed : Unnamed key)
    {properties after : Registry String String} {query : List (String × String)}
    (read : readProperties java properties query = .ok after) :
    after.lookup key = properties.lookup key := by
  induction query generalizing properties with
  | nil => cases read; rfl
  | cons entry rest step =>
    obtain ⟨name, value⟩ := entry
    rw [readProperties] at read
    split_ifs at read with secret known
    rw [step read, Registry.lookup_insert_ite, canonicalProperty, if_neg (unnamed _ known).symm]

theorem unnamed_bearer (bearer : key = "jwt" ∨ key = "token") : Unnamed key := by
  unfold Unnamed
  rcases bearer with rfl | rfl <;> decide

end

/-- What is settled with a query is settled without it: the credentials are the caller's. -/
theorem settle_without_query {location : Location}
    {settled : Option String × Registry String String}
    (ok : settle java location info = .ok settled) (host : List Char) (port : Nat) :
    ∃ result, settle java ⟨host, port, location.target, none⟩ info = .ok result := by
  obtain ⟨query, _, ok⟩ := Except.bind_eq_ok.mp ok
  obtain ⟨properties, read, ok⟩ := Except.bind_eq_ok.mp ok
  have jwt := lookup_readProperties_unnamed (unnamed_bearer (.inl rfl)) read
  have token := lookup_readProperties_unnamed (unnamed_bearer (.inr rfl)) read
  have same : ambiguous (Registry.extend ∅ info) = ambiguous (properties.extend info) := by
    simp only [ambiguous, Registry.lookup_extend, jwt, token, AList.lookup_empty]
  split_ifs at ok with differ
  exact ⟨connectionOf location.target (Registry.extend ∅ info), if_neg (by rwa [same])⟩

/-- For every URL that is accepted: the URL of the delegate names the same host and port, and the
URL to show is accepted again with the same properties and names the same host, port and target,
just where the host is no IPv6 address and every character of the decoded path after its slash may
stand for itself in a path. -/
theorem translation_keeps_gateway_iff (java : Java) (url : String) (info : Registry String String)
    (parsed : ParsedUrl) (accepted : parse java url info = .ok parsed) :
    ∃ uri host port, uriOf java urlPrefix url = some uri ∧
      endpoint java urlPrefix url = some (host, port) ∧
      ((endpoint java arrowPrefix parsed.delegateUrl = some (host, port) ∧
          endpoint java urlPrefix parsed.publicUrl = some (host, port) ∧
          ∃ again, parse java parsed.publicUrl info = .ok again ∧ again.target = parsed.target) ↔
        ':' ∉ host ∧
          ∀ letter ∈ (java.uris.decode uri.path).tail, isPathCharacter letter = true) := by
  obtain ⟨location, located, rest⟩ := Except.bind_eq_ok.mp accepted
  obtain ⟨⟨schema, properties⟩, settled, same⟩ := Except.bind_eq_ok.mp rest
  cases same
  obtain ⟨names, valid⟩ := endpoint_of_locate located
  obtain ⟨uri, read, target⟩ := target_of_locate located
  refine ⟨uri, location.host, location.port, read, names, ?_⟩
  rw [← target]
  rcases valid.form with known | ⟨address, known, bracketed⟩
  · -- both URLs are read up to their paths; that of the delegate is a slash
    have absent : ':' ∉ location.host := Grammar.host_apart known rfl
    have delegate := uriOf_parts valid arrowPrefix []
    rw [readAuthority_name valid known, Option.bind_some, readRest_path _ (by simp)] at delegate
    constructor
    · rintro ⟨_, _, again, reparsed, same⟩
      refine ⟨absent, ?_⟩
      obtain ⟨location', located', rest'⟩ := Except.bind_eq_ok.mp reparsed
      obtain ⟨_, _, same'⟩ := Except.bind_eq_ok.mp rest'
      cases same'
      obtain ⟨uri, server, read, _, vetted⟩ := locate_ok_iff.mp located'
      obtain ⟨_, _, _, _, _, rfl⟩ := vet_ok_iff.mp vetted
      rw [uriOf_parts valid, readAuthority_name valid known, Option.bind_some] at read
      exact (decode_path_iff java.uris valid.target_ne_nil read).mp (String.ofList_injective same)
    · rintro ⟨_, direct⟩
      have located' := locate_again valid known direct
      obtain ⟨result, settled'⟩ := settle_without_query settled location.host location.port
      refine ⟨by rw [endpoint, delegate]; rfl, (endpoint_of_locate located').1, _,
        Except.bind_eq_ok.mpr ⟨_, located', Except.bind_eq_ok.mpr ⟨result, settled', rfl⟩⟩, rfl⟩
  · -- the delegate's URL is no URI
    have colon : ':' ∈ location.host := by
      rw [bracketed]
      simp [(java.uris.address_letters address known).1]
    refine iff_of_false (fun kept => ?_) (fun kept => kept.1 colon)
    have none := uriOf_parts valid arrowPrefix []
    rw [readAuthority_address known bracketed, Option.bind_none] at none
    rw [endpoint, none] at kept
    cases kept.1

section Samples

/-- The number a digit of an escape stands for. -/
def hexValue (letter : Char) : Nat :=
  if letter.isDigit then letter.toNat - 48 else letter.toUpper.toNat - 55

/-- Decode escapes of single characters. -/
def decodeEach : List Char → List Char
  | '%' :: high :: low :: rest => Char.ofNat (16 * hexValue high + hexValue low) :: decodeEach rest
  | first :: rest => first :: decodeEach rest
  | [] => []

theorem decodeEach_plain (text : List Char) (plain : '%' ∉ text) : decodeEach text = text := by
  fun_induction decodeEach text with
  | case1 => simp at plain
  | case2 first rest _ step => rw [step fun member => plain (List.mem_cons_of_mem _ member)]
  | case3 => rfl

theorem length_decodeEach_le (text : List Char) : (decodeEach text).length ≤ text.length := by
  fun_induction decodeEach text with
  | case1 high low rest step =>
    simp only [List.length_cons]
    omega
  | case2 first rest _ step => exact Nat.succ_le_succ step
  | case3 => exact Nat.le_refl _

theorem length_decodeEach_lt (text : List Char) (clean : legal isPathCharacter text = true)
    (escaped : '%' ∈ text) : (decodeEach text).length < text.length := by
  fun_induction decodeEach text with
  | case1 high low rest _ =>
    have short := length_decodeEach_le rest
    simp only [List.length_cons]
    omega
  | case2 first rest single step =>
    rw [legal, Bool.and_eq_true] at clean
    · rcases List.mem_cons.mp escaped with rfl | inside
      · exact absurd clean.1 (by decide)
      · exact Nat.succ_lt_succ (step clean.2 inside)
    · exact single
  | case3 => cases escaped

namespace Sample

/-- Host names of letters, digits, hyphens and dots. -/
def host (text : List Char) : Bool :=
  !text.isEmpty && text.all fun letter => letter.isAlphanum || letter == '-' || letter == '.'

/-- Addresses of digits and colons. -/
def address (text : List Char) : Bool :=
  text.contains ':' && text.all fun letter => isHex letter || letter == ':'

theorem host_letters (text : List Char) (known : host text = true) : text ≠ [] ∧
    ∀ letter ∈ text, letter.isAlphanum = true ∨ letter = '-' ∨ letter = '.' := by
  simp only [host, Bool.and_eq_true, Bool.not_eq_true', List.isEmpty_eq_false_iff, List.all_eq_true,
    Bool.or_eq_true, beq_iff_eq, or_assoc] at known
  exact known

theorem address_letters (text : List Char) (known : address text = true) : ':' ∈ text ∧
    ∀ letter ∈ text, "[]/?#@".toList.contains letter = false := by
  simp only [address, Bool.and_eq_true, List.contains_iff_mem, List.all_eq_true, Bool.or_eq_true,
    beq_iff_eq] at known
  refine ⟨known.1, fun letter member => ?_⟩
  by_contra delimits
  rw [Bool.not_eq_false] at delimits
  have one : letter = '[' ∨ letter = ']' ∨ letter = '/' ∨ letter = '?' ∨ letter = '#' ∨
      letter = '@' := by simpa using delimits
  have digit := known.2 letter member
  rcases one with rfl | rfl | rfl | rfl | rfl | rfl <;> exact absurd digit (by decide)

/-- A library that decodes single characters. -/
def library : Java where
  uris := ⟨host, address, decodeEach, host_letters, address_letters, decodeEach_plain,
    length_decodeEach_lt⟩
  urlDecode text := String.ofList (decodeEach text.toList)
  toLowerCase text := text.toLower

end Sample

/-- A URL with a host name and a query. -/
theorem translation_keeps_gateway_named :
    ∃ parsed, parse Sample.library "jdbc:qcli://gateway.example/demo?tls=false" ∅ = .ok parsed ∧
      endpoint Sample.library arrowPrefix parsed.delegateUrl =
        some ("gateway.example".toList, 32010) ∧
      ∃ again, parse Sample.library parsed.publicUrl ∅ = .ok again ∧
        again.target = parsed.target := by
  have view : (parse Sample.library "jdbc:qcli://gateway.example/demo?tls=false"
      ∅).toOption.isSome = true := by decide +kernel
  obtain ⟨parsed, found⟩ := Option.isSome_iff_exists.mp view
  have accepted :
      parse Sample.library "jdbc:qcli://gateway.example/demo?tls=false" ∅ = .ok parsed := by
    cases outcome : parse Sample.library "jdbc:qcli://gateway.example/demo?tls=false" ∅ with
    | error message => rw [outcome] at found; cases found
    | ok value => rw [outcome] at found; cases found; rfl
  obtain ⟨uri, host, port, read, named, kept⟩ := translation_keeps_gateway_iff _ _ _ _ accepted
  have known : endpoint Sample.library urlPrefix "jdbc:qcli://gateway.example/demo?tls=false" =
      some ("gateway.example".toList, 32010) := by decide +kernel
  have path : (uriOf Sample.library urlPrefix "jdbc:qcli://gateway.example/demo?tls=false").map
      Uri.path = some "/demo".toList := by decide +kernel
  cases named.symm.trans known
  rw [read, Option.map_some, Option.some_inj] at path
  have same := kept.mpr ⟨by decide, by rw [path]; decide +kernel⟩
  exact ⟨parsed, accepted, same.1, same.2.2⟩

/-- An IPv6 address gets two pairs of brackets, and a blank of a target is not escaped again; what
is made of them is no URI. -/
theorem translation_breaks_addresses :
    (parse Sample.library "jdbc:qcli://[::1]/demo" ∅).toOption.map
        (fun parsed => (parsed.delegateUrl, parsed.publicUrl)) =
      some ("jdbc:arrow-flight-sql://[[::1]]:32010/", "jdbc:qcli://[[::1]]:32010/demo") ∧
    endpoint Sample.library arrowPrefix "jdbc:arrow-flight-sql://[[::1]]:32010/" = none ∧
    (parse Sample.library "jdbc:qcli://[[::1]]:32010/demo" ∅).toOption.isSome = false ∧
    (parse Sample.library "jdbc:qcli://gateway/a%20b" ∅).toOption.map ParsedUrl.publicUrl =
      some "jdbc:qcli://gateway:32010/a b" ∧
    (parse Sample.library "jdbc:qcli://gateway:32010/a b" ∅).toOption.isSome = false := by
  decide +kernel

end Samples

section

variable {key : String}

theorem lookup_putIfAbsent {name : String} (other : key ≠ name)
    (properties : Registry String String) (value : String) :
    (putIfAbsent properties name value).lookup key = properties.lookup key := by
  unfold putIfAbsent
  split
  · rfl
  · rw [Registry.lookup_insert_ite, if_neg other]

/-- A property of a connection as its caller gives it. A bearer credential has two names, and the
connection has it as `token`. -/
def given (info : Registry String String) (key : String) : Option String :=
  if key = "jwt" then none
  else if key = "token" then (info.lookup "jwt").or (info.lookup "token")
  else info.lookup key

theorem lookup_connectionOf (unnamed : Unnamed key)
    (driver : key ∉ ["useEncryption", "qcli-target"]) (target : List Char)
    (properties : Registry String String) :
    (connectionOf target properties).2.lookup key = given properties key := by
  simp only [List.mem_cons, List.not_mem_nil, or_false, not_or] at driver
  have timeout : key ≠ "connectTimeoutMs" := (unnamed "connecttimeoutms" (by decide)).symm
  have cookies : key ≠ "retainCookies" := (unnamed "retaincookies" (by decide)).symm
  have auth : key ≠ "retainAuth" := (unnamed "retainauth" (by decide)).symm
  have tls : key ≠ "tls" := (unnamed "tls" (by decide)).symm
  have schema : key ≠ "schema" := (unnamed "schema" (by decide)).symm
  simp only [connectionOf, Registry.lookup_insert_ite, Registry.lookup_erase_ite,
    lookup_putIfAbsent timeout, lookup_putIfAbsent cookies, lookup_putIfAbsent auth, driver, tls,
    schema, if_false, given]
  split_ifs with first second
  · rfl
  · subst second
    cases properties.lookup "jwt" <;> simp
  · cases properties.lookup "jwt" <;> simp [second]

/-- A URL that is accepted leaves every property that none can set, the credentials among them, to
the caller; two others are the driver's. -/
def LeavesCredentials (info : Registry String String) : Except String ParsedUrl → Prop
  | .error _ => True
  | .ok parsed => ∀ key, Unnamed key → key ∉ ["useEncryption", "qcli-target"] →
    parsed.properties.lookup key = given info key

/-- No credential of a connection comes from its URL. -/
theorem url_leaves_credentials (java : Java) (url : String) (info : Registry String String) :
    LeavesCredentials info (parse java url info) := by
  cases outcome : parse java url info with
  | error message => trivial
  | ok parsed =>
    intro key unnamed driver
    obtain ⟨location, _, rest⟩ := Except.bind_eq_ok.mp outcome
    obtain ⟨settled, ok, same⟩ := Except.bind_eq_ok.mp rest
    obtain ⟨query, _, ok⟩ := Except.bind_eq_ok.mp ok
    obtain ⟨found, read, ok⟩ := Except.bind_eq_ok.mp ok
    have kept := lookup_connectionOf unnamed driver location.target (found.extend info)
    have own {key : String} (unnamed : Unnamed key) :
        (found.extend info).lookup key = info.lookup key := by
      rw [Registry.lookup_extend, lookup_readProperties_unnamed unnamed read, AList.lookup_empty,
        Option.or_none]
    rw [given, own unnamed, own (unnamed_bearer (.inl rfl)),
      own (unnamed_bearer (.inr rfl))] at kept
    split_ifs at ok
    cases ok
    cases same
    exact kept

/-- No URL can set a secret property. -/
example : ∀ name ∈ urlSecrets, Unnamed name := by unfold Unnamed; decide

end

end Jdbc

end ConfluxQuery
