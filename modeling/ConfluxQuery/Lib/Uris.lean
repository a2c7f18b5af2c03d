import ConfluxQuery.Lib.Numerals
import ConfluxQuery.Lib.Text

/-!
# URIs

The generic syntax of a URI with an authority, as `java.net.URI` reads it: a text is cut at the
delimiters, every part may have the characters of its own class and escapes, and an authority that
names no server is kept as it is. The grammars of host names and of IPv6 addresses and the decoding
of escapes are parameters, of which a few laws are assumed.
-/

namespace Uris

/-- Characters outside ASCII that may stand for themselves: visible ones. -/
def isOther (letter : Char) : Bool :=
  let code := letter.toNat
  159 < code && !(code == 0xA0 || code == 0x1680 || (0x2000 ≤ code && code ≤ 0x200A) ||
    code == 0x2028 || code == 0x2029 || code == 0x202F || code == 0x205F || code == 0x3000)

/-- Characters that may stand for themselves in every part. -/
def isUnreserved (letter : Char) : Bool :=
  letter.isAlphanum || "_-!.~'()*".toList.contains letter || isOther letter

/-- Characters of a path. -/
def isPathCharacter (letter : Char) : Bool :=
  isUnreserved letter || ":@&=+$,;/".toList.contains letter

/-- Characters of a query or a fragment. -/
def isUric (letter : Char) : Bool :=
  isUnreserved letter || ";/?:@&=+$,[]".toList.contains letter

/-- Characters of user information. -/
def isUserInfo (letter : Char) : Bool :=
  isUnreserved letter || ";:&=+$,".toList.contains letter

/-- Characters of an authority that names no server. -/
def isRegName (letter : Char) : Bool :=
  isUnreserved letter || "$,;:@&=+".toList.contains letter

/-- Digits of an escape. -/
def isHex (letter : Char) : Bool :=
  letter.isDigit || "abcdefABCDEF".toList.contains letter

/-- A text of some characters and of escapes. -/
def legal (allowed : Char → Bool) : List Char → Bool
  | [] => true
  | '%' :: high :: low :: rest => isHex high && isHex low && legal allowed rest
  | first :: rest => allowed first && legal allowed rest

/-- What a reader of URIs is built on. -/
structure Grammar where
  /-- Host names and IPv4 addresses. -/
  host : List Char → Bool
  /-- IPv6 addresses, as they stand between brackets. -/
  address : List Char → Bool
  /-- A text with its escapes decoded. -/
  decode : List Char → List Char
  /-- Host names have letters, digits, hyphens and dots. -/
  host_letters : ∀ text, host text = true →
    text ≠ [] ∧ ∀ letter ∈ text, letter.isAlphanum = true ∨ letter = '-' ∨ letter = '.'
  /-- IPv6 addresses have a colon, and no delimiters of a URI. -/
  address_letters : ∀ text, address text = true →
    ':' ∈ text ∧ ∀ letter ∈ text, "[]/?#@".toList.contains letter = false
  /-- A text without escapes stays as it is. -/
  decode_plain : ∀ text, '%' ∉ text → decode text = text
  /-- Every escape is longer than what it stands for. -/
  decode_shorter : ∀ text, legal isPathCharacter text = true → '%' ∈ text →
    (decode text).length < text.length

/-- A server of an authority. -/
structure Server where
  userInfo : Option (List Char)
  /-- Host, an IPv6 address with its brackets. -/
  host : List Char
  port : Option Nat

/-- A URI after its scheme; the parts are not decoded. -/
structure Uri where
  /-- Server, unless the authority names none. -/
  server : Option Server
  path : List Char
  query : Option (List Char)
  fragment : Option (List Char)

/-- Read what follows a host: a colon and a port, which may be left out. -/
def readPort : List Char → Option (Option Nat)
  | [] => some none
  | [':'] => some none
  | ':' :: digits => ((Numeral.digits? digits).filter (· < 2 ^ 31)).map some
  | _ => none

/-- Read what follows an authority: a path, a query after a question mark, and a fragment after a
number sign. -/
def readRest (text : List Char) (server : Option Server) : Option Uri :=
  let path := text.takeWhile fun letter => !"?#".toList.contains letter
  let ending := text.drop path.length
  let query := ending.takeWhile (· != '#')
  let fragment := ending.drop query.length
  if legal isPathCharacter path && legal isUric query.tail && legal isUric fragment.tail then
    some ⟨server, path, query.head?.map fun _ => query.tail,
      fragment.head?.map fun _ => fragment.tail⟩
  else none

namespace Grammar

variable (grammar : Grammar)

/-- Read a host, and what follows it. -/
def readHost : List Char → Option (List Char × List Char)
  | '[' :: text =>
    let address := text.takeWhile (· != ']')
    match text.drop address.length with
    | _ :: rest => if grammar.address address then some ('[' :: address ++ [']'], rest) else none
    | [] => none
  | text =>
    let name := text.takeWhile (· != ':')
    if grammar.host name then some (name, text.drop name.length) else none

/-- Read a host and a port. -/
def readEndpoint (text : List Char) : Option (List Char × Option Nat) :=
  (grammar.readHost text).bind fun host => (readPort host.2).map fun port => (host.1, port)

/-- Read a server: user information before an at sign, a host and a port. -/
def readServer (text : List Char) : Option Server :=
  if text.contains '@' then
    let userInfo := text.takeWhile (· != '@')
    if legal isUserInfo userInfo then
      (grammar.readEndpoint (text.drop (userInfo.length + 1))).map fun endpoint =>
        ⟨some userInfo, endpoint.1, endpoint.2⟩
    else none
  else (grammar.readEndpoint text).map fun endpoint => ⟨none, endpoint.1, endpoint.2⟩

/-- Read an authority: a server, or a name that may stand for itself. -/
def readAuthority (text : List Char) : Option (Option Server) :=
  match grammar.readServer text with
  | some server => some (some server)
  | none => if legal isRegName text then some none else none

/-- Read a URI after its scheme, a colon and two slashes. -/
def read (text : List Char) : Option Uri :=
  let authority := text.takeWhile fun letter => !"/?#".toList.contains letter
  if text.isEmpty then none
  else (if authority.isEmpty then some none else grammar.readAuthority authority).bind
    (readRest (text.drop authority.length))

end Grammar

section Parts

variable {allowed : Char → Bool} {text : List Char}

theorem legal_iff_of_plain (plain : '%' ∉ text) :
    legal allowed text = true ↔ ∀ letter ∈ text, allowed letter = true := by
  fun_induction legal allowed text with
  | case1 => simp
  | case2 => simp at plain
  | case3 first rest _ step =>
    rw [List.mem_cons, not_or] at plain
    rw [Bool.and_eq_true, step plain.2, List.forall_mem_cons]

/-- What comes before the first character that stops. -/
theorem takeWhile_stops {keep : Char → Bool} {before after : List Char} {stop : Char}
    (kept : ∀ letter ∈ before, keep letter = true) (stops : keep stop = false) :
    (before ++ stop :: after).takeWhile keep = before := by
  rw [List.takeWhile_append_of_pos kept, List.takeWhile_cons_of_neg (by simp [stops]),
    List.append_nil]

/-- A path whose characters may stand for themselves is read as it is. -/
theorem readRest_path (server : Option Server)
    (direct : ∀ letter ∈ text, isPathCharacter letter = true) :
    readRest ('/' :: text) server = some ⟨server, '/' :: text, none, none⟩ := by
  have all : ∀ letter ∈ '/' :: text, isPathCharacter letter = true :=
    List.forall_mem_cons.mpr ⟨by decide, direct⟩
  have apart : ∀ stop, isPathCharacter stop = false → stop ∉ '/' :: text := by
    intro stop refused member
    cases refused.symm.trans (all stop member)
  have whole : ('/' :: text).takeWhile (fun letter => !"?#".toList.contains letter) =
      '/' :: text := by
    refine List.takeWhile_eq_self_iff.mpr fun letter member => ?_
    have question : letter ≠ '?' := ne_of_mem_of_not_mem member (apart '?' (by decide))
    have number : letter ≠ '#' := ne_of_mem_of_not_mem member (apart '#' (by decide))
    simp [question, number]
  have clean : legal isPathCharacter ('/' :: text) = true :=
    (legal_iff_of_plain (apart '%' (by decide))).mpr all
  simp only [readRest, whole, clean, List.drop_length, List.takeWhile_nil]
  rfl

/-- What is read as a path is legal, and no longer than the text. -/
theorem path_of_readRest {server : Option Server} {uri : Uri}
    (found : readRest text server = some uri) :
    uri.server = server ∧ legal isPathCharacter uri.path = true ∧ uri.path <+: text := by
  rw [readRest] at found
  split at found
  · next clean =>
    cases found
    simp only [Bool.and_eq_true] at clean
    exact ⟨rfl, clean.1.1, List.takeWhile_prefix _⟩
  · cases found

/-- A text that was put behind an authority and a slash is read back just when each of its
characters may stand for itself. -/
theorem decode_path_iff (grammar : Grammar) {server : Option Server} {uri : Uri}
    (present : text ≠ []) (found : readRest ('/' :: text) server = some uri) :
    (grammar.decode uri.path).tail = text ↔ ∀ letter ∈ text, isPathCharacter letter = true := by
  obtain ⟨_, clean, short⟩ := path_of_readRest found
  constructor
  · intro same
    have length := congrArg List.length same
    have least := short.length_le
    have some := List.length_pos_of_ne_nil present
    rw [List.length_tail] at length
    rw [List.length_cons] at least
    by_cases escaped : '%' ∈ uri.path
    · have shorter := grammar.decode_shorter uri.path clean escaped
      omega
    · rw [grammar.decode_plain uri.path escaped] at length
      have whole : uri.path = '/' :: text := short.eq_of_length (by rw [List.length_cons]; omega)
      rw [whole] at clean escaped
      have all := (legal_iff_of_plain escaped).mp clean
      exact fun letter member => all letter (List.mem_cons_of_mem _ member)
  · intro direct
    rw [readRest_path server direct] at found
    cases found
    have plain : '%' ∉ '/' :: text := by
      intro member
      rcases List.mem_cons.mp member with same | inside
      · cases same
      · exact absurd (direct '%' inside) (by decide)
    rw [grammar.decode_plain _ plain, List.tail_cons]

end Parts

namespace Grammar

variable {grammar : Grammar} {text : List Char}

theorem host_of_readHost {host rest : List Char}
    (found : grammar.readHost text = some (host, rest)) :
    grammar.host host = true ∨
      ∃ address, grammar.address address = true ∧ host = '[' :: address ++ [']'] := by
  unfold readHost at found
  split at found
  · dsimp only at found
    split at found
    · split at found
      · next known =>
        cases found
        exact .inr ⟨_, known, rfl⟩
      · cases found
    · cases found
  · dsimp only at found
    split at found
    · next known =>
      cases found
      exact .inl known
    · cases found

theorem readEndpoint_of_readServer {server : Server}
    (found : grammar.readServer text = some server) :
    ∃ part, grammar.readEndpoint part = some (server.host, server.port) := by
  rw [readServer] at found
  split at found
  · dsimp only at found
    split at found
    · obtain ⟨endpoint, read, rfl⟩ := Option.map_eq_some_iff.mp found
      exact ⟨_, read⟩
    · cases found
  · obtain ⟨endpoint, read, rfl⟩ := Option.map_eq_some_iff.mp found
    exact ⟨_, read⟩

/-- The host of a URI is a name, or an address in brackets. -/
theorem host_of_read {uri : Uri} {server : Server} (found : grammar.read text = some uri)
    (known : uri.server = some server) : grammar.host server.host = true ∨
      ∃ address, grammar.address address = true ∧ server.host = '[' :: address ++ [']'] := by
  rw [read] at found
  split at found
  · cases found
  obtain ⟨parsed, authority, rest⟩ := Option.bind_eq_some_iff.mp found
  rw [(path_of_readRest rest).1] at known
  subst known
  split at authority
  · cases authority
  rw [readAuthority] at authority
  split at authority
  · next one read =>
    cases authority
    obtain ⟨part, endpoint⟩ := readEndpoint_of_readServer read
    obtain ⟨⟨host, after⟩, first, second⟩ := Option.bind_eq_some_iff.mp endpoint
    obtain ⟨port, _, same⟩ := Option.map_eq_some_iff.mp second
    cases same
    exact host_of_readHost first
  · split at authority
    · cases authority
    · cases authority

/-- A text that was put together from an authority and a path is cut between them. -/
theorem read_append {authority : List Char} (present : authority ≠ [])
    (clean : ∀ letter ∈ authority, "/?#".toList.contains letter = false) :
    grammar.read (authority ++ '/' :: text) =
      (grammar.readAuthority authority).bind (readRest ('/' :: text)) := by
  have cut : (authority ++ '/' :: text).takeWhile (fun letter => !"/?#".toList.contains letter) =
      authority :=
    takeWhile_stops (fun letter member => by rw [clean letter member]; rfl) (by decide)
  have filled : (authority ++ '/' :: text).isEmpty = false := by simp
  simp only [read, cut, filled, List.isEmpty_eq_false_iff.mpr present, Bool.false_eq_true, if_false,
    List.drop_left]

/-- No character of a host name or of a number is among some others. -/
theorem host_apart {name : List Char} (known : grammar.host name = true) {letter : Char}
    (refused : (letter.isAlphanum || letter == '-' || letter == '.') = false) : letter ∉ name := by
  intro member
  rcases (grammar.host_letters name known).2 letter member with same | rfl | rfl
  · rw [same] at refused
    cases refused
  · cases refused
  · cases refused

theorem print_apart (number : Nat) {letter : Char} (refused : letter.isDigit = false) :
    letter ∉ Numeral.print number := by
  intro member
  cases refused.symm.trans (Numeral.isDigit_of_mem_print member)

/-- A port is read back. -/
theorem readPort_print {number : Nat} (small : number < 2 ^ 31) :
    readPort (':' :: Numeral.print number) = some (some number) := by
  unfold readPort
  split
  · next same => cases same
  · next same => exact absurd (List.cons.inj same).2 Nat.toDigits_ne_nil
  · next digits _ same =>
    cases same
    rw [Numeral.digits?_print]
    simpa [Option.filter] using small
  · next refused => exact absurd rfl (refused _)

theorem readAuthority_name {name : List Char} {number : Nat} (known : grammar.host name = true)
    (small : number < 2 ^ 31) :
    grammar.readAuthority (name ++ ':' :: Numeral.print number) =
      some (some ⟨none, name, some number⟩) := by
  have before : '@' ∉ name := host_apart known rfl
  have after : '@' ∉ Numeral.print number := print_apart number rfl
  have anonymous : (name ++ ':' :: Numeral.print number).contains '@' = false := by
    simp [before, after]
  have cut : (name ++ ':' :: Numeral.print number).takeWhile (· != ':') = name :=
    takeWhile_stops (fun letter member => bne_iff_ne.mpr
      (ne_of_mem_of_not_mem member (host_apart known rfl))) rfl
  have named : grammar.readHost (name ++ ':' :: Numeral.print number) =
      some (name, ':' :: Numeral.print number) := by
    unfold readHost
    split
    · next rest same =>
      -- a name does not begin with a bracket
      obtain ⟨first, later, rfl⟩ := List.exists_cons_of_ne_nil (grammar.host_letters name known).1
      cases (List.cons.inj same).1
      exact absurd List.mem_cons_self (host_apart known rfl)
    · simp only [cut, known, if_true, List.drop_left]
  simp only [readAuthority, readServer, anonymous, readEndpoint, named, Option.bind_some,
    readPort_print small, Option.map_some, Bool.false_eq_true, if_false]

/-- Brackets around a bracketed address make no authority. -/
theorem readAuthority_brackets {address : List Char} (known : grammar.address address = true)
    (number : Nat) :
    grammar.readAuthority ('[' :: ('[' :: address ++ [']']) ++ ']' :: ':' :: Numeral.print number) =
      none := by
  obtain ⟨_, apart⟩ := grammar.address_letters address known
  have absent : ∀ letter, "[]/?#@".toList.contains letter = true → letter ∉ address := by
    intro letter delimits member
    cases delimits.symm.trans (apart letter member)
  have after : '@' ∉ Numeral.print number := print_apart number rfl
  have anonymous : ('[' :: ('[' :: address ++ [']']) ++ ']' :: ':' ::
      Numeral.print number).contains '@' = false := by
    simp [absent '@' (by decide), after]
  have cut : ('[' :: address ++ [']'] ++ ']' :: ':' :: Numeral.print number).takeWhile (· != ']') =
      '[' :: address := by
    rw [List.append_assoc]
    refine takeWhile_stops (fun letter member => bne_iff_ne.mpr ?_) rfl
    rintro rfl
    rcases List.mem_cons.mp member with same | inside
    · cases same
    · exact absent ']' (by decide) inside
  have other : grammar.address ('[' :: address) = false := by
    by_contra known'
    have := (grammar.address_letters _ (Bool.not_eq_false _ ▸ known')).2 '[' List.mem_cons_self
    cases this
  have unnamed : grammar.readHost ('[' :: ('[' :: address ++ [']']) ++ ']' :: ':' ::
      Numeral.print number) = none := by
    rw [List.cons_append, readHost, cut]
    simp only [other]
    split <;> rfl
  rw [readAuthority, readServer, anonymous, readEndpoint, unnamed]
  rfl

end Grammar

end Uris
