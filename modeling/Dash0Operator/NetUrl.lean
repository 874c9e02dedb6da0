import Mathlib.Data.List.Basic

/-! Go's `url.Parse`, as `http.NewRequest` runs it, and the check `Transport.roundTrip` makes before
it sends a request. The library is not in the repository; the model follows Go 1.23. Go reads the
bytes of a string, but every byte it tests is ASCII and every byte of a non-ASCII character is at
least `0x80`, so the model reads characters and decodes into the bytes of their UTF-8 encoding. Of
`url.URL` it keeps the fields the HTTP client reads. The main theorems say where a URL's text can
be cut without changing what it parses to: at a `#` or a `?`, and inside the path. -/

namespace Dash0Operator.NetUrl

/-- The fields of `url.URL` the HTTP client reads; `rootless` is Go's `Opaque`. -/
structure Url where
  scheme : List Char
  rootless : List Char
  host : List UInt8
  path : List UInt8
  rawQuery : List Char
  deriving DecidableEq, Repr

inductive ParseError where
  | invalidControlCharacter
  | missingProtocolScheme
  | firstPathSegmentColon
  | missingBracket
  | invalidPort (colonPort : List Char)
  | invalidUserinfo
  | escapeError (s : List UInt8)
  | invalidHostError (s : List UInt8)
  deriving DecidableEq, Repr

/-- `url.Error`. -/
structure UrlError where
  op : String
  url : String
  err : ParseError
  deriving DecidableEq, Repr

def utf8 (s : List Char) : List UInt8 := s.flatMap String.utf8EncodeChar

/-- `stringContainsCTLByte` tests each byte for `b < ' ' || b == 0x7f`. -/
def isCTL (c : Char) : Bool := c.toNat < 0x20 || c.toNat == 0x7f

def ishex (c : Char) : Bool := c.isDigit || ('a' ≤ c && c ≤ 'f') || ('A' ≤ c && c ≤ 'F')

def unhex (c : Char) : Nat :=
  if c.isDigit then c.toNat - '0'.toNat
  else if 'a' ≤ c ∧ c ≤ 'f' then c.toNat - 'a'.toNat + 10
  else if 'A' ≤ c ∧ c ≤ 'F' then c.toNat - 'A'.toNat + 10
  else 0

/-- The modes `parse` unescapes in; they differ only for hosts and zones. -/
inductive Encoding where
  | encodePath
  | encodeHost
  | encodeZone
  | encodeUserPassword
  | encodeFragment
  deriving DecidableEq

def Encoding.hostLike : Encoding → Bool
  | .encodeHost | .encodeZone => true
  | _ => false

/-- `shouldEscape(c, encodeHost)`, which `encodeZone` shares. -/
def hostShouldEscape (c : Char) : Bool :=
  !(c.isAlphanum || ['!', '$', '&', Char.ofNat 39, '(', ')', '*', '+', ',', ';', '=', ':', '[', ']', '<', '>',
    Char.ofNat 34, '-', '_', '.', '~'].contains c)

/-- The escapes a mode takes: a host only `%25` and non-ASCII bytes, a zone `%25`, a space and the
bytes a host holds unescaped. -/
def escapeAllowed : Encoding → Char → Char → Bool
  | .encodeHost, h1, h2 => 8 ≤ unhex h1 || (h1 == '2' && h2 == '5')
  | .encodeZone, h1, h2 => (h1 == '2' && h2 == '5') || unhex h1 * 16 + unhex h2 == 32 ||
      !hostShouldEscape (Char.ofNat (unhex h1 * 16 + unhex h2))
  | _, _, _ => true

/-- `unescape`. Go checks the whole text before it decodes; the first malformed escape, or in a
host the first ASCII character a host cannot hold, is the error. -/
def unescape (mode : Encoding) : List Char → Except ParseError (List UInt8)
  | [] => .ok []
  | c :: rest =>
    if c = '%' then
      match rest with
      | h1 :: h2 :: rest' =>
        if ishex h1 && ishex h2 then
          if escapeAllowed mode h1 h2 then
            (unescape mode rest').map ((unhex h1 * 16 + unhex h2).toUInt8 :: ·)
          else .error (.escapeError (utf8 [c, h1, h2]))
        else .error (.escapeError ((utf8 (c :: rest)).take 3))
      | _ => .error (.escapeError ((utf8 (c :: rest)).take 3))
    else if mode.hostLike && c.toNat < 0x80 && hostShouldEscape c then .error (.invalidHostError (utf8 [c]))
    else (unescape mode rest).map (String.utf8EncodeChar c ++ ·)

def isSchemeChar (c : Char) : Bool := c.isAlphanum || c == '+' || c == '-' || c == '.'

/-- `getScheme` after the first letter: the scheme characters up to a `:` and the text after it,
or `none` when another character or the end comes first. -/
def schemeTail : List Char → Option (List Char × List Char)
  | [] => none
  | c :: rest =>
    if c = ':' then some ([], rest)
    else if isSchemeChar c then (schemeTail rest).map fun (scheme, after) => (c :: scheme, after)
    else none

def getScheme : List Char → Except ParseError (List Char × List Char)
  | [] => .ok ([], [])
  | c :: rest =>
    if c.isAlpha then
      match schemeTail rest with
      | some (scheme, after) => .ok (c :: scheme, after)
      | none => .ok ([], c :: rest)
    else if c = ':' then .error .missingProtocolScheme
    else .ok ([], c :: rest)

/-- The text before and after the first `sep`. -/
def splitFirst (sep : Char) : List Char → Option (List Char × List Char)
  | [] => none
  | c :: rest =>
    if c = sep then some ([], rest) else (splitFirst sep rest).map fun (before, after) => (c :: before, after)

/-- `strings.Cut`. -/
def cut (sep : Char) (s : List Char) : List Char × List Char := (splitFirst sep s).getD (s, [])

/-- The text before and after the last `sep`, found by `strings.LastIndex`. -/
def splitLast (sep : Char) (s : List Char) : Option (List Char × List Char) :=
  (splitFirst sep s.reverse).map fun (after, before) => (before.reverse, after.reverse)

/-- The text before the first `%25` and the zone from it on. -/
def splitZone : List Char → Option (List Char × List Char)
  | [] => none
  | c :: rest =>
    if c = '%' ∧ rest.take 2 = ['2', '5'] then some ([], c :: rest)
    else (splitZone rest).map fun (address, zone) => (c :: address, zone)

def validOptionalPort : List Char → Bool
  | [] => true
  | c :: digits => c == ':' && digits.all Char.isDigit

def parseHost (host : List Char) : Except ParseError (List UInt8) :=
  if host.head? = some '[' then
    match splitLast ']' host with
    | none => .error .missingBracket
    | some (literal, colonPort) =>
      if !validOptionalPort colonPort then .error (.invalidPort colonPort)
      else
        match splitZone literal with
        | some (address, zone) => do
          let host1 ← unescape .encodeHost address
          let host2 ← unescape .encodeZone zone
          let host3 ← unescape .encodeHost (']' :: colonPort)
          pure (host1 ++ host2 ++ host3)
        | none => unescape .encodeHost host
  else
    match splitLast ':' host with
    | some (_, port) =>
      if validOptionalPort (':' :: port) then unescape .encodeHost host else .error (.invalidPort (':' :: port))
    | none => unescape .encodeHost host

def validUserinfo (s : List Char) : Bool :=
  s.all fun c => c.isAlphanum ||
    ['-', '.', '_', ':', '~', '!', '$', '&', Char.ofNat 39, '(', ')', '*', '+', ',', ';', '=', '%', '@'].contains c

/-- `parseAuthority`. The model keeps the host; the user information is checked and unescaped for
its errors only. -/
def parseAuthority (authority : List Char) : Except ParseError (List UInt8) :=
  match splitLast '@' authority with
  | none => parseHost authority
  | some (userinfo, hostPort) => do
    let host ← parseHost hostPort
    if !validUserinfo userinfo then throw .invalidUserinfo
    match splitFirst ':' userinfo with
    | none => discard (unescape .encodeUserPassword userinfo)
    | some (username, password) =>
      discard (unescape .encodeUserPassword username)
      discard (unescape .encodeUserPassword password)
    pure host

/-- After `//`, the authority runs up to the first `/`, which starts the path. -/
def splitAuthority (s : List Char) : List Char × List Char :=
  match splitFirst '/' s with
  | some (authority, path) => (authority, '/' :: path)
  | none => (s, [])

/-- The steps of `parse` after the scheme and the query are cut off: a rootless URL with a scheme,
or the authority and the path. -/
def parseRest (scheme rest rawQuery : List Char) : Except ParseError Url :=
  if rest.head? ≠ some '/' ∧ scheme ≠ [] then .ok ⟨scheme, rest, [], [], rawQuery⟩
  else if rest.head? ≠ some '/' ∧ ':' ∈ (cut '/' rest).1 then .error .firstPathSegmentColon
  else if (scheme ≠ [] ∨ !(['/', '/', '/'].isPrefixOf rest)) ∧ ['/', '/'].isPrefixOf rest then
    (parseAuthority (splitAuthority (rest.drop 2)).1).bind fun host =>
      (unescape .encodePath (splitAuthority (rest.drop 2)).2).map fun path => ⟨scheme, [], host, path, rawQuery⟩
  else (unescape .encodePath rest).map fun path => ⟨scheme, [], [], path, rawQuery⟩

/-- `parse(rawURL, false)`. When the only `?` ends the text Go sets `ForceQuery` and cuts it off,
which `strings.Cut` does as well. -/
def parse (rawURL : List Char) : Except ParseError Url :=
  if rawURL.any isCTL then .error .invalidControlCharacter
  else if rawURL = ['*'] then .ok ⟨[], [], [], utf8 ['*'], []⟩
  else
    (getScheme rawURL).bind fun (scheme, rest) =>
      parseRest (scheme.map Char.toLower) (cut '?' rest).1 (cut '?' rest).2

/-- `url.Parse`: the fragment is cut off first and unescaped last. -/
def Parse (rawURL : String) : Except UrlError Url :=
  match parse (cut '#' rawURL.toList).1 with
  | .error err => .error ⟨"parse", String.mk (cut '#' rawURL.toList).1, err⟩
  | .ok url =>
    if (cut '#' rawURL.toList).2 = [] then .ok url
    else
      match unescape .encodeFragment (cut '#' rawURL.toList).2 with
      | .error err => .error ⟨"parse", rawURL, err⟩
      | .ok _ => .ok url

/-- `removeEmptyPort`: `hasPort` holds of a host that ends in `:`, and only that `:` goes. -/
def removeEmptyPort (host : List UInt8) : List UInt8 :=
  if host.getLast? = some 58 then host.dropLast else host

/-- `u.Host = removeEmptyPort(u.Host)`. -/
def Url.withoutEmptyPort (url : Url) : Url := { url with host := removeEmptyPort url.host }

/-- `http.NewRequest` with a valid method: the parsed URL, whose host loses an empty port. -/
def NewRequest (url : String) : Except UrlError Url := (Parse url).map Url.withoutEmptyPort

/-- The error `Transport.roundTrip` returns before it sends a request: for a scheme other than
`http` and `https`, or for a URL without a host. -/
def roundTripError (url : Url) : Option String :=
  if url.scheme ≠ "http".toList ∧ url.scheme ≠ "https".toList then
    some ("unsupported protocol scheme " ++ "\"" ++ String.mk url.scheme ++ "\"")
  else if url.host = [] then some "http: no Host in request URL"
  else none

theorem host_of_roundTripError {url : Url} (sendable : roundTripError url = none) : url.host ≠ [] := by
  unfold roundTripError at sendable
  split_ifs at sendable with _ hosted
  exact hosted

/-! ## Cutting the text -/

theorem toOption_map {ε α β : Type} (f : α → β) (e : Except ε α) : (e.map f).toOption = e.toOption.map f := by
  cases e <;> rfl

theorem toOption_ok {ε α : Type} (a : α) : (Except.ok a : Except ε α).toOption = some a := rfl

theorem toOption_bind {ε α β : Type} (e : Except ε α) (f : α → Except ε β) :
    (e.bind f).toOption = e.toOption.bind fun a => (f a).toOption := by
  cases e <;> rfl

@[simp] theorem utf8_append (s t : List Char) : utf8 (s ++ t) = utf8 s ++ utf8 t := List.flatMap_append _ _ _

@[simp] theorem utf8_nil : utf8 [] = [] := rfl

@[simp] theorem utf8_cons (c : Char) (s : List Char) : utf8 (c :: s) = String.utf8EncodeChar c ++ utf8 s := rfl

section Split

variable {sep : Char}

theorem splitFirst_eq_none {s : List Char} (absent : sep ∉ s) : splitFirst sep s = none := by
  induction s with
  | nil => rfl
  | cons c rest ih =>
    rw [List.mem_cons, not_or] at absent
    simp [splitFirst, Ne.symm absent.1, ih absent.2]

theorem splitFirst_append_cons {x : List Char} (absent : sep ∉ x) (y : List Char) :
    splitFirst sep (x ++ sep :: y) = some (x, y) := by
  induction x with
  | nil => simp [splitFirst]
  | cons c rest ih =>
    rw [List.mem_cons, not_or] at absent
    simp [splitFirst, Ne.symm absent.1, ih absent.2]

theorem splitFirst_append_of_mem {x : List Char} (present : sep ∈ x) (y : List Char) :
    ∃ before after, splitFirst sep x = some (before, after) ∧ x = before ++ sep :: after ∧
      splitFirst sep (x ++ y) = some (before, after ++ y) := by
  induction x with
  | nil => cases present
  | cons c rest ih =>
    by_cases here : c = sep
    · exact ⟨[], rest, by simp [splitFirst, here], by simp [here], by simp [splitFirst, here]⟩
    · obtain ⟨before, after, split, parts, split'⟩ := ih ((List.mem_cons.mp present).resolve_left (Ne.symm here))
      exact ⟨c :: before, after, by simp [splitFirst, here, split], by simp [parts],
        by simp [splitFirst, here, split']⟩

theorem cut_of_not_mem {s : List Char} (absent : sep ∉ s) : cut sep s = (s, []) := by
  simp [cut, splitFirst_eq_none absent]

theorem cut_append_cons {x : List Char} (absent : sep ∉ x) (y : List Char) : cut sep (x ++ sep :: y) = (x, y) := by
  simp [cut, splitFirst_append_cons absent]

end Split

/-! ## Unreserved text -/

/-- The unreserved characters of RFC 3986, which no mode escapes. -/
def unreserved (c : Char) : Bool := c.isAlphanum || c == '-' || c == '.' || c == '_' || c == '~'

theorem unreserved_range {c : Char} (plain : unreserved c) : 45 ≤ c.toNat ∧ c.toNat ≤ 126 := by
  simp only [unreserved, Char.isAlphanum, Char.isAlpha, Char.isUpper, Char.isLower, Char.isDigit, Bool.or_eq_true,
    Bool.and_eq_true, decide_eq_true_eq, beq_iff_eq] at plain
  unfold Char.toNat
  rcases plain with (((((⟨lo, hi⟩ | ⟨lo, hi⟩) | ⟨lo, hi⟩) | rfl) | rfl) | rfl) | rfl
  · have : 65 ≤ c.val.toNat := lo; have : c.val.toNat ≤ 90 := hi; omega
  · have : 97 ≤ c.val.toNat := lo; have : c.val.toNat ≤ 122 := hi; omega
  · have : 48 ≤ c.val.toNat := lo; have : c.val.toNat ≤ 57 := hi; omega
  all_goals decide

theorem unreserved_ne {c d : Char} (plain : unreserved c) (reserved : unreserved d = false) : c ≠ d := by
  rintro rfl
  rw [plain] at reserved
  cases reserved

theorem unreserved_not_ctl {c : Char} (plain : unreserved c) : isCTL c = false := by
  have := unreserved_range plain
  simp only [isCTL, Bool.or_eq_false_iff, decide_eq_false_iff_not, beq_eq_false_iff_ne, ne_eq]
  omega

theorem unreserved_host {c : Char} (plain : unreserved c) : hostShouldEscape c = false := by
  simp only [unreserved, Bool.or_eq_true, beq_iff_eq] at plain
  rcases plain with ((((alnum | rfl) | rfl) | rfl) | rfl)
  · simp [hostShouldEscape, alnum]
  all_goals decide

theorem utf8EncodeChar_of_unreserved {c : Char} (plain : unreserved c) : String.utf8EncodeChar c = [c.val.toUInt8] := by
  have : c.val ≤ 0x7f := show c.val.toNat ≤ 127 by have := unreserved_range plain; unfold Char.toNat at this; omega
  simp [String.utf8EncodeChar, this]

theorem unreserved_byte_injective {c d : Char} (plainC : unreserved c) (plainD : unreserved d)
    (same : c.val.toUInt8 = d.val.toUInt8) : c = d := by
  have bytes := congrArg UInt8.toNat same
  simp only [UInt32.toUInt8, UInt8.toNat, Nat.toUInt8, UInt8.ofNat, BitVec.toNat_ofNat] at bytes
  have rangeC := unreserved_range plainC
  have rangeD := unreserved_range plainD
  unfold Char.toNat at rangeC rangeD
  rw [Nat.mod_eq_of_lt (by omega), Nat.mod_eq_of_lt (by omega)] at bytes
  rw [← Char.ofNat_toNat c, ← Char.ofNat_toNat d]
  unfold Char.toNat
  rw [bytes]

theorem utf8_injective_of_unreserved {s t : List Char} (plain : ∀ c ∈ s, unreserved c) (plain' : ∀ c ∈ t, unreserved c)
    (same : utf8 s = utf8 t) : s = t := by
  induction s generalizing t with
  | nil =>
    cases t with
    | nil => rfl
    | cons d t => simp [utf8EncodeChar_of_unreserved (plain' d (List.mem_cons_self d t))] at same
  | cons c s ih =>
    cases t with
    | nil => simp [utf8EncodeChar_of_unreserved (plain c (List.mem_cons_self c s))] at same
    | cons d t =>
      have unreservedC := plain c (List.mem_cons_self c s)
      have unreservedD := plain' d (List.mem_cons_self d t)
      simp only [utf8_cons, utf8EncodeChar_of_unreserved unreservedC, utf8EncodeChar_of_unreserved unreservedD,
        List.singleton_append, List.cons.injEq] at same
      rw [unreserved_byte_injective unreservedC unreservedD same.1,
        ih (fun e m => plain e (List.mem_cons_of_mem c m)) (fun e m => plain' e (List.mem_cons_of_mem d m)) same.2]

/-- The last character cannot start an escape that text appended after it would complete. -/
def EndsClear (s : List Char) : Prop := ∀ c ∈ s.getLast?, ishex c = false ∧ c ≠ '%'

theorem EndsClear.of_append {s t : List Char} (clear : EndsClear (s ++ t)) : EndsClear t := by
  intro c last
  cases t with
  | nil => cases last
  | cons d t => exact clear c (by rw [List.getLast?_append_of_ne_nil _ (List.cons_ne_nil d t)]; exact last)

theorem EndsClear.append {s t : List Char} (clear : EndsClear t) (nonempty : t ≠ []) : EndsClear (s ++ t) := by
  intro c last
  rw [List.getLast?_append_of_ne_nil _ nonempty] at last
  exact clear c last

theorem unescape_cons_of_ne (mode : Encoding) {c : Char} (percent : c ≠ '%') (rest : List Char) :
    unescape mode (c :: rest) =
      if mode.hostLike && c.toNat < 0x80 && hostShouldEscape c then .error (.invalidHostError (utf8 [c]))
      else (unescape mode rest).map (String.utf8EncodeChar c ++ ·) := by
  rw [unescape.eq_def]
  simp only [if_neg percent]

theorem unescape_unreserved (mode : Encoding) : ∀ {n : List Char}, (∀ c ∈ n, unreserved c) →
    unescape mode n = .ok (utf8 n)
  | [], _ => rfl
  | c :: n, plain => by
    have unreservedC := plain c (List.mem_cons_self c n)
    rw [unescape_cons_of_ne mode (unreserved_ne unreservedC (show unreserved '%' = false by decide)),
      unreserved_host unreservedC, Bool.and_false, if_neg Bool.false_ne_true,
      unescape_unreserved mode (fun d member => plain d (List.mem_cons_of_mem c member))]
    rfl

theorem unescape_append_unreserved (mode : Encoding) {n : List Char} (plain : ∀ c ∈ n, unreserved c) :
    ∀ x : List Char, EndsClear x →
      (unescape mode (x ++ n)).toOption = (unescape mode x).toOption.map (· ++ utf8 n)
  | [], _ => by simp [unescape_unreserved mode plain, unescape, Except.toOption]
  | c :: rest, clear => by
    by_cases percent : c = '%'
    · subst percent
      match rest, clear with
      | [], clear => exact absurd rfl (clear '%' rfl).2
      | [h1], clear =>
        have notHex : ishex h1 = false := (clear h1 rfl).1
        cases n with
        | nil => rfl
        | cons d n => simp [unescape, notHex, Except.toOption]
      | h1 :: h2 :: rest', clear =>
        have ih := unescape_append_unreserved mode plain rest' (EndsClear.of_append (s := ['%', h1, h2]) clear)
        simp only [List.cons_append, unescape, if_true, List.append_eq]
        split
        · split
          · rw [toOption_map, toOption_map, ih, Option.map_map, Option.map_map]
            rfl
          · rfl
        · rfl
    · have ih := unescape_append_unreserved mode plain rest (EndsClear.of_append (s := [c]) clear)
      rw [List.cons_append, unescape_cons_of_ne mode percent, unescape_cons_of_ne mode percent]
      split
      · rfl
      · rw [toOption_map, toOption_map, ih, Option.map_map, Option.map_map]
        congr 1
        funext bytes
        simp

/-! ## The scheme -/

theorem schemeTail_append {x : List Char} (stops : ∃ c ∈ x, isSchemeChar c = false) (y : List Char) :
    schemeTail (x ++ y) = (schemeTail x).map fun (scheme, after) => (scheme, after ++ y) := by
  induction x with
  | nil => obtain ⟨_, absent, _⟩ := stops; cases absent
  | cons c rest ih =>
    by_cases colon : c = ':'
    · simp [schemeTail, colon]
    · by_cases schemeChar : isSchemeChar c = true
      · have later : ∃ d ∈ rest, isSchemeChar d = false := by
          obtain ⟨d, member, stopsAt⟩ := stops
          rcases List.mem_cons.mp member with rfl | member
          · rw [schemeChar] at stopsAt; cases stopsAt
          · exact ⟨d, member, stopsAt⟩
        simp only [List.cons_append, schemeTail, if_neg colon, schemeChar, if_true, List.append_eq, ih later]
        rcases schemeTail rest with _ | ⟨scheme, after⟩ <;> rfl
      · simp [schemeTail, colon, schemeChar]

theorem getScheme_append {x : List Char} (stops : ∃ c ∈ x, isSchemeChar c = false) (y : List Char) :
    getScheme (x ++ y) = (getScheme x).map fun (scheme, after) => (scheme, after ++ y) := by
  cases x with
  | nil => obtain ⟨_, absent, _⟩ := stops; cases absent
  | cons c rest =>
    by_cases alpha : c.isAlpha = true
    · have later : ∃ d ∈ rest, isSchemeChar d = false := by
        obtain ⟨d, member, stopsAt⟩ := stops
        rcases List.mem_cons.mp member with rfl | member
        · simp [isSchemeChar, Char.isAlphanum, alpha] at stopsAt
        · exact ⟨d, member, stopsAt⟩
      simp only [List.cons_append, getScheme, alpha, if_true, List.append_eq, schemeTail_append later]
      rcases schemeTail rest with _ | ⟨scheme, after⟩ <;> rfl
    · by_cases colon : c = ':' <;> simp [getScheme, alpha, colon] <;> rfl

theorem schemeTail_eq_some {w scheme after : List Char} (split : schemeTail w = some (scheme, after)) :
    w = scheme ++ ':' :: after := by
  induction w generalizing scheme with
  | nil => cases split
  | cons c rest ih =>
    by_cases colon : c = ':'
    · simp only [schemeTail, colon, if_true, Option.some.injEq, Prod.mk.injEq] at split
      obtain ⟨rfl, rfl⟩ := split
      simp [colon]
    · by_cases schemeChar : isSchemeChar c = true
      · simp only [schemeTail, if_neg colon, schemeChar, if_true] at split
        rcases tail : schemeTail rest with _ | ⟨scheme', after'⟩ <;> rw [tail] at split <;>
          simp only [Option.map_none', Option.map_some', Option.some.injEq, Prod.mk.injEq, reduceCtorEq] at split
        obtain ⟨rfl, rfl⟩ := split
        simp [ih tail]
      · simp [schemeTail, colon, schemeChar] at split

theorem getScheme_rest {w scheme rest : List Char} (split : getScheme w = .ok (scheme, rest)) :
    rest = w ∨ ∃ p, w = p ++ ':' :: rest := by
  cases w with
  | nil => cases split; exact .inl rfl
  | cons c t =>
    by_cases alpha : c.isAlpha = true
    · simp only [getScheme, alpha, if_true] at split
      rcases tail : schemeTail t with _ | ⟨scheme', after⟩ <;> rw [tail] at split <;> cases split
      · exact .inl rfl
      · exact .inr ⟨c :: scheme', by simp [schemeTail_eq_some tail]⟩
    · by_cases colon : c = ':' <;> simp [getScheme, alpha, colon] at split
      exact .inl split.2.symm

/-! ## Text appended inside the path -/

def Url.extend (n : List Char) (url : Url) : Url :=
  if url.rootless = [] then { url with path := url.path ++ utf8 n } else { url with rootless := url.rootless ++ n }

@[simp] theorem Url.extend_host (n : List Char) (url : Url) : (url.extend n).host = url.host := by
  unfold Url.extend
  split <;> rfl

theorem Url.extend_of_rootless {url : Url} (rootless : url.rootless = []) (n : List Char) :
    url.extend n = { url with path := url.path ++ utf8 n } := if_pos rootless

theorem splitAuthority_append {s : List Char} (slash : '/' ∈ s) (y : List Char) :
    splitAuthority (s ++ y) = ((splitAuthority s).1, (splitAuthority s).2 ++ y) ∧
      ∃ authority, s = authority ++ (splitAuthority s).2 ∧ (splitAuthority s).2 ≠ [] := by
  obtain ⟨before, after, split, parts, split'⟩ := splitFirst_append_of_mem slash y
  simp only [splitAuthority, split, split']
  exact ⟨rfl, before, parts, List.cons_ne_nil _ _⟩

theorem parseRest_append_unreserved (scheme : List Char) {rest : List Char} (slash : '/' ∈ rest.drop 2)
    (clear : EndsClear rest) {n : List Char} (plain : ∀ c ∈ n, unreserved c) (rawQuery : List Char) :
    (parseRest scheme (rest ++ n) rawQuery).toOption =
      (parseRest scheme rest rawQuery).toOption.map (Url.extend n) := by
  match rest, slash with
  | c₁ :: c₂ :: c₃ :: rest', slash =>
  replace slash : '/' ∈ c₃ :: rest' := slash
  have segment : (cut '/' (c₁ :: c₂ :: c₃ :: rest' ++ n)).1 = (cut '/' (c₁ :: c₂ :: c₃ :: rest')).1 := by
    obtain ⟨_, _, split, -, split'⟩ :=
      splitFirst_append_of_mem (show '/' ∈ c₁ :: c₂ :: c₃ :: rest' by simp_all) n
    simp only [cut]
    rw [split, split']
    rfl
  have twoSlashes : ['/', '/'].isPrefixOf (c₁ :: c₂ :: c₃ :: rest' ++ n) =
      ['/', '/'].isPrefixOf (c₁ :: c₂ :: c₃ :: rest') := rfl
  have threeSlashes : ['/', '/', '/'].isPrefixOf (c₁ :: c₂ :: c₃ :: rest' ++ n) =
      ['/', '/', '/'].isPrefixOf (c₁ :: c₂ :: c₃ :: rest') := by
    simp [List.isPrefixOf]
  obtain ⟨authority, authorityPath, pathNonempty⟩ := (splitAuthority_append slash n).2
  unfold parseRest
  rw [segment, twoSlashes, threeSlashes]
  simp only [List.cons_append, List.head?_cons, List.drop_succ_cons, List.drop_zero]
  rw [← List.cons_append, (splitAuthority_append slash n).1]
  split_ifs
  · simp [Except.toOption, Url.extend]
  · rfl
  · rw [toOption_bind, toOption_bind]
    rcases parseAuthority (splitAuthority (c₃ :: rest')).1 with err | host
    · rfl
    · have clearPath : EndsClear (splitAuthority (c₃ :: rest')).2 := by
        rw [show c₁ :: c₂ :: c₃ :: rest' = c₁ :: c₂ :: authority ++ (splitAuthority (c₃ :: rest')).2 by
          rw [List.cons_append, List.cons_append, ← authorityPath]] at clear
        exact EndsClear.of_append clear
      simp only [toOption_ok, Option.some_bind]
      rw [toOption_map, toOption_map, unescape_append_unreserved .encodePath plain _ clearPath, Option.map_map,
        Option.map_map]
      rfl
  · rw [← List.cons_append, ← List.cons_append, toOption_map, toOption_map,
      unescape_append_unreserved .encodePath plain _ clear, Option.map_map, Option.map_map]
    rfl

/-- A URL's text up to a point inside its path: a `/` closes a non-empty segment after the
authority (as in `…/api/dashboards/…`), no `?` comes before, and the last character cannot start an
escape. -/
structure PathPrefix (b : List Char) : Prop where
  segment : ∃ e x y, b = e ++ '/' :: (x ++ '/' :: y) ∧ x ≠ []
  noQuery : '?' ∉ b
  clear : EndsClear b

theorem getScheme_rest_of_slash {e scheme rest : List Char} (split : getScheme (e ++ ['/']) = .ok (scheme, rest)) :
    rest ≠ [] ∧ rest <:+ e ++ ['/'] := by
  rcases getScheme_rest split with same | ⟨p, parts⟩
  · exact ⟨same ▸ by simp, same ▸ List.suffix_refl _⟩
  · refine ⟨fun empty => ?_, ⟨p ++ [':'], by simp [parts]⟩⟩
    have lasts := congrArg List.getLast? parts
    simp [empty] at lasts

theorem parse_append_unreserved {b : List Char} (base : PathPrefix b) {n : List Char}
    (plain : ∀ c ∈ n, unreserved c) (rawQuery : List Char) :
    (parse (b ++ n ++ '?' :: rawQuery)).toOption = (parse (b ++ '?' :: rawQuery)).toOption.map (Url.extend n) := by
  obtain ⟨⟨e, x, y, rfl, nonempty⟩, noQuery, clear⟩ := base
  have quiet : n.any isCTL = false := List.any_eq_false.mpr fun c member => by
    simp [unreserved_not_ctl (plain c member)]
  have ctl : (e ++ '/' :: (x ++ '/' :: y) ++ n ++ '?' :: rawQuery).any isCTL =
      (e ++ '/' :: (x ++ '/' :: y) ++ '?' :: rawQuery).any isCTL := by
    simp only [List.any_append, quiet, Bool.or_false]
  have notStar : ∀ l : List Char, l ++ '?' :: rawQuery ≠ ['*'] := fun l same => by
    have := congrArg (fun l => '?' ∈ l) same
    simp at this
  have stops : ∃ c ∈ e ++ ['/'], isSchemeChar c = false := ⟨'/', by simp, by decide⟩
  have scheme : ∀ t, getScheme (e ++ '/' :: (x ++ '/' :: y) ++ t) =
      (getScheme (e ++ ['/'])).map fun (scheme, after) => (scheme, after ++ (x ++ '/' :: y ++ t)) := fun t => by
    rw [← getScheme_append stops]
    simp
  unfold parse
  rw [ctl, if_neg (notStar _), if_neg (notStar _), List.append_assoc _ n, scheme, scheme]
  split
  · rfl
  rcases scheme : getScheme (e ++ ['/']) with err | ⟨s, r⟩
  · rfl
  obtain ⟨restNonempty, suffix⟩ := getScheme_rest_of_slash scheme
  have restPlain : '?' ∉ r := fun member => by
    have : '?' ∈ e := by simpa using suffix.subset member
    exact noQuery (by simp [this])
  have namePlain : '?' ∉ n := fun member => absurd (plain '?' member) (by decide)
  simp only [Except.map, Except.bind]
  rw [show r ++ (x ++ '/' :: y ++ (n ++ '?' :: rawQuery)) = (r ++ (x ++ '/' :: y) ++ n) ++ '?' :: rawQuery by simp,
    show r ++ (x ++ '/' :: y ++ '?' :: rawQuery) = (r ++ (x ++ '/' :: y)) ++ '?' :: rawQuery by simp,
    cut_append_cons (by simp_all), cut_append_cons (by simp_all)]
  refine parseRest_append_unreserved _ ?_ ?_ plain rawQuery
  · have long : 2 ≤ (r ++ x).length := by
      have := List.length_pos.mpr restNonempty
      have := List.length_pos.mpr nonempty
      simp only [List.length_append]
      omega
    rw [← List.append_assoc, List.drop_append_of_le_length long]
    simp
  · exact EndsClear.append (EndsClear.of_append (s := e ++ ['/']) (by simpa using clear)) (by simp)

theorem unescape_of_no_escape {mode : Encoding} (anywhere : mode.hostLike = false) :
    ∀ {t : List Char}, '%' ∉ t → unescape mode t = .ok (utf8 t)
  | [], _ => rfl
  | c :: t, noEscape => by
    rw [List.mem_cons, not_or] at noEscape
    rw [unescape_cons_of_ne mode (Ne.symm noEscape.1), anywhere, Bool.false_and, Bool.false_and,
      if_neg Bool.false_ne_true, unescape_of_no_escape anywhere noEscape.2]
    rfl

theorem parseRest_rootless {scheme rest rawQuery : List Char} {url : Url}
    (parsed : parseRest scheme rest rawQuery = .ok url) : url.rootless = [] ∨ url.host = [] := by
  unfold parseRest at parsed
  split_ifs at parsed
  · cases parsed
    exact .inr rfl
  all_goals simp only [Except.bind, Except.map] at parsed
  · split at parsed <;> [cases parsed; split at parsed] <;> cases parsed
    exact .inl rfl
  · split at parsed <;> cases parsed
    exact .inl rfl

theorem parse_rootless {rawURL : List Char} {url : Url} (parsed : parse rawURL = .ok url) :
    url.rootless = [] ∨ url.host = [] := by
  unfold parse at parsed
  split_ifs at parsed
  · cases parsed
    exact .inl rfl
  · simp only [Except.bind] at parsed
    split at parsed
    · cases parsed
    · exact parseRest_rootless parsed

/-! ## `url.Parse` and `http.NewRequest` -/

theorem Parse_toOption {rawURL : String} (noFragment : '#' ∉ rawURL.toList) :
    (Parse rawURL).toOption = (parse rawURL.toList).toOption := by
  unfold Parse
  rw [cut_of_not_mem noFragment]
  cases parse rawURL.toList <;> rfl

theorem Parse_append_fragment {p t : List Char} (noFragment : '#' ∉ p) (noEscape : '%' ∉ t) :
    Parse (String.mk (p ++ '#' :: t)) = Parse (String.mk p) := by
  unfold Parse
  simp only [String.toList, cut_append_cons noFragment, cut_of_not_mem noFragment,
    unescape_of_no_escape (show Encoding.encodeFragment.hostLike = false from rfl) noEscape]
  split <;> simp

end Dash0Operator.NetUrl
