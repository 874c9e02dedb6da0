import Dash0Operator.Base64

/-! `urlEncodePathSegment` (`third_party_crd_common.go`) and what it calls of Go's standard
library: `strings.ReplaceAll`, and `url.PathEscape` with its reader `url.PathUnescape`. A Go string
is a sequence of bytes; `net/url` is modelled in the `encodePathSegment` mode these two use. The
main theorem says that an encoded name is one path segment, even for a reader that decodes `%2F`,
and that unescaping gives the name back with `/` replaced by `|`. -/

namespace Dash0Operator.PathSegment

def ascii (c : Char) : UInt8 := c.toNat.toUInt8

def slash : UInt8 := ascii '/'

def pipe : UInt8 := ascii '|'

def percent : UInt8 := ascii '%'

/-- `strings.ReplaceAll(s, old, new)` for a one-byte `old` and `new`: every occurrence of the byte
is replaced. -/
def replaceAll (s : List UInt8) (old new : UInt8) : List UInt8 :=
  s.map fun c => if c = old then new else c

/-- `shouldEscape(c, encodePathSegment)`: unreserved bytes stay, of the reserved ones only
`/ ; , ?` are escaped, and every other byte is. -/
def shouldEscape (c : UInt8) : Bool :=
  if (ascii 'a' ≤ c ∧ c ≤ ascii 'z') ∨ (ascii 'A' ≤ c ∧ c ≤ ascii 'Z') ∨ (ascii '0' ≤ c ∧ c ≤ ascii '9') then
    false
  else if c ∈ ['-', '_', '.', '~'].map ascii then false
  else if c ∈ ['$', '&', '+', ',', '/', ':', ';', '=', '?', '@'].map ascii then
    c ∈ ['/', ';', ',', '?'].map ascii
  else true

def upperhex : List UInt8 := "0123456789ABCDEF".toList.map ascii

/-- The bytes `escape` writes for `c`: `%` and the hex digits of `c>>4` and `c&15`, or `c`. -/
def escapeByte (c : UInt8) : List UInt8 :=
  if shouldEscape c then [percent, upperhex.getD (c.toNat >>> 4) 0, upperhex.getD (c.toNat &&& 15) 0]
  else [c]

/-- `url.PathEscape`: the string itself when no byte needs escaping. -/
def pathEscape (s : List UInt8) : List UInt8 :=
  if s.all fun c => !shouldEscape c then s else s.flatMap escapeByte

def urlEncodePathSegment (s : List UInt8) : List UInt8 :=
  pathEscape (replaceAll s slash pipe)

def ishex (c : UInt8) : Bool :=
  (ascii '0' ≤ c ∧ c ≤ ascii '9') ∨ (ascii 'a' ≤ c ∧ c ≤ ascii 'f') ∨ (ascii 'A' ≤ c ∧ c ≤ ascii 'F')

def unhex (c : UInt8) : UInt8 :=
  if ascii '0' ≤ c ∧ c ≤ ascii '9' then c - ascii '0'
  else if ascii 'a' ≤ c ∧ c ≤ ascii 'f' then c - ascii 'a' + 10
  else if ascii 'A' ≤ c ∧ c ≤ ascii 'F' then c - ascii 'A' + 10
  else 0

/-- `url.EscapeError`: the malformed escape, at most three bytes from its `%`. -/
structure EscapeError where
  bytes : List UInt8
  deriving DecidableEq, Repr

/-- The first loop of `unescape`: the number of `%` escapes, or the error of the first one not
followed by two hex digits. In a path segment `+` is an ordinary byte. -/
def countEscapes : List UInt8 → Except EscapeError Nat
  | [] => .ok 0
  | c :: rest =>
    if c = percent then
      match rest with
      | h1 :: h2 :: more =>
        if ishex h1 && ishex h2 then (· + 1) <$> countEscapes more else .error ⟨[c, h1, h2]⟩
      | _ => .error ⟨c :: rest⟩
    else countEscapes rest

/-- The second loop of `unescape`: each escape becomes the byte `unhex(h1)<<4 | unhex(h2)`; the
first loop has made sure every `%` has two bytes after it. -/
def unescapeBytes : List UInt8 → List UInt8
  | [] => []
  | c :: h1 :: h2 :: more =>
    if c = percent then (unhex h1 <<< 4 ||| unhex h2) :: unescapeBytes more
    else c :: unescapeBytes (h1 :: h2 :: more)
  | c :: rest => c :: unescapeBytes rest

/-- `url.PathUnescape`: the string itself when it holds no escape. -/
def pathUnescape (s : List UInt8) : Except EscapeError (List UInt8) :=
  match countEscapes s with
  | .error err => .error err
  | .ok n => if n = 0 then .ok s else .ok (unescapeBytes s)

/-! ## One byte -/

theorem shouldEscape_percent : shouldEscape percent = true := by decide

theorem shouldEscape_slash : shouldEscape slash = true := by decide

theorem hexDigit_fin : ∀ n : Fin 16, ishex (upperhex.getD n 0) = true ∧ upperhex.getD n 0 ≠ percent ∧
    upperhex.getD n 0 ≠ slash ∧ unhex (upperhex.getD n 0) = UInt8.ofNat n := by
  decide

theorem halves_fin : ∀ d e : Fin 16, (UInt8.ofNat d <<< 4 ||| UInt8.ofNat e) = UInt8.ofNat (d * 16 + e) := by
  decide

theorem hexDigit_spec {n : Nat} (small : n < 16) : ishex (upperhex.getD n 0) = true ∧
    upperhex.getD n 0 ≠ percent ∧ upperhex.getD n 0 ≠ slash ∧ unhex (upperhex.getD n 0) = UInt8.ofNat n :=
  hexDigit_fin ⟨n, small⟩

theorem halves_lt (c : UInt8) : c.toNat / 16 < 16 ∧ c.toNat % 16 < 16 := by
  have small : c.toNat < 256 := c.toNat_lt_size
  omega

theorem escapeByte_of_escaped {c : UInt8} (escaped : shouldEscape c = true) :
    escapeByte c = [percent, upperhex.getD (c.toNat / 16) 0, upperhex.getD (c.toNat % 16) 0] := by
  have high : c.toNat >>> 4 = c.toNat / 16 := Nat.shiftRight_eq_div_pow c.toNat 4
  have low : c.toNat &&& 15 = c.toNat % 16 := Nat.and_pow_two_sub_one_eq_mod c.toNat 4
  rw [escapeByte, if_pos escaped, high, low]

theorem escapeByte_of_plain {c : UInt8} (plain : shouldEscape c = false) : escapeByte c = [c] := by
  rw [escapeByte, if_neg (by simp [plain])]

theorem ne_of_plain {c d : UInt8} (plain : shouldEscape c = false) (escaped : shouldEscape d = true) :
    c ≠ d :=
  fun same => Bool.false_ne_true (plain.symm.trans (same ▸ escaped))

theorem unhex_halves (c : UInt8) :
    (unhex (upperhex.getD (c.toNat / 16) 0) <<< 4 ||| unhex (upperhex.getD (c.toNat % 16) 0)) = c := by
  obtain ⟨high, low⟩ := halves_lt c
  rw [(hexDigit_spec high).2.2.2, (hexDigit_spec low).2.2.2, halves_fin ⟨_, high⟩ ⟨_, low⟩]
  exact Base64.byte_eq (by simp only; omega)

theorem unescapeBytes_cons_of_ne {c : UInt8} (other : c ≠ percent) (rest : List UInt8) :
    unescapeBytes (c :: rest) = c :: unescapeBytes rest := by
  match rest with
  | [] | [_] => rfl
  | _ :: _ :: _ => rw [unescapeBytes, if_neg other]

theorem countEscapes_cons_of_ne {c : UInt8} (other : c ≠ percent) (rest : List UInt8) :
    countEscapes (c :: rest) = countEscapes rest := by
  rw [countEscapes.eq_def]
  dsimp only
  rw [if_neg other]

/-! ## Whole strings -/

theorem flatMap_escapeByte_of_plain {s : List UInt8} (plain : ∀ c ∈ s, shouldEscape c = false) :
    s.flatMap escapeByte = s := by
  induction s with
  | nil => rfl
  | cons c s ih =>
    rw [List.flatMap_cons, escapeByte_of_plain (plain c (List.mem_cons_self _ _)),
      ih fun other member => plain other (List.mem_cons_of_mem _ member)]
    rfl

theorem pathEscape_eq (s : List UInt8) : pathEscape s = s.flatMap escapeByte := by
  unfold pathEscape
  split
  · rename_i plain
    exact (flatMap_escapeByte_of_plain fun c member => by simpa using List.all_eq_true.mp plain c member).symm
  · rfl

theorem countEscapes_flatMap (s : List UInt8) :
    countEscapes (s.flatMap escapeByte) = .ok (s.countP shouldEscape) := by
  induction s with
  | nil => rfl
  | cons c s ih =>
    rw [List.flatMap_cons]
    cases escaped : shouldEscape c
    · rw [escapeByte_of_plain escaped, List.singleton_append,
        countEscapes_cons_of_ne (ne_of_plain escaped shouldEscape_percent), ih]
      simp [escaped]
    · rw [escapeByte_of_escaped escaped]
      show countEscapes (percent :: _ :: _ :: s.flatMap escapeByte) = _
      rw [countEscapes, if_pos rfl]
      simp only [(hexDigit_spec (halves_lt c).1).1, (hexDigit_spec (halves_lt c).2).1, Bool.and_self,
        if_true, ih]
      simp [escaped, Functor.map, Except.map]

theorem unescapeBytes_flatMap (s : List UInt8) : unescapeBytes (s.flatMap escapeByte) = s := by
  induction s with
  | nil => rfl
  | cons c s ih =>
    rw [List.flatMap_cons]
    cases escaped : shouldEscape c
    · rw [escapeByte_of_plain escaped, List.singleton_append,
        unescapeBytes_cons_of_ne (ne_of_plain escaped shouldEscape_percent), ih]
    · rw [escapeByte_of_escaped escaped]
      show unescapeBytes (percent :: _ :: _ :: s.flatMap escapeByte) = _
      rw [unescapeBytes, if_pos rfl, unhex_halves, ih]

theorem pathUnescape_pathEscape (s : List UInt8) : pathUnescape (pathEscape s) = .ok s := by
  rw [pathEscape_eq, pathUnescape, countEscapes_flatMap]
  dsimp only
  split_ifs with none
  · rw [flatMap_escapeByte_of_plain fun c member => by simpa using List.countP_eq_zero.mp none c member]
  · rw [unescapeBytes_flatMap]

/-! ## One path segment -/

theorem slash_not_mem_escapeByte (c : UInt8) : slash ∉ escapeByte c := by
  cases escaped : shouldEscape c
  · rw [escapeByte_of_plain escaped, List.mem_singleton]
    exact fun same => ne_of_plain escaped shouldEscape_slash same.symm
  · rw [escapeByte_of_escaped escaped]
    simp only [List.mem_cons, List.not_mem_nil, or_false, not_or]
    exact ⟨by decide, (hexDigit_spec (halves_lt c).1).2.2.1.symm, (hexDigit_spec (halves_lt c).2).2.2.1.symm⟩

theorem slash_not_mem_pathEscape (s : List UInt8) : slash ∉ pathEscape s := by
  rw [pathEscape_eq, List.mem_flatMap]
  rintro ⟨c, -, member⟩
  exact slash_not_mem_escapeByte c member

theorem mem_of_escape_infix {a b : UInt8} {t : List UInt8}
    (escape : [percent, a, b] <:+: t.flatMap escapeByte) : (unhex a <<< 4 ||| unhex b) ∈ t := by
  induction t with
  | nil => cases List.infix_nil.mp escape
  | cons c t ih =>
    rw [List.flatMap_cons] at escape
    cases escaped : shouldEscape c
    · rw [escapeByte_of_plain escaped, List.singleton_append, List.infix_cons_iff] at escape
      rcases escape with first | later
      · exact absurd (List.cons_prefix_cons.mp first).1.symm (ne_of_plain escaped shouldEscape_percent)
      · exact List.mem_cons_of_mem c (ih later)
    · have high := hexDigit_spec (halves_lt c).1
      have low := hexDigit_spec (halves_lt c).2
      rw [escapeByte_of_escaped escaped] at escape
      change [percent, a, b] <:+: percent :: _ :: _ :: t.flatMap escapeByte at escape
      simp only [List.infix_cons_iff, List.cons_prefix_cons] at escape
      rcases escape with ⟨-, rfl, rfl, -⟩ | ⟨first, -⟩ | ⟨first, -⟩ | later
      · rw [unhex_halves]
        exact List.mem_cons_self c t
      · exact absurd first.symm high.2.1
      · exact absurd first.symm low.2.1
      · exact List.mem_cons_of_mem c (ih later)

theorem slash_not_mem_replaceAll (s : List UInt8) : slash ∉ replaceAll s slash pipe := by
  simp only [replaceAll, List.mem_map, not_exists, not_and]
  intro c _
  split_ifs with same
  · decide
  · exact same

theorem pathEscape_injective : Function.Injective pathEscape := fun s t same => by
  have back := pathUnescape_pathEscape t
  rw [← same, pathUnescape_pathEscape] at back
  exact Except.ok.inj back

/-- An encoded name is exactly one path segment, even for a reader that decodes `%2F`: it holds
no `/` and no escape that decodes to one, it unescapes to the name with every `/` replaced by
`|`, and two names share an encoding exactly when they agree after that replacement. -/
theorem urlEncodePathSegment_fills_one_segment (s : List UInt8) :
    slash ∉ urlEncodePathSegment s ∧
    ¬ [percent, ascii '2', ascii 'F'] <:+: urlEncodePathSegment s ∧
    (∀ a b, [percent, a, b] <:+: urlEncodePathSegment s → (unhex a <<< 4 ||| unhex b) ≠ slash) ∧
    pathUnescape (urlEncodePathSegment s) = .ok (replaceAll s slash pipe) ∧
    ∀ t, urlEncodePathSegment s = urlEncodePathSegment t ↔
      replaceAll s slash pipe = replaceAll t slash pipe := by
  have decodesOther : ∀ a b, [percent, a, b] <:+: urlEncodePathSegment s →
      (unhex a <<< 4 ||| unhex b) ≠ slash := by
    intro a b escape same
    rw [urlEncodePathSegment, pathEscape_eq] at escape
    have member := mem_of_escape_infix escape
    rw [same] at member
    exact slash_not_mem_replaceAll s member
  refine ⟨slash_not_mem_pathEscape _, fun escape => decodesOther _ _ escape (by decide), decodesOther,
    pathUnescape_pathEscape _, fun t => ⟨fun same => pathEscape_injective same, congrArg pathEscape⟩⟩

example : urlEncodePathSegment ("team/a|b".toList.map ascii) = "team%7Ca%7Cb".toList.map ascii := by
  decide

end Dash0Operator.PathSegment
