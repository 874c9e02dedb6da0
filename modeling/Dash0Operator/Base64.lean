import Mathlib.Data.List.Basic

/-! Go's `base64.StdEncoding`, through which the offsets archive travels: `EncodeToString` in
`doSynchOffsets`, and the decoding with which the API server and `encoding/json` turn a ConfigMap's
`binaryData` value back into bytes. Only padded input of whole four-character groups is accepted;
the line breaks the Go decoder skips are not modelled. -/

namespace Dash0Operator.Base64

def alphabet : List Char := "ABCDEFGHIJKLMNOPQRSTUVWXYZabcdefghijklmnopqrstuvwxyz0123456789+/".toList

def sextet (n : Nat) : Char := alphabet.getD n '='

def decodeChar (c : Char) : Option Nat := alphabet.indexOf? c

/-- `StdEncoding.EncodeToString`: three bytes to four characters, the last group padded with `=`. -/
def encode : List UInt8 → List Char
  | [] => []
  | [a] => [sextet (a.toNat / 4), sextet (a.toNat % 4 * 16), '=', '=']
  | [a, b] =>
    [sextet (a.toNat / 4), sextet (a.toNat % 4 * 16 + b.toNat / 16), sextet (b.toNat % 16 * 4), '=']
  | a :: b :: c :: rest =>
    sextet (a.toNat / 4) :: sextet (a.toNat % 4 * 16 + b.toNat / 16) ::
      sextet (b.toNat % 16 * 4 + c.toNat / 64) :: sextet (c.toNat % 64) :: encode rest

/-- `StdEncoding.DecodeString`: four characters to three bytes, fewer in a padded last group. -/
def decode : List Char → Option (List UInt8)
  | [] => some []
  | c0 :: c1 :: c2 :: c3 :: rest => do
    let x0 ← decodeChar c0
    let x1 ← decodeChar c1
    if c3 = '=' ∧ rest = [] then
      if c2 = '=' then pure [UInt8.ofNat (x0 * 4 + x1 / 16)]
      else do
        let x2 ← decodeChar c2
        pure [UInt8.ofNat (x0 * 4 + x1 / 16), UInt8.ofNat (x1 % 16 * 16 + x2 / 4)]
    else do
      let x2 ← decodeChar c2
      let x3 ← decodeChar c3
      let tail ← decode rest
      pure (UInt8.ofNat (x0 * 4 + x1 / 16) :: UInt8.ofNat (x1 % 16 * 16 + x2 / 4) ::
        UInt8.ofNat (x2 % 4 * 64 + x3) :: tail)
  | _ => none

def encodeToString (bytes : List UInt8) : String := String.mk (encode bytes)

theorem decodeChar_sextet_fin : ∀ n : Fin 64, decodeChar (sextet n) = some n := by decide

theorem sextet_ne_pad_fin : ∀ n : Fin 64, sextet n ≠ '=' := by decide

theorem decodeChar_sextet {n : Nat} (small : n < 64) : decodeChar (sextet n) = some n :=
  decodeChar_sextet_fin ⟨n, small⟩

theorem sextet_ne_pad {n : Nat} (small : n < 64) : sextet n ≠ '=' := sextet_ne_pad_fin ⟨n, small⟩

theorem byte_eq {b : UInt8} {n : Nat} (same : n = b.toNat) : UInt8.ofNat n = b :=
  same ▸ UInt8.eq_of_val_eq (Fin.ext (UInt8.toNat_ofNat_of_lt b.toNat_lt_size))

theorem toNat_lt (b : UInt8) : b.toNat < 256 := b.toNat_lt_size

theorem decode_encode (bytes : List UInt8) : decode (encode bytes) = some bytes := by
  induction bytes using encode.induct with
  | case1 => rfl
  | case2 a =>
    have := toNat_lt a
    simp (disch := omega) only [encode, decode, decodeChar_sextet]
    simp
    exact byte_eq (by omega)
  | case3 a b =>
    have := toNat_lt a
    have := toNat_lt b
    simp (disch := omega) only [encode, decode, decodeChar_sextet, sextet_ne_pad]
    simp
    exact ⟨byte_eq (by omega), byte_eq (by omega)⟩
  | case4 a b c rest ih =>
    have := toNat_lt a
    have := toNat_lt b
    have := toNat_lt c
    simp (disch := omega) only [encode, decode, decodeChar_sextet, sextet_ne_pad, ih]
    simp
    exact ⟨byte_eq (by omega), byte_eq (by omega), byte_eq (by omega)⟩

theorem decode_encodeToString (bytes : List UInt8) : decode (encodeToString bytes).toList = some bytes :=
  decode_encode bytes

theorem encode_ne_nil {bytes : List UInt8} (nonempty : bytes ≠ []) : encode bytes ≠ [] := by
  match bytes, nonempty with
  | [_], _ | [_, _], _ | _ :: _ :: _ :: _, _ => simp [encode]

theorem encodeToString_ne_empty {bytes : List UInt8} (nonempty : bytes ≠ []) : encodeToString bytes ≠ "" :=
  fun empty => encode_ne_nil nonempty (congrArg String.data empty)

example : encodeToString [77, 97, 110, 121] = "TWFueQ==" := by decide

end Dash0Operator.Base64
