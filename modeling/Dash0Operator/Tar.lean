import Dash0Operator.Basic

/-! The `archive/tar` and `compress/gzip` packages as the offsets binary uses them. A tar entry
names its path as a list of names; `ArchiveFormat` is a tar writer over a gzip writer together
with the matching readers, and carries the law that reading what was written yields the entries
back. `listFormat` is one lawful format, a length-tagged serialisation, so that runs of the binary
can be evaluated. -/

namespace Dash0Operator.Tar

abbrev Path := List String

/-- The path as `filepath.ToSlash` renders it in messages. -/
def render (path : Path) : String := String.join (path.map ("/" ++ ·))

inductive Typeflag where
  | typeReg
  | typeDir
  | other (flag : UInt8)
  deriving DecidableEq, Repr

structure Header where
  name : Path
  typeflag : Typeflag
  size : Nat
  deriving DecidableEq, Repr

structure TarEntry where
  header : Header
  contents : List UInt8
  deriving DecidableEq, Repr

def TarEntry.isFile (entry : TarEntry) : Bool := entry.header.typeflag == .typeReg

/-- What `tr.Next` yields, with what `io.Copy` then reads of the entry: its bytes up to the first
read error, and that error. -/
structure ArchiveItem where
  header : Header
  data : List UInt8
  readError : Option String
  deriving DecidableEq, Repr

def TarEntry.item (entry : TarEntry) : ArchiveItem := ⟨entry.header, entry.contents, none⟩

/-- A tar writer over a gzip writer, and a tar reader over a gzip reader. `read` fails as
`gzip.NewReader` does, or yields the items and then `io.EOF` (`none`) or the error of `Next`. -/
structure ArchiveFormat where
  write : List TarEntry → List UInt8
  read : List UInt8 → Except String (List ArchiveItem × Option String)
  read_write : ∀ entries, read (write entries) = .ok (entries.map TarEntry.item, none)

/-! ## A lawful format -/

/-- A byte encoding whose decoder reads an encoded value back from the front of any input. -/
structure Codec (α : Type) where
  encode : α → List UInt8
  decode : List UInt8 → Option (α × List UInt8)
  decode_encode : ∀ x rest, decode (encode x ++ rest) = some (x, rest)

namespace Codec

variable {α β : Type}

def byte : Codec UInt8 where
  encode b := [b]
  decode
    | b :: rest => some (b, rest)
    | [] => none
  decode_encode _ _ := rfl

def pair (first : Codec α) (second : Codec β) : Codec (α × β) where
  encode x := first.encode x.1 ++ second.encode x.2
  decode input := do
    let (a, input) ← first.decode input
    let (b, input) ← second.decode input
    pure ((a, b), input)
  decode_encode x rest := by simp [List.append_assoc, first.decode_encode, second.decode_encode]

def map (codec : Codec α) (f : α → β) (g : β → α) (inverse : ∀ b, f (g b) = b) : Codec β where
  encode b := codec.encode (g b)
  decode input := (codec.decode input).map fun (a, rest) => (f a, rest)
  decode_encode b rest := by simp [codec.decode_encode, inverse]

/-- Each element is announced by a `1`; a `0` ends the list. -/
def encodeList (encode : α → List UInt8) : List α → List UInt8
  | [] => [0]
  | x :: xs => 1 :: (encode x ++ encodeList encode xs)

def decodeList (decode : List UInt8 → Option (α × List UInt8)) :
    Nat → List UInt8 → Option (List α × List UInt8)
  | 0, _ => none
  | _ + 1, [] => none
  | fuel + 1, tag :: input =>
    if tag = 0 then some ([], input)
    else do
      let (x, input) ← decode input
      let (xs, input) ← decodeList decode fuel input
      pure (x :: xs, input)

theorem length_lt_encodeList (encode : α → List UInt8) (xs : List α) :
    xs.length < (encodeList encode xs).length := by
  induction xs with
  | nil => simp [encodeList]
  | cons x xs ih => simp only [encodeList, List.length_cons, List.length_append]; omega

theorem decodeList_encodeList (codec : Codec α) (xs : List α) (rest : List UInt8) :
    ∀ fuel, xs.length < fuel → decodeList codec.decode fuel (encodeList codec.encode xs ++ rest) = some (xs, rest) := by
  induction xs with
  | nil => rintro (_ | fuel) enough <;> simp_all [encodeList, decodeList]
  | cons x xs ih =>
    rintro (_ | fuel) enough
    · simp at enough
    · simp [encodeList, decodeList, codec.decode_encode, ih fuel (by simpa using enough)]

def list (codec : Codec α) : Codec (List α) where
  encode := encodeList codec.encode
  decode input := decodeList codec.decode (input.length + 1) input
  decode_encode xs rest := decodeList_encodeList codec xs rest _ (by
    have shorter := length_lt_encodeList codec.encode xs
    simp only [List.length_append]
    omega)

def nat : Codec Nat := (list (map byte (fun _ => ()) (fun _ => 0) fun _ => rfl)).map
  List.length (fun n => List.replicate n ()) fun n => List.length_replicate n ()

theorem char_lt (c : Char) : c.toNat < 0x110000 := by
  have valid := c.valid
  simp only [UInt32.isValidChar, Nat.isValidChar] at valid
  simp only [Char.toNat]
  omega

def char : Codec Char where
  encode c := [UInt8.ofNat (c.toNat / 65536), UInt8.ofNat (c.toNat / 256 % 256), UInt8.ofNat (c.toNat % 256)]
  decode
    | a :: b :: d :: rest => some (Char.ofNat (a.toNat * 65536 + b.toNat * 256 + d.toNat), rest)
    | _ => none
  decode_encode c rest := by
    have small := char_lt c
    simp only [List.cons_append, List.nil_append, Option.some.injEq, Prod.mk.injEq, and_true]
    rw [UInt8.toNat_ofNat_of_lt (by unfold UInt8.size; omega),
      UInt8.toNat_ofNat_of_lt (by unfold UInt8.size; omega),
      UInt8.toNat_ofNat_of_lt (by unfold UInt8.size; omega)]
    conv => rhs; rw [← Char.ofNat_toNat c]
    congr 1
    omega

def string : Codec String := (list char).map String.mk String.data fun _ => rfl

def typeflag : Codec Typeflag where
  encode
    | .typeReg => [0]
    | .typeDir => [1]
    | .other flag => [2, flag]
  decode
    | 0 :: rest => some (.typeReg, rest)
    | 1 :: rest => some (.typeDir, rest)
    | 2 :: flag :: rest => some (.other flag, rest)
    | _ => none
  decode_encode flag _ := by cases flag <;> rfl

def header : Codec Header :=
  (pair (list string) (pair typeflag nat)).map (fun x => ⟨x.1, x.2.1, x.2.2⟩)
    (fun h => (h.name, h.typeflag, h.size)) fun _ => rfl

def entry : Codec TarEntry :=
  (pair header (list byte)).map (fun x => ⟨x.1, x.2⟩) (fun e => (e.header, e.contents)) fun _ => rfl

end Codec

/-- The entries in the length-tagged encoding of `Codec.entry`, read back in full. -/
def listFormat : ArchiveFormat where
  write := (Codec.list Codec.entry).encode
  read bytes :=
    match (Codec.list Codec.entry).decode bytes with
    | some (entries, []) => .ok (entries.map TarEntry.item, none)
    | _ => .error "gzip: invalid header"
  read_write entries := by
    have decoded := (Codec.list Codec.entry).decode_encode entries []
    rw [List.append_nil] at decoded
    simp only [decoded]

end Dash0Operator.Tar
