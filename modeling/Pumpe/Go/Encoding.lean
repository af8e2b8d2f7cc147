-- SUMMARY: Go strings as bytes, and the two encodings a WireGuard key passes through, base64.StdEncoding and encoding/hex, each with its round trip.
import Mathlib.Data.List.Basic

/-!
# Byte encodings

A Go string is the list of its bytes, and a literal is its UTF-8 encoding
(`utf8`). This module models the two encodings of the standard library that
`recodeBase64ToHex` and `recodeHexToBase64` pass a WireGuard key through:
`base64.StdEncoding` and `encoding/hex`, each with `EncodeToString` and
`DecodeString`. A decoder returns the bytes it wrote and the error it stopped
at, as `Decode` does. The errors are their Go values (the offset of a
`CorruptInputError`, the byte of an `InvalidByteError`, `ErrLength`); their
texts, which no caller here reads, are left out.

Each decoder reads its encoder's output back, whole and without error
(`Base64.decodeString_encodeToString`, `Hex.decodeString_encodeToString`).
-/

namespace Pumpe.Go

/-- The bytes of a Go string literal: its UTF-8 encoding. -/
def utf8 (s : String) : List UInt8 := s.toUTF8.data.toList

theorem uint8_ofNat_toNat (n : Nat) : (UInt8.ofNat n).toNat = n % 256 :=
  BitVec.toNat_ofNat n 8

theorem uint8_ofNat_eq {n : Nat} {a : UInt8} (h : n % 256 = a.toNat) : UInt8.ofNat n = a :=
  UInt8.toNat.inj (by rw [uint8_ofNat_toNat, h])

theorem uint8_toNat_lt (a : UInt8) : a.toNat < 256 := a.toNat_lt_size

-- ---------------------------------------------------------------------------
-- base64.StdEncoding
-- ---------------------------------------------------------------------------

namespace Base64

/-- The alphabet `encodeStd` of `StdEncoding`. -/
def encodeStd : List UInt8 :=
  utf8 "ABCDEFGHIJKLMNOPQRSTUVWXYZabcdefghijklmnopqrstuvwxyz0123456789+/"

/-- `enc.encode[i]`: the byte of a six-bit value. -/
def encodeChar (i : Nat) : UInt8 := encodeStd.getD i 0

/-- `enc.decodeMap`: the six-bit value of a byte of the alphabet; the map holds
    `0xFF`, here `none`, for every other byte. -/
def decodeMap (c : UInt8) : Option Nat := encodeStd.indexOf? c

/-- `Encode` with `StdPadding`: each three bytes become four bytes of the
    alphabet, and a last group of one or two bytes is padded with `=`. The
    source's `|` of bytes shifted apart is a sum here, and its mask `&0x3F` a
    remainder. -/
def encodeToString : List UInt8 → List UInt8
  | a :: b :: c :: rest =>
    let val := a.toNat <<< 16 + b.toNat <<< 8 + c.toNat
    encodeChar (val >>> 18 % 64) :: encodeChar (val >>> 12 % 64) ::
      encodeChar (val >>> 6 % 64) :: encodeChar (val % 64) :: encodeToString rest
  | [a, b] =>
    let val := a.toNat <<< 16 + b.toNat <<< 8
    [encodeChar (val >>> 18 % 64), encodeChar (val >>> 12 % 64), encodeChar (val >>> 6 % 64), 61]
  | [a] =>
    let val := a.toNat <<< 16
    [encodeChar (val >>> 18 % 64), encodeChar (val >>> 12 % 64), 61, 61]
  | [] => []

/-- The `\n` and `\r` that `decodeQuantum` skips, from index `si`: the index
    after them and the bytes from there. -/
def skipNewlines (si : Nat) : List UInt8 → Nat × List UInt8
  | c :: rest => if c = 10 ∨ c = 13 then skipNewlines (si + 1) rest else (si, c :: rest)
  | [] => (si, [])

/-- The end of `decodeQuantum`: `val` of the six-bit values `dbuf` read (missing
    ones are `0`, and the source's `|` is a sum), and its first `dlen - 1` bytes
    for the `dlen = dbuf.length` values read. -/
def assemble (dbuf : List Nat) : List UInt8 :=
  let val := dbuf.getD 0 0 <<< 18 + dbuf.getD 1 0 <<< 12 + dbuf.getD 2 0 <<< 6 + dbuf.getD 3 0
  ([val >>> 16, val >>> 8, val].map UInt8.ofNat).take (dbuf.length - 1)

/-- What `decodeQuantum` does at a padding byte `=`, with `si` past it: with two
    values read a second `=` must follow, with three the quantum ends, with
    fewer the padding is wrong. After it only newlines may follow; anything else
    is trailing garbage, reported after the quantum's bytes. -/
def padding (dbuf : List Nat) (si : Nat) (rest : List UInt8) : List UInt8 × Option Nat :=
  if dbuf.length = 2 then
    match skipNewlines si rest with
    | (si, []) => ([], some si)
    | (si, c :: rest) => if c ≠ 61 then ([], some (si - 1)) else final (si + 1) rest
  else if dbuf.length = 3 then final si rest
  else ([], some (si - 1))
where
  final (si : Nat) (rest : List UInt8) : List UInt8 × Option Nat :=
    match skipNewlines si rest with
    | (_, []) => (assemble dbuf, none)
    | (si, _ :: _) => (assemble dbuf, some si)

/-- `Decode`'s loop over quanta and `decodeQuantum`'s loop over bytes, as one
    loop over the bytes from index `si` with the values `dbuf` of the current
    quantum: the bytes written and the offset of the `CorruptInputError` it
    stops at. A quantum of four values hands over to the next with an empty
    `dbuf`; `Decode`'s fast paths over eight and four bytes write what the
    quanta write. -/
def decodeFrom (si : Nat) (dbuf : List Nat) : List UInt8 → List UInt8 × Option Nat
  | [] => if dbuf = [] then ([], none) else ([], some (si - dbuf.length))
  | c :: rest =>
    match decodeMap c with
    | some v =>
      if dbuf.length = 3 then
        let r := decodeFrom (si + 1) [] rest
        (assemble (dbuf ++ [v]) ++ r.1, r.2)
      else decodeFrom (si + 1) (dbuf ++ [v]) rest
    | none =>
      if c = 10 ∨ c = 13 then decodeFrom (si + 1) dbuf rest
      else if c ≠ 61 then ([], some si)
      else padding dbuf (si + 1) rest

/-- `StdEncoding.DecodeString`: the bytes decoded and the offset of the
    `CorruptInputError`, if any. -/
def decodeString (s : List UInt8) : List UInt8 × Option Nat := decodeFrom 0 [] s

@[simp] theorem decodeMap_encodeChar (n : Nat) : decodeMap (encodeChar (n % 64)) = some (n % 64) := by
  have hall : ∀ i : Fin 64, decodeMap (encodeChar i) = some i := by decide
  exact hall ⟨n % 64, Nat.mod_lt n (by decide)⟩

@[simp] theorem decodeMap_pad : decodeMap 61 = none := by decide

theorem decodeFrom_encodeToString (si : Nat) (k : List UInt8) :
    decodeFrom si [] (encodeToString k) = (k, none) := by
  induction k using encodeToString.induct generalizing si with
  | case1 a b c rest ih =>
    have := uint8_toNat_lt a; have := uint8_toNat_lt b; have := uint8_toNat_lt c
    simp [encodeToString, decodeFrom, ih, assemble]
    refine ⟨?_, ?_, ?_⟩ <;> apply uint8_ofNat_eq <;> omega
  | case2 a b =>
    have := uint8_toNat_lt a; have := uint8_toNat_lt b
    simp [encodeToString, decodeFrom, padding, padding.final, skipNewlines, assemble]
    refine ⟨?_, ?_⟩ <;> apply uint8_ofNat_eq <;> omega
  | case3 a =>
    have := uint8_toNat_lt a
    simp [encodeToString, decodeFrom, padding, padding.final, skipNewlines, assemble]
    exact uint8_ofNat_eq (by omega)
  | case4 => rfl

/-- `StdEncoding.DecodeString` reads back what `EncodeToString` wrote. -/
theorem decodeString_encodeToString (k : List UInt8) :
    decodeString (encodeToString k) = (k, none) :=
  decodeFrom_encodeToString 0 k

example : encodeToString (utf8 "Ma") = utf8 "TWE=" ∧ decodeString (utf8 "TWE=") = (utf8 "Ma", none) := by
  decide

end Base64

-- ---------------------------------------------------------------------------
-- encoding/hex
-- ---------------------------------------------------------------------------

namespace Hex

/-- `hextable`. -/
def hextable : List UInt8 := utf8 "0123456789abcdef"

/-- `hex.EncodeToString`: two digits of `hextable` per byte, `v >> 4` first. -/
def encodeToString : List UInt8 → List UInt8
  | [] => []
  | v :: src => hextable.getD (v.toNat / 16) 0 :: hextable.getD (v.toNat % 16) 0 :: encodeToString src

/-- `reverseHexTable`: the value of a hex digit of either case. The table holds
    `0xff`, here `none`, for every other byte. -/
def reverseHexTable (c : UInt8) : Option Nat :=
  if 48 ≤ c ∧ c ≤ 57 then some (c.toNat - 48)
  else if 97 ≤ c ∧ c ≤ 102 then some (c.toNat - 87)
  else if 65 ≤ c ∧ c ≤ 70 then some (c.toNat - 55)
  else none

/-- The errors of `hex.Decode`: `InvalidByteError` and `ErrLength`. -/
inductive Error
  | invalidByte (b : UInt8)
  | length
  deriving DecidableEq, Repr

/-- `hex.DecodeString`: `Decode`'s loop over the pairs `src[j-1], src[j]`, and its
    check of an odd last byte, which reports an invalid byte before the length. -/
def decodeString : List UInt8 → List UInt8 × Option Error
  | p :: q :: src =>
    match reverseHexTable p, reverseHexTable q with
    | none, _ => ([], some (.invalidByte p))
    | some _, none => ([], some (.invalidByte q))
    | some a, some b =>
      let r := decodeString src
      (UInt8.ofNat (a * 16 + b) :: r.1, r.2)
  | [p] => ([], some (if reverseHexTable p = none then .invalidByte p else .length))
  | [] => ([], none)

theorem hextable_getD_mem {i : Nat} (h : i < 16) : hextable.getD i 0 ∈ hextable := by
  have hall : ∀ i : Fin 16, hextable.getD i 0 ∈ hextable := by decide
  exact hall ⟨i, h⟩

theorem reverseHexTable_hextable {i : Nat} (h : i < 16) :
    reverseHexTable (hextable.getD i 0) = some i := by
  have hall : ∀ i : Fin 16, reverseHexTable (hextable.getD i 0) = some i := by decide
  exact hall ⟨i, h⟩

@[simp] theorem length_encodeToString (k : List UInt8) :
    (encodeToString k).length = 2 * k.length := by
  induction k with
  | nil => rfl
  | cons v k ih => simp only [encodeToString, List.length_cons, ih]; omega

/-- The encoding is made of the lower-case digits of `hextable` only. -/
theorem mem_hextable_of_mem_encodeToString {k : List UInt8} {c : UInt8}
    (h : c ∈ encodeToString k) : c ∈ hextable := by
  induction k with
  | nil => cases h
  | cons v k ih =>
    have hv := uint8_toNat_lt v
    rcases List.mem_cons.1 h with rfl | h
    · exact hextable_getD_mem (by omega)
    rcases List.mem_cons.1 h with rfl | h
    · exact hextable_getD_mem (Nat.mod_lt _ (by decide))
    · exact ih h

/-- `hex.DecodeString` reads back what `EncodeToString` wrote. -/
theorem decodeString_encodeToString (k : List UInt8) :
    decodeString (encodeToString k) = (k, none) := by
  induction k with
  | nil => rfl
  | cons v k ih =>
    have hv := uint8_toNat_lt v
    simp only [encodeToString, decodeString, reverseHexTable_hextable (show v.toNat / 16 < 16 by omega),
      reverseHexTable_hextable (Nat.mod_lt _ (show 16 > 0 by decide)), ih, Prod.mk.injEq, and_true]
    exact congrArg (· :: k) (uint8_ofNat_eq (by omega))

example : encodeToString [10, 255] = utf8 "0aff" ∧ decodeString (utf8 "0aff") = ([10, 255], none) := by
  decide

end Hex

end Pumpe.Go
