-- SUMMARY: What Pumpe.HandleConnect writes to the client before it relays: writeErrToConn's 502 response or the 200 line, and a client's reading of it by HTTP/1.1 framing: status line, header lines up to the empty line, and a body of Content-Length bytes.
import Pumpe.Go.Strconv

/-!
# The reply to CONNECT

`HandleConnect` (`service/pumpe.go`) hijacks the client's connection and writes
one reply on it. When `pickDialer` or the gate's `DialContext` fails it writes
the 502 response of `writeErrToConn` and closes the connection:

```go
msg := "HTTP/1.1 502 Bad Gateway\r\nContent-Type: text/plain\r\nContent-Length: " +
    strconv.Itoa(len(errm)) + "\r\n\r\n" + errm
```

Otherwise it writes `data200`, and the relay's bytes follow it. A client reads
the reply as HTTP/1.1 frames it: lines up to the empty line, then as many bytes
of body as `Content-Length` says, and with no `Content-Length` the tunnel
follows the head. `readResponse` is that reading.

`connectReply_framing`: for every outcome of the two calls, every error text
and every relayed payload, the client reads back the status, the error text
as the whole body (whatever bytes it holds, a blank line among them), and the
payload untouched after the 200 line.
-/

namespace Pumpe.Service

open Pumpe.Go Pumpe.Go.Strconv

-- ---------------------------------------------------------------------------
-- What is written
-- ---------------------------------------------------------------------------

/-- `data200` of `NewPumpe`. -/
def data200 : List UInt8 := utf8 "HTTP/1.1 200 Connection established\r\n\r\n"

/-- `writeErrToConn`: what it writes for the error text of `rerr`, nothing for `nil`. -/
def writeErrToConn (rerr : Option (List UInt8)) : List UInt8 :=
  match rerr with
  | none => []
  | some errm =>
    utf8 "HTTP/1.1 502 Bad Gateway\r\nContent-Type: text/plain\r\nContent-Length: " ++
      itoa errm.length ++ utf8 "\r\n\r\n" ++ errm

/-- What `HandleConnect` writes to the client before the relay, given what
    `pickDialer` and `DialContext` return (an error by its text). -/
def connectReply (pick dial : Except (List UInt8) Unit) : List UInt8 :=
  match pick with
  | .error err => writeErrToConn (some err)
  | .ok () =>
    match dial with
    | .error err => writeErrToConn (some err)
    | .ok () => data200

-- ---------------------------------------------------------------------------
-- How a client reads it
-- ---------------------------------------------------------------------------

/-- A line up to its CRLF, and what follows. -/
def readLine : List UInt8 → Option (List UInt8 × List UInt8)
  | 13 :: 10 :: rest => some ([], rest)
  | c :: rest => (readLine rest).map fun lr => (c :: lr.1, lr.2)
  | [] => none

/-- The lines of a head up to the empty line that ends it, and what follows;
    at most `fuel` lines. -/
def readHead : Nat → List UInt8 → Option (List (List UInt8) × List UInt8)
  | 0, _ => none
  | fuel + 1, s =>
    match readLine s with
    | none => none
    | some ([], rest) => some ([], rest)
    | some (l, rest) => (readHead fuel rest).map fun hr => (l :: hr.1, hr.2)

/-- The value of the field `name` among header lines `Name: value`. -/
def fieldValue (name : List UInt8) (fields : List (List UInt8)) : Option (List UInt8) :=
  fields.findSome? fun l =>
    if (name ++ utf8 ": ").isPrefixOf l then some (l.drop (name.length + 2)) else none

/-- A client's reading of a response: the status line, the header lines, the
    body of `Content-Length` bytes, and what follows the body. With no
    `Content-Length` the body is empty and the rest follows the head. -/
def readResponse (msg : List UInt8) :
    Option (List UInt8 × List (List UInt8) × List UInt8 × List UInt8) :=
  match readHead msg.length msg with
  | none | some ([], _) => none
  | some (status :: fields, rest) =>
    match fieldValue (utf8 "Content-Length") fields with
    | none => some (status, fields, [], rest)
    | some v =>
      match parseUint v with
      | (n, none) => if n ≤ rest.length then some (status, fields, rest.take n, rest.drop n) else none
      | _ => none

/-- The lines of a head written with their CRLFs. -/
def crlfLines (ls : List (List UInt8)) : List UInt8 := ls.flatMap (· ++ [13, 10])

theorem readLine_cons_of_ne {c : UInt8} (hc : c ≠ 13) (rest : List UInt8) :
    readLine (c :: rest) = (readLine rest).map fun lr => (c :: lr.1, lr.2) :=
  readLine.eq_2 c rest fun _ h _ => hc h

theorem readLine_append {l : List UInt8} (h : 13 ∉ l) (rest : List UInt8) :
    readLine (l ++ 13 :: 10 :: rest) = some (l, rest) := by
  induction l with
  | nil => rfl
  | cons c l ih =>
    simp only [List.mem_cons, not_or] at h
    rw [List.cons_append, readLine_cons_of_ne (Ne.symm h.1), ih h.2]; rfl

/-- A head of non-empty lines with no CR in them, then the empty line. -/
theorem readHead_crlfLines {ls : List (List UInt8)} (h : ∀ l ∈ ls, l ≠ [] ∧ 13 ∉ l)
    {fuel : Nat} (hf : ls.length < fuel) (rest : List UInt8) :
    readHead fuel (crlfLines ls ++ 13 :: 10 :: rest) = some (ls, rest) := by
  induction ls generalizing fuel with
  | nil =>
    obtain ⟨fuel, rfl⟩ := Nat.exists_eq_add_of_lt hf
    simp [readHead, crlfLines, readLine]
  | cons l ls ih =>
    obtain ⟨fuel, rfl⟩ := Nat.exists_eq_add_of_lt (Nat.zero_lt_of_lt hf)
    simp only [List.forall_mem_cons] at h
    obtain ⟨c, l, rfl⟩ := List.exists_cons_of_ne_nil h.1.1
    have hf' : ls.length < fuel := by simp only [List.length_cons] at hf; omega
    have hl : readLine (crlfLines ((c :: l) :: ls) ++ 13 :: 10 :: rest) =
        some (c :: l, crlfLines ls ++ 13 :: 10 :: rest) := by
      simpa [crlfLines] using readLine_append h.1.2 (crlfLines ls ++ 13 :: 10 :: rest)
    simp only [readHead, Nat.zero_add, hl, ih h.2 hf', Option.map_some']

theorem fieldValue_cons_of_not_prefix {name l : List UInt8} (h : ¬(name ++ utf8 ": ").isPrefixOf l)
    (fields : List (List UInt8)) : fieldValue name (l :: fields) = fieldValue name fields := by
  rw [fieldValue, List.findSome?_cons, if_neg h]; rfl

theorem fieldValue_cons_append (name v : List UInt8) (fields : List (List UInt8)) :
    fieldValue name ((name ++ utf8 ": " ++ v) :: fields) = some v := by
  have hp : (name ++ utf8 ": ").isPrefixOf (name ++ utf8 ": " ++ v) := by
    rw [List.isPrefixOf_iff_prefix]; exact List.prefix_append _ _
  have hl : (utf8 ": ").length = 2 := rfl
  simp only [fieldValue, List.findSome?_cons, hp, if_true]
  rw [show name.length + 2 = (name ++ utf8 ": ").length by simp [hl], List.drop_left]

-- ---------------------------------------------------------------------------
-- The reply read back
-- ---------------------------------------------------------------------------

/-- The status line and the header lines of the 502 response. -/
def errHead (errm : List UInt8) : List (List UInt8) :=
  [utf8 "HTTP/1.1 502 Bad Gateway", utf8 "Content-Type: text/plain",
    utf8 "Content-Length" ++ utf8 ": " ++ decimal errm.length]

theorem writeErrToConn_eq {errm : List UInt8} (h : InInt64 errm.length) :
    writeErrToConn (some errm) = crlfLines (errHead errm) ++ 13 :: 10 :: errm := by
  have hs : utf8 "HTTP/1.1 502 Bad Gateway\r\nContent-Type: text/plain\r\nContent-Length: " =
      utf8 "HTTP/1.1 502 Bad Gateway" ++ [13, 10] ++ utf8 "Content-Type: text/plain" ++ [13, 10] ++
        utf8 "Content-Length" ++ utf8 ": " := by decide
  have hb : utf8 "\r\n\r\n" = [13, 10, 13, 10] := by decide
  simp [writeErrToConn, crlfLines, errHead, itoa_ofNat h, hs, hb]

theorem errHead_lines (errm : List UInt8) : ∀ l ∈ errHead errm, l ≠ [] ∧ 13 ∉ l := by
  have hd : 13 ∉ decimal errm.length := fun h => by
    have := decimal_digits errm.length 13 h; exact absurd this.1 (by decide)
  simp only [errHead, List.mem_cons, List.mem_singleton, List.not_mem_nil, or_false]
  rintro l (rfl | rfl | rfl)
  · decide
  · decide
  · refine ⟨List.append_ne_nil_of_left_ne_nil (List.append_ne_nil_of_left_ne_nil (by decide) _) _, ?_⟩
    simp only [List.mem_append, not_or]
    exact ⟨⟨by decide, by decide⟩, hd⟩

theorem length_crlfLines (ls : List (List UInt8)) : 2 * ls.length ≤ (crlfLines ls).length := by
  induction ls with
  | nil => simp [crlfLines]
  | cons l ls ih =>
    simp only [crlfLines, List.flatMap_cons, List.length_append, List.length_cons,
      List.length_nil] at ih ⊢
    omega

/-- The 502 response read back: its status, its two fields, and the error text
    as the whole body. -/
theorem readResponse_writeErrToConn {errm : List UInt8} (h : InInt64 errm.length) :
    readResponse (writeErrToConn (some errm)) =
      some (utf8 "HTTP/1.1 502 Bad Gateway",
        [utf8 "Content-Type: text/plain", utf8 "Content-Length: " ++ itoa errm.length], errm, []) := by
  have hcl : utf8 "Content-Length: " = utf8 "Content-Length" ++ utf8 ": " := by decide
  have hct : ¬(utf8 "Content-Length" ++ utf8 ": ").isPrefixOf (utf8 "Content-Type: text/plain") := by
    decide
  have hm : errm.length ≤ maxUint64 := by unfold InInt64 at h; simp only [maxUint64]; omega
  have hf := length_crlfLines (errHead errm)
  rw [writeErrToConn_eq h, readResponse,
    readHead_crlfLines (errHead_lines errm) (by simp [errHead] at hf ⊢; omega)]
  simp only [errHead, fieldValue_cons_of_not_prefix hct, fieldValue_cons_append,
    parseUint_decimal hm, le_refl, if_true, List.take_length, List.drop_length, itoa_ofNat h, hcl]

/-- The 200 line read back: its status, no field, and what follows it. -/
theorem readResponse_data200 (payload : List UInt8) :
    readResponse (data200 ++ payload) =
      some (utf8 "HTTP/1.1 200 Connection established", [], [], payload) := by
  have hd : data200 ++ payload =
      crlfLines [utf8 "HTTP/1.1 200 Connection established"] ++ 13 :: 10 :: payload := by
    rw [show data200 = crlfLines [utf8 "HTTP/1.1 200 Connection established"] ++ [13, 10] by decide]
    simp
  rw [hd, readResponse, readHead_crlfLines (by decide) (by simp [crlfLines]; omega)]
  rfl

/-- What a client reads of the reply to `CONNECT`, for every outcome of
    `pickDialer` and `DialContext`, every error text (of `int` length) and every
    payload the relay writes after a 200. A failure of either call gives the
    502 status with `Content-Type` and a `Content-Length` whose body is the
    error text, all of it and nothing after it, whatever bytes it holds. A
    success gives the 200 status with no field, and the relay's payload after
    the head, untouched. -/
theorem connectReply_framing (dial : Except (List UInt8) Unit) (payload : List UInt8) :
    (∀ err, InInt64 err.length →
      readResponse (connectReply (.error err) dial) =
        some (utf8 "HTTP/1.1 502 Bad Gateway",
          [utf8 "Content-Type: text/plain", utf8 "Content-Length: " ++ itoa err.length], err, []) ∧
      readResponse (connectReply (.ok ()) (.error err)) =
        some (utf8 "HTTP/1.1 502 Bad Gateway",
          [utf8 "Content-Type: text/plain", utf8 "Content-Length: " ++ itoa err.length], err, [])) ∧
    readResponse (connectReply (.ok ()) (.ok ()) ++ payload) =
      some (utf8 "HTTP/1.1 200 Connection established", [], [], payload) :=
  ⟨fun _ h => ⟨readResponse_writeErrToConn h, readResponse_writeErrToConn h⟩,
    readResponse_data200 payload⟩

/-- An error text that holds a blank line and a field of its own. -/
theorem connectReply_framing_blankLine :
    InInt64 (utf8 "dial: \r\n\r\nContent-Length: 0").length ∧
      readResponse (connectReply (.ok ()) (.error (utf8 "dial: \r\n\r\nContent-Length: 0"))) =
        some (utf8 "HTTP/1.1 502 Bad Gateway",
          [utf8 "Content-Type: text/plain",
            utf8 "Content-Length: " ++ itoa (utf8 "dial: \r\n\r\nContent-Length: 0").length],
          utf8 "dial: \r\n\r\nContent-Length: 0", []) :=
  ⟨by decide, ((connectReply_framing (.ok ()) []).1 _ (by decide)).2⟩

end Pumpe.Service
