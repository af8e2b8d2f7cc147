-- SUMMARY: The header work of `Pumpe.HandleHTTP`: `http.Header` over the package's map, the hop-by-hop list, the two strip helpers, `X-Forwarded-For`, and `copyHeader`.
import Pumpe.Model.Set

/-!
# Headers of a proxied HTTP request

`HandleHTTP` (`service/pumpe.go`) strips the hop-by-hop headers from the
request before it hands the request to the gate's `Do`, and from the response
before it copies the response's headers to the client. An `http.Header` is a
Go map from keys to lists of values; it is modelled as a `Model.Set` of
strings. Its methods canonicalise the key they are given with
`textproto.CanonicalMIMEHeaderKey`; an index into the map (`hdr["Connection"]`)
does not.

`delHeaders` runs first and deletes `Connection`, so the `delConnectionHeaders`
that follows it never finds a `Connection` value and deletes nothing.
-/

namespace Pumpe.Service

/-- `http.Header`. -/
abbrev Header := Model.Set String (List String)

-- ---------------------------------------------------------------------------
-- net/http and net/textproto
-- ---------------------------------------------------------------------------

/-- `validHeaderFieldByte`: a token character of RFC 7230 (letters, digits, and
    the marks below, with the apostrophe (39) and the backquote (96)). -/
def validHeaderFieldByte (c : Char) : Bool :=
  c.isAlphanum || c ∈ ['!', '#', '$', '%', '&', '*', '+', '-', '.', '^', '_', '|', '~'] ||
    c.toNat = 39 || c.toNat = 96

/-- The rewriting loop of `canonicalMIMEHeaderKey`: upper case first and after
    each dash, lower case elsewhere. -/
def canonicalize : Bool → List Char → List Char
  | _, [] => []
  | upper, c :: cs =>
    let c' := if upper then c.toUpper else c.toLower
    c' :: canonicalize (c' == '-') cs

/-- `textproto.CanonicalMIMEHeaderKey`: a key of token characters only is
    rewritten by `canonicalize`; any other key (a space, a non-ASCII character)
    is returned unchanged. -/
def canonicalMIMEHeaderKey (s : String) : String :=
  if s.data.all validHeaderFieldByte then ⟨canonicalize true s.data⟩ else s

/-- `unicode.IsSpace`, which `strings.TrimSpace` trims. -/
def isSpace (c : Char) : Bool :=
  c.toNat ∈ [9, 10, 11, 12, 13, 32, 0x85, 0xA0, 0x1680, 0x2028, 0x2029, 0x202F, 0x205F, 0x3000] ||
    (0x2000 ≤ c.toNat && c.toNat ≤ 0x200A)

/-- `strings.TrimSpace`. -/
def trimSpace (s : String) : String := (s.dropWhile isSpace).dropRightWhile isSpace

namespace Header

/-- `Header.Del`. -/
def del (h : Header) (key : String) : Header := Model.Set.remove h (canonicalMIMEHeaderKey key)

/-- `Header.Set`. -/
def set (h : Header) (key value : String) : Header :=
  Model.Set.set h (canonicalMIMEHeaderKey key) [value]

/-- `Header.Add`: append to the values under the canonical key. -/
def add (h : Header) (key value : String) : Header :=
  let k := canonicalMIMEHeaderKey key
  Model.Set.set h k ((Model.Set.get h k).getD [] ++ [value])

end Header

-- ---------------------------------------------------------------------------
-- service/pumpe.go
-- ---------------------------------------------------------------------------

/-- `newHopHeaders`. -/
def newHopHeaders : List String :=
  ["Connection", "Keep-Alive", "Proxy-Authenticate", "Proxy-Authorization", "Proxy-Connection",
   "Te", "Trailer", "Transfer-Encoding", "Upgrade", "Proxy-Pumpe-Gate-Id", "Proxy-Pumpe-Gate-Type"]

/-- `delHeaders`. -/
def delHeaders (list : List String) (hdr : Header) : Header := list.foldl Header.del hdr

/-- `delConnectionHeaders`: delete every header named by a non-empty trimmed
    comma-separated token of a value under the raw key `Connection`, read once. -/
def delConnectionHeaders (hdr : Header) : Header :=
  ((Model.Set.get hdr "Connection").getD []).foldl
    (fun hdr v => (v.splitOn ",").foldl
      (fun hdr tok => if trimSpace tok ≠ "" then hdr.del (trimSpace tok) else hdr) hdr) hdr

/-- `addHostToXForwardedHeader`. -/
def addHostToXForwardedHeader (hdr : Header) (host : String) : Header :=
  let host := match Model.Set.get hdr "X-Forwarded-For" with
    | some ex => ", ".intercalate ex ++ ", " ++ host
    | none => host
  hdr.set "X-Forwarded-For" host

/-- `copyHeader`: `dst.Add` of every value of `src`, in the map's order. -/
def copyHeader (dst src : Header) : Header :=
  src.entries.foldl (fun dst e => e.2.foldl (fun dst v => dst.add e.1 v) dst) dst

/-- The header work of `HandleHTTP` once a gate is picked: the headers of the
    request handed to `Do`, and the client's header map after `copyHeader` from
    the response. `remote` is the host `net.SplitHostPort` takes from
    `r.RemoteAddr`, if it parses. -/
def handleHTTP (hopHdr : List String) (req : Header) (remote : Option String)
    (resp w : Header) : Header × Header :=
  let req := delConnectionHeaders (delHeaders hopHdr req)
  let req := match remote with
    | some ip => addHostToXForwardedHeader req ip
    | none => req
  (req, copyHeader w (delConnectionHeaders (delHeaders hopHdr resp)))

-- ---------------------------------------------------------------------------
-- Keys
-- ---------------------------------------------------------------------------

namespace Header

@[simp] theorem mem_keys_del {h : Header} {key k : String} :
    k ∈ (h.del key).keys ↔ k ∈ h.keys ∧ k ≠ canonicalMIMEHeaderKey key := by
  simp [del]

@[simp] theorem mem_keys_set {h : Header} {key v k : String} :
    k ∈ (h.set key v).keys ↔ k = canonicalMIMEHeaderKey key ∨ k ∈ h.keys := by
  simp [set]

@[simp] theorem mem_keys_add {h : Header} {key v k : String} :
    k ∈ (h.add key v).keys ↔ k = canonicalMIMEHeaderKey key ∨ k ∈ h.keys := by
  simp [add]

end Header

/-- A loop whose body only deletes keys only deletes keys. -/
theorem keys_foldl_sub {α : Type} (f : Header → α → Header)
    (hf : ∀ h a k, k ∈ (f h a).keys → k ∈ h.keys) (l : List α) (h : Header) {k : String}
    (hk : k ∈ (l.foldl f h).keys) : k ∈ h.keys := by
  induction l generalizing h with
  | nil => exact hk
  | cons a l ih => exact hf h a k (ih _ hk)

theorem mem_keys_delHeaders {list : List String} {hdr : Header} {k : String} :
    k ∈ (delHeaders list hdr).keys ↔ k ∈ hdr.keys ∧ ∀ n ∈ list, k ≠ canonicalMIMEHeaderKey n := by
  induction list generalizing hdr with
  | nil => simp [delHeaders]
  | cons n list ih =>
    simp only [delHeaders, List.foldl_cons] at ih ⊢
    rw [ih, Header.mem_keys_del]
    simp [and_assoc]

theorem keys_delConnectionHeaders_sub {hdr : Header} {k : String}
    (hk : k ∈ (delConnectionHeaders hdr).keys) : k ∈ hdr.keys := by
  refine keys_foldl_sub _ (fun h v k hk => keys_foldl_sub _ (fun h tok k hk => ?_) _ h hk) _ hdr hk
  split at hk
  · exact (Header.mem_keys_del.1 hk).1
  · exact hk

theorem mem_keys_foldl_add {key k : String} {vs : List String} {dst : Header}
    (hk : k ∈ (vs.foldl (fun dst v => dst.add key v) dst).keys) :
    k ∈ dst.keys ∨ k = canonicalMIMEHeaderKey key := by
  induction vs generalizing dst with
  | nil => exact .inl hk
  | cons v vs ih =>
    rcases ih hk with hk | hk
    · exact (Header.mem_keys_add.1 hk).symm
    · exact .inr hk

/-- `copyHeader` adds only the canonical forms of the source's keys. -/
theorem mem_keys_copyHeader {dst src : Header} {k : String} (hk : k ∈ (copyHeader dst src).keys) :
    k ∈ dst.keys ∨ ∃ k' ∈ src.keys, k = canonicalMIMEHeaderKey k' := by
  suffices ∀ (es : List (String × List String)) (dst : Header),
      k ∈ (es.foldl (fun dst e => e.2.foldl (fun dst v => dst.add e.1 v) dst) dst).keys →
        k ∈ dst.keys ∨ ∃ e ∈ es, k = canonicalMIMEHeaderKey e.1 by
    rcases this _ _ hk with hk | ⟨e, he, rfl⟩
    · exact .inl hk
    · exact .inr ⟨e.1, List.mem_map_of_mem _ he, rfl⟩
  intro es
  induction es with
  | nil => exact fun _ hk => .inl hk
  | cons e es ih =>
    intro dst hk
    rcases ih _ hk with hk | ⟨e', he', hk⟩
    · exact (mem_keys_foldl_add hk).imp_right fun hk => ⟨e, List.mem_cons_self _ _, hk⟩
    · exact .inr ⟨e', List.mem_cons_of_mem _ he', hk⟩

-- ---------------------------------------------------------------------------
-- HandleHTTP
-- ---------------------------------------------------------------------------

theorem canonical_newHopHeaders : ∀ n ∈ newHopHeaders, canonicalMIMEHeaderKey n = n := by decide

/-- Behind `delHeaders newHopHeaders` there is no `Connection` value left, so the
    `delConnectionHeaders` of `HandleHTTP` deletes nothing. -/
theorem delConnectionHeaders_delHeaders (hdr : Header) :
    delConnectionHeaders (delHeaders newHopHeaders hdr) = delHeaders newHopHeaders hdr := by
  have : "Connection" ∉ (delHeaders newHopHeaders hdr).keys := fun h =>
    (mem_keys_delHeaders.1 h).2 "Connection" (by decide) (by decide)
  have hget : Model.Set.get (delHeaders newHopHeaders hdr) "Connection" = none :=
    Model.Set.get_eq_none_iff.2 fun v hv => this (List.mem_map_of_mem Prod.fst hv)
  simp [delConnectionHeaders, hget]

/-- A request whose `Connection` header names a custom header it also carries. -/
def connectionReq : Header := ⟨[("Connection", ["X-Secret"]), ("X-Secret", ["v"])], by decide⟩

/-- For header maps with canonical keys, as `net/http` reads them off the wire:
    no header of the hop-by-hop list, in any case, reaches `Do`, and `copyHeader`
    adds none to the client's headers. -/
theorem handleHTTP_strips_hop_headers (req resp w : Header) (remote : Option String)
    (hreq : ∀ k ∈ req.keys, canonicalMIMEHeaderKey k = k)
    (hresp : ∀ k ∈ resp.keys, canonicalMIMEHeaderKey k = k) :
    (∀ k ∈ (handleHTTP newHopHeaders req remote resp w).1.keys,
      canonicalMIMEHeaderKey k ∉ newHopHeaders) ∧
    (∀ k ∈ (handleHTTP newHopHeaders req remote resp w).2.keys,
      canonicalMIMEHeaderKey k ∈ newHopHeaders → k ∈ w.keys) := by
  -- a key that survives `delHeaders` is no hop-by-hop name, if it is canonical
  have hstrip : ∀ hdr : Header, (∀ k ∈ hdr.keys, canonicalMIMEHeaderKey k = k) →
      ∀ k ∈ (delHeaders newHopHeaders hdr).keys, canonicalMIMEHeaderKey k ∉ newHopHeaders := by
    intro hdr hc k hk hn
    obtain ⟨hk, hne⟩ := mem_keys_delHeaders.1 hk
    rw [hc k hk] at hn
    exact hne k hn (canonical_newHopHeaders k hn).symm
  constructor
  · intro k hk
    simp only [handleHTTP, delConnectionHeaders_delHeaders] at hk
    cases remote with
    | none => exact hstrip req hreq k hk
    | some ip =>
      rcases Header.mem_keys_set.1 hk with rfl | hk
      · decide
      · exact hstrip req hreq k hk
  · intro k hk hn
    simp only [handleHTTP, delConnectionHeaders_delHeaders] at hk
    rcases mem_keys_copyHeader hk with hk | ⟨k', hk', rfl⟩
    · exact hk
    · have hc := hresp k' (mem_keys_delHeaders.1 hk').1
      exact (hstrip resp hresp k' hk' (by rwa [hc] at hn)).elim

theorem handleHTTP_strips_hop_headers_connectionReq :
    (∀ k ∈ connectionReq.keys, canonicalMIMEHeaderKey k = k) ∧
    ∀ k ∈ (handleHTTP newHopHeaders connectionReq none .empty .empty).1.keys,
      canonicalMIMEHeaderKey k ∉ newHopHeaders :=
  ⟨by decide, (handleHTTP_strips_hop_headers connectionReq .empty .empty none (by decide)
    (by decide)).1⟩

/-- The `Connection` value of `connectionReq` is the single token `X-Secret`, and
    `X-Secret` reaches `Do`. -/
theorem handleHTTP_keeps_connection_token :
    Model.Set.get connectionReq "Connection" = some ["X-Secret"] ∧
    "X-Secret" ∈ (handleHTTP newHopHeaders connectionReq none .empty .empty).1.keys := by
  decide

end Pumpe.Service
