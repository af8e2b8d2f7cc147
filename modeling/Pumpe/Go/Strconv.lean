-- SUMMARY: strconv of the Go standard library as the program calls it: ParseUint and ParseInt in base 10, Atoi with its fast path for short strings, ParseBool, and FormatInt/Itoa with the digit tables of formatBits.
import Pumpe.Go.Encoding

/-!
# Integers and booleans as text

`newSettingsFromEnv` reads three integers with `strconv.Atoi` and two flags with
`strconv.ParseBool`, and `writeErrToConn` writes a length with `strconv.Itoa`.
The model follows the standard library over the bytes of a string, on a 64-bit
host: `ParseUint` in base 10 with its two overflow checks, `ParseInt` with its
sign and the range of `int64`, `Atoi` with the fast path it takes for strings
of 1 to 18 bytes, and `FormatInt` with the `small` table and the loop of
`formatBits`, which writes two digits of `smallsString` per pass. Each function
returns its value and its error, as Go does: out of range, `ParseInt` returns
the bound it passed.

Two of these are optimised paths of a plainer one. `atoi_eq` says the fast path
of `Atoi` gives what `ParseInt` gives, value and error, on every string;
`formatInt_eq` says `FormatInt` writes the decimal digits of every `int64` one
by one (`decimal`). From them `atoi_itoa`: `Atoi` reads back every `int` that
`Itoa` writes.
-/

namespace Pumpe.Go.Strconv

-- ---------------------------------------------------------------------------
-- Parsing
-- ---------------------------------------------------------------------------

/-- `ErrSyntax` and `ErrRange`. -/
inductive NumErr
  | errSyntax
  | errRange
  deriving DecidableEq, Repr

/-- `*NumError`: the function, the input and the cause. -/
structure NumError where
  func : String
  num : List UInt8
  err : NumErr
  deriving DecidableEq, Repr

/-- `maxUint64`. -/
def maxUint64 : Nat := (1 <<< 64) - 1

/-- The loop of `ParseUint(s, 10, 64)` from the value `n` read so far. A byte
    that is no digit is a syntax error (a letter is a digit of value at least
    `10`, which base 10 refuses too). The value stops with a range error at the
    first digit that takes it past `maxUint64`: `n >= cutoff` before the
    multiplication, or `n1 < n || n1 > maxVal` after the addition, which on a
    `uint64` is the exact sum passing `maxUint64`. -/
def parseUintFrom (s0 : List UInt8) (n : Nat) : List UInt8 → Nat × Option NumError
  | [] => (n, none)
  | c :: s =>
    if c < 48 ∨ c > 57 then (0, some ⟨"ParseUint", s0, .errSyntax⟩)
    else if n ≥ maxUint64 / 10 + 1 then (maxUint64, some ⟨"ParseUint", s0, .errRange⟩)
    else if n * 10 + (c.toNat - 48) > maxUint64 then (maxUint64, some ⟨"ParseUint", s0, .errRange⟩)
    else parseUintFrom s0 (n * 10 + (c.toNat - 48)) s

/-- `ParseUint(s, 10, 64)`. -/
def parseUint (s : List UInt8) : Nat × Option NumError :=
  if s = [] then (0, some ⟨"ParseUint", s, .errSyntax⟩) else parseUintFrom s 0 s

/-- The leading sign `ParseInt` and `Atoi` strip: `+`, or `-`, which makes the
    value negative. -/
def splitSign : List UInt8 → Bool × List UInt8
  | c :: r => if c = 43 then (false, r) else if c = 45 then (true, r) else (false, c :: r)
  | [] => (false, [])

/-- `ParseInt(s, 10, 0)` on a 64-bit host: the sign, `ParseUint` on the rest,
    and the range of `int64`, out of which the value is the bound it passed. A
    syntax error of `ParseUint` is returned with the function `ParseInt` and
    the whole input. -/
def parseInt (s : List UInt8) : Int × Option NumError :=
  if s = [] then (0, some ⟨"ParseInt", s, .errSyntax⟩)
  else
    let (neg, body) := splitSign s
    match parseUint body with
    | (_, some ⟨_, _, .errSyntax⟩) => (0, some ⟨"ParseInt", s, .errSyntax⟩)
    | (un, err) =>
      if ¬neg ∧ un ≥ 1 <<< 63 then (((1 <<< 63) - 1 : Nat), some ⟨"ParseInt", s, .errRange⟩)
      else if neg ∧ un > 1 <<< 63 then (-((1 <<< 63 : Nat) : Int), some ⟨"ParseInt", s, .errRange⟩)
      else (if neg then -(un : Int) else un, err)

/-- The loop of the fast path of `Atoi`: `ch -= '0'` on the byte, so that a
    byte below `'0'` wraps past `9`. -/
def atoiFastFrom (n : Nat) : List UInt8 → Option Nat
  | [] => some n
  | ch :: s => if ch - 48 > 9 then none else atoiFastFrom (n * 10 + (ch - 48).toNat) s

/-- The fast path of `Atoi` for a string of 1 to 18 bytes, whose value fits an
    `int` without a check. -/
def atoiFast (s0 : List UInt8) : Int × Option NumError :=
  let (neg, s) := splitSign s0
  if s = [] then (0, some ⟨"Atoi", s0, .errSyntax⟩)
  else match atoiFastFrom 0 s with
    | none => (0, some ⟨"Atoi", s0, .errSyntax⟩)
    | some n => (if neg then -(n : Int) else n, none)

/-- `Atoi`: the fast path for 1 to 18 bytes, else `ParseInt(s, 10, 0)` with the
    function of its error set to `Atoi`. -/
def atoi (s : List UInt8) : Int × Option NumError :=
  if 0 < s.length ∧ s.length < 19 then atoiFast s
  else ((parseInt s).1, (parseInt s).2.map fun e => { e with func := "Atoi" })

/-- `ParseBool`. -/
def parseBool (str : List UInt8) : Bool × Option NumError :=
  if str ∈ [utf8 "1", utf8 "t", utf8 "T", utf8 "true", utf8 "TRUE", utf8 "True"] then (true, none)
  else if str ∈ [utf8 "0", utf8 "f", utf8 "F", utf8 "false", utf8 "FALSE", utf8 "False"] then
    (false, none)
  else (false, some ⟨"ParseBool", str, .errSyntax⟩)

-- ---------------------------------------------------------------------------
-- Formatting
-- ---------------------------------------------------------------------------

/-- `digits`. -/
def digits : List UInt8 := utf8 "0123456789abcdefghijklmnopqrstuvwxyz"

/-- `smallsString`: the two digits of each number below `100`. -/
def smallsString : List UInt8 :=
  utf8 ("00010203040506070809" ++ "10111213141516171819" ++ "20212223242526272829" ++
    "30313233343536373839" ++ "40414243444546474849" ++ "50515253545556575859" ++
    "60616263646566676869" ++ "70717273747576777879" ++ "80818283848586878889" ++
    "90919293949596979899")

/-- `small(i)`, `FormatInt` of `0 <= i < 100`. -/
def small (i : Nat) : List UInt8 :=
  if i < 10 then [digits.getD i 0]
  else [smallsString.getD (i * 2) 0, smallsString.getD (i * 2 + 1) 0]

/-- The base-10 loop of `formatBits`, which fills its buffer from the end: two
    digits of `smallsString` per pass while `us >= 100`, then the last one or
    two. `a` is what it has written so far. -/
def formatBitsFrom (us : Nat) (a : List UInt8) : List UInt8 :=
  if us ≥ 100 then
    formatBitsFrom (us / 100)
      (smallsString.getD (us % 100 * 2) 0 :: smallsString.getD (us % 100 * 2 + 1) 0 :: a)
  else if us ≥ 10 then smallsString.getD (us * 2) 0 :: smallsString.getD (us * 2 + 1) 0 :: a
  else smallsString.getD (us * 2 + 1) 0 :: a
termination_by us
decreasing_by omega

/-- `formatBits(nil, u, 10, neg, false)`: `u = -u` on the `uint64` when `neg`,
    its digits, and the sign in front. -/
def formatBits (u : Nat) (neg : Bool) : List UInt8 :=
  let u := if neg then ((1 <<< 64) - u) % (1 <<< 64) else u
  (if neg then [45] else []) ++ formatBitsFrom u []

/-- `FormatInt(i, 10)`: `small` for `0 <= i < 100`, else `formatBits` of
    `uint64(i)`. -/
def formatInt (i : Int) : List UInt8 :=
  if 0 ≤ i ∧ i < 100 then small i.toNat
  else formatBits (i % ((1 <<< 64 : Nat) : Int)).toNat (decide (i < 0))

/-- `Itoa`. -/
def itoa (i : Int) : List UInt8 := formatInt i

/-- The range of `int` on a 64-bit host. -/
def InInt64 (i : Int) : Prop := -9223372036854775808 ≤ i ∧ i ≤ 9223372036854775807

instance : DecidablePred InInt64 := fun _ => inferInstanceAs (Decidable (_ ∧ _))

/-- The decimal digits of `n`, most significant first, one at a time: what
    `FormatInt` writes. -/
def decimal (n : Nat) : List UInt8 :=
  if n < 10 then [UInt8.ofNat (48 + n)] else decimal (n / 10) ++ [UInt8.ofNat (48 + n % 10)]
termination_by n
decreasing_by omega

-- ---------------------------------------------------------------------------
-- Bytes as numbers
-- ---------------------------------------------------------------------------

theorem byte_lt_iff {a b : UInt8} : a < b ↔ a.toNat < b.toNat := by
  rw [UInt8.lt_def, BitVec.lt_def]; rfl

theorem byte_sub_toNat (a b : UInt8) : (a - b).toNat = (256 - b.toNat + a.toNat) % 256 :=
  BitVec.toNat_sub _ _

/-- The two digit checks: `ParseUint`'s bounds and the fast path's wrapping subtraction. -/
theorem not_digit_iff (c : UInt8) : (c < 48 ∨ c > 57) ↔ ¬(48 ≤ c.toNat ∧ c.toNat ≤ 57) := by
  simp only [GT.gt, byte_lt_iff]
  show c.toNat < 48 ∨ 57 < c.toNat ↔ _
  omega

theorem sub48_gt_nine_iff (c : UInt8) : c - 48 > 9 ↔ ¬(48 ≤ c.toNat ∧ c.toNat ≤ 57) := by
  have := uint8_toNat_lt c
  simp only [GT.gt, byte_lt_iff, byte_sub_toNat]
  show 9 < (256 - 48 + c.toNat) % 256 ↔ _
  omega

theorem sub48_toNat {c : UInt8} (h : 48 ≤ c.toNat) : (c - 48).toNat = c.toNat - 48 := by
  have := uint8_toNat_lt c
  rw [byte_sub_toNat]
  show (256 - 48 + c.toNat) % 256 = _
  omega

-- ---------------------------------------------------------------------------
-- Reading digits
-- ---------------------------------------------------------------------------

section Read

variable (s0 : List UInt8)

/-- What both loops add for a digit. -/
def step (n : Nat) (c : UInt8) : Nat := n * 10 + (c.toNat - 48)

theorem le_foldl_step (ds : List UInt8) (n : Nat) : n ≤ ds.foldl step n := by
  induction ds generalizing n with
  | nil => exact le_rfl
  | cons c ds ih => exact (Nat.le_mul_of_pos_right n (by decide)).trans ((Nat.le_add_right _ _).trans (ih _))

/-- `ParseUint`'s loop over digits whose value stays within `maxUint64`. -/
theorem parseUintFrom_digits {ds : List UInt8} {n : Nat}
    (hd : ∀ c ∈ ds, 48 ≤ c.toNat ∧ c.toNat ≤ 57) (hv : ds.foldl step n ≤ maxUint64) :
    parseUintFrom s0 n ds = (ds.foldl step n, none) := by
  induction ds generalizing n with
  | nil => rfl
  | cons c ds ih =>
    have hc := hd c (List.mem_cons_self _ _)
    have hle := le_foldl_step ds (step n c)
    simp only [List.foldl_cons, step] at hv hle ⊢
    have h1 : ¬n ≥ maxUint64 / 10 + 1 := by simp only [maxUint64] at hv ⊢; omega
    have h2 : ¬n * 10 + (c.toNat - 48) > maxUint64 := by omega
    simp only [parseUintFrom, not_digit_iff, hc, not_true_eq_false, if_false, h1, h2]
    exact ih (fun x hx => hd x (List.mem_cons_of_mem _ hx)) hv

/-- The fast path's loop and `ParseUint`'s agree on a string short enough that
    neither can overflow: `(n + 1) * 10 ^ len` stays within `10 ^ 18`. -/
theorem parseUintFrom_eq_atoiFastFrom {b : List UInt8} {n : Nat}
    (h : (n + 1) * Nat.pow 10 b.length ≤ 1000000000000000000) :
    parseUintFrom s0 n b = match atoiFastFrom n b with
      | some m => (m, none)
      | none => (0, some ⟨"ParseUint", s0, .errSyntax⟩) := by
  induction b generalizing n with
  | nil => rfl
  | cons c b ih =>
    have hp : 1 ≤ Nat.pow 10 b.length := Nat.pos_pow_of_pos _ (by decide)
    have h10 : (n + 1) * 10 ≤ 1000000000000000000 :=
      (Nat.mul_le_mul_left _ (by omega : 10 ≤ Nat.pow 10 b.length * 10)).trans h
    by_cases hc : 48 ≤ c.toNat ∧ c.toNat ≤ 57
    · have h1 : ¬n ≥ maxUint64 / 10 + 1 := by simp only [maxUint64]; omega
      have h2 : ¬n * 10 + (c.toNat - 48) > maxUint64 := by simp only [maxUint64]; omega
      simp only [parseUintFrom, atoiFastFrom, not_digit_iff, sub48_gt_nine_iff, hc, h1, h2,
        not_true_eq_false, if_false, sub48_toNat hc.1]
      apply ih
      calc (n * 10 + (c.toNat - 48) + 1) * Nat.pow 10 b.length
          ≤ (n + 1) * 10 * Nat.pow 10 b.length := Nat.mul_le_mul_right _ (by omega)
        _ = (n + 1) * (Nat.pow 10 b.length * 10) := by rw [Nat.mul_assoc, Nat.mul_comm 10]
        _ ≤ 1000000000000000000 := h
    · simp only [parseUintFrom, atoiFastFrom, not_digit_iff, sub48_gt_nine_iff, hc,
        not_false_eq_true, if_true]

theorem atoiFastFrom_lt {b : List UInt8} {n m : Nat}
    (h : (n + 1) * Nat.pow 10 b.length ≤ 1000000000000000000) (hm : atoiFastFrom n b = some m) :
    m < 1000000000000000000 := by
  induction b generalizing n with
  | nil => cases hm; change (m + 1) * 1 ≤ _ at h; omega
  | cons c b ih =>
    simp only [atoiFastFrom] at hm
    split_ifs at hm with hc
    refine ih ?_ hm
    rw [sub48_gt_nine_iff, not_not] at hc
    rw [sub48_toNat hc.1]
    calc (n * 10 + (c.toNat - 48) + 1) * Nat.pow 10 b.length
        ≤ (n + 1) * 10 * Nat.pow 10 b.length := Nat.mul_le_mul_right _ (by omega)
      _ = (n + 1) * (Nat.pow 10 b.length * 10) := by rw [Nat.mul_assoc, Nat.mul_comm 10]
      _ ≤ 1000000000000000000 := h

end Read

theorem splitSign_length (s : List UInt8) : (splitSign s).2.length ≤ s.length := by
  unfold splitSign; split
  · split_ifs <;> simp
  · rfl

/-- `Atoi`'s fast path gives what `ParseInt` gives, value and error, with the
    function `Atoi`: the first is an optimised path of the second. -/
theorem atoi_eq (s : List UInt8) :
    atoi s = ((parseInt s).1, (parseInt s).2.map fun e => { e with func := "Atoi" }) := by
  unfold atoi
  split_ifs with hs
  · have hne : s ≠ [] := List.ne_nil_of_length_pos hs.1
    rcases hsp : splitSign s with ⟨neg, b⟩
    have hlen : b.length ≤ s.length := by simpa [hsp] using splitSign_length s
    simp only [atoiFast, parseInt, hsp, hne, if_false]
    by_cases hb : b = []
    · subst hb; simp [parseUint]
    · have hpow : (0 + 1) * Nat.pow 10 b.length ≤ 1000000000000000000 := by
        rw [Nat.one_mul]; exact Nat.pow_le_pow_right (n := 10) (by decide) (by omega : b.length ≤ 18)
      rw [parseUint, if_neg hb, if_neg hb, parseUintFrom_eq_atoiFastFrom b hpow]
      rcases hf : atoiFastFrom 0 b with _ | m
      · rfl
      · have := atoiFastFrom_lt hpow hf
        have h1 : ¬9223372036854775808 ≤ m := by omega
        have h2 : ¬9223372036854775808 < m := by omega
        simp [h1, h2]
  · rfl

example : atoi (utf8 "-42") = (-42, none) ∧ parseInt (utf8 "-42") = (-42, none) := by decide
example : atoi (utf8 "99999999999999999999x") =
      (9223372036854775807, some ⟨"Atoi", utf8 "99999999999999999999x", .errRange⟩) ∧
    parseInt (utf8 "99999999999999999999x") =
      (9223372036854775807, some ⟨"ParseInt", utf8 "99999999999999999999x", .errRange⟩) := by
  decide

-- ---------------------------------------------------------------------------
-- Writing digits
-- ---------------------------------------------------------------------------

theorem decimal_lt {n : Nat} (h : n < 10) : decimal n = [UInt8.ofNat (48 + n)] := by
  rw [decimal, if_pos h]

theorem decimal_ge {n : Nat} (h : 10 ≤ n) :
    decimal n = decimal (n / 10) ++ [UInt8.ofNat (48 + n % 10)] := by
  rw [decimal, if_neg (by omega)]

theorem digit_toNat {d : Nat} (h : d < 10) : (UInt8.ofNat (48 + d)).toNat = 48 + d := by
  rw [uint8_ofNat_toNat]; omega

theorem length_pairs (f g : Nat → UInt8) (n : Nat) :
    ((List.range n).flatMap fun k => [f k, g k]).length = n * 2 := by
  induction n with
  | zero => rfl
  | succ n ih => simp [List.range_succ, List.flatMap_append, ih]; omega

/-- The entries `2k` and `2k + 1` of a table of pairs, one pair per `k`. -/
theorem getD_pairs (f g : Nat → UInt8) {n k : Nat} (hk : k < n) :
    ((List.range n).flatMap fun k => [f k, g k]).getD (k * 2) 0 = f k ∧
    ((List.range n).flatMap fun k => [f k, g k]).getD (k * 2 + 1) 0 = g k := by
  induction n with
  | zero => omega
  | succ n ih =>
    rw [List.range_succ, List.flatMap_append]
    simp only [List.getD_eq_getElem?_getD]
    rcases Nat.lt_or_ge k n with h | h
    · rw [List.getElem?_append_left (by rw [length_pairs]; omega),
        List.getElem?_append_left (by rw [length_pairs]; omega)]
      simpa only [List.getD_eq_getElem?_getD] using ih h
    · obtain rfl : k = n := by omega
      rw [List.getElem?_append_right (length_pairs f g _).le,
        List.getElem?_append_right (by rw [length_pairs]; omega), length_pairs]
      simp

set_option maxRecDepth 20000 in
theorem smallsString_eq : smallsString =
    (List.range 100).flatMap fun k => [UInt8.ofNat (48 + k / 10), UInt8.ofNat (48 + k % 10)] := by
  decide

theorem smallsString_getD {k : Nat} (hk : k < 100) :
    smallsString.getD (k * 2) 0 = UInt8.ofNat (48 + k / 10) ∧
    smallsString.getD (k * 2 + 1) 0 = UInt8.ofNat (48 + k % 10) := by
  rw [smallsString_eq]; exact getD_pairs _ _ hk

theorem digits_getD {i : Nat} (h : i < 10) : digits.getD i 0 = UInt8.ofNat (48 + i) := by
  have hall : ∀ i : Fin 10, digits.getD i 0 = UInt8.ofNat (48 + i) := by decide
  exact hall ⟨i, h⟩

/-- The two-digit loop of `formatBits` writes the digits one by one would. -/
theorem formatBitsFrom_eq (us : Nat) (a : List UInt8) : formatBitsFrom us a = decimal us ++ a := by
  induction us, a using formatBitsFrom.induct with
  | case1 us a h ih =>
    obtain ⟨h1, h2⟩ := smallsString_getD (Nat.mod_lt us (by decide : 100 > 0))
    rw [formatBitsFrom, if_pos h, ih, h1, h2, decimal_ge (by omega : 10 ≤ us),
      decimal_ge (by omega : 10 ≤ us / 10), show us / 10 / 10 = us / 100 by omega,
      show us / 10 % 10 = us % 100 / 10 by omega, show us % 10 = us % 100 % 10 by omega]
    simp
  | case2 us a h h' =>
    obtain ⟨h1, h2⟩ := smallsString_getD (by omega : us < 100)
    rw [formatBitsFrom, if_neg h, if_pos h', h1, h2, decimal_ge h', decimal_lt (by omega)]
    simp
  | case3 us a h h' =>
    obtain ⟨-, h2⟩ := smallsString_getD (by omega : us < 100)
    rw [formatBitsFrom, if_neg h, if_neg h', h2, decimal_lt (by omega), Nat.mod_eq_of_lt (by omega)]
    rfl

/-- `FormatInt` writes the sign and the decimal digits of every `int64`: its
    `small` table and its two-digit loop agree with writing one digit at a time. -/
theorem formatInt_eq {i : Int} (h : InInt64 i) :
    formatInt i = (if i < 0 then [45] else []) ++ decimal i.natAbs := by
  unfold formatInt
  split_ifs with hs hn hn
  · omega
  · rw [List.nil_append, show i.toNat = i.natAbs by omega]
    unfold small
    split_ifs with h10
    · rw [digits_getD h10, decimal_lt h10]
    · obtain ⟨h1, h2⟩ := smallsString_getD (by omega : i.natAbs < 100)
      rw [h1, h2, decimal_ge (by omega), decimal_lt (by omega)]
      rfl
  · unfold InInt64 at h
    have hu : ((1 <<< 64) - (i % ((1 <<< 64 : Nat) : Int)).toNat) % (1 <<< 64) = i.natAbs := by
      rw [show ((1 <<< 64 : Nat) : Int) = 18446744073709551616 from rfl,
        show (1 <<< 64 : Nat) = 18446744073709551616 from rfl]
      omega
    rw [formatBits, decide_eq_true hn, if_pos rfl, if_pos rfl, formatBitsFrom_eq, hu, List.append_nil]
  · unfold InInt64 at h
    have hu : (i % ((1 <<< 64 : Nat) : Int)).toNat = i.natAbs := by
      rw [show ((1 <<< 64 : Nat) : Int) = 18446744073709551616 from rfl]
      omega
    rw [formatBits, decide_eq_false hn, if_neg Bool.false_ne_true, if_neg Bool.false_ne_true,
      formatBitsFrom_eq, hu]
    simp

-- ---------------------------------------------------------------------------
-- Reading back what is written
-- ---------------------------------------------------------------------------

theorem decimal_digits (n : Nat) : ∀ c ∈ decimal n, 48 ≤ c.toNat ∧ c.toNat ≤ 57 := by
  induction n using decimal.induct with
  | case1 n h =>
    simp only [decimal_lt h, List.mem_singleton]
    rintro c rfl; rw [digit_toNat h]; omega
  | case2 n h ih =>
    rw [decimal_ge (by omega)]
    intro c hc
    rcases List.mem_append.1 hc with hc | hc
    · exact ih c hc
    · rw [List.mem_singleton.1 hc, digit_toNat (Nat.mod_lt n (by decide))]; omega

theorem foldl_step_decimal (n : Nat) : (decimal n).foldl step 0 = n := by
  induction n using decimal.induct with
  | case1 n h => rw [decimal_lt h]; simp [step, digit_toNat h]
  | case2 n h ih =>
    rw [decimal_ge (by omega), List.foldl_append, ih]
    simp only [List.foldl_cons, List.foldl_nil, step, digit_toNat (Nat.mod_lt n (by decide))]
    omega

theorem decimal_ne_nil (n : Nat) : decimal n ≠ [] := by
  unfold decimal; split_ifs <;> simp

theorem parseUint_decimal {m : Nat} (hm : m ≤ maxUint64) : parseUint (decimal m) = (m, none) := by
  rw [parseUint, if_neg (decimal_ne_nil m),
    parseUintFrom_digits _ (decimal_digits m) (by rwa [foldl_step_decimal]), foldl_step_decimal]

theorem splitSign_decimal (n : Nat) : splitSign (decimal n) = (false, decimal n) := by
  obtain ⟨c, r, hcr⟩ := List.exists_cons_of_ne_nil (decimal_ne_nil n)
  have hc := decimal_digits n c (hcr ▸ List.mem_cons_self c r)
  have h43 : c ≠ 43 := fun h => by subst h; exact absurd hc.1 (by decide)
  have h45 : c ≠ 45 := fun h => by subst h; exact absurd hc.1 (by decide)
  rw [hcr]; simp [splitSign, h43, h45]

/-- `ParseInt` reads back what `FormatInt` writes, for every `int64`. -/
theorem parseInt_formatInt {i : Int} (h : InInt64 i) : parseInt (formatInt i) = (i, none) := by
  rw [formatInt_eq h]
  unfold InInt64 at h
  have hm : i.natAbs ≤ maxUint64 := by simp only [maxUint64]; omega
  have hne : (if i < 0 then [45] else []) ++ decimal i.natAbs ≠ [] := by simp [decimal_ne_nil]
  by_cases hn : i < 0
  · have hmi : (i.natAbs : Int) = -i := by omega
    generalize i.natAbs = m at hm hmi hne ⊢
    have hsp : splitSign (45 :: decimal m) = (true, decimal m) := rfl
    have h2 : ¬9223372036854775808 < m := by omega
    simp only [if_pos hn] at hne ⊢
    simp [parseInt, hne, hsp, parseUint_decimal hm, h2]
    omega
  · have hmi : (i.natAbs : Int) = i := by omega
    generalize i.natAbs = m at hm hmi hne ⊢
    have h1 : ¬9223372036854775808 ≤ m := by omega
    simp only [if_neg hn, List.nil_append] at hne ⊢
    simp [parseInt, hne, splitSign_decimal, parseUint_decimal hm, h1]
    omega

theorem itoa_ofNat {n : Nat} (h : InInt64 n) : itoa n = decimal n := by
  rw [itoa, formatInt_eq h, if_neg (by omega), List.nil_append, Int.natAbs_ofNat]

/-- `Atoi` reads back what `Itoa` writes, for every `int`. -/
theorem atoi_itoa {i : Int} (h : InInt64 i) : atoi (itoa i) = (i, none) := by
  rw [atoi_eq, itoa, parseInt_formatInt h]; rfl

/-- `strconv` as the program calls it: the fast path of `Atoi` gives the value
    and the error of `ParseInt` on every string; the `small` table and the
    two-digit loop of `FormatInt` write the sign and the decimal digits of every
    `int64`; and `Atoi` reads back every `int` that `Itoa` writes. -/
theorem strconv_fast_paths_agree :
    (∀ s, atoi s = ((parseInt s).1, (parseInt s).2.map fun e => { e with func := "Atoi" })) ∧
    (∀ i, InInt64 i → formatInt i = (if i < 0 then [45] else []) ++ decimal i.natAbs) ∧
    (∀ i, InInt64 i → atoi (itoa i) = (i, none)) :=
  ⟨atoi_eq, fun _ => formatInt_eq, fun _ => atoi_itoa⟩

theorem strconv_fast_paths_agree_minInt :
    InInt64 (-9223372036854775808) ∧ atoi (itoa (-9223372036854775808)) = (-9223372036854775808, none) :=
  ⟨by decide, strconv_fast_paths_agree.2.2 _ (by decide)⟩

end Pumpe.Go.Strconv
