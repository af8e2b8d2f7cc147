-- SUMMARY: Go's float64 on the values that are not negative, as multiples of 2^-1074: rounding to nearest even, the conversions from and to uint64, multiplication and division, with the exactness of rounding on representable values.
import Mathlib.Data.List.Basic

/-!
# float64

`time.ParseDuration` adds the fraction of a component as
`uint64(float64(f) * (float64(unit) / scale))`, where `scale` is a `float64`
multiplied by `10` once per digit. Every value on that path is not negative,
so the model of `float64` here has no sign: a finite value, `+Inf` or `NaN`.

A finite `float64` is a multiple of `2^-1074`, the smallest subnormal, and the
model keeps it as that multiple, a natural number (`F64.scaled`), as the
IEEE 754 binary64 format has it: a significand of at most 53 bits times a power
of two, below `2^1024`. Each operation computes its exact result as a fraction
`a / d` of such units and rounds it once (`round`): to the nearest multiple of
the unit of its binade (`ulpExp`), ties to an even significand (`rne`), and to
`+Inf` from `2^1024` on.

* `rne_cases`: what `rne` returns, the quotient or the next natural, by the
  remainder.
* `round_of_rep`: a value the format holds rounds to itself, so
  `toUint64_ofNat`: a `uint64` below `2^53` goes through `float64` unchanged.
-/

namespace Pumpe.Go.Float

-- ---------------------------------------------------------------------------
-- Rounding
-- ---------------------------------------------------------------------------

/-- The natural nearest `a / d`, ties to the even one. -/
def rne (a d : Nat) : Nat :=
  let q := a / d
  let r := a % d
  if 2 * r < d then q else if d < 2 * r then q + 1 else if q % 2 = 0 then q else q + 1

/-- The number of binary digits of an `n` below `2^(2^j)`, halving the window
    `j` times. -/
def bitsIn : Nat → Nat → Nat
  | 0, n => n
  | j + 1, n => if n >>> (1 <<< j) = 0 then bitsIn j n else (1 <<< j) + bitsIn j (n >>> (1 <<< j))

/-- The number of binary digits of `n`, 64 at a time, by recursion on a bound
    `k` on `n`. -/
def bitsFrom : Nat → Nat → Nat
  | 0, _ => 0
  | k + 1, n => if n >>> 64 = 0 then bitsIn 6 n else 64 + bitsFrom k (n >>> 64)

/-- The number of binary digits of `n`: `0` for `0`. -/
def bitLen (n : Nat) : Nat := bitsFrom n n

/-- The exponent of the unit of the binade of `a / d`, in units of `2^-1074`:
    the weight of the last of 53 significand bits, and `0` below `2^53`, where
    the normal binade of `2^-1022` and the subnormals have the unit `2^-1074`. -/
def ulpExp (a d : Nat) : Nat := bitLen (a / d) - 53

theorem rne_cases (a d : Nat) :
    (rne a d = a / d ∧ 2 * (a % d) ≤ d) ∨ (rne a d = a / d + 1 ∧ d ≤ 2 * (a % d)) := by
  unfold rne
  dsimp only
  split
  · exact .inl ⟨rfl, by omega⟩
  · split
    · exact .inr ⟨rfl, by omega⟩
    · split
      · exact .inl ⟨rfl, by omega⟩
      · exact .inr ⟨rfl, by omega⟩

theorem rne_le_div_succ (a d : Nat) : rne a d ≤ a / d + 1 := by
  rcases rne_cases a d with ⟨h, -⟩ | ⟨h, -⟩ <;> omega

/-- A multiple of `d` is its own nearest multiple. -/
theorem rne_mul_left (c : Nat) {d : Nat} (hd : 0 < d) : rne (c * d) d = c := by
  rcases rne_cases (c * d) d with ⟨h, -⟩ | ⟨-, h⟩
  · rw [h, Nat.mul_div_cancel c hd]
  · rw [Nat.mul_mod_left] at h; omega

-- The digits above a window of `w` bits, and the digits below it.

theorem lt_of_shiftRight_lt {n w b : Nat} (h : n >>> w < 1 <<< b) : n < 1 <<< (w + b) := by
  rw [Nat.shiftRight_eq_div_pow, Nat.div_lt_iff_lt_mul (Nat.two_pow_pos _), Nat.one_shiftLeft]
    at h
  rwa [Nat.one_shiftLeft, Nat.pow_add, Nat.mul_comm]

theorem shiftRight_lt_of_lt {n w p : Nat} (h : n < 1 <<< p) : n >>> w < 1 <<< (p - w) := by
  rw [Nat.one_shiftLeft] at h
  rw [Nat.shiftRight_eq_div_pow, Nat.one_shiftLeft]
  by_cases hw : w ≤ p
  · rwa [Nat.div_lt_iff_lt_mul (Nat.two_pow_pos _), ← Nat.pow_add, Nat.sub_add_cancel hw]
  · rw [Nat.div_eq_of_lt (h.trans_le (Nat.pow_le_pow_right (by decide) (by omega)))]
    exact Nat.two_pow_pos _

theorem le_of_shiftRight_ne_zero {n w p : Nat} (h0 : n >>> w ≠ 0) (h : n < 1 <<< p) : w ≤ p := by
  have := shiftRight_lt_of_lt (w := w) h
  by_contra hw
  rw [Nat.sub_eq_zero_of_le (by omega)] at this
  exact h0 (by simpa using this)

theorem lt_of_shiftRight_eq_zero {n w : Nat} (h : n >>> w = 0) : n < 1 <<< w := by
  simpa using lt_of_shiftRight_lt (b := 0) (by rw [h]; decide)

theorem one_shiftLeft_succ_sub (j : Nat) : (1 <<< (j + 1)) - (1 <<< j) = 1 <<< j := by
  rw [Nat.shiftLeft_succ]; omega

theorem lt_bitsIn {j n : Nat} (h : n < 1 <<< (1 <<< j)) : n < 1 <<< bitsIn j n := by
  induction j generalizing n with
  | zero =>
    have : n < 2 := h
    rcases (by omega : n = 0 ∨ n = 1) with rfl | rfl <;> decide
  | succ j ih =>
    unfold bitsIn
    split
    · exact ih (lt_of_shiftRight_eq_zero ‹_›)
    · have hm := shiftRight_lt_of_lt (w := 1 <<< j) h
      rw [one_shiftLeft_succ_sub] at hm
      exact lt_of_shiftRight_lt (ih hm)

theorem bitsIn_le {j n p : Nat} (hw : n < 1 <<< (1 <<< j)) (h : n < 1 <<< p) : bitsIn j n ≤ p := by
  induction j generalizing n p with
  | zero =>
    have : n < 2 := hw
    cases p with
    | zero => show n ≤ 0; simp_all
    | succ p => show n ≤ p + 1; omega
  | succ j ih =>
    unfold bitsIn
    split
    · exact ih (lt_of_shiftRight_eq_zero ‹_›) h
    · have hm := shiftRight_lt_of_lt (w := 1 <<< j) hw
      rw [one_shiftLeft_succ_sub] at hm
      have := ih hm (shiftRight_lt_of_lt h)
      have := le_of_shiftRight_ne_zero ‹_› h
      omega

theorem lt_bitsFrom {k n : Nat} (h : n ≤ k) : n < 1 <<< bitsFrom k n := by
  induction k generalizing n with
  | zero => rw [Nat.le_zero.1 h]; decide
  | succ k ih =>
    unfold bitsFrom
    split
    · exact lt_bitsIn (lt_of_shiftRight_eq_zero ‹_›)
    · have : n >>> 64 < n := by
        rw [Nat.shiftRight_eq_div_pow]
        exact Nat.div_lt_self (Nat.pos_of_ne_zero fun h0 => by simp_all) (by decide)
      exact lt_of_shiftRight_lt (ih (by omega))

theorem bitsFrom_le {k n p : Nat} (h : n < 1 <<< p) : bitsFrom k n ≤ p := by
  induction k generalizing n p with
  | zero => exact Nat.zero_le _
  | succ k ih =>
    unfold bitsFrom
    split
    · exact bitsIn_le (lt_of_shiftRight_eq_zero ‹_›) h
    · have := ih (shiftRight_lt_of_lt (w := 64) h)
      have := le_of_shiftRight_ne_zero ‹_› h
      omega

theorem lt_bitLen (n : Nat) : n < 1 <<< bitLen n := lt_bitsFrom le_rfl

theorem bitLen_le {n p : Nat} (h : n < 1 <<< p) : bitLen n ≤ p := bitsFrom_le h

/-- In its binade, the significand `a / d` rounds to has at most 53 bits. -/
theorem rne_le_of_ulpExp (a d : Nat) : rne a (d <<< ulpExp a d) ≤ 1 <<< 53 := by
  have hb := lt_bitLen (a / d)
  have hq : a / (d <<< ulpExp a d) < 1 <<< 53 := by
    rw [Nat.shiftLeft_eq, ← Nat.div_div_eq_div_mul, Nat.div_lt_iff_lt_mul (Nat.two_pow_pos _),
      Nat.shiftLeft_eq, Nat.one_mul, ← Nat.pow_add]
    rw [Nat.shiftLeft_eq, Nat.one_mul] at hb
    exact hb.trans_le (Nat.pow_le_pow_right (by decide) (by unfold ulpExp; omega))
  exact (rne_le_div_succ _ _).trans hq

-- ---------------------------------------------------------------------------
-- Values
-- ---------------------------------------------------------------------------

/-- A finite `float64` that is not negative, as a multiple of `2^-1074`: a
    significand of at most 53 bits times a power of two, below `2^1024`. -/
structure F64 where
  scaled : Nat
  rep : ∃ m p, scaled = m <<< p ∧ m ≤ 1 <<< 53
  lt : scaled < 1 <<< 2098

/-- `0.0`. -/
def F64.zero : F64 := ⟨0, ⟨0, 0, rfl, by decide⟩, by decide⟩

/-- A `float64` that is not negative. -/
inductive Float64
  | finite (x : F64)
  | inf
  | nan

/-- The `float64` nearest `a / d` units of `2^-1074`, ties to an even
    significand; `+Inf` from `2^1024` on. -/
def round (a d : Nat) : Float64 :=
  if h : rne a (d <<< ulpExp a d) <<< ulpExp a d < 1 <<< 2098 then
    .finite ⟨_, ⟨_, _, rfl, rne_le_of_ulpExp a d⟩, h⟩
  else .inf

namespace Float64

/-- `float64(n)` of a `uint64`. -/
def ofNat (n : Nat) : Float64 := round (n <<< 1074) 1

/-- `x * y`. -/
def mul : Float64 → Float64 → Float64
  | .finite x, .finite y => round (x.scaled * y.scaled) (1 <<< 1074)
  | .finite x, .inf | .inf, .finite x => if x.scaled = 0 then .nan else .inf
  | .inf, .inf => .inf
  | _, _ => .nan

/-- `x / y`. -/
def div : Float64 → Float64 → Float64
  | .finite x, .finite y =>
    if y.scaled = 0 then (if x.scaled = 0 then .nan else .inf)
    else round (x.scaled <<< 1074) y.scaled
  | .finite _, .inf => .finite .zero
  | .inf, .finite _ => .inf
  | _, _ => .nan

/-- `uint64(x)`: the integer part. Go leaves the result for a value a `uint64`
    cannot hold to the implementation; the model takes `1 << 63`, which the
    code Go emits for amd64 gives. -/
def toUint64 : Float64 → Nat
  | .finite x => if x.scaled >>> 1074 < 1 <<< 64 then x.scaled >>> 1074 else 1 <<< 63
  | _ => 1 <<< 63

end Float64

-- ---------------------------------------------------------------------------
-- Exact rounding
-- ---------------------------------------------------------------------------

theorem shiftLeft_lt_one_shiftLeft {m a : Nat} (h : m < 1 <<< a) (b : Nat) :
    m <<< b < 1 <<< (a + b) := by
  rw [Nat.one_shiftLeft] at h
  rw [Nat.shiftLeft_eq, Nat.one_shiftLeft, Nat.pow_add]
  exact Nat.mul_lt_mul_of_pos_right h (Nat.two_pow_pos _)

theorem one_shiftLeft_le {a b : Nat} (h : a ≤ b) : 1 <<< a ≤ 1 <<< b := by
  rw [Nat.one_shiftLeft, Nat.one_shiftLeft]
  exact Nat.pow_le_pow_right (by decide) h

/-- A value the format holds rounds to itself. -/
theorem round_of_rep {m p : Nat} (hm : m < 1 <<< 53) (hlt : m <<< p < 1 <<< 2098) :
    ∃ x : F64, x.scaled = m <<< p ∧ round (m <<< p) 1 = .finite x := by
  have hq : ulpExp (m <<< p) 1 ≤ p := by
    have := bitLen_le (n := m <<< p / 1) (by rw [Nat.div_one]; exact shiftLeft_lt_one_shiftLeft hm p)
    unfold ulpExp; omega
  have hr : rne (m <<< p) (1 <<< ulpExp (m <<< p) 1) <<< ulpExp (m <<< p) 1 = m <<< p := by
    generalize ulpExp (m <<< p) 1 = q at hq ⊢
    obtain ⟨k, rfl⟩ := Nat.exists_eq_add_of_le hq
    have hsplit : m <<< (q + k) = (m <<< k) * (1 <<< q) := by
      rw [Nat.add_comm, Nat.shiftLeft_add, Nat.shiftLeft_eq (m <<< k), Nat.one_shiftLeft]
    rw [hsplit, rne_mul_left _ (by rw [Nat.one_shiftLeft]; exact Nat.two_pow_pos _),
      Nat.shiftLeft_eq (m <<< k), Nat.one_shiftLeft]
  unfold round
  split
  · exact ⟨_, hr, rfl⟩
  · rename_i h; rw [hr] at h; exact absurd hlt h

/-- A `uint64` below `2^53` goes through `float64` unchanged. -/
theorem toUint64_ofNat {n : Nat} (h : n < 1 <<< 53) : (Float64.ofNat n).toUint64 = n := by
  obtain ⟨x, hx, hr⟩ :=
    round_of_rep h ((shiftLeft_lt_one_shiftLeft h 1074).trans_le (one_shiftLeft_le (by decide)))
  have hn : x.scaled >>> 1074 = n := by rw [hx, Nat.shiftLeft_shiftRight]
  rw [Float64.ofNat, hr, Float64.toUint64, hn,
    if_pos (h.trans_le (one_shiftLeft_le (by decide)))]

end Pumpe.Go.Float
