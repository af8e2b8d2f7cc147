-- SUMMARY: time.ParseDuration over the bytes of a string, with leadingInt, leadingFraction and its float64 scale, the float64 fraction term and unitMap, what it reads of a whole number of a unit, and time.NewTicker's check of its interval.
import Pumpe.Go.Float
import Pumpe.Go.Strconv

/-!
# Durations

`time.ParseDuration` reads `[-+]?([0-9]*(\.[0-9]*)?[a-z]+)+` into nanoseconds.
The model follows the standard library over the bytes of the string:
`leadingInt` with its two overflow checks, `leadingFraction`, which stops
accumulating once the value would overflow and multiplies its `float64` scale
by `10` for each digit it takes, the scan of the unit and `unitMap`, the
fraction added as `uint64(float64(f) * (float64(unit) / scale))` in the
`float64` of `Pumpe.Go.Float`, and the sum `d` kept as a `uint64`. An error is
`none`: the callers in `cmd/pumpe` drop it and read the duration `0` Go returns
with it.

`component_decimal`: a component that is a whole number of a unit reads as
their product, and `parseDuration_decimal` the duration of such a string, with
or without a minus sign.

`newTicker` is the check `time.NewTicker` makes of its interval before it
starts: it panics on one that is not positive.
-/

namespace Pumpe.Go.Time

open Pumpe.Go.Float Pumpe.Go.Strconv

/-- The loop of `leadingInt` from the value `x` read so far: the value of the
    leading `[0-9]*` and the bytes after it, or `none` once it passes `1 << 63`. -/
def leadingIntFrom (x : Nat) : List UInt8 → Option (Nat × List UInt8)
  | [] => some (x, [])
  | c :: s =>
    if c < 48 ∨ c > 57 then some (x, c :: s)
    else if x > (1 <<< 63) / 10 then none
    else if x * 10 + (c.toNat - 48) > 1 <<< 63 then none
    else leadingIntFrom (x * 10 + (c.toNat - 48)) s

/-- `leadingInt`. -/
def leadingInt (s : List UInt8) : Option (Nat × List UInt8) := leadingIntFrom 0 s

/-- The loop of `leadingFraction`: the value of the leading `[0-9]*` and its
    `float64` `scale`, which stop growing at the first digit that would take the
    value past `1 << 63`, and the bytes after the digits. -/
def leadingFractionFrom (x : Nat) (scale : Float64) (overflow : Bool) :
    List UInt8 → Nat × Float64 × List UInt8
  | [] => (x, scale, [])
  | c :: s =>
    if c < 48 ∨ c > 57 then (x, scale, c :: s)
    else if overflow then leadingFractionFrom x scale true s
    else if x > ((1 <<< 63) - 1) / 10 then leadingFractionFrom x scale true s
    else if x * 10 + (c.toNat - 48) > 1 <<< 63 then leadingFractionFrom x scale true s
    else leadingFractionFrom (x * 10 + (c.toNat - 48)) (scale.mul (.ofNat 10)) false s

/-- `leadingFraction`, from the scale `1`. -/
def leadingFraction (s : List UInt8) : Nat × Float64 × List UInt8 :=
  leadingFractionFrom 0 (.ofNat 1) false s

/-- `unitMap`: the nanoseconds of each unit. -/
def unitMap : List (List UInt8 × Nat) :=
  [(utf8 "ns", 1), (utf8 "us", 1000), (utf8 "µs", 1000), (utf8 "μs", 1000),
   (utf8 "ms", 1000000), (utf8 "s", 1000000000), (utf8 "m", 60000000000),
   (utf8 "h", 3600000000000)]

/-- A byte that ends the unit: `.` or a digit. -/
def unitEnd (c : UInt8) : Bool := c = 46 ∨ (48 ≤ c ∧ c ≤ 57)

/-- The optional `\.[0-9]*` after the integer part: the fraction, its scale, the
    bytes after it, and `post`, whether a digit followed the point. -/
def fraction : List UInt8 → Nat × Float64 × List UInt8 × Bool
  | 46 :: s =>
    let (f, scale, r) := leadingFraction s
    (f, scale, r, r.length ≠ s.length)
  | s => (0, .ofNat 1, s, false)

/-- The nanoseconds the fraction `f` of a unit adds:
    `uint64(float64(f) * (float64(unit) / scale))`. -/
def fracTerm (f unit : Nat) (scale : Float64) : Nat :=
  ((Float64.ofNat f).mul ((Float64.ofNat unit).div scale)).toUint64

/-- The unit after the number: the bytes up to the next `.` or digit, looked
    up in `unitMap`, and the bytes after it; `none` if it is missing or unknown. -/
def consumeUnit (s : List UInt8) : Option (Nat × List UInt8) :=
  let u := s.takeWhile (!unitEnd ·)
  if u = [] then none
  else (unitMap.lookup u).map fun unit => (unit, s.drop u.length)

/-- One pass of the loop of `ParseDuration` over a component
    `[0-9]*(\.[0-9]*)?[a-z]+`: its value in nanoseconds and the bytes after it. -/
def component (s : List UInt8) : Option (Nat × List UInt8) :=
  match s with
  | [] => none
  | c :: _ =>
    if !unitEnd c then none
    else match leadingInt s with
    | none => none
    | some (v, s₁) =>
      let (f, scale, s₂, post) := fraction s₁
      if s₁.length = s.length ∧ ¬post then none
      else match consumeUnit s₂ with
      | none => none
      | some (unit, s₃) =>
        if v > (1 <<< 63) / unit then none
        else if f > 0 then
          let v := (v * unit + fracTerm f unit scale) % (1 <<< 64)
          if v > 1 <<< 63 then none else some (v, s₃)
        else some (v * unit, s₃)

-- ---------------------------------------------------------------------------
-- Each component consumes bytes
-- ---------------------------------------------------------------------------

theorem leadingIntFrom_length {x v : Nat} {s r : List UInt8} (h : leadingIntFrom x s = some (v, r)) :
    r.length ≤ s.length := by
  induction s generalizing x with
  | nil => simp only [leadingIntFrom, Option.some.injEq, Prod.mk.injEq] at h; simp [← h.2]
  | cons c s ih =>
    simp only [leadingIntFrom] at h
    split_ifs at h
    · simp only [Option.some.injEq, Prod.mk.injEq] at h; simp [← h.2]
    · exact (ih h).trans (Nat.le_succ _)

theorem leadingFractionFrom_length (x : Nat) (scale : Float64) (o : Bool) (s : List UInt8) :
    (leadingFractionFrom x scale o s).2.2.length ≤ s.length := by
  induction s generalizing x scale o with
  | nil => simp [leadingFractionFrom]
  | cons c s ih =>
    simp only [leadingFractionFrom]
    split_ifs <;> first | exact le_refl _ | exact (ih _ _ _).trans (Nat.le_succ _)

theorem fraction_length (s : List UInt8) : (fraction s).2.2.1.length ≤ s.length := by
  unfold fraction
  split
  · exact (leadingFractionFrom_length 0 _ false _).trans (Nat.le_succ _)
  · exact le_refl _

theorem consumeUnit_length {s r : List UInt8} {unit : Nat} (h : consumeUnit s = some (unit, r)) :
    r.length < s.length := by
  dsimp only [consumeUnit] at h
  split_ifs at h with hu
  obtain ⟨_, -, he⟩ := Option.map_eq_some'.1 h
  cases he
  have hpos := List.length_pos.2 hu
  have hle : (s.takeWhile (!unitEnd ·)).length ≤ s.length := (List.takeWhile_prefix _).length_le
  rw [List.length_drop]
  omega

/-- A component ends past at least one byte: its unit is not empty. -/
theorem component_length {s r : List UInt8} {v : Nat} (h : component s = some (v, r)) :
    r.length < s.length := by
  unfold component at h
  split at h
  · cases h
  split at h
  · cases h
  split at h
  · cases h
  rename_i v₁ s₁ hl
  split at h
  rename_i f scale s₂ post hfr
  split at h
  · cases h
  split at h
  · cases h
  rename_i unit s₃ hu
  obtain rfl : r = s₃ := by
    dsimp only at h; split_ifs at h <;> exact (Prod.mk.inj (Option.some.inj h)).2.symm
  have h₁ := leadingIntFrom_length hl
  have h₂ : s₂.length ≤ s₁.length := by simpa [hfr] using fraction_length s₁
  have h₃ := consumeUnit_length hu
  omega

-- ---------------------------------------------------------------------------
-- A whole number of a unit
-- ---------------------------------------------------------------------------

/-- `leadingInt`'s loop over digits whose value stays within `1 << 63`, up to
    the first byte that is no digit. -/
theorem leadingIntFrom_digits {ds r : List UInt8} {x : Nat}
    (hd : ∀ c ∈ ds, 48 ≤ c.toNat ∧ c.toNat ≤ 57)
    (hr : ∀ c ∈ r.head?, ¬(48 ≤ c.toNat ∧ c.toNat ≤ 57)) (hb : ds.foldl step x ≤ 1 <<< 63) :
    leadingIntFrom x (ds ++ r) = some (ds.foldl step x, r) := by
  induction ds generalizing x with
  | nil =>
    cases r with
    | nil => rfl
    | cons c r => simp [leadingIntFrom, not_digit_iff, hr c rfl]
  | cons c ds ih =>
    have hc := hd c (List.mem_cons_self _ _)
    have hle := le_foldl_step ds (step x c)
    simp only [List.foldl_cons, step] at hb hle ⊢
    have h1 : ¬x > (1 <<< 63) / 10 := by omega
    have h2 : ¬x * 10 + (c.toNat - 48) > 1 <<< 63 := by omega
    simp only [List.cons_append, leadingIntFrom, not_digit_iff, hc, not_true_eq_false, if_false,
      h1, h2]
    exact ih (fun y hy => hd y (List.mem_cons_of_mem _ hy)) hb

theorem unitEnd_of_digit {c : UInt8} (h : 48 ≤ c.toNat ∧ c.toNat ≤ 57) : unitEnd c = true :=
  decide_eq_true (.inr h)

/-- Each unit of `unitMap` is a run of bytes that end no unit, starting with a
    byte that is neither a digit nor `.`, and it is looked up as itself, as a
    positive number of nanoseconds. -/
theorem unitMap_unit : ∀ p ∈ unitMap, (∀ c ∈ p.1, unitEnd c = false) ∧ p.1 ≠ [] ∧
    (∀ c ∈ p.1.head?, ¬(48 ≤ c.toNat ∧ c.toNat ≤ 57) ∧ c ≠ 46) ∧
    unitMap.lookup p.1 = some p.2 ∧ 0 < p.2 := by
  decide

theorem consumeUnit_unit {u r : List UInt8} {unit : Nat} (hu : (u, unit) ∈ unitMap)
    (hr : ∀ c ∈ r.head?, unitEnd c = true) : consumeUnit (u ++ r) = some (unit, r) := by
  obtain ⟨hend, hne, -, hl, -⟩ := unitMap_unit _ hu
  have ht : (u ++ r).takeWhile (!unitEnd ·) = u := by
    rw [List.takeWhile_append_of_pos (by simpa using hend)]
    cases r with
    | nil => simp
    | cons c r => rw [List.takeWhile_cons_of_neg (by simp [hr c rfl]), List.append_nil]
  simp [consumeUnit, ht, hne, hl]

theorem fraction_of_ne {c : UInt8} (s : List UInt8) (h : c ≠ 46) :
    fraction (c :: s) = (0, .ofNat 1, c :: s, false) := by
  unfold fraction
  split
  · simp_all
  · rfl

/-- A component that is a whole number `n` of a unit reads as `n` times the
    unit, whatever component follows. -/
theorem component_decimal {n unit : Nat} {u r : List UInt8} (hu : (u, unit) ∈ unitMap)
    (hn : n * unit ≤ 1 <<< 63) (hr : ∀ c ∈ r.head?, unitEnd c = true) :
    component (decimal n ++ (u ++ r)) = some (n * unit, r) := by
  obtain ⟨-, hne, hhead, -, hpos⟩ := unitMap_unit _ hu
  obtain ⟨c, u', rfl⟩ := List.exists_cons_of_ne_nil hne
  obtain ⟨hcd, hc⟩ := hhead c rfl
  obtain ⟨d, ds, hds⟩ := List.exists_cons_of_ne_nil (decimal_ne_nil n)
  have hd := unitEnd_of_digit (decimal_digits n d (hds ▸ List.mem_cons_self d ds))
  have hl : leadingInt (decimal n ++ (c :: u' ++ r)) = some (n, c :: u' ++ r) := by
    rw [leadingInt, leadingIntFrom_digits (decimal_digits n) (fun x hx => by cases hx; exact hcd)
      (by rw [foldl_step_decimal]; exact (Nat.le_mul_of_pos_right n hpos).trans hn),
      foldl_step_decimal]
  have hlen : (c :: u' ++ r).length ≠ (decimal n ++ (c :: u' ++ r)).length := by
    rw [List.length_append, hds]; simp; omega
  have hcu := consumeUnit_unit hu hr
  have hv : ¬n > (1 <<< 63) / unit := by
    rw [gt_iff_lt, not_lt, Nat.le_div_iff_mul_le hpos]; exact hn
  unfold component
  rw [hds] at hl hlen ⊢
  simp only [List.cons_append] at hl hlen hcu ⊢
  simp only [hd, Bool.not_true, Bool.false_eq_true, if_false, hl, fraction_of_ne _ hc, hlen,
    false_and, hcu, hv, gt_iff_lt, lt_self_iff_false]

example : component (utf8 "2µs3") = some (2000, utf8 "3") := by decide

/-- The loop of `ParseDuration` over its components, from the sum `d` of those
    read so far, kept as a `uint64`. -/
def parseLoop (d : Nat) (s : List UInt8) : Option Nat :=
  if s = [] then some d
  else match h : component s with
  | none => none
  | some (v, r) =>
    have := component_length h
    let d := (d + v) % (1 <<< 64)
    if d > 1 <<< 63 then none else parseLoop d r
termination_by s.length

theorem parseLoop_nil (d : Nat) : parseLoop d [] = some d := by
  rw [parseLoop]; rfl

/-- The loop's step over a component. -/
theorem parseLoop_of_component {d v : Nat} {s r : List UInt8} (h : component s = some (v, r)) :
    parseLoop d s =
      if (d + v) % (1 <<< 64) > 1 <<< 63 then none else parseLoop ((d + v) % (1 <<< 64)) r := by
  have hs : s ≠ [] := by rintro rfl; cases h
  rw [parseLoop, if_neg hs]
  split
  · simp_all
  · rename_i heq; rw [h] at heq; cases heq; rfl

/-- `time.ParseDuration`: the duration in nanoseconds, or `none` on an error. -/
def parseDuration (orig : List UInt8) : Option Int :=
  let (neg, s) : Bool × List UInt8 := match orig with
    | 45 :: s => (true, s)
    | 43 :: s => (false, s)
    | s => (false, s)
  if s = [48] then some 0
  else if s = [] then none
  else match parseLoop 0 s with
  | none => none
  | some d =>
    if neg then some (-(d : Int))
    else if d > (1 <<< 63) - 1 then none
    else some d

/-- A whole number `n` of a unit reads as `n` times the unit, as long as it is
    within the range of a `Duration`, and with a minus sign as its negation. -/
theorem parseDuration_decimal {n unit : Nat} {u : List UInt8} (hu : (u, unit) ∈ unitMap) :
    (n * unit ≤ (1 <<< 63) - 1 → parseDuration (decimal n ++ u) = some (n * unit)) ∧
    (n * unit ≤ 1 <<< 63 → parseDuration (45 :: (decimal n ++ u)) = some (-(n * unit : Int))) := by
  have hloop (h : n * unit ≤ 1 <<< 63) : parseLoop 0 (decimal n ++ u) = some (n * unit) := by
    have hc := component_decimal hu h (r := []) (by simp)
    rw [List.append_nil] at hc
    rw [parseLoop_of_component hc, Nat.zero_add, Nat.mod_eq_of_lt (by omega), if_neg (by omega),
      parseLoop_nil]
  obtain ⟨c, u', rfl⟩ := List.exists_cons_of_ne_nil (unitMap_unit _ hu).2.1
  obtain ⟨d, ds, hds⟩ := List.exists_cons_of_ne_nil (decimal_ne_nil n)
  have hd := decimal_digits n d (hds ▸ List.mem_cons_self d ds)
  have hd45 : d ≠ 45 := fun h => by subst h; exact absurd hd.1 (by decide)
  have hd43 : d ≠ 43 := fun h => by subst h; exact absurd hd.1 (by decide)
  rw [hds, List.cons_append] at hloop
  refine ⟨fun h => ?_, fun h => ?_⟩
  · have hle : n * unit ≤ 9223372036854775807 := by omega
    simp [parseDuration, hds, hd45, hd43, hloop (by omega), hle]
  · simp [parseDuration, hds, hloop h]

/-- `time.NewTicker`'s check of its interval: a ticker on a non-positive one
    panics with this text. -/
def newTicker (d : Int) : Except String Unit :=
  if d ≤ 0 then .error "non-positive interval for NewTicker" else .ok ()

end Pumpe.Go.Time
