-- SUMMARY: The keyed set `model.Set` as a list of entries with distinct keys, its operations, and the index walk of `Random`.
import Mathlib.Data.List.Nodup

/-!
# The keyed set `model.Set`

`model.Set[K, V]` (`model/model.go`) is a Go map under a read-write mutex. Every
method holds the lock for its whole body, so a call is one atomic step and the
map is modelled as a value. A Go map has no order: it is the list of its entries,
keys distinct, and a `range` loop over it walks some permutation of that list,
which the caller of `random` chooses.
-/

namespace Pumpe.Model

/-- `Set[K, V]`: the entries of the map. Keys are distinct. -/
structure Set (K V : Type) where
  entries : List (K × V)
  nodup : (entries.map Prod.fst).Nodup

namespace Set

variable {K V : Type}

/-- `NewSetSize`: the empty map; the size is a capacity hint only. -/
def empty : Set K V := ⟨[], List.nodup_nil⟩

/-- `Len`. -/
def len (s : Set K V) : Nat := s.entries.length

/-- `Keys`, in the stored order. -/
def keys (s : Set K V) : List K := s.entries.map Prod.fst

/-- `Values`, in the stored order. -/
def values (s : Set K V) : List V := s.entries.map Prod.snd

theorem nodup_filter (s : Set K V) (p : K × V → Bool) :
    ((s.entries.filter p).map Prod.fst).Nodup :=
  s.nodup.sublist ((List.filter_sublist _).map _)

@[simp] theorem entries_empty : (empty : Set K V).entries = [] := rfl

/-- Two entries with one key are the same entry. -/
theorem eq_of_mem_of_mem {s : Set K V} {k : K} {v w : V}
    (hv : (k, v) ∈ s.entries) (hw : (k, w) ∈ s.entries) : v = w := by
  have := List.inj_on_of_nodup_map s.nodup hv hw rfl
  simp_all

-- ---------------------------------------------------------------------------
-- Random
-- ---------------------------------------------------------------------------

/-- The loop of `Random` over the entries in one iteration order: the entry at
    which `lim` has counted down to zero. `none` is the fall-through after the
    loop, the return marked unreachable in the source. -/
def randomLoop : List (K × V) → Nat → Option V
  | [], _ => none
  | e :: rest, lim => if lim = 0 then some e.2 else randomLoop rest (lim - 1)

/-- `Random`, with the map iterated in `order` and `lim = rand.IntN(n)`. The Go
    result `(v, ok)` is a pair; `default` is the zero value of `V`. -/
def random [Inhabited V] (s : Set K V) (order : List (K × V)) (lim : Nat) : V × Bool :=
  if s.len = 0 then (default, false)
  else
    match randomLoop order lim with
    | some v => (v, true)
    | none => (default, false)

/-- The loop returns the value of the entry at position `lim` of the order. -/
theorem randomLoop_get (order : List (K × V)) (r : Fin order.length) :
    randomLoop order r = some (order.get r).2 := by
  induction order with
  | nil => exact r.elim0
  | cons e rest ih =>
    match r with
    | ⟨0, _⟩ => simp [randomLoop]
    | ⟨r + 1, hr⟩ =>
      simpa [randomLoop] using ih ⟨r, Nat.lt_of_succ_lt_succ hr⟩

/-- On a non-empty map, a draw in range returns the value of the entry at that
    position of the order, and `true`. -/
theorem random_get [Inhabited V] (s : Set K V) (order : List (K × V)) (r : Fin order.length)
    (hlen : order.length = s.len) : s.random order r = ((order.get r).2, true) := by
  have hne : s.len ≠ 0 := by have := r.isLt; omega
  simp [random, hne, randomLoop_get]

/-- On the stored order, a draw in `[0, Len)` returns the value of a stored entry. -/
theorem random_mem [Inhabited V] (s : Set K V) {lim : Nat} (h : lim < s.len) :
    ∃ k, (k, (s.random s.entries lim).1) ∈ s.entries := by
  rw [random_get s s.entries ⟨lim, h⟩ rfl]
  exact ⟨_, List.get_mem _ _ _⟩

/-- The `Random` law: over every iteration order of a non-empty map, each
    `r ∈ [0, n)` makes the loop return the value of the `r`-th entry of that order,
    so the fall-through is never reached; positions and entries are in bijection,
    so `r = rand.IntN(n)` hits each entry for exactly one `r`; and the empty map
    answers `(zero value, false)`. -/
theorem random_uniform [Inhabited V] (s : Set K V) (order : List (K × V))
    (hperm : order.Perm s.entries) :
    order.length = s.len ∧
    (∀ r : Fin order.length,
      randomLoop order r = some (order.get r).2 ∧ s.random order r = ((order.get r).2, true)) ∧
    Function.Injective order.get ∧
    (∀ e ∈ s.entries, ∃! r : Fin order.length, order.get r = e) ∧
    (s.len = 0 → ∀ r, s.random order r = (default, false)) := by
  have hlen : order.length = s.len := hperm.length_eq
  have hnodup : order.Nodup := hperm.nodup_iff.2 (List.Nodup.of_map Prod.fst s.nodup)
  have hinj : Function.Injective order.get := List.nodup_iff_injective_get.1 hnodup
  refine ⟨hlen, fun r => ⟨randomLoop_get order r, random_get s order r hlen⟩, hinj,
    fun e he => ?_, fun h r => by simp [random, h]⟩
  obtain ⟨r, hr⟩ := List.mem_iff_get.1 (hperm.mem_iff.2 he)
  exact ⟨r, hr, fun r' hr' => hinj (hr'.trans hr.symm)⟩

/-- A map of two entries, walked in the reverse of its stored order. -/
def pair : Set Nat Nat := ⟨[(1, 10), (2, 20)], by decide⟩

theorem random_uniform_pair :
    [(2, 20), (1, 10)].Perm pair.entries ∧ pair.random [(2, 20), (1, 10)] 0 = (20, true) :=
  ⟨by decide, ((random_uniform pair [(2, 20), (1, 10)] (by decide)).2.1 ⟨0, by decide⟩).2⟩

-- ---------------------------------------------------------------------------
-- Updates
-- ---------------------------------------------------------------------------

variable [DecidableEq K]

/-- `Get`: the value stored under `k`, if any. -/
def get (s : Set K V) (k : K) : Option V := (s.entries.find? (·.1 = k)).map Prod.snd

/-- `Remove`: `delete(s.set, k)`. -/
def remove (s : Set K V) (k : K) : Set K V :=
  ⟨s.entries.filter (·.1 ≠ k), s.nodup_filter _⟩

theorem nodup_cons_remove (s : Set K V) (k : K) (v : V) :
    (((k, v) :: (s.remove k).entries).map Prod.fst).Nodup := by
  refine List.nodup_cons.2 ⟨?_, (s.remove k).nodup⟩
  simp [remove]

/-- `Set`: `s.set[k] = v`, replacing the entry stored under `k`. -/
def set (s : Set K V) (k : K) (v : V) : Set K V :=
  ⟨(k, v) :: (s.remove k).entries, s.nodup_cons_remove k v⟩

@[simp] theorem entries_remove (s : Set K V) (k : K) :
    (s.remove k).entries = s.entries.filter (·.1 ≠ k) := rfl

@[simp] theorem entries_set (s : Set K V) (k : K) (v : V) :
    (s.set k v).entries = (k, v) :: s.entries.filter (·.1 ≠ k) := rfl

theorem mem_set {s : Set K V} {k k' : K} {v v' : V} :
    (k', v') ∈ (s.set k v).entries ↔ (k' = k ∧ v' = v) ∨ ((k', v') ∈ s.entries ∧ k' ≠ k) := by
  simp [and_comm]

@[simp] theorem mem_keys_remove {s : Set K V} {k k' : K} :
    k' ∈ (s.remove k).keys ↔ k' ∈ s.keys ∧ k' ≠ k := by
  simp [keys, and_comm]

@[simp] theorem mem_keys_set {s : Set K V} {k k' : K} {v : V} :
    k' ∈ (s.set k v).keys ↔ k' = k ∨ k' ∈ s.keys := by
  by_cases h : k' = k <;> simp [keys, h]

theorem get_eq_some_iff {s : Set K V} {k : K} {v : V} :
    s.get k = some v ↔ (k, v) ∈ s.entries := by
  constructor
  · intro h
    obtain ⟨e, he, rfl⟩ := Option.map_eq_some'.1 h
    have hk := List.find?_some he
    simp only [decide_eq_true_eq] at hk
    exact hk ▸ List.mem_of_find?_eq_some he
  · intro h
    have hfind : (s.entries.find? (·.1 = k)).isSome := List.find?_isSome.2 ⟨_, h, by simp⟩
    obtain ⟨e, he⟩ := Option.isSome_iff_exists.1 hfind
    have hk : e.1 = k := by simpa using List.find?_some he
    have hmem := List.mem_of_find?_eq_some he
    obtain ⟨k', w⟩ := e
    simp only at hk
    subst hk
    simp [get, he, eq_of_mem_of_mem hmem h]

theorem get_eq_none_iff {s : Set K V} {k : K} :
    s.get k = none ↔ ∀ v, (k, v) ∉ s.entries := by
  simp only [get, Option.map_eq_none', List.find?_eq_none, decide_eq_true_eq]
  exact ⟨fun h v hv => h _ hv rfl, fun h e he hk => h e.2 (hk ▸ he)⟩

end Set

end Pumpe.Model
