-- SUMMARY: strings.Split on a one-byte separator and strings.TrimSpace over the bytes of a string, with the facts splitTrimString needs: the parts hold no separator, and TrimSpace returns an infix of its input that it leaves as it is.
import Pumpe.Go.Encoding

/-!
# Splitting and trimming

`strings.Split(s, ",")` cuts `s` at every comma and keeps the empty parts; on a
list of bytes it is `List.splitOn`. `strings.TrimSpace` removes the runes that
`unicode.IsSpace` accepts from both ends. It decodes runes: an invalid byte
decodes to `RuneError`, which is no space, and a valid encoding is unique, so
a rune at the front of `s` is a space exactly when `s` starts with one of the
encodings in `spaceRunes`; at the end, `utf8.DecodeLastRune` reads back over
the continuation bytes to the start of the encoding, so the same holds of the
end. `TrimSpace`'s ASCII fast path trims the same runes.

`dropLeading` drops leading words of a list of words one at a time.
`trimSpace` is `dropLeading` at the front and, on the reversed list, at the
end. What `splitTrimString` needs of it holds for any list of words: the result
is an infix of the input (`trimSpace_isInfix`), and trimming it again changes
nothing (`trimSpace_trimSpace`).
-/

namespace Pumpe.Go.Strings

/-- The UTF-8 encodings of the runes `unicode.IsSpace` accepts: `\t`, `\n`,
    `\v`, `\f`, `\r`, space, U+0085, U+00A0, U+1680, U+2000 to U+200A, U+2028,
    U+2029, U+202F, U+205F and U+3000. -/
def spaceRunes : List (List UInt8) :=
  [[9], [10], [11], [12], [13], [32], [0xC2, 0x85], [0xC2, 0xA0], [0xE1, 0x9A, 0x80],
   [0xE2, 0x80, 0x80], [0xE2, 0x80, 0x81], [0xE2, 0x80, 0x82], [0xE2, 0x80, 0x83],
   [0xE2, 0x80, 0x84], [0xE2, 0x80, 0x85], [0xE2, 0x80, 0x86], [0xE2, 0x80, 0x87],
   [0xE2, 0x80, 0x88], [0xE2, 0x80, 0x89], [0xE2, 0x80, 0x8A], [0xE2, 0x80, 0xA8],
   [0xE2, 0x80, 0xA9], [0xE2, 0x80, 0xAF], [0xE2, 0x81, 0x9F], [0xE3, 0x80, 0x80]]

/-- Whether the word `w` may be dropped from the front of `s`. -/
def Leads (s w : List UInt8) : Prop := w ≠ [] ∧ w <+: s

instance (s w : List UInt8) : Decidable (Leads s w) := inferInstanceAs (Decidable (_ ∧ _))

theorem Leads.length_pos {s w : List UInt8} (h : Leads s w) : 0 < w.length :=
  List.length_pos.2 h.1

/-- Drop the words of `ws` from the front of `s`, one at a time, while one leads. -/
def dropLeading (ws : List (List UInt8)) (s : List UInt8) : List UInt8 :=
  match _h : ws.find? (fun w => decide (Leads s w)) with
  | some w => dropLeading ws (s.drop w.length)
  | none => s
termination_by s.length
decreasing_by
  have hw : Leads s w := by simpa using List.find?_some _h
  have := hw.length_pos
  have := hw.2.length_le
  simp only [List.length_drop]
  omega

/-- `TrimLeftFunc(s, unicode.IsSpace)`. -/
def trimLeftSpace (s : List UInt8) : List UInt8 := dropLeading spaceRunes s

/-- `TrimRightFunc(s, unicode.IsSpace)`: the reversed encodings from the front of
    the reversed string. -/
def trimRightSpace (s : List UInt8) : List UInt8 :=
  (dropLeading (spaceRunes.map List.reverse) s.reverse).reverse

/-- `strings.TrimSpace`. -/
def trimSpace (s : List UInt8) : List UInt8 := trimRightSpace (trimLeftSpace s)

-- ---------------------------------------------------------------------------
-- Dropping leading words
-- ---------------------------------------------------------------------------

section DropLeading

variable (ws : List (List UInt8))

/-- No word of `ws` leads `s`. -/
def Bare (s : List UInt8) : Prop := ∀ w ∈ ws, ¬Leads s w

instance (s : List UInt8) : Decidable (Bare ws s) := inferInstanceAs (Decidable (∀ w ∈ ws, _))

theorem dropLeading_of_find {s w : List UInt8} (h : ws.find? (fun w => decide (Leads s w)) = some w) :
    dropLeading ws s = dropLeading ws (s.drop w.length) := by
  rw [dropLeading]; split <;> simp_all

theorem dropLeading_of_bare {s : List UInt8} (h : Bare ws s) : dropLeading ws s = s := by
  rw [dropLeading]; split
  · next w hw => exact absurd (by simpa using List.find?_some hw) (h w (List.mem_of_find?_eq_some hw))
  · rfl

theorem bare_of_find {s : List UInt8} (h : ws.find? (fun w => decide (Leads s w)) = none) :
    Bare ws s := by
  simpa [Bare] using h

/-- A prefix of a bare string is bare: a word leading it would lead the string. -/
theorem Bare.of_isPrefix {s t : List UInt8} (h : Bare ws s) (ht : t <+: s) : Bare ws t :=
  fun w hw hl => h w hw ⟨hl.1, hl.2.trans ht⟩

theorem dropLeading_suffix (s : List UInt8) : dropLeading ws s <:+ s := by
  induction s using dropLeading.induct ws with
  | case1 s w h ih => rw [dropLeading_of_find ws h]; exact ih.trans (List.drop_suffix _ _)
  | case2 s h => exact (dropLeading_of_bare ws (bare_of_find ws h)).symm ▸ List.suffix_refl s

theorem bare_dropLeading (s : List UInt8) : Bare ws (dropLeading ws s) := by
  induction s using dropLeading.induct ws with
  | case1 s w h ih => rwa [dropLeading_of_find ws h]
  | case2 s h => rw [dropLeading_of_bare ws (bare_of_find ws h)]; exact bare_of_find ws h

end DropLeading

-- ---------------------------------------------------------------------------
-- TrimSpace
-- ---------------------------------------------------------------------------

theorem trimRightSpace_isPrefix (s : List UInt8) : trimRightSpace s <+: s := by
  have h := List.reverse_prefix.2 (dropLeading_suffix (spaceRunes.map List.reverse) s.reverse)
  rwa [List.reverse_reverse] at h

theorem trimSpace_isInfix (s : List UInt8) : trimSpace s <:+: s :=
  (trimRightSpace_isPrefix _).isInfix.trans (dropLeading_suffix spaceRunes s).isInfix

/-- Trimming twice trims once: after the front is trimmed, the end is a prefix
    of a string no space leads, and the end of what is left is trimmed. -/
theorem trimSpace_trimSpace (s : List UInt8) : trimSpace (trimSpace s) = trimSpace s := by
  have hz : Bare spaceRunes (trimSpace s) :=
    (bare_dropLeading spaceRunes s).of_isPrefix _ (trimRightSpace_isPrefix _)
  have hr := bare_dropLeading (spaceRunes.map List.reverse) (trimLeftSpace s).reverse
  unfold trimSpace at *
  rw [trimLeftSpace, dropLeading_of_bare _ hz]
  unfold trimRightSpace at *
  rw [List.reverse_reverse, dropLeading_of_bare _ hr]

/-- A string that starts and ends with no space is trimmed. -/
theorem trimSpace_of_bare {s : List UInt8} (h₁ : Bare spaceRunes s)
    (h₂ : Bare (spaceRunes.map List.reverse) s.reverse) : trimSpace s = s := by
  rw [trimSpace, trimLeftSpace, dropLeading_of_bare _ h₁, trimRightSpace,
    dropLeading_of_bare _ h₂, List.reverse_reverse]

theorem trimSpace_nil : trimSpace [] = [] := by
  have h := (trimSpace_isInfix []).length_le
  simpa using h

-- ---------------------------------------------------------------------------
-- Split
-- ---------------------------------------------------------------------------

/-- The parts of `strings.Split` hold no separator. -/
theorem not_mem_of_mem_splitOn (sep : UInt8) {s p : List UInt8} (hp : p ∈ s.splitOn sep) :
    sep ∉ p := by
  induction s generalizing p with
  | nil => simp at hp; simp [hp]
  | cons x s ih =>
    simp only [List.splitOn, List.splitOnP_cons] at hp ih
    split_ifs at hp with hx
    · rcases List.mem_cons.1 hp with rfl | hp
      · simp
      · exact ih hp
    · obtain ⟨h, t, ht⟩ := List.exists_cons_of_ne_nil (List.splitOnP_ne_nil (· == sep) s)
      rw [ht] at hp ih
      rcases List.mem_cons.1 hp with rfl | hp
      · simp only [beq_iff_eq] at hx
        simp only [List.mem_cons, not_or]
        exact ⟨fun e => hx e.symm, ih (List.mem_cons_self _ _)⟩
      · exact ih (List.mem_cons_of_mem _ hp)

end Pumpe.Go.Strings
