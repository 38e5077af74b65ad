import ReachMixture.Text.Blank
import ReachMixture.Text.Pieces

/-!
# Pieces of a text

Cutting a text at a character is the library's `List.splitOn`, and what is known
of that holds for pieces. Blanks around a piece that has none itself are trimmed
away and nothing else is.

- `pieces_eq_splitOn`: pieces are those between occurrences of a character.
- `length_pieces`: there is one piece more than there are cuts.
- `trim_append`: trimming gives back what blanks were put around.
- `takeWhile_append_of_span`, `append_inj_of_span`: texts that end where their
  characters end.
-/

namespace ReachMixture.Text

theorem pieces_eq_splitOn (mark : Char) (s : List Char) :
    pieces mark s = s.splitOn mark := by
  induction s with
  | nil => rfl
  | cons c rest ih =>
    rw [List.splitOn_cons_eq_if_modifyHead, pieces, ih]
    by_cases hc : c = mark
    · rw [if_pos hc, if_pos (beq_iff_eq.mpr hc)]
    · rw [if_neg hc, if_neg (mt beq_iff_eq.mp hc)]
      obtain ⟨piece, others, hpieces⟩ :=
        List.exists_cons_of_ne_nil (List.splitOn_ne_nil mark rest)
      rw [hpieces]
      rfl

theorem length_pieces (mark : Char) (s : List Char) :
    (pieces mark s).length = s.count mark + 1 := by
  induction s with
  | nil => rfl
  | cons c rest ih =>
    rw [List.count_cons, pieces]
    by_cases hc : c = mark
    · rw [if_pos hc, if_pos (beq_iff_eq.mpr hc), List.length_cons, ih]
    · rw [if_neg hc, if_neg (mt beq_iff_eq.mp hc), Nat.add_zero, ← ih]
      cases hpieces : pieces mark rest with
      | nil =>
        rw [hpieces] at ih
        cases ih
      | cons piece others => rfl

/-! ## Blanks around a text -/

variable {front behind s : List Char}

theorem trimStart_append (hfront : ∀ c ∈ front, isBlank c = true) (rest : List Char) :
    trimStart (front ++ rest) = trimStart rest :=
  List.dropWhile_append_of_pos hfront

theorem trimStart_eq_self (h : ∀ c ∈ s, isBlank c = false) : trimStart s = s := by
  cases s with
  | nil => rfl
  | cons c rest =>
    rw [trimStart, List.dropWhile_cons_of_neg]
    rw [h c List.mem_cons_self]
    exact Bool.false_ne_true

/-- `trimStart` stops at the first character of a nonempty `s` without blanks. -/
theorem trimStart_append_self (hne : s ≠ []) (h : ∀ c ∈ s, isBlank c = false)
    (rest : List Char) :
    trimStart (s ++ rest) = s ++ rest := by
  obtain ⟨c, s, rfl⟩ := List.exists_cons_of_ne_nil hne
  rw [trimStart, List.cons_append, List.dropWhile_cons_of_neg]
  rw [h c List.mem_cons_self]
  exact Bool.false_ne_true

/-- `trimEnd` takes away the blanks behind, as `trimStart` does those in front
of the reverse. -/
theorem trimEnd_append (h : ∀ c ∈ s, isBlank c = false)
    (hbehind : ∀ c ∈ behind, isBlank c = true) :
    trimEnd (s ++ behind) = s := by
  have hreverse : ∀ c ∈ s.reverse, isBlank c = false :=
    fun c hc => h c (List.mem_reverse.mp hc)
  have hblank : ∀ c ∈ behind.reverse, isBlank c = true :=
    fun c hc => hbehind c (List.mem_reverse.mp hc)
  rw [trimEnd, List.reverse_append]
  change (trimStart (behind.reverse ++ s.reverse)).reverse = s
  rw [trimStart_append hblank, trimStart_eq_self hreverse, List.reverse_reverse]

/-- **Trimming takes away the blanks around a text** that has none itself. -/
theorem trim_append (hfront : ∀ c ∈ front, isBlank c = true) (hne : s ≠ [])
    (h : ∀ c ∈ s, isBlank c = false) (hbehind : ∀ c ∈ behind, isBlank c = true) :
    trim (front ++ (s ++ behind)) = s := by
  rw [trim, trimStart_append hfront, trimStart_append_self hne h,
    trimEnd_append h hbehind]

/-! ## Texts that end with their characters -/

variable {p : Char → Bool} {a b r r' : List Char}

theorem takeWhile_append_of_span (ha : ∀ c ∈ a, p c = true)
    (hr : ∀ c ∈ r.head?, p c = false) :
    (a ++ r).takeWhile p = a := by
  rw [List.takeWhile_append_of_pos ha]
  cases r with
  | nil => rw [List.takeWhile_nil, List.append_nil]
  | cons c r =>
    rw [List.takeWhile_cons_of_neg (Bool.eq_false_iff.mp (hr c rfl)), List.append_nil]

theorem dropWhile_append_of_span (ha : ∀ c ∈ a, p c = true)
    (hr : ∀ c ∈ r.head?, p c = false) :
    (a ++ r).dropWhile p = r := by
  rw [List.dropWhile_append_of_pos ha]
  cases r with
  | nil => rfl
  | cons c r => rw [List.dropWhile_cons_of_neg (Bool.eq_false_iff.mp (hr c rfl))]

/-- Two runs of characters with `p`, each followed by one without, end at the
same place. -/
theorem append_inj_of_span (ha : ∀ c ∈ a, p c = true) (hb : ∀ c ∈ b, p c = true)
    (hr : ∀ c ∈ r.head?, p c = false) (hr' : ∀ c ∈ r'.head?, p c = false)
    (h : a ++ r = b ++ r') : a = b ∧ r = r' := by
  constructor
  · rw [← takeWhile_append_of_span ha hr, h, takeWhile_append_of_span hb hr']
  · rw [← dropWhile_append_of_span ha hr, h, dropWhile_append_of_span hb hr']

end ReachMixture.Text
