import ReachMixture.NumberText
import ReachMixture.Proofs.Decimal.Digits
import ReachMixture.Text.Blank

/-!
# The characters of numbers

Numbers are written in digits, with signs, a point and the mark of an exponent,
or in one of a few words. None of these characters separates anything in a text:
there are no blanks among them, no commas, line breaks, quotes or brackets.

- `isNumeric`: the characters that numbers are written in.
- `IsNumeral`: texts that consist of them, and of at least one.
- `isNumeral_fixed`, `isNumeral_write`: every number is written in such a text,
  whatever its value.
- `HasMark`, `hasMark_write`: values of documents are never written in digits
  alone.
-/

namespace ReachMixture.Decimal

/-- The characters that `textOf` and the layouts write numbers in. -/
def isNumeric (c : Char) : Bool :=
  c.isDigit || c ∈ ['-', '+', '.', 'e', 'N', 'a', 'i', 'n', 'f']

/-- A nonempty text of `isNumeric` characters. -/
structure IsNumeral (cs : List Char) : Prop where
  ne_nil : cs ≠ []
  numeric : ∀ c ∈ cs, isNumeric c = true

namespace IsNumeral

variable {cs ds : List Char}

theorem not_mem (h : IsNumeral cs) {c : Char} (hc : isNumeric c = false) : c ∉ cs :=
  fun hmem => Bool.false_ne_true (hc.symm.trans (h.numeric c hmem))

theorem append (h : IsNumeral cs) (hds : ∀ c ∈ ds, isNumeric c = true) :
    IsNumeral (cs ++ ds) where
  ne_nil := List.append_ne_nil_of_left_ne_nil h.ne_nil ds
  numeric := List.forall_mem_append.mpr ⟨h.numeric, hds⟩

theorem prepend (h : IsNumeral cs) (hds : ∀ c ∈ ds, isNumeric c = true) :
    IsNumeral (ds ++ cs) where
  ne_nil := List.append_ne_nil_of_right_ne_nil ds h.ne_nil
  numeric := List.forall_mem_append.mpr ⟨hds, h.numeric⟩

theorem cons (h : IsNumeral cs) {c : Char} (hc : isNumeric c = true) :
    IsNumeral (c :: cs) where
  ne_nil := List.cons_ne_nil c cs
  numeric := List.forall_mem_cons.mpr ⟨hc, h.numeric⟩

theorem signed (h : IsNumeral cs) (negative : Bool) : IsNumeral (signed negative cs) := by
  cases negative with
  | false => exact h
  | true => exact h.cons rfl

end IsNumeral

/-- No `isNumeric` character is blank, so `Text.trim` leaves numbers alone. -/
theorem isBlank_of_isNumeric {c : Char} (h : isNumeric c = true) :
    Text.isBlank c = false := by
  have hmarks : ['-', '+', '.', 'e', 'N', 'a', 'i', 'n', 'f'].all
      (fun c => !Text.isBlank c) = true := rfl
  rw [isNumeric, Bool.or_eq_true, decide_eq_true_iff] at h
  rcases h with hdigit | hmark
  · have hrange := Char.isDigit_iff_toNat.mp hdigit
    simp only [Char.reduceToNat] at hrange
    simp only [Text.isBlank, Bool.or_eq_false_iff, Bool.and_eq_false_iff,
      decide_eq_false_iff_not, beq_eq_false_iff_ne]
    omega
  · exact (Bool.not_eq_true' _).mp (List.all_eq_true.mp hmarks c hmark)

theorem isNumeric_replicate {n : Nat} {c : Char} (h : c ∈ List.replicate n '0') :
    isNumeric c = true := by
  rw [List.eq_of_mem_replicate h]
  rfl

theorem isNumeral_digitText (n : Nat) : IsNumeral (digitText n) where
  ne_nil := digitText_ne_nil n
  numeric c hc := by
    rw [isNumeric, isDigit_of_mem_digitText hc, Bool.true_or]

theorem isNumeral_toString (n : Nat) : IsNumeral (toString n).toList := by
  rw [toList_toString]
  exact isNumeral_digitText n

theorem isNumeral_paddedDigits (width n : Nat) : IsNumeral (paddedDigits width n) :=
  (isNumeral_digitText n).prepend fun _ => isNumeric_replicate

theorem isNumeral_fixedDigits (places : Nat) (b : Binary) :
    IsNumeral (fixedDigits places b) := by
  rw [fixedDigits]
  split
  · exact isNumeral_digitText _
  · exact (isNumeral_digitText _).append ((isNumeral_paddedDigits _ _).cons rfl).numeric

/-- `pointed` keeps digits an `IsNumeral`. -/
theorem IsNumeral.pointed {cs : List Char} (h : IsNumeral cs) :
    IsNumeral (pointed cs) := by
  obtain ⟨hne, hnumeric⟩ := h
  rcases cs with _ | ⟨d, _ | ⟨c, rest⟩⟩
  · exact absurd rfl hne
  · exact ⟨hne, hnumeric⟩
  · obtain ⟨hd, hrest⟩ := List.forall_mem_cons.mp hnumeric
    have htail : IsNumeral (c :: rest) := ⟨List.cons_ne_nil c rest, hrest⟩
    exact (htail.cons (c := '.') rfl).cons hd

theorem isNumeral_exponential {digits : List Char}
    (h : IsNumeral digits) (leading : Int) :
    IsNumeral (Layout.exponential digits leading) := by
  refine h.pointed.append
    (((isNumeral_digitText leading.natAbs).cons ?_).cons rfl).numeric
  split <;> rfl

theorem isNumeral_positional (l : Layout) {digits : List Char}
    (h : IsNumeral digits) (exponent : Int) :
    IsNumeral (l.positional digits exponent) := by
  rw [Layout.positional]
  split
  · refine (h.append fun _ => isNumeric_replicate).append fun c hc => ?_
    have hpointZero : ['.', '0'].all isNumeric = true := rfl
    split at hc
    · exact List.all_eq_true.mp hpointZero c hc
    · exact absurd hc List.not_mem_nil
  · dsimp only
    split
    · -- the digits are cut in two, and the point stands between them
      have htaken : ∀ c ∈ digits.take (digits.length - (-exponent).toNat),
          isNumeric c = true :=
        fun c hc => h.numeric c (List.mem_of_mem_take hc)
      refine IsNumeral.prepend
        ⟨List.cons_ne_nil _ _, List.forall_mem_cons.mpr ⟨rfl, fun c hc => ?_⟩⟩ htaken
      exact h.numeric c (List.mem_of_mem_drop hc)
    · exact ((h.prepend fun _ => isNumeric_replicate).cons rfl).cons rfl

theorem isNumeral_finite (l : Layout) (b : Binary) : IsNumeral (l.finite b) := by
  rw [Layout.finite]
  split
  · exact isNumeral_positional l (isNumeral_digitText _) _
  · exact isNumeral_exponential (isNumeral_digitText _) _

/-! ## Texts of numbers -/

/-- **Texts of numbers are numerals**: `textOf` gives an `IsNumeral` if `finite`
does. `NaN` and `inf` are among them. -/
theorem isNumeral_textOf (x : Float) {finite : Binary → List Char}
    (h : ∀ b, IsNumeral (finite b)) :
    IsNumeral (textOf x finite).toList := by
  rw [textOf]
  split
  · exact ⟨by decide, List.all_eq_true.mp rfl⟩
  · rw [String.toList_ofList]
    exact IsNumeral.signed ⟨by decide, List.all_eq_true.mp rfl⟩ _
  · rw [String.toList_ofList]
    exact (h _).signed _

theorem isNumeral_fixed (places : Nat) (x : Float) :
    IsNumeral (NumberText.fixed places x).toList :=
  isNumeral_textOf x (isNumeral_fixedDigits places)

theorem isNumeral_write (l : Layout) (x : Float) : IsNumeral (l.write x).toList :=
  isNumeral_textOf x (isNumeral_finite l)

/-! ## Values of documents -/

/-- Some character is no digit, so the text is not that of a natural number. -/
def HasMark (cs : List Char) : Prop := ∃ c ∈ cs, c.isDigit = false

theorem HasMark.append_right {cs : List Char} (h : HasMark cs) (ds : List Char) :
    HasMark (ds ++ cs) := by
  obtain ⟨c, hc, hmark⟩ := h
  exact ⟨c, List.mem_append_right ds hc, hmark⟩

theorem hasMark_cons {c : Char} (h : c.isDigit = false) (cs : List Char) :
    HasMark (c :: cs) :=
  ⟨c, List.mem_cons_self, h⟩

/-- A layout with `pointZero` writes nothing in digits alone: a point or an
exponent is always there. -/
theorem Layout.hasMark_finite {l : Layout} (h : l.pointZero = true) (b : Binary) :
    HasMark (l.finite b) := by
  rw [Layout.finite]
  split
  · rw [Layout.positional]
    split
    · exact (hasMark_cons rfl _).append_right _
    · dsimp only
      split
      · exact (hasMark_cons rfl _).append_right _
      · exact (hasMark_cons rfl _).append_right ['0']
  · exact (hasMark_cons rfl _).append_right _

theorem HasMark.signed {cs : List Char} (h : HasMark cs) (negative : Bool) :
    HasMark (signed negative cs) := by
  cases negative with
  | false => exact h
  | true => exact hasMark_cons rfl cs

theorem hasMark_write {l : Layout} (h : l.pointZero = true) (x : Float) :
    HasMark (l.write x).toList := by
  rw [Layout.write, textOf]
  split
  · exact ⟨'N', by decide, rfl⟩
  · rw [String.toList_ofList]
    exact (hasMark_cons rfl _).signed _
  · rw [String.toList_ofList]
    exact (Layout.hasMark_finite h _).signed _

end ReachMixture.Decimal
