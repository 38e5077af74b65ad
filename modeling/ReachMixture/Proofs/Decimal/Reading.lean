import ReachMixture.Proofs.Decimal.Digits
import ReachMixture.Proofs.Decimal.Interval
import ReachMixture.Proofs.Text.Pieces

/-!
# Reading what was written

The shortest decimal of a value may be set down with zeros at its end or at its
front, with a point in one of many places, and with an exponent. All these texts
are read as one number: the digits may differ by zeros at the end, and then the
exponent makes up for them.

- `splitPoint_point`, `splitPoint_whole`: where the parts of a number end.
- `Size.read_eq`: what begins with a digit is read by its parts.
- `exists_read_positional`, `read_exponential`: both ways of writing are read.
-/

namespace ReachMixture.Decimal

/-- Every character is a digit. -/
def IsDigits (cs : List Char) : Prop := ∀ c ∈ cs, c.isDigit = true

theorem isDigits_digitText (n : ℕ) : IsDigits (digitText n) :=
  fun _ => isDigit_of_mem_digitText

theorem isDigits_zeros (n : ℕ) : IsDigits (List.replicate n '0') := by
  intro c hc
  rw [List.eq_of_mem_replicate hc]
  rfl

theorem IsDigits.append {cs ds : List Char} (hcs : IsDigits cs) (hds : IsDigits ds) :
    IsDigits (cs ++ ds) :=
  List.forall_mem_append.mpr ⟨hcs, hds⟩

/-! ## The parts of a number -/

variable {whole fraction rest : List Char}

theorem splitPoint_point (hwhole : IsDigits whole) (hfraction : IsDigits fraction)
    (hrest : ∀ c ∈ rest.head?, c.isDigit = false) :
    splitPoint (whole ++ '.' :: (fraction ++ rest)) = (whole, fraction, rest) := by
  have hpoint : ∀ c ∈ ('.' :: (fraction ++ rest)).head?, c.isDigit = false := by
    rintro c ⟨⟩
    rfl
  rw [splitPoint, Text.takeWhile_append_of_span hwhole hpoint,
    Text.dropWhile_append_of_span hwhole hpoint]
  show (whole, (fraction ++ rest).takeWhile Char.isDigit,
    (fraction ++ rest).dropWhile Char.isDigit) = _
  rw [Text.takeWhile_append_of_span hfraction hrest,
    Text.dropWhile_append_of_span hfraction hrest]

/-- `splitPoint` of digits that end the text or are followed by `e`. -/
theorem splitPoint_whole (hwhole : IsDigits whole)
    (hrest : rest = [] ∨ ∃ cs, rest = 'e' :: cs) :
    splitPoint (whole ++ rest) = (whole, [], rest) := by
  rcases hrest with rfl | ⟨cs, rfl⟩
  · have hend : ∀ c ∈ ([] : List Char).head?, c.isDigit = false := by
      rintro c ⟨⟩
    rw [splitPoint, Text.takeWhile_append_of_span hwhole hend,
      Text.dropWhile_append_of_span hwhole hend]
  · have hmark : ∀ c ∈ ('e' :: cs).head?, c.isDigit = false := by
      rintro c ⟨⟩
      rfl
    rw [splitPoint, Text.takeWhile_append_of_span hwhole hmark,
      Text.dropWhile_append_of_span hwhole hmark]
    rfl

/-- Digits have no case, so `Size.read?` does not change them. -/
theorem toLower_of_isDigit {c : Char} (h : c.isDigit = true) : c.toLower = c := by
  have hrange := Char.isDigit_iff_toNat.mp h
  rw [Char.toLower, dif_neg]
  rintro ⟨hupper, -⟩
  have hle : 65 ≤ c.toNat := UInt32.le_iff_toNat_le.mp hupper
  simp only [Char.reduceToNat] at hrange
  omega

/-- A text that begins with a digit is neither `inf` nor `nan`, so `Size.read?`
reads it by its parts. -/
theorem Size.read_eq {text tail : List Char} (hne : whole ≠ [])
    (hwhole : IsDigits whole) (htext : text = whole ++ tail)
    (hsplit : splitPoint text = (whole, fraction, rest)) :
    Size.read? text = (exponent? rest).map fun e =>
      .finite (digitsValue (whole ++ fraction)) (e - fraction.length) := by
  have hword : ∀ word : String, (∀ c ∈ word.toList.head?, c.isDigit = false) →
      String.ofList (text.map Char.toLower) ≠ word := by
    rintro word hhead rfl
    obtain ⟨d, whole, rfl⟩ := List.exists_cons_of_ne_nil hne
    have hd := hwhole d List.mem_cons_self
    rw [String.toList_ofList, htext] at hhead
    have hdigit := hhead d.toLower rfl
    rw [toLower_of_isDigit hd, hd] at hdigit
    cases hdigit
  rw [Size.read?]
  dsimp only
  rw [if_neg, if_neg (hword "nan" (by rintro c ⟨⟩; rfl)), hsplit]
  · dsimp only
    rw [if_neg]
    rw [List.isEmpty_eq_false_iff.mpr hne]
    exact Bool.false_ne_true
  · rintro (hinf | hinf)
    · exact hword "inf" (by rintro c ⟨⟩; rfl) hinf
    · exact hword "infinity" (by rintro c ⟨⟩; rfl) hinf

/-! ## Exponents -/

theorem le_ofDigitChars (digits : List Char) (init : ℕ) :
    init ≤ Nat.ofDigitChars 10 digits init := by
  rw [Nat.ofDigitChars_eq_ofDigitChars_zero]
  exact (Nat.le_mul_of_pos_left _ (Nat.pow_pos (by decide))).trans (Nat.le_add_right _ _)

/-- `exponentValue` is exact below `65536`. -/
theorem exponentValue_eq {digits : List Char} (h : Nat.ofDigitChars 10 digits 0 < 65536) :
    exponentValue digits = Nat.ofDigitChars 10 digits 0 := by
  have hfold : ∀ (digits : List Char) (init : ℕ),
      Nat.ofDigitChars 10 digits init < 65536 →
      digits.foldl (fun n c => if n < 65536 then 10 * n + digitValue c else n) init =
        Nat.ofDigitChars 10 digits init := by
    intro digits
    induction digits with
    | nil => exact fun init _ => Nat.ofDigitChars_nil.symm
    | cons c digits ih =>
      intro init hlt
      rw [Nat.ofDigitChars_cons] at hlt ⊢
      -- the number of the digits so far is not larger than that of all of them
      have hinit : init < 65536 := by
        have hle := le_ofDigitChars digits (10 * init + (c.toNat - '0'.toNat))
        omega
      rw [List.foldl_cons, if_pos hinit]
      exact ih _ hlt
  exact hfold digits 0 h

theorem exponent_eq {e : ℤ} (h : e.natAbs < 65536) :
    exponent? ('e' :: (if e < 0 then '-' else '+') :: digitText e.natAbs) = some e := by
  have hvalue : exponentValue (digitText e.natAbs) = e.natAbs := by
    have hdigits : Nat.ofDigitChars 10 (digitText e.natAbs) 0 = e.natAbs :=
      Nat.ofDigitChars_ten_toDigits
    rw [exponentValue_eq (hdigits.trans_lt h), hdigits]
  have hdigits : (digitText e.natAbs).all Char.isDigit = true :=
    List.all_eq_true.mpr (isDigits_digitText _)
  have hne := List.isEmpty_eq_false_iff.mpr (digitText_ne_nil e.natAbs)
  by_cases hneg : e < 0
  · have hsign : splitSign ('-' :: digitText e.natAbs) = (true, digitText e.natAbs) := rfl
    rw [if_pos hneg, exponent?, if_pos (.inl rfl), hsign]
    dsimp only
    rw [hdigits, hne, hvalue]
    show some (-(e.natAbs : ℤ)) = some e
    exact congrArg some (by omega)
  · have hsign : splitSign ('+' :: digitText e.natAbs) =
        (false, digitText e.natAbs) := rfl
    rw [if_neg hneg, exponent?, if_pos (.inl rfl), hsign]
    dsimp only
    rw [hdigits, hne, hvalue]
    show some (e.natAbs : ℤ) = some e
    exact congrArg some (by omega)

/-! ## Digits with a point -/

theorem digitsValue_append_zeros (n k : ℕ) :
    digitsValue (digitText n ++ List.replicate k '0') = n * 10 ^ k := by
  rw [digitsValue_eq, ofDigitChars_join, Nat.ofDigitChars_replicate_zero,
    List.length_replicate, Nat.mul_zero, Nat.add_zero, ← digitsValue_eq,
    digitsValue_digitText, Nat.pow_eq]

theorem digitsValue_zeros_append (n k : ℕ) :
    digitsValue (List.replicate k '0' ++ digitText n) = n := by
  rw [digitsValue_eq, ofDigitChars_join, Nat.ofDigitChars_replicate_zero, Nat.mul_zero,
    Nat.zero_mul, Nat.zero_add, ← digitsValue_eq, digitsValue_digitText]

theorem read_point (hne : whole ≠ []) (hwhole : IsDigits whole)
    (hfraction : IsDigits fraction) :
    Size.read? (whole ++ '.' :: fraction) =
      some (.finite (digitsValue (whole ++ fraction)) (-fraction.length)) := by
  have hsplit : splitPoint (whole ++ '.' :: (fraction ++ [])) = (whole, fraction, []) :=
    splitPoint_point hwhole hfraction (by rintro c ⟨⟩)
  rw [List.append_nil] at hsplit
  rw [Size.read_eq hne hwhole rfl hsplit]
  show some (Size.finite _ (0 - (fraction.length : ℤ))) = _
  rw [zero_sub]

theorem read_whole (hne : whole ≠ []) (hwhole : IsDigits whole) :
    Size.read? whole = some (.finite (digitsValue whole) 0) := by
  have hsplit : splitPoint (whole ++ []) = (whole, [], []) :=
    splitPoint_whole hwhole (.inl rfl)
  rw [List.append_nil] at hsplit
  rw [Size.read_eq hne hwhole (List.append_nil whole).symm hsplit, List.append_nil]
  rfl

theorem read_zeros (n k : ℕ) :
    Size.read? (digitText n ++ List.replicate k '0') = some (.finite (n * 10 ^ k) 0) := by
  rw [read_whole (List.append_ne_nil_of_left_ne_nil (digitText_ne_nil n) _)
    ((isDigits_digitText n).append (isDigits_zeros k)), digitsValue_append_zeros]

theorem read_zeros_point (n k : ℕ) :
    Size.read? (digitText n ++ List.replicate k '0' ++ ['.', '0']) =
      some (.finite (n * 10 ^ (k + 1)) (-1)) := by
  have hread := read_point (List.append_ne_nil_of_left_ne_nil (digitText_ne_nil n) _)
    ((isDigits_digitText n).append (isDigits_zeros k)) (isDigits_zeros 1)
  rw [List.append_assoc (digitText n) _ (List.replicate 1 '0'),
    List.replicate_append_replicate, digitsValue_append_zeros] at hread
  exact hread

/-- `n` with a point before its last `places` digits is read as
`n * 10 ^ (-places)`. -/
theorem read_cut (n : ℕ) {places : ℕ} (h : places < (digitText n).length) :
    Size.read? ((digitText n).take ((digitText n).length - places) ++
      '.' :: (digitText n).drop ((digitText n).length - places)) =
        some (.finite n (-places)) := by
  have hdigits := isDigits_digitText n
  have hne : (digitText n).take ((digitText n).length - places) ≠ [] := by
    rw [ne_eq, List.take_eq_nil_iff]
    rintro (hzero | hnil)
    · omega
    · exact digitText_ne_nil n hnil
  have hlength : ((digitText n).drop ((digitText n).length - places)).length =
      places := by
    rw [List.length_drop]
    omega
  rw [read_point hne (fun c hc => hdigits c (List.mem_of_mem_take hc))
    (fun c hc => hdigits c (List.mem_of_mem_drop hc)), List.take_append_drop,
    digitsValue_digitText, hlength]

/-- `n` behind a point and zeros is read as `n * 10 ^ (-places)`. -/
theorem read_small (n : ℕ) {places : ℕ} (h : (digitText n).length ≤ places) :
    Size.read? ('0' :: '.' ::
        (List.replicate (places - (digitText n).length) '0' ++ digitText n)) =
      some (.finite n (-places)) := by
  have hread := read_point (List.cons_ne_nil '0' []) (isDigits_zeros 1)
    ((isDigits_zeros (places - (digitText n).length)).append (isDigits_digitText n))
  have hzeros : ['0'] ++
      (List.replicate (places - (digitText n).length) '0' ++ digitText n) =
    List.replicate (places - (digitText n).length + 1) '0' ++ digitText n := rfl
  rw [hzeros, digitsValue_zeros_append, List.length_append, List.length_replicate,
    Nat.sub_add_cancel h] at hread
  exact hread

/-- **Digits with a point are read** as the number `n * 10 ^ x` that
`Layout.positional` wrote, with an exponent that is not far below `x`. -/
theorem exists_read_positional (l : Layout) (n : ℕ) (x : ℤ) :
    ∃ (D : ℕ) (E : ℤ), Size.read? (l.positional (digitText n) x) = some (.finite D E) ∧
      (D : ℚ) * 10 ^ E = n * 10 ^ x ∧ min x (-1) ≤ E := by
  rw [Layout.positional]
  by_cases hx : 0 ≤ x
  · -- zeros take the place of the exponent
    have hpow : (10 : ℚ) ^ x.toNat = 10 ^ x := by
      rw [← zpow_natCast, Int.toNat_of_nonneg hx]
    rw [if_pos hx]
    by_cases hpoint : l.pointZero = true
    · rw [if_pos hpoint]
      refine ⟨_, _, read_zeros_point n x.toNat, ?_, by omega⟩
      rw [Nat.cast_mul, Nat.cast_pow, Nat.cast_ofNat, pow_succ, hpow, zpow_neg_one,
        ← mul_assoc, mul_inv_cancel_right₀ (by norm_num)]
    · rw [if_neg hpoint, List.append_nil]
      refine ⟨_, _, read_zeros n x.toNat, ?_, by omega⟩
      rw [Nat.cast_mul, Nat.cast_pow, Nat.cast_ofNat, hpow, zpow_zero, mul_one]
  · have hexponent : -((-x).toNat : ℤ) = x := by omega
    rw [if_neg hx]
    dsimp only
    by_cases hplaces : (-x).toNat < (digitText n).length
    · rw [if_pos hplaces, read_cut n hplaces, hexponent]
      exact ⟨n, x, rfl, rfl, min_le_left _ _⟩
    · rw [if_neg hplaces, read_small n (not_lt.mp hplaces), hexponent]
      exact ⟨n, x, rfl, rfl, min_le_left _ _⟩

/-- **Digits with an exponent are read** as `Layout.exponential` wrote them. -/
theorem read_exponential (n : ℕ) {leading : ℤ} (h : leading.natAbs < 65536) :
    Size.read? (Layout.exponential (digitText n) leading) =
      some (.finite n (leading - ((digitText n).length - 1))) := by
  have hdigits := isDigits_digitText n
  have hvalue := digitsValue_digitText n
  have hne := digitText_ne_nil n
  rw [Layout.exponential]
  generalize digitText n = digits at hdigits hvalue hne
  -- a single digit is written without a point
  rcases digits with _ | ⟨d, _ | ⟨c, digits⟩⟩
  · exact absurd rfl hne
  · have hsplit := splitPoint_whole hdigits
      (.inr ⟨(if leading < 0 then '-' else '+') :: digitText leading.natAbs, rfl⟩)
    rw [pointed, Size.read_eq hne hdigits rfl hsplit, exponent_eq h,
      List.append_nil, hvalue]
    rfl
  · obtain ⟨hd, hfraction⟩ := List.forall_mem_cons.mp hdigits
    have hwhole : IsDigits [d] := List.forall_mem_singleton.mpr hd
    have hmark : ∀ x ∈ ('e' :: (if leading < 0 then '-' else '+') :: digitText
        leading.natAbs).head?, x.isDigit = false := by
      rintro x ⟨⟩
      rfl
    have hread := Size.read_eq (List.cons_ne_nil d []) hwhole rfl
      (splitPoint_point hwhole hfraction hmark)
    have hplaces : leading - ((c :: digits).length : ℤ) =
        leading - ((d :: c :: digits).length - 1 : ℤ) := by
      rw [List.length_cons (a := d), Nat.cast_succ, add_sub_cancel_right]
    rw [exponent_eq h, Option.map_some, hplaces,
      show digitsValue ([d] ++ c :: digits) = n from hvalue] at hread
    exact hread

end ReachMixture.Decimal
