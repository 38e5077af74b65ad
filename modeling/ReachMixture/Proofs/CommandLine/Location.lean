import ReachMixture.CommandLine.Location
import ReachMixture.Proofs.Decimal.Characters
import ReachMixture.Proofs.Decimal.RoundTrip
import ReachMixture.Proofs.Text.Pieces

/-!
# Which arguments are locations

A location is read piece by piece. It is refused for the first piece that is no
number, and only if there is none for a number that is not finite. Coordinates
that are written plainly, with any blanks around them and commas between them,
read back.

- `reading`: what a piece stands for.
- `numbers_or_first_bad`: either all pieces are numbers, or there is a first one
  that is not.
- `readLocation_eq_ok`, `readLocation_eq_notFinite`,
  `readLocation_eq_badCoordinate`: what is read in each case.
- `Spelling`: a coordinate as it may be written.
- `location_reads_back`: **the grammar of locations**, and which texts read
  back.
-/

namespace ReachMixture.CommandLine

section Reading

variable {α : Type} [NumberText α]

/-- The number that a piece stands for: `NumberText.read?` after `Text.trim`. -/
def reading (piece : List Char) : Option α :=
  NumberText.read? (String.ofList (Text.trim piece))

theorem readPieces_cons (text : String) (piece : List Char) (rest : List (List Char)) :
    (readPieces text (piece :: rest) : Except LocationFault (List α)) =
      match (reading piece : Option α) with
      | none => .error (.badCoordinate (String.ofList (Text.trim piece)) text)
      | some x => (readPieces text rest).map (x :: ·) :=
  rfl

variable {pieces before after : List (List Char)} {piece : List Char} {xs : List α}

/-- `readPieces` of pieces that are all numbers returns these. -/
theorem readPieces_eq_ok (text : String) (h : pieces.map reading = xs.map some) :
    readPieces text pieces = .ok xs := by
  induction pieces generalizing xs with
  | nil =>
    cases xs with
    | nil => rfl
    | cons x xs => cases h
  | cons piece rest ih =>
    cases xs with
    | nil => cases h
    | cons x xs =>
      obtain ⟨hpiece, hrest⟩ := List.cons.inj h
      rw [readPieces_cons, hpiece]
      dsimp only
      rw [ih hrest]
      rfl

/-- `readPieces` stops at the first piece that is no number and names it.
Nothing behind it is looked at. -/
theorem readPieces_eq_badCoordinate (text : String)
    (hbefore : ∀ q ∈ before, (reading q : Option α).isSome = true)
    (hpiece : (reading piece : Option α) = none) :
    (readPieces text (before ++ piece :: after) : Except LocationFault (List α)) =
      .error (.badCoordinate (String.ofList (Text.trim piece)) text) := by
  induction before with
  | nil => rw [List.nil_append, readPieces_cons, hpiece]
  | cons q before ih =>
    obtain ⟨hq, hbefore⟩ := List.forall_mem_cons.mp hbefore
    obtain ⟨x, hx⟩ := Option.isSome_iff_exists.mp hq
    rw [List.cons_append, readPieces_cons, hx]
    dsimp only
    rw [ih hbefore]
    rfl

/-- Either all pieces are numbers, or there is a first one that is not. -/
theorem numbers_or_first_bad (pieces : List (List Char)) :
    (∃ xs : List α, pieces.map reading = xs.map some) ∨
    ∃ before piece after, pieces = before ++ piece :: after ∧
        (∀ q ∈ before, (reading q : Option α).isSome = true) ∧
      (reading piece : Option α) = none := by
  induction pieces with
  | nil => exact .inl ⟨[], rfl⟩
  | cons piece rest ih =>
    cases hpiece : (reading piece : Option α) with
    | none =>
      exact .inr ⟨[], piece, rest, rfl, fun q hq => absurd hq List.not_mem_nil, hpiece⟩
    | some x =>
      rcases ih with ⟨xs, hrest⟩ | ⟨before, bad, after, rfl, hbefore, hbad⟩
      · exact .inl ⟨x :: xs, by rw [List.map_cons, List.map_cons, hpiece, hrest]⟩
      · refine .inr ⟨piece :: before, bad, after, rfl,
          List.forall_mem_cons.mpr ⟨?_, hbefore⟩, hbad⟩
        rw [hpiece]
        rfl

/-- Every piece reads as one of the numbers. -/
theorem exists_of_reading (h : pieces.map reading = xs.map some)
    (hpiece : piece ∈ pieces) :
    ∃ x ∈ xs, reading piece = some x := by
  have hmem : reading piece ∈ xs.map some := h ▸ List.mem_map_of_mem hpiece
  obtain ⟨x, hx, hreading⟩ := List.mem_map.mp hmem
  exact ⟨x, hx, hreading.symm⟩

/-- Every number is the `reading` of a piece. -/
theorem exists_piece_of_reading (h : pieces.map reading = xs.map some)
    {x : α} (hx : x ∈ xs) :
    ∃ piece ∈ pieces, reading piece = some x := by
  have hmem : some x ∈ pieces.map reading := h ▸ List.mem_map_of_mem hx
  exact List.mem_map.mp hmem

variable {text : String}

/-- There is one number more than there are commas. -/
theorem length_of_reading (h : (text.toList.splitOn ',').map reading = xs.map some) :
    xs.length = text.toList.count ',' + 1 := by
  have hlength := congrArg List.length h
  rw [List.length_map, List.length_map, ← Text.pieces_eq_splitOn,
    Text.length_pieces] at hlength
  exact hlength.symm

/-! ## Locations -/

variable [Scalar α]

theorem readLocation_eq (text : String) :
    (readLocation text : Except LocationFault (List α)) =
    (readPieces text (text.toList.splitOn ',')).bind fun xs =>
      if xs.all Scalar.isFinite = true then .ok xs else .error (.notFinite text) := by
  rw [readLocation, Text.pieces_eq_splitOn]
  rfl

/-- `readLocation` succeeds if all pieces are finite numbers. -/
theorem readLocation_eq_ok (h : (text.toList.splitOn ',').map reading = xs.map some)
    (hfinite : ∀ x ∈ xs, Scalar.isFinite x = true) : readLocation text = .ok xs := by
  rw [readLocation_eq, readPieces_eq_ok text h]
  exact if_pos (List.all_eq_true.mpr hfinite)

/-- `notFinite` is reported if all pieces are numbers and one of them is not
finite. -/
theorem readLocation_eq_notFinite
    (h : (text.toList.splitOn ',').map reading = xs.map some)
    (hinfinite : ¬ ∀ x ∈ xs, Scalar.isFinite x = true) :
    (readLocation text : Except LocationFault (List α)) = .error (.notFinite text) := by
  rw [readLocation_eq, readPieces_eq_ok text h]
  exact if_neg (mt List.all_eq_true.mp hinfinite)

/-- `badCoordinate` names the first piece that is no number, whatever the
numbers before it. -/
theorem readLocation_eq_badCoordinate
    (hpieces : text.toList.splitOn ',' = before ++ piece :: after)
    (hbefore : ∀ q ∈ before, (reading q : Option α).isSome = true)
    (hpiece : (reading piece : Option α) = none) :
    (readLocation text : Except LocationFault (List α)) =
      .error (.badCoordinate (String.ofList (Text.trim piece)) text) := by
  rw [readLocation_eq, hpieces, readPieces_eq_badCoordinate text hbefore hpiece]
  rfl

/-- The coordinates of a location are the `reading`s of its pieces, and they are
finite. -/
theorem of_readLocation_eq_ok (h : readLocation text = .ok xs) :
    (text.toList.splitOn ',').map reading = xs.map some ∧
    ∀ x ∈ xs, Scalar.isFinite x = true := by
  rcases numbers_or_first_bad (α := α) (text.toList.splitOn ',') with ⟨ys, hys⟩
    | ⟨_, _, _, hpieces, hbefore, hbad⟩
  · by_cases hfinite : ∀ y ∈ ys, Scalar.isFinite y = true
    · obtain rfl : ys = xs :=
        Except.ok.inj ((readLocation_eq_ok hys hfinite).symm.trans h)
      exact ⟨hys, hfinite⟩
    · cases (readLocation_eq_notFinite hys hfinite).symm.trans h
  · cases (readLocation_eq_badCoordinate hpieces hbefore hbad).symm.trans h

/-- `readLocation` succeeds iff every piece reads as a finite number. -/
theorem exists_readLocation_iff (text : String) :
    (∃ xs : List α, readLocation text = .ok xs) ↔
    ∀ piece ∈ text.toList.splitOn ',', ∃ x : α, reading piece = some x ∧
      Scalar.isFinite x = true := by
  constructor
  · rintro ⟨xs, h⟩ piece hpiece
    obtain ⟨hreading, hfinite⟩ := of_readLocation_eq_ok h
    obtain ⟨x, hx, hpiece⟩ := exists_of_reading hreading hpiece
    exact ⟨x, hpiece, hfinite x hx⟩
  · intro h
    rcases numbers_or_first_bad (α := α) (text.toList.splitOn ',') with ⟨xs, hxs⟩
      | ⟨before, bad, after, hpieces, -, hbad⟩
    · refine ⟨xs, readLocation_eq_ok hxs fun x hx => ?_⟩
      obtain ⟨piece, hpiece, hreading⟩ := exists_piece_of_reading hxs hx
      obtain ⟨y, hy, hfinite⟩ := h piece hpiece
      obtain rfl : x = y := Option.some.inj (hreading.symm.trans hy)
      exact hfinite
    · obtain ⟨x, hx, -⟩ := h bad
        (by rw [hpieces]; exact List.mem_append_right before List.mem_cons_self)
      cases hbad.symm.trans hx

end Reading

/-! ## Coordinates that read back -/

/-- A coordinate as it may be written: `NumberText.plain` with blanks around it. -/
structure Spelling where
  /-- The blanks in front of it. -/
  front : List Char
  /-- The coordinate. -/
  value : Float
  /-- The blanks behind it. -/
  behind : List Char
  blank : (front ++ behind).all Text.isBlank = true

namespace Spelling

theorem isBlank_of_mem (s : Spelling) {c : Char} (h : c ∈ s.front ++ s.behind) :
    Text.isBlank c = true :=
  List.all_eq_true.mp s.blank c h

/-- The text of a spelling. -/
def text (s : Spelling) : String :=
  String.ofList (s.front ++ ((NumberText.plain s.value).toList ++ s.behind))

theorem toList_text (s : Spelling) :
    s.text.toList = s.front ++ ((NumberText.plain s.value).toList ++ s.behind) :=
  String.toList_ofList

/-- No comma is blank, and none is among the characters of a number. -/
theorem comma_not_mem_text (s : Spelling) : ',' ∉ s.text.toList := by
  have hblank : ∀ c ∈ s.front ++ s.behind, c ≠ ',' := by
    rintro c hc rfl
    cases s.isBlank_of_mem hc
  have hplain : ',' ∉ (NumberText.plain s.value).toList :=
    (Decimal.isNumeral_write plainLayout s.value).not_mem rfl
  rw [toList_text, List.mem_append, List.mem_append]
  rintro (hfront | hmem | hbehind)
  · exact hblank _ (List.mem_append_left _ hfront) rfl
  · exact hplain hmem
  · exact hblank _ (List.mem_append_right _ hbehind) rfl

/-- `Text.trim` leaves the plain text of the coordinate. -/
theorem trim_text (s : Spelling) : Text.trim s.text.toList =
    (NumberText.plain s.value).toList := by
  have hplain := Decimal.isNumeral_write plainLayout s.value
  have hnumeric : ∀ c ∈ (NumberText.plain s.value).toList, Text.isBlank c = false :=
    fun c hc => Decimal.isBlank_of_isNumeric (hplain.numeric c hc)
  rw [toList_text]
  exact Text.trim_append (fun c hc => s.isBlank_of_mem (List.mem_append_left _ hc))
    hplain.ne_nil hnumeric fun c hc => s.isBlank_of_mem (List.mem_append_right _ hc)

end Spelling

/-- Spellings joined by commas split into these spellings again. -/
theorem splitOn_spellings {spellings : List Spelling} (hne : spellings ≠ []) :
    (String.intercalate "," (spellings.map Spelling.text)).toList.splitOn ',' =
      spellings.map fun s => s.text.toList := by
  rw [String.toList_intercalate, List.map_map]
  refine List.splitOn_intercalate ',' ?_ (by rwa [ne_eq, List.map_eq_nil_iff])
  intro piece hpiece
  obtain ⟨s, -, rfl⟩ := List.mem_map.mp hpiece
  exact s.comma_not_mem_text

/-- `readLocation` of spellings of finite coordinates returns the coordinates. -/
theorem readLocation_spellings {spellings : List Spelling} (hne : spellings ≠ [])
    (hfinite : ∀ s ∈ spellings, s.value.isFinite = true) :
    readLocation (String.intercalate "," (spellings.map Spelling.text)) =
      .ok (spellings.map Spelling.value) := by
  refine readLocation_eq_ok ?_ ?_
  · rw [splitOn_spellings hne, List.map_map, List.map_map]
    refine List.map_congr_left fun s hs => ?_
    show reading s.text.toList = some s.value
    rw [reading, Spelling.trim_text, String.ofList_toList]
    exact Decimal.read_write plainLayout (hfinite s hs)
  · intro x hx
    obtain ⟨s, hs, rfl⟩ := List.mem_map.mp hx
    exact hfinite s hs

/-- **The grammar of locations.** `readLocation` accepts a text iff every piece
between its commas reads as a finite number. These numbers are its coordinates,
one more than there are commas. If some piece is no number, `badCoordinate`
names the first such piece, even if numbers before it are infinite; `notFinite`
is reported only if all pieces are numbers. Finite coordinates, written by
`NumberText.plain` with any blanks around them and commas between them, are read
back. -/
theorem location_reads_back :
    (∀ text : String, (∃ xs : List Float, readLocation text = .ok xs) ↔
      ∀ piece ∈ text.toList.splitOn ',', ∃ x : Float, reading piece = some x ∧
        x.isFinite = true) ∧
    (∀ (text : String) (xs : List Float), readLocation text = .ok xs →
      (text.toList.splitOn ',').map reading = xs.map some ∧
      xs.length = text.toList.count ',' + 1) ∧
    (∀ text : String, (∃ piece ∈ text.toList.splitOn ',',
        (reading piece : Option Float) = none) →
      ∃ before piece after, text.toList.splitOn ',' = before ++ piece :: after ∧
        (∀ q ∈ before, (reading q : Option Float).isSome = true) ∧
        (reading piece : Option Float) = none ∧
        (readLocation text : Except LocationFault (List Float)) =
          .error (.badCoordinate (String.ofList (Text.trim piece)) text)) ∧
    (∀ text : String, (∀ piece ∈ text.toList.splitOn ',',
        (reading piece : Option Float).isSome = true) →
      (∃ piece ∈ text.toList.splitOn ',', ∃ x : Float, reading piece = some x ∧
        x.isFinite = false) →
      (readLocation text : Except LocationFault (List Float)) =
        .error (.notFinite text)) ∧
    ∀ spellings : List Spelling, spellings ≠ [] →
        (∀ s ∈ spellings, s.value.isFinite = true) →
      readLocation (String.intercalate "," (spellings.map Spelling.text)) =
        .ok (spellings.map Spelling.value) := by
  refine ⟨exists_readLocation_iff, fun text xs h => ?_, fun text => ?_, fun text => ?_,
    fun spellings => readLocation_spellings⟩
  · have hreading := (of_readLocation_eq_ok h).1
    exact ⟨hreading, length_of_reading hreading⟩
  · rintro ⟨piece, hpiece, hnone⟩
    -- the pieces are all numbers, or there is a first one that is none
    rcases numbers_or_first_bad (α := Float) (text.toList.splitOn ',') with ⟨xs, hxs⟩
      | ⟨before, bad, after, h, hbefore, hbad⟩
    · obtain ⟨x, -, hx⟩ := exists_of_reading hxs hpiece
      cases hnone.symm.trans hx
    · exact ⟨before, bad, after, h, hbefore, hbad,
        readLocation_eq_badCoordinate h hbefore hbad⟩
  · rintro hnumbers ⟨piece, hpiece, x, hx, hinfinite⟩
    rcases numbers_or_first_bad (α := Float) (text.toList.splitOn ',') with ⟨xs, hxs⟩
      | ⟨before, bad, after, h, -, hbad⟩
    · refine readLocation_eq_notFinite hxs fun hfinite => ?_
      obtain ⟨y, hy, hreading⟩ := exists_of_reading hxs hpiece
      obtain rfl : x = y := Option.some.inj (hx.symm.trans hreading)
      cases hinfinite.symm.trans (hfinite x hy)
    · have hsome := hnumbers bad
        (by rw [h]; exact List.mem_append_right before List.mem_cons_self)
      rw [hbad] at hsome
      cases hsome

/-- A negative zero, a number with no finite binary expansion, and one that is
usually written with an exponent. -/
def paddedSpellings : List Spelling :=
  [⟨[' '], -0.0, [], rfl⟩, ⟨[], 0.1, ['\t', ' '], rfl⟩, ⟨[], 1e-7, [], rfl⟩]

/-- Blanks do not count, and a word in second place is objected to before an
infinite number in first place. -/
theorem location_reads_back_padded :
    String.intercalate "," (paddedSpellings.map Spelling.text) = " -0,0.1\t ,0.0000001" ∧
    readLocation (String.intercalate "," (paddedSpellings.map Spelling.text)) =
      .ok [-0.0, 0.1, 1e-7] ∧
    (readLocation "1e999, west ,2" : Except LocationFault (List Float)) =
      .error (.badCoordinate "west" "1e999, west ,2") := by
  obtain ⟨-, -, hbad, -, hspellings⟩ := location_reads_back
  have hne : paddedSpellings ≠ [] := List.cons_ne_nil _ _
  refine ⟨by decide +kernel, hspellings paddedSpellings hne (by decide +kernel), ?_⟩
  have hpieces : "1e999, west ,2".toList.splitOn ',' =
      ["1e999".toList, " west ".toList, "2".toList] := by
    decide +kernel
  have hwest : (reading " west ".toList : Option Float) = none := by decide +kernel
  have hmem : " west ".toList ∈ "1e999, west ,2".toList.splitOn ',' := by
    rw [hpieces]
    exact List.mem_cons_of_mem _ List.mem_cons_self
  obtain ⟨before, piece, after, h, hbefore, hpiece, hread⟩ := hbad _ ⟨_, hmem, hwest⟩
  rw [hpieces] at h
  rcases before with _ | ⟨first, _ | ⟨second, before⟩⟩
  · obtain ⟨rfl, -⟩ := List.cons.inj h
    exact absurd hpiece (by decide +kernel)
  · obtain ⟨-, hrest⟩ := List.cons.inj h
    obtain ⟨rfl, -⟩ := List.cons.inj hrest
    exact hread
  · obtain ⟨-, hrest⟩ := List.cons.inj h
    obtain ⟨rfl, -⟩ := List.cons.inj hrest
    have hsome := hbefore " west ".toList (List.mem_cons_of_mem _ List.mem_cons_self)
    rw [hwest] at hsome
    cases hsome

end ReachMixture.CommandLine
