import ReachMixture.Proofs.Decimal.Characters
import ReachMixture.Text.Lines
import ReachMixture.Text.Pad

/-!
# Lines of text

A text that is put together from lines can be taken apart again, as long as no
line has a newline of its own. Numbers have none, whatever their value.

- `IsLine`: texts without a newline, and how they are put together.
- `splitOn_unlines`: the lines of a text are those that it was put together
  from.
- `isLine_fixed`: numbers with fixed places stay on their line.
-/

namespace ReachMixture.Text

/-- No newline occurs in the text. -/
def IsLine (s : String) : Prop := '\n' ∉ s.toList

instance (s : String) : Decidable (IsLine s) := inferInstanceAs (Decidable (_ ∉ _))

theorem IsLine.append {s t : String} (hs : IsLine s) (ht : IsLine t) :
    IsLine (s ++ t) := by
  rw [IsLine, String.toList_append, List.mem_append]
  exact not_or.mpr ⟨hs, ht⟩

theorem isLine_ofList {cs : List Char} (h : '\n' ∉ cs) : IsLine (String.ofList cs) := by
  rwa [IsLine, String.toList_ofList]

theorem IsLine.intercalate {separator : String} (hseparator : IsLine separator)
    {texts : List String} (h : ∀ s ∈ texts, IsLine s) :
    IsLine (separator.intercalate texts) := by
  induction texts with
  | nil => exact List.not_mem_nil
  | cons s texts ih =>
    obtain ⟨hs, htexts⟩ := List.forall_mem_cons.mp h
    cases texts with
    | nil => rwa [String.intercalate_singleton]
    | cons t texts =>
      rw [String.intercalate_cons_cons]
      exact (hs.append hseparator).append (ih htexts)

theorem IsLine.padLeft {s : String} (h : IsLine s) (width : Nat) :
    IsLine (padLeft width s) := by
  refine IsLine.append (isLine_ofList fun hmem => ?_) h
  exact absurd (List.eq_of_mem_replicate hmem) (by decide)

/-- **Lines can be told apart** in `unlines`. Each is ended by a newline, so
splitting leaves an empty piece behind the last one. -/
theorem splitOn_unlines {lines : List String} (h : ∀ line ∈ lines, IsLine line) :
    (unlines lines).toList.splitOn '\n' = lines.map String.toList ++ [[]] := by
  induction lines with
  | nil => rfl
  | cons line lines ih =>
    obtain ⟨hline, hlines⟩ := List.forall_mem_cons.mp h
    have htext : (unlines (line :: lines)).toList =
        line.toList ++ '\n' :: (unlines lines).toList := by
      rw [unlines, List.map_cons, String.join_cons, String.toList_append,
        String.toList_append, List.append_assoc]
      rfl
    rw [htext, List.splitOn, List.splitOnP_append_cons_of_forall_mem ?_ _ (by decide)]
    · exact congrArg (line.toList :: ·) (ih hlines)
    · intro c hc
      rw [beq_eq_false_iff_ne]
      rintro rfl
      exact hline hc

/-! ## Numbers -/

theorem isLine_fixed (places : Nat) (x : Float) : IsLine (NumberText.fixed places x) :=
  (Decimal.isNumeral_fixed places x).not_mem rfl

end ReachMixture.Text
