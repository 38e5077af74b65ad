import ReachMixture.Proofs.Text.Lines
import ReachMixture.Trajectory.Table

/-!
# Trajectories as comma-separated values

Every record takes one line of four fields, whatever its numbers are: neither
counts nor numbers with fixed places have a comma or a newline in them. So the
lines can be told apart, and the fields of a line too. The counts are naturals
and read back exactly.

- `splitOn_csvText`: the lines of the text.
- `splitOn_csvLine`: the fields of a line.
- `StepRecord.counts`, `readCounts?`: the step and the number of components, and
  how they are read from the text.
- `readCounts_csvText`: **counts read back**.
-/

namespace ReachMixture

open Text Decimal

/-! ## Lines and fields -/

/-- The fields that `csvLine` joins by commas. -/
def StepRecord.csvFields {α : Type} [NumberText α] (r : StepRecord α) : List String :=
  [toString r.step, toString r.components, NumberText.fixed 10 r.weightSum,
    NumberText.fixed 10 r.residualNorm]

/-- Every field is an `IsNumeral`, so it has neither commas nor newlines. -/
theorem isNumeral_of_mem_csvFields {r : StepRecord Float} {field : String}
    (h : field ∈ r.csvFields) :
    IsNumeral field.toList := by
  rw [StepRecord.csvFields] at h
  simp only [List.mem_cons, List.not_mem_nil, or_false] at h
  rcases h with rfl | rfl | rfl | rfl
  · exact isNumeral_toString r.step
  · exact isNumeral_toString r.components
  · exact isNumeral_fixed 10 r.weightSum
  · exact isNumeral_fixed 10 r.residualNorm

/-- **Fields can be told apart** in `csvLine`. -/
theorem splitOn_csvLine (r : StepRecord Float) :
    r.csvLine.toList.splitOn ',' = r.csvFields.map String.toList := by
  have hcomma : ∀ field ∈ r.csvFields.map String.toList, ',' ∉ field := by
    intro field hfield
    obtain ⟨text, htext, rfl⟩ := List.mem_map.mp hfield
    exact (isNumeral_of_mem_csvFields htext).not_mem rfl
  show (String.intercalate "," r.csvFields).toList.splitOn ',' = _
  rw [String.toList_intercalate]
  exact List.splitOn_intercalate ',' hcomma (List.cons_ne_nil _ _)

theorem isLine_csvLine (r : StepRecord Float) : IsLine r.csvLine := by
  have hcomma : IsLine "," := by decide
  exact hcomma.intercalate fun field hfield =>
    (isNumeral_of_mem_csvFields hfield).not_mem rfl

/-- **Lines can be told apart** in `csvText`: the header, a line for each
record, and nothing behind them. -/
theorem splitOn_csvText (records : List (StepRecord Float)) :
    (csvText records).toList.splitOn '\n' =
      csvHeader.toList :: records.map (fun r => r.csvLine.toList) ++ [[]] := by
  have hlines : ∀ line ∈ csvLines records, IsLine line := by
    refine List.forall_mem_cons.mpr ⟨by decide, fun line hline => ?_⟩
    obtain ⟨r, -, rfl⟩ := List.mem_map.mp hline
    exact isLine_csvLine r
  rw [csvText, splitOn_unlines hlines, csvLines, List.map_cons, List.map_map]
  rfl

/-! ## Counts -/

/-- The step of a record and the number of its components. -/
def StepRecord.counts {α : Type} (r : StepRecord α) : Nat × Nat := (r.step, r.components)

/-- The counts that stand in a line of four fields. -/
def countsOfLine? (line : List Char) : Option (Nat × Nat) :=
  match line.splitOn ',' with
  | [step, components, _, _] =>
    (wholeNumber? step).bind fun step => (wholeNumber? components).map
      fun components => (step, components)
  | _ => none

/-- `countsOfLine?` of every line behind the header. The text ends with the last
line. -/
def readCounts? (text : String) : Option (List (Nat × Nat)) :=
  (text.toList.splitOn '\n').tail.dropLast.mapM countsOfLine?

theorem countsOfLine_csvLine (r : StepRecord Float) :
    countsOfLine? r.csvLine.toList = some r.counts := by
  rw [countsOfLine?, splitOn_csvLine]
  simp only [StepRecord.csvFields, List.map_cons, List.map_nil, toList_toString,
    wholeNumber_digitText]
  rfl

/-- **Counts read back**: `readCounts?` undoes `csvText`, whatever the other
numbers of the records are. -/
theorem readCounts_csvText (records : List (StepRecord Float)) :
    readCounts? (csvText records) = some (records.map StepRecord.counts) := by
  rw [readCounts?, splitOn_csvText, List.cons_append, List.tail_cons,
    List.dropLast_concat]
  induction records with
  | nil => rfl
  | cons r records ih =>
    rw [List.map_cons, List.mapM_cons, countsOfLine_csvLine, ih]
    rfl

end ReachMixture
