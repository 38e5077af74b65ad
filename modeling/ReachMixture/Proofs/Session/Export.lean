import ReachMixture.Proofs.Trajectory.Table
import ReachMixture.Session.Export

/-!
# Exported trajectories

An export opens a path, writes the header and then the records. If the path
leads to a file, the file holds the whole text afterwards and nothing else, and
the trajectory can be read back from it.

- `Volume.Filed`: a volume that differs from another one only in the text of a
  file.
- `Volume.Filed.write`, `Volume.Filed.read`: writing adds to that text, and the
  path that leads to the file still does.
- `Opened`, `opened_of_create`: what opening a path can lead to.
- `exists_exportTrajectory`: an export writes the text of the trajectory.
- `trajectory_reads_back`: **the written text can be taken apart again**.
-/

namespace ReachMixture.Session

namespace Volume

variable {v w : Volume} {t : Trail} {text : String}

/-! ## Places -/

theorem at_put_of_ne {t' : Trail} (h : t' ≠ t) (node : Node) :
    (v.put t node).at? t' = v.at? t' := by
  have hfirst : (t == t') = false := beq_eq_false_iff_ne.mpr h.symm
  have hkept : (v.nodes.filter fun n => n.1 != t).find? (fun n => n.1 == t') =
      v.nodes.find? fun n => n.1 == t' := by
    rw [List.find?_filter]
    congr 1
    funext n
    by_cases hn : n.1 = t'
    · simp [hn, h]
    · simp [hn]
  simp only [at?, put, List.find?_cons, hfirst, hkept]

theorem at_put_self (h : t ≠ []) (node : Node) : (v.put t node).at? t = some node := by
  simp [at?, put, h]

/-- Ways lead on from directories and links, and from nothing else. -/
def leadsOn : Node → Bool
  | .directory _ | .link _ => true
  | .file _ | .device _ _ => false

/-- No way leads on from `t`: a file or a device is there, or nothing. -/
def IsEnd (v : Volume) (t : Trail) : Prop :=
  ∀ node, v.at? t = some node → leadsOn node = false

/-- Ways lead on from the top, so an `IsEnd` is not the top. -/
theorem IsEnd.ne_nil (h : v.IsEnd t) : t ≠ [] := by
  rintro rfl
  cases h (.directory none) rfl

theorem IsEnd.resolve (h : v.IsEnd t) : v.resolve t = t := by
  rw [Volume.resolve]
  split
  · next target htarget => cases h _ htarget
  · rfl

theorem isEnd_of_file (h : v.at? t = some (.file text)) : v.IsEnd t := by
  intro node hnode
  cases h.symm.trans hnode
  rfl

theorem isEnd_of_none (h : v.at? t = none) : v.IsEnd t := by
  intro node hnode
  cases h.symm.trans hnode

/-! ## Texts of files -/

/-- `w` is `v` but for the file at `t`, which holds `text`. -/
structure Filed (v w : Volume) (t : Trail) (text : String) : Prop where
  current : w.current = v.current
  other : ∀ t' ≠ t, w.at? t' = v.at? t'
  file : w.at? t = some (.file text)

theorem filed_put (h : t ≠ []) (text : String) :
    Filed v (v.put t (.file text)) t text where
  current := rfl
  other _ h' := at_put_of_ne h' _
  file := at_put_self h _

/-- `write` appends to the file, and changes nothing else. -/
theorem Filed.write (h : Filed v w t text) (more : String) :
    ∃ w', w.write t more = .ok w' ∧ Filed v w' t (text ++ more) := by
  have hne : t ≠ [] := (isEnd_of_file h.file).ne_nil
  refine ⟨w.put t (.file (text ++ more)), ?_, h.current,
    fun t' ht' => ?_, at_put_self hne _⟩
  · rw [Volume.write, h.file]
  · rw [at_put_of_ne ht', h.other t' ht']

theorem Filed.resolve (h : Filed v w t text) (hend : v.IsEnd t) (t' : Trail) :
    w.resolve t' = v.resolve t' := by
  by_cases ht' : t' = t
  · subst ht'
    rw [hend.resolve, (isEnd_of_file h.file).resolve]
  · rw [Volume.resolve, Volume.resolve, h.other t' ht']

/-- A way through directories does not lead through the file. -/
theorem Filed.enter (h : Filed v w t text) (hend : v.IsEnd t) {names : List String}
    {start last : Trail} (hway : v.enter start names = .ok last) :
    w.enter start names = .ok last := by
  induction names generalizing start with
  | nil => exact hway
  | cons name names ih =>
    rw [Volume.enter] at hway ⊢
    split at hway
    · cases hway
    · next hlong =>
      rw [if_neg hlong]
      dsimp only at hway ⊢
      rw [h.resolve hend]
      split at hway
      · cases hway
      · next closed hdirectory =>
        -- a directory on the way is not the written file, so both volumes agree
        -- on it
        have hne : v.resolve (follow start name) ≠ t := by
          intro heq
          rw [heq] at hdirectory
          cases hend _ hdirectory
        rw [h.other _ hne, hdirectory]
        exact ih hway
      · cases hway

theorem Filed.route (h : Filed v w t text) (path : String) :
    w.route path = v.route path := by
  rw [Volume.route, Volume.route, h.current]

theorem Filed.parent (h : Filed v w t text) (hend : v.IsEnd t) {path : String}
    {directory : Trail} (hparent : v.parent path = .ok directory) :
    w.parent path = .ok directory := by
  rw [Volume.parent] at hparent ⊢
  split at hparent
  · cases hparent
  · next hnul =>
    rw [if_neg hnul]
    split at hparent
    · cases hparent
    · next hlong =>
      rw [if_neg hlong]
      split at hparent
      · cases hparent
      · next hempty =>
        rw [if_neg hempty, h.route]
        exact h.enter hend hparent

/-! ## Opening -/

/-- What `create` can lead to: an empty file, new or not, or a device that keeps
nothing. -/
inductive Opened (v : Volume) (path : String) (w : Volume) (t : Trail) : Prop where
  | file (directory : Trail) (hparent : v.parent path = .ok directory)
      (hslash : (v.route path).slash = false)
      (ht : v.resolve (follow directory (v.route path).last) = t) (hend : v.IsEnd t)
      (hw : w = v.put t (.file ""))
  | device (directory : Trail) (hparent : v.parent path = .ok directory)
      (ht : v.resolve (follow directory (v.route path).last) = t)
      (onWrite : Option Refusal) (hdevice : v.at? t = some (.device none onWrite))
      (hw : w = v)

theorem opened_of_create {path : String} (h : v.create path = .ok (w, t)) :
    Opened v path w t := by
  rw [create] at h
  cases hparent : v.parent path with
  | error refusal =>
    rw [hparent] at h
    cases h
  | ok directory =>
    rw [hparent] at h
    change (if (v.route path).slash = true then _ else _) = _ at h
    -- every refusal is an error, so three cases are left: an old file, a device
    -- and a new file
    split at h
    · cases h
    · next hslash =>
      have hslash := Bool.eq_false_iff.mpr hslash
      split at h
      · cases h
      · dsimp only at h
        split at h
        · cases h
        · next old hold =>
          cases h
          exact .file directory hparent hslash rfl (isEnd_of_file hold) rfl
        · next onWrite hdevice =>
          cases h
          exact .device directory hparent rfl onWrite hdevice rfl
        · cases h
        · cases h
        · next hnone =>
          split at h
          · cases h
          · cases h
            exact .file directory hparent hslash rfl (isEnd_of_none hnone) rfl

/-- `read?` in terms of the `parent` of the path. -/
theorem read_eq {path : String} {directory : Trail} (h : v.parent path = .ok directory) :
    v.read? path =
      if (v.route path).slash = true then none
      else match v.at? (v.resolve (follow directory (v.route path).last)) with
        | some (.file text) => some text
        | _ => none := by
  rw [read?, h]
  rfl

/-- The path that was opened leads to the text of the file. -/
theorem Filed.read {path : String} {directory : Trail} (h : Filed v w t text)
    (hend : v.IsEnd t) (hparent : v.parent path = .ok directory)
    (hslash : (v.route path).slash = false)
    (ht : v.resolve (follow directory (v.route path).last) = t) :
    w.read? path = some text := by
  rw [read_eq (h.parent hend hparent), h.route, hslash, h.resolve hend, ht, h.file]
  rfl

end Volume

/-! ## Exports -/

variable {α : Type} [NumberText α]

theorem csvText_eq (records : List (StepRecord α)) :
    csvText records = (csvHeader ++ "\n") ++
      String.join (records.map fun r => r.csvLine ++ "\n") := by
  rw [csvText, csvLines, Text.unlines, List.map_cons, String.join_cons, List.map_map]
  rfl

/-- `writeRows` after the header completes `csvText`. -/
theorem exists_writeRows {v w : Volume} {t : Trail}
    (h : Volume.Filed v w t (csvHeader ++ "\n")) (records : List (StepRecord α)) :
    ∃ w', writeRows w t records = .ok w' ∧ Volume.Filed v w' t (csvText records) := by
  rw [csvText_eq]
  cases records with
  | nil => exact ⟨w, rfl, h⟩
  | cons r records =>
    obtain ⟨w', hwrite, hfiled⟩ :=
      h.write (String.join ((r :: records).map fun r => r.csvLine ++ "\n"))
    refine ⟨w', ?_, hfiled⟩
    rw [writeRows, hwrite]
    rfl

/-- **An export writes the text of the trajectory**: if `create` succeeds and
leads to a file, then `exportTrajectory` succeeds and the file holds `csvText`. -/
theorem exists_exportTrajectory {v w : Volume} {path : String} {t : Trail}
    (records : List (StepRecord α)) (hopen : v.create path = .ok (w, t))
    (hfile : w.read? path = some "") :
    ∃ v', exportTrajectory v path records = .ok v' ∧
      v'.read? path = some (csvText records) := by
  cases Volume.opened_of_create hopen with
  | device directory hparent ht onWrite hdevice hw =>
    -- there is no text at a device
    rw [hw, Volume.read_eq hparent, ht, hdevice] at hfile
    split at hfile <;> cases hfile
  | file directory hparent hslash ht hend hw =>
    have hempty : Volume.Filed v w t "" := hw ▸ Volume.filed_put hend.ne_nil ""
    obtain ⟨w₁, hheader, hfiled⟩ := hempty.write (csvHeader ++ "\n")
    obtain ⟨w₂, hrows, hfiled₂⟩ := exists_writeRows hfiled records
    refine ⟨w₂, ?_, hfiled₂.read hend hparent hslash ht⟩
    rw [exportTrajectory, hopen]
    dsimp only
    rw [hheader]
    exact hrows

/-- **Trajectories can be read back**, whatever numbers are recorded, infinite
and undefined ones among them. `csvText`, cut at its newlines, is the header,
one `csvLine` for each record in order, and nothing behind them. A line, cut at
its commas, has four fields as the header does, none of them empty, and the
first two are the numerals of `step` and `components`. So `readCounts?` recovers
these from the text, and texts that agree have the same ones. A path that can be
opened as a file holds the text after an export. -/
theorem trajectory_reads_back (records : List (StepRecord Float)) :
    (csvText records).toList.splitOn '\n' =
      csvHeader.toList :: records.map (fun r => r.csvLine.toList) ++ [[]] ∧
    (csvHeader.toList.splitOn ',').length = 4 ∧
    (∀ r ∈ records, ∃ step components weightSum residualNorm : List Char,
      r.csvLine.toList.splitOn ',' = [step, components, weightSum, residualNorm] ∧
      step ≠ [] ∧ components ≠ [] ∧ weightSum ≠ [] ∧ residualNorm ≠ [] ∧
      Decimal.wholeNumber? step = some r.step ∧
      Decimal.wholeNumber? components = some r.components) ∧
    readCounts? (csvText records) = some (records.map StepRecord.counts) ∧
    (∀ others : List (StepRecord Float), csvText others = csvText records →
      others.map StepRecord.counts = records.map StepRecord.counts) ∧
    ∀ (v w : Volume) (path : String) (t : Trail), v.create path = .ok (w, t) →
        w.read? path = some "" →
      ∃ v', exportTrajectory v path records = .ok v' ∧
        v'.read? path = some (csvText records) := by
  refine ⟨splitOn_csvText records, by decide +kernel,
    fun r _ => ?_, readCounts_csvText records, fun others h => ?_,
    fun v w path t => exists_exportTrajectory records⟩
  · have hfields : ∀ field ∈ r.csvFields, field.toList ≠ [] :=
      fun field h => (isNumeral_of_mem_csvFields h).ne_nil
    simp only [StepRecord.csvFields, List.forall_mem_cons] at hfields
    obtain ⟨hstep, hcomponents, hweightSum, hresidualNorm, -⟩ := hfields
    refine ⟨_, _, _, _, splitOn_csvLine r, hstep, hcomponents, hweightSum,
      hresidualNorm, ?_, ?_⟩
    · rw [Decimal.toList_toString]
      exact Decimal.wholeNumber_digitText r.step
    · rw [Decimal.toList_toString]
      exact Decimal.wholeNumber_digitText r.components
  · have hcounts := readCounts_csvText others
    rw [h, readCounts_csvText] at hcounts
    exact (Option.some.inj hcounts).symm

/-- Records with numbers that are large, undefined and infinite. -/
def unboundedRecords : List (StepRecord Float) :=
  [⟨9, 4, 1e22, 0.25⟩, ⟨19, 18446744073709551615, 0.0 / 0.0, -1.0 / 0.0⟩]

/-- The volume with an empty top directory and nothing else. -/
def bareVolume : Volume := ⟨[], []⟩

/-- Large and undefined numbers have fields of their own, and the new file holds
them. -/
theorem trajectory_reads_back_unbounded :
    readCounts? (csvText unboundedRecords) = some [(9, 4), (19, 18446744073709551615)] ∧
    ∃ v', exportTrajectory bareVolume "t.csv" unboundedRecords = .ok v' ∧
      v'.read? "t.csv" = some ("step,components,weight_sum,residual_norm\n" ++
        "9,4,10000000000000000000000.0000000000,0.2500000000\n19,18446744073709551615,NaN,-inf\n") := by
  obtain ⟨-, -, -, hcounts, -, hexport⟩ := trajectory_reads_back unboundedRecords
  have hopen : bareVolume.create "t.csv" =
      .ok (bareVolume.put ["t.csv"] (.file ""), ["t.csv"]) := by rfl
  have hfile : (bareVolume.put ["t.csv"] (.file "")).read? "t.csv" =
      some "" := by decide +kernel
  obtain ⟨v', hv', hread⟩ := hexport bareVolume _ "t.csv" _ hopen hfile
  refine ⟨hcounts, v', hv', ?_⟩
  rw [hread]
  decide +kernel

end ReachMixture.Session
