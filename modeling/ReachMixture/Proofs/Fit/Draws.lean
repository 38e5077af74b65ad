import ReachMixture.Proofs.Fit.Outcome
import ReachMixture.Random.Ziggurat

/-!
# Draws one after another

Candidates are drawn one by one. Each is kept or dropped without regard to the
others, and takes from the stream what it needs and no more. So to draw some and
then some more is to draw all of them at once. What can be refused is refused
before the first draw, for reasons that do not depend on how many candidates are
asked for. There is one exception: room for all of them is set aside at the
beginning, and it may be too much.

- `drawCandidates_add`: draws in two parts.
- `sampling_run`: the action `sampling` on a stream is what `sampleTable`
  computes, and a failure leaves the stream as it was.
- `Prospect`, `sampleTable_prospect`: what sampling comes to for all counts and
  streams at once.
- `sampleTable_of_isZero`: weights that are all zero draw nothing.
- `sampling_splits`: **sampling in two parts**, with everything that can come in
  between.
-/

namespace ReachMixture

variable {α γ : Type} {m : Nat}

section Draws

variable [Zero α] [Add α] [Mul α] [LT α] [LE α] [DecidableLT α]
  [DecidableLE α] [RandomSource γ α]

/-- **Draws in two parts.** The second part goes on with the stream that the
first has left. By induction on `c₁`. -/
theorem drawCandidates_add (p : Picker α m) (sigma : α) (c₁ c₂ : Nat) (g : γ) :
    drawCandidates p sigma (c₁ + c₂) g =
      ((drawCandidates p sigma c₁ g).1 ++
        (drawCandidates p sigma c₂ (drawCandidates p sigma c₁ g).2).1,
        (drawCandidates p sigma c₂ (drawCandidates p sigma c₁ g).2).2) := by
  induction c₁ generalizing g with
  | zero => simp [drawCandidates]
  | succ c₁ ih =>
    have hstep : ∀ c, drawCandidates p sigma (c + 1) g =
        (if isValidLocation (drawCandidate p sigma g).1.toList then
            (drawCandidate p sigma g).1 ::
              (drawCandidates p sigma c (drawCandidate p sigma g).2).1
         else (drawCandidates p sigma c (drawCandidate p sigma g).2).1,
         (drawCandidates p sigma c (drawCandidate p sigma g).2).2) := fun c => rfl
    rw [Nat.add_right_comm, hstep, hstep, ih]
    by_cases hvalid : isValidLocation (drawCandidate p sigma g).1.toList = true
    · simp [hvalid]
    · simp [hvalid]

variable [Scalar α]

theorem sampleTable_of_zipTable {locations : Table α} {weights : List α}
    {components : List (Component α locations.cols)}
    (h : Component.zipTable .samplerWeights weights locations = .ok components)
    (count : Nat) (sigma : α) (g : γ) :
    sampleTable locations weights count sigma g =
      sampleCandidates components count sigma g := by
  unfold sampleTable
  rw [h]
  rfl

/-- **The action `sampling` is `sampleTable`**, with the stream left as it was
if it fails. -/
theorem sampling_run (locations : Table α) (weights : List α) (count : Nat)
    (sigma : α) (g : γ) :
    ((sampling locations weights count sigma).run.run g).run =
      match sampleTable locations weights count sigma g with
      | .ok (rows, g') => (.ok rows, g')
      | .error fault => (.error fault, g) := by
  cases hzip : Component.zipTable .samplerWeights weights locations with
  | error fault =>
    unfold sampling sampleTable
    rw [hzip]
    rfl
  | ok components =>
    rw [sampleTable_of_zipTable hzip]
    unfold sampling sampleCandidates
    rw [hzip]
    show Id.run (StateT.run (ExceptT.run (pure components >>= _)) g) = _
    rw [pure_bind]
    -- the checks come in the same order, and no branch has drawn before it
    -- fails
    by_cases hsigma : isWidth sigma = true
    · cases hpicker : Picker.ofComponents components with
      | error fault =>
        simp only [hsigma, if_true]
        rfl
      | ok picker =>
        cases picker with
        | none =>
          simp only [hsigma, if_true]
          rfl
        | some p =>
          by_cases hcount : Capacity.rows ≤ count
          · simp only [hsigma, if_true, hcount]
            rfl
          · simp only [hsigma, if_true, hcount, if_false]
            rfl
    · simp only [hsigma, Bool.false_eq_true, if_false]
      rfl

/-- What `sampleTable` comes to for these locations, weights and `sigma`, for
all counts and all streams at once. -/
inductive Prospect (γ : Type) [RandomSource γ α] (locations : Table α)
    (weights : List α) (sigma : α) : Prop where
  /-- It fails, whatever the count. -/
  | refused (fault : Fault α)
      (h : ∀ (count : Nat) (g : γ),
        sampleTable locations weights count sigma g = .error fault)
  /-- There is no weight to draw by, so nothing is drawn. -/
  | idle (h : ∀ (count : Nat) (g : γ),
    sampleTable locations weights count sigma g = .ok ([], g))
  /-- Candidates are drawn by a `Picker`, if there is room for them. -/
  | drawn (p : Picker α locations.cols)
      (h : ∀ (count : Nat) (g : γ), sampleTable locations weights count sigma g =
        if Capacity.rows ≤ count then .error (.aborted .overCapacity)
        else .ok (drawCandidates p sigma count g))

theorem sampleTable_prospect (γ : Type) [RandomSource γ α] (locations : Table α)
    (weights : List α) (sigma : α) :
    Prospect γ locations weights sigma := by
  cases hzip : Component.zipTable .samplerWeights weights locations with
  | error fault =>
    refine .refused fault fun count g => ?_
    unfold sampleTable
    rw [hzip]
    rfl
  | ok components =>
    -- neither `count` nor the stream is looked at before there is a picker
    by_cases hsigma : isWidth sigma = true
    · cases hpicker : Picker.ofComponents components with
      | error fault =>
        refine .refused fault fun count g => ?_
        rw [sampleTable_of_zipTable hzip, sampleCandidates, if_pos hsigma, hpicker]
      | ok picker =>
        cases picker with
        | none =>
          refine .idle fun count g => ?_
          rw [sampleTable_of_zipTable hzip, sampleCandidates, if_pos hsigma, hpicker]
        | some p =>
          refine .drawn p fun count g => ?_
          rw [sampleTable_of_zipTable hzip, sampleCandidates, if_pos hsigma, hpicker]
    · refine .refused (.badSamplingSigma sigma) fun count g => ?_
      rw [sampleTable_of_zipTable hzip, sampleCandidates, if_neg hsigma]

/-- To sample `c₁ + c₂` candidates is to sample `c₁` and then `c₂` of them with
the stream that is left, unless `sampleTable` fails, and then it fails with the
same fault for every count. -/
def SamplesSplit (locations : Table α) (weights : List α) (sigma : α)
    (c₁ c₂ : Nat) (g : γ) : Prop :=
  (∃ fault, ∀ (count : Nat) (g : γ),
    sampleTable locations weights count sigma g = .error fault) ∨
  ∃ rows₁ rows₂ g₁ g₂, sampleTable locations weights c₁ sigma g = .ok (rows₁, g₁) ∧
    sampleTable locations weights c₂ sigma g₁ = .ok (rows₂, g₂) ∧
    sampleTable locations weights (c₁ + c₂) sigma g = .ok (rows₁ ++ rows₂, g₂)

theorem Prospect.samplesSplit {locations : Table α} {weights : List α} {sigma : α}
    (h : Prospect γ locations weights sigma) (c₁ c₂ : Nat) (g : γ) :
    SamplesSplit locations weights sigma c₁ c₂ g ∨
      Capacity.rows ≤ c₁ + c₂ ∧
        sampleTable locations weights (c₁ + c₂) sigma g =
          .error (.aborted .overCapacity) := by
  cases h with
  | refused fault h => exact .inl (.inl ⟨fault, h⟩)
  | idle h => exact .inl (.inr ⟨[], [], g, g, h c₁ g, h c₂ g, h (c₁ + c₂) g⟩)
  | drawn p h =>
    by_cases hroom : Capacity.rows ≤ c₁ + c₂
    · refine .inr ⟨hroom, ?_⟩
      rw [h, if_pos hroom]
    · -- what there is room for together, there is room for in parts
      have hroom₁ : ¬ Capacity.rows ≤ c₁ := by omega
      have hroom₂ : ¬ Capacity.rows ≤ c₂ := by omega
      refine .inl (.inr ⟨_, _, _, _, (h c₁ g).trans (if_neg hroom₁),
        (h c₂ _).trans (if_neg hroom₂), ?_⟩)
      rw [h, if_neg hroom, drawCandidates_add]

/-! ## Weights that are all zero -/

section Zeros

variable [LawfulZeros α]

omit [Mul α] [DecidableLT α] [DecidableLE α] [Scalar α] in
theorem isZero_foldl {weights : List α} (h : ∀ w ∈ weights, IsZero w)
    {v : α} (hv : IsZero v) :
    IsZero (weights.foldl (· + ·) v) := by
  induction weights generalizing v with
  | nil => exact hv
  | cons w rest ih =>
    obtain ⟨hw, hrest⟩ := List.forall_mem_cons.mp h
    exact ih hrest (LawfulZeros.isZero_add hv hw)

omit [Mul α] in
theorem Picker.ofComponents_of_isZero {components : List (Component α m)}
    (h : ∀ c ∈ components, IsZero c.weight) :
    Picker.ofComponents components = .ok none := by
  cases components with
  | nil => rfl
  | cons c rest =>
    have hnonneg : ((c :: rest).all fun c => decide (0 ≤ c.weight)) = true :=
      List.all_eq_true.mpr fun c hc => decide_eq_true (h c hc).1
    obtain ⟨hc, hrest⟩ := List.forall_mem_cons.mp h
    have htotal : ¬ 0 < (Picker.ofCons c rest).total :=
      (isZero_foldl (List.forall_mem_map.mpr hrest) hc).2
    simp only [Picker.ofComponents, hnonneg, if_true, htotal,
      decide_false, Bool.not_false]

/-- **Zeros draw nothing**, however many candidates are asked for. -/
theorem sampleTable_of_isZero {locations : Table α} {weights : List α} {sigma : α}
    (hlength : weights.length = locations.rows) (hsigma : isWidth sigma = true)
    (hweights : ∀ w ∈ weights, IsZero w) (count : Nat) (g : γ) :
    sampleTable locations weights count sigma g = .ok ([], g) := by
  have hzip : Component.zipTable .samplerWeights weights locations =
      .ok _ := if_pos hlength
  have hzeros : ∀ c ∈ List.zipWith Component.mk weights locations.rowList,
      IsZero c.weight := by
    intro c hc
    have hpair := List.mem_map_of_mem (f := fun c => (c.weight, c.location)) hc
    rw [map_zipWith_component] at hpair
    exact hweights _ (List.of_mem_zip hpair).1
  rw [sampleTable_of_zipTable hzip, sampleCandidates, if_pos hsigma,
    Picker.ofComponents_of_isZero hzeros]

end Zeros

/-- **Sampling in two parts.** `sampling` is an action on a stream that fails
without having drawn anything. To sample `c₁ + c₂` candidates is to sample `c₁`
of them and then `c₂` with the stream that is left, if it does not fail for
every count alike (`SamplesSplit`). Only room may be wanting for all of them
together. No weights, or weights that are all zero, leave the stream as it was. -/
theorem sampling_splits [LawfulZeros α] (locations : Table α) (weights : List α)
    (sigma : α) (c₁ c₂ : Nat) (g : γ) :
    (∀ count rows g', ((sampling locations weights count sigma).run.run g).run =
        (.ok rows, g') ↔
      sampleTable locations weights count sigma g = .ok (rows, g')) ∧
    (∀ count fault g', ((sampling locations weights count sigma).run.run g).run =
        (.error fault, g') ↔
      sampleTable locations weights count sigma g = .error fault ∧ g' = g) ∧
    (SamplesSplit locations weights sigma c₁ c₂ g ∨
      Capacity.rows ≤ c₁ + c₂ ∧
        sampleTable locations weights (c₁ + c₂) sigma g =
          .error (.aborted .overCapacity)) ∧
    (weights.length = locations.rows → isWidth sigma = true → (∀ w ∈ weights, IsZero w) →
      ∀ count, sampleTable locations weights count sigma g = .ok ([], g)) := by
  refine ⟨fun count rows g' => ?_, fun count fault g' => ?_,
    (sampleTable_prospect γ ..).samplesSplit c₁ c₂ g,
    fun hlength hsigma hweights count => sampleTable_of_isZero hlength
    hsigma hweights count g⟩
  · rw [sampling_run]
    cases sampleTable locations weights count sigma g with
    | ok drawn => simp [Prod.ext_iff]
    | error fault => simp
  · rw [sampling_run]
    cases sampleTable locations weights count sigma g with
    | ok drawn => simp
    | error fault => simp [eq_comm]

end Draws

/-- Two of the `shortDraws`, the second of which is dropped, and two more. Zeros
of either sign draw nothing. -/
theorem sampling_splits_short :
    (∃ rows₁ rows₂ g₁ g₂, rows₁.map Vector.toList = [[2.0]] ∧
        rows₂.map Vector.toList = [[1.5], [2.0]] ∧
      sampleTable singleAudience [1.0] 2 1.0 shortDraws = .ok (rows₁, g₁) ∧
      sampleTable singleAudience [1.0] 2 1.0 g₁ = .ok (rows₂, g₂) ∧
      sampleTable singleAudience [1.0] (2 + 2) 1.0 shortDraws =
        .ok (rows₁ ++ rows₂, g₂)) ∧
    sampleTable singleAudience [-0.0] (2 + 2) 1.0 shortDraws = .ok ([], shortDraws) := by
  obtain ⟨-, -, hsplit, -⟩ := sampling_splits singleAudience [1.0] 1.0 2 2 shortDraws
  obtain ⟨-, -, -, hzeros⟩ := sampling_splits singleAudience [-0.0] 1.0 2 2 shortDraws
  refine ⟨?_, hzeros rfl (by decide +kernel) (by decide +kernel) (2 + 2)⟩
  have hrows : (sampleTable singleAudience [1.0] 2 1.0 shortDraws).toOption.any (fun r =>
      decide (r.1.map Vector.toList = [[2.0]]) &&
        (sampleTable singleAudience [1.0] 2 1.0 r.2).toOption.any fun r =>
        decide (r.1.map Vector.toList = [[1.5], [2.0]])) = true := by
    decide +kernel
  rcases hsplit with (⟨fault, h⟩ | ⟨rows₁, rows₂, g₁, g₂, h₁, h₂, h⟩) | ⟨hroom, -⟩
  · rw [h] at hrows
    cases hrows
  · simp only [h₁, h₂, Except.toOption, Option.any, Bool.and_eq_true,
      decide_eq_true_iff] at hrows
    exact ⟨rows₁, rows₂, g₁, g₂, hrows.1, hrows.2, h₁, h₂, h⟩
  · exact absurd hroom (by decide)

/-- **Room may be wanting.** No candidates at all can be sampled, but
`2 ^ 64 - 1` of them cannot, although the locations have no coordinates and none
of the candidates would be kept. -/
theorem sampling_crowded :
    ¬ SamplesSplit (.ofNoColumns 1) [1.0] 1.0 0 (2 ^ 64 - 1)
      (Random.Generator.ofSeed 0) := by
  have hnone : (sampleTable (.ofNoColumns 1) [1.0] 0 1.0
      (Random.Generator.ofSeed 0)).isOk = true := by
    decide +kernel
  have hmany : (sampleTable (.ofNoColumns 1) [1.0] (0 + (2 ^ 64 - 1)) 1.0
      (Random.Generator.ofSeed 0)).isOk = false := by
    decide +kernel
  rintro (⟨fault, h⟩ | ⟨rows₁, rows₂, g₁, g₂, -, -, h⟩)
  · rw [h] at hnone
    cases hnone
  · rw [h] at hmany
    cases hmany

end ReachMixture
