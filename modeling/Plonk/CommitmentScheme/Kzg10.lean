import Plonk.Poly.DensePolynomial
import Plonk.Transcript

/-!
The part of the KZG10 commitment scheme `Proof::verify` calls: an aggregate
opening proof, built part by part and flattened with a transcript challenge,
and the opening key's batch check. `commitment_scheme` is not among the
sources; what is modelled is what the spec says of it (§4.4): flattening
combines the values and the commitments with the powers of one fresh
challenge, and the batch check is one pairing equation. `OpeningKey` keeps the
batch check abstract; `OpeningKey.kzg` is the spec's, with the pairing an
`F`-bilinear map.

`flatten_ofParts` is what flattening is for: when every part is the value
at `z` and the commitment of one polynomial, under a linear `commit`, the
flattened proof is the value at `z` and the commitment of their combination.
Under a key with `[τ]₂ = τ [1]₂` the pairing equation is about the openings'
defects `(τ − z) W − (F − v [1]₁)`: it holds when every defect is zero
(`pairingCheck_of_defects`), and when one is not, fewer separators than
openings pass it (`pairingCheck_separators_lt`).
-/

namespace Plonk.CommitmentScheme

open Polynomial

variable {G F : Type}

/-- Modelled from the spec: `kzg10::Proof`, an opening of one committed
polynomial at a point. -/
structure Proof (G F : Type) where
  commitmentToWitness : G
  evaluatedPoint : F
  commitmentToPolynomial : G

/-- Modelled from the spec: `kzg10::AggregateProof`, openings of several
committed polynomials at one point, under one witness. -/
structure AggregateProof (G F : Type) where
  commitmentToWitness : G
  evaluatedPoints : List F
  commitmentsToPolynomials : List G

/-- Modelled from the spec: `OpeningKey::batch_check` on the two points and
the two flattened proofs, reading the transcript for its separator;
`true` is `Ok(())`. -/
structure OpeningKey (G F : Type) where
  batchCheck : List F → List (Proof G F) → Transcript G F → Bool

namespace AggregateProof

/-- Modelled from the spec: `AggregateProof::with_witness`. -/
def withWitness (witness : G) : AggregateProof G F := ⟨witness, [], []⟩

/-- Modelled from the spec: `AggregateProof::add_part`, one value and one
commitment pushed. -/
def addPart (a : AggregateProof G F) (part : F × G) : AggregateProof G F :=
  ⟨a.commitmentToWitness, a.evaluatedPoints ++ [part.1],
    a.commitmentsToPolynomials ++ [part.2]⟩

/-- The aggregate proof of a list of openings. -/
def ofParts (witness : G) (parts : List (F × G)) : AggregateProof G F :=
  parts.foldl addPart (withWitness witness)

theorem ofParts_eq (witness : G) (parts : List (F × G)) :
    ofParts witness parts = ⟨witness, parts.map Prod.fst, parts.map Prod.snd⟩ := by
  suffices ∀ (a : AggregateProof G F), parts.foldl addPart a =
      ⟨a.commitmentToWitness, a.evaluatedPoints ++ parts.map Prod.fst,
        a.commitmentsToPolynomials ++ parts.map Prod.snd⟩ from this _
  induction parts with
  | nil => intro a; simp
  | cons part parts ih => intro a; simp [ih, addPart]

variable [Field F] [AddCommGroup G] [Module F G]

/-- Modelled from the spec: `AggregateProof::flatten`. It draws a challenge
`v` from the transcript, under a label the sources do not show, and
combines the parts with `1, v, v^2, …`. -/
def flatten (squeeze : List (TranscriptOp G F) → F) (label : String)
    (a : AggregateProof G F) (transcript : Transcript G F) : Proof G F × Transcript G F :=
  let (challenge, transcript) := transcript.challengeScalar squeeze label
  let powers := (List.range a.commitmentsToPolynomials.length).map (challenge ^ ·)
  let flattenedPolyCommitments :=
    ((a.commitmentsToPolynomials.zip powers).map fun (poly, v) => v • poly).sum
  let flattenedPolyEvaluations :=
    ((a.evaluatedPoints.zip powers).map fun (eval, v) => eval * v).sum
  (⟨a.commitmentToWitness, flattenedPolyEvaluations, flattenedPolyCommitments⟩, transcript)

private theorem zip_map_range {α β γ : Type} (g : α → γ) (l : List α) (f : Nat → β) :
    (l.map g).zip ((List.range l.length).map f) = l.enum.map fun (i, x) => (g x, f i) := by
  apply List.ext_getElem (by simp)
  intro i _ _
  simp

/-- Flattening openings of `P_0, P_1, …` at `z` gives the opening at `z` of
`Σ vⁱ Pᵢ`, for `v` the challenge drawn. -/
theorem flatten_ofParts (commit : F[X] →ₗ[F] G) (squeeze : List (TranscriptOp G F) → F)
    (label : String) (witness : G) (polys : List F[X]) (z : F) (transcript : Transcript G F) :
    let v := squeeze (transcript.history ++ [.challengeScalar label])
    let combined := (polys.enum.map fun (i, P) => C (v ^ i) * P).sum
    let proof := ((ofParts witness (polys.map fun P => (P.eval z, commit P))).flatten
      squeeze label transcript).1
    proof.commitmentToWitness = witness ∧ proof.evaluatedPoint = combined.eval z ∧
      proof.commitmentToPolynomial = commit combined := by
  intro v combined proof
  simp only [proof, flatten, ofParts_eq, Transcript.challengeScalar, List.length_map,
    List.map_map, zip_map_range]
  refine ⟨trivial, ?_, ?_⟩
  · rw [← coe_evalRingHom, map_list_sum, List.map_map]
    congr 1
    refine List.map_congr_left ?_
    rintro ⟨i, P⟩ -
    show eval z P * v ^ i = eval z (C (v ^ i) * P)
    rw [eval_mul, eval_C, mul_comm]
  · rw [map_list_sum, List.map_map]
    congr 1
    refine List.map_congr_left ?_
    rintro ⟨i, P⟩ -
    show v ^ i • commit P = commit (C (v ^ i) * P)
    rw [← smul_eq_C_mul, map_smul]

end AggregateProof

/-! ## The batch check -/

section BatchCheck

variable [Field F] [AddCommGroup G] [Module F G]

/-- The two elements of `G₁` that `batch_check` pairs, for separator `r`:
`Σ rᵏ Wₖ` and `Σ rᵏ (zₖ Wₖ + Fₖ − vₖ [1]₁)`, over the points and the flattened
proofs in order, with `Wₖ`, `vₖ`, `Fₖ` the witness, the value and the
commitment of the `k`-th proof and `[1]₁ = g`. -/
def batchSides (g : G) (r : F) (points : List F) (proofs : List (Proof G F)) : G × G :=
  let terms := (points.zip proofs).enum
  ((terms.map fun (k, _, proof) => r ^ k • proof.commitmentToWitness).sum,
    (terms.map fun (k, point, proof) => r ^ k • (point • proof.commitmentToWitness +
      proof.commitmentToPolynomial - proof.evaluatedPoint • g)).sum)

/-- The KZG equation of one opening at `z`, moved to one side:
`(τ − z) W − (F − v [1]₁)`. -/
def openingDefect (tau : F) (g : G) (point : F) (proof : Proof G F) : G :=
  (tau - point) • proof.commitmentToWitness -
    (proof.commitmentToPolynomial - proof.evaluatedPoint • g)

variable {G2 GT : Type} [AddCommGroup G2] [Module F G2] [AddCommGroup GT] [Module F GT]
  [DecidableEq GT]

/-- Modelled from the spec (§4.4): the pairing equation of `batch_check` for
separator `r`, `e(Σ rᵏ Wₖ, [τ]₂) = e(Σ rᵏ (zₖ Wₖ + Fₖ − vₖ [1]₁), [1]₂)`, with
`pairing` the bilinear map `e`, `h = [1]₂` and `betaH = [τ]₂`. For the two
proofs `verify` passes it is the spec's
`e(Π_a + r Π_b, [τ]₂) = e(z_a Π_a + r z_b Π_b + (F_a + r F_b) − (v_a + r v_b) [1]₁, [1]₂)`. -/
def pairingCheck (pairing : G →ₗ[F] G2 →ₗ[F] GT) (g : G) (h betaH : G2) (r : F)
    (points : List F) (proofs : List (Proof G F)) : Bool :=
  let (totalW, totalC) := batchSides g r points proofs
  decide (pairing totalW betaH = pairing totalC h)

/-- Modelled from the spec (§4.4): the KZG opening key `([1]₁, [1]₂, [τ]₂)`,
whose `batch_check` draws the separator from the transcript, under a label
the sources do not show, and checks the pairing equation. -/
def OpeningKey.kzg (pairing : G →ₗ[F] G2 →ₗ[F] GT) (g : G) (h betaH : G2)
    (squeeze : List (TranscriptOp G F) → F) (separatorLabel : String) : OpeningKey G F :=
  ⟨fun points proofs transcript =>
    pairingCheck pairing g h betaH (transcript.challengeScalar squeeze separatorLabel).1
      points proofs⟩

omit [DecidableEq GT] in
/-- `τ Σ rᵏ Wₖ − Σ rᵏ (zₖ Wₖ + Fₖ − vₖ [1]₁)` is the separator's combination
of the openings' defects. -/
theorem batchSides_defect (tau : F) (g : G) (r : F) (points : List F)
    (proofs : List (Proof G F)) :
    tau • (batchSides g r points proofs).1 - (batchSides g r points proofs).2 =
      ((points.zip proofs).enum.map fun (k, point, proof) =>
        r ^ k • openingDefect tau g point proof).sum := by
  simp only [batchSides]
  induction (points.zip proofs).enum with
  | nil => simp
  | cons term terms ih =>
    simp only [List.map_cons, List.sum_cons, smul_add, openingDefect] at ih ⊢
    rw [← ih]
    module

/-- Under a key with `[τ]₂ = τ [1]₂`, the pairing equation says that the
separator's combination of the openings' defects pairs to zero with `[1]₂`. -/
theorem pairingCheck_iff {tau : F} {h betaH : G2} (hkey : betaH = tau • h)
    (pairing : G →ₗ[F] G2 →ₗ[F] GT) (g : G) (r : F) (points : List F)
    (proofs : List (Proof G F)) :
    pairingCheck pairing g h betaH r points proofs = true ↔
      pairing (((points.zip proofs).enum.map fun (k, point, proof) =>
        r ^ k • openingDefect tau g point proof).sum) h = 0 := by
  rw [← batchSides_defect, LinearMap.map_sub₂, LinearMap.map_smul₂, ← map_smul, ← hkey,
    sub_eq_zero]
  simp [pairingCheck]

/-- The batch check accepts whenever every opening it is given satisfies its
own KZG equation, whatever the separator. -/
theorem pairingCheck_of_defects {tau : F} {h betaH : G2} (hkey : betaH = tau • h)
    (pairing : G →ₗ[F] G2 →ₗ[F] GT) (g : G) (r : F) (points : List F)
    (proofs : List (Proof G F))
    (hdefects : ∀ x ∈ points.zip proofs, openingDefect tau g x.1 x.2 = 0) :
    pairingCheck pairing g h betaH r points proofs = true := by
  rw [pairingCheck_iff hkey]
  have hzero : ((points.zip proofs).enum.map fun (k, point, proof) =>
      r ^ k • openingDefect tau g point proof) =
      (points.zip proofs).enum.map fun _ => (0 : G) :=
    List.map_congr_left fun ⟨k, point, proof⟩ hx => by
      simp only [hdefects _ (List.snd_mem_of_mem_enum hx), smul_zero]
  simp [hzero]

/-- Modelled from the spec (§4.4): `commit(P) = Σ Pᵢ [τⁱ]₁`, which for the SRS
`[τⁱ]₁ = τⁱ [1]₁` of trapdoor `τ` is `P(τ) [1]₁`. -/
def commit (tau : F) (g : G) : F[X] →ₗ[F] G := (leval tau).smulRight g

omit [DecidableEq GT] in
@[simp] theorem commit_apply (tau : F) (g : G) (P : F[X]) : commit tau g P = P.eval tau • g :=
  rfl

omit [DecidableEq GT] in
/-- KZG completeness for one opening: a proof whose witness is the
commitment of `W` with `W (X − z) = P − P(z)`, whose value is `P(z)` and whose
commitment is that of `P`, satisfies the KZG equation at `z`. -/
theorem openingDefect_commit (tau : F) (g : G) (z : F) {P W : F[X]}
    (hW : W * (X - C z) = P - C (P.eval z)) {proof : Proof G F}
    (hwitness : proof.commitmentToWitness = commit tau g W)
    (hvalue : proof.evaluatedPoint = P.eval z)
    (hcommitment : proof.commitmentToPolynomial = commit tau g P) :
    openingDefect tau g z proof = 0 := by
  have hτ := congrArg (eval tau) hW
  simp only [eval_mul, eval_sub, eval_X, eval_C] at hτ
  rw [openingDefect, hwitness, hvalue, hcommitment, commit_apply, commit_apply, smul_smul,
    ← sub_smul, ← sub_smul, mul_comm, hτ, sub_self, zero_smul]

omit [AddCommGroup G] [Module F G] in
/-- `Σ rᵏ aₖ` over a list numbered from `n` is `rⁿ` times the list's
polynomial at `r`. -/
theorem sum_enumFrom_pow_mul (r : F) : ∀ (as : List F) (n : Nat),
    ((as.enumFrom n).map fun (k, a) => r ^ k * a).sum = r ^ n * (toPoly as).eval r
  | [], _ => by simp
  | a :: as, n => by
    rw [List.enumFrom_cons, List.map_cons, List.sum_cons, sum_enumFrom_pow_mul r as (n + 1)]
    simp only [toPoly_cons, eval_add, eval_C, eval_mul, eval_X]
    ring

/-- The separators the batch check accepts, when one of the openings fails
its KZG equation, are roots of one nonzero polynomial of degree below the
number of openings: `Σ φ(Dₖ) Xᵏ` for the defects `Dₖ`, read through a
functional `φ` that sees the failing one. -/
theorem exists_separator_polynomial {tau : F} {h betaH : G2} (hkey : betaH = tau • h)
    (pairing : G →ₗ[F] G2 →ₗ[F] GT) (hnondeg : ∀ a, pairing a h = 0 → a = 0) (g : G)
    (points : List F) (proofs : List (Proof G F))
    (hwrong : ∃ x ∈ points.zip proofs, openingDefect tau g x.1 x.2 ≠ 0) :
    ∃ P : F[X], P ≠ 0 ∧ P.natDegree < (points.zip proofs).length ∧
      ∀ r, pairingCheck pairing g h betaH r points proofs = true → P.IsRoot r := by
  obtain ⟨x, hx, hD⟩ := hwrong
  obtain ⟨φ, hφ⟩ : ∃ φ : Module.Dual F G, φ (openingDefect tau g x.1 x.2) ≠ 0 := by
    by_contra hall
    push_neg at hall
    exact hD ((Module.forall_dual_apply_eq_zero_iff F _).mp hall)
  obtain ⟨j, hj, hxj⟩ := List.getElem_of_mem hx
  let defects := (points.zip proofs).map fun x => φ (openingDefect tau g x.1 x.2)
  have hne : toPoly defects ≠ 0 := fun h0 => hφ (by
    have hcoeff := congrArg (coeff · j) h0
    simp only [toPoly_coeff, List.getD_eq_getElem?_getD, defects, List.getElem?_map,
      List.getElem?_eq_getElem hj, hxj, Option.map_some', Option.getD_some, coeff_zero]
      at hcoeff
    exact hcoeff)
  have hdeg : (toPoly defects).natDegree ≤ (points.zip proofs).length - 1 :=
    natDegree_le_iff_coeff_eq_zero.mpr fun N hN => by
      rw [toPoly_coeff, List.getD_eq_default _ _ (by simp only [defects, List.length_map]; omega)]
  refine ⟨toPoly defects, hne, by omega, fun r hr => ?_⟩
  have hsum := congrArg φ
    (hnondeg _ ((pairingCheck_iff hkey pairing g r points proofs).mp hr))
  rw [map_list_sum, List.map_map, map_zero] at hsum
  rw [IsRoot, ← one_mul (eval r _), ← pow_zero r, ← sum_enumFrom_pow_mul,
    ← List.enum_eq_enumFrom, List.enum_map, List.map_map, ← hsum]
  congr 1
  refine List.map_congr_left fun ⟨k, point, proof⟩ _ => ?_
  simp

/-- Batching soundness. If one of the openings fails its KZG equation, the
batch check accepts fewer separators than there are openings: the accepted
separators are roots of the nonzero polynomial `Σ φ(Dₖ) Xᵏ` of the defects
`Dₖ`, read through a functional `φ` that sees the failing one. For the two
openings `verify` submits, at most one separator passes. The pairing is
non-degenerate on `[1]₂` and the key has `[τ]₂ = τ [1]₂`. -/
theorem pairingCheck_separators_lt {tau : F} {h betaH : G2} (hkey : betaH = tau • h)
    (pairing : G →ₗ[F] G2 →ₗ[F] GT) (hnondeg : ∀ a, pairing a h = 0 → a = 0) (g : G)
    (points : List F) (proofs : List (Proof G F))
    (hwrong : ∃ x ∈ points.zip proofs, openingDefect tau g x.1 x.2 ≠ 0)
    (separators : Finset F)
    (haccept : ∀ r ∈ separators, pairingCheck pairing g h betaH r points proofs = true) :
    separators.card < (points.zip proofs).length := by
  obtain ⟨P, hne, hdeg, hroot⟩ :=
    exists_separator_polynomial hkey pairing hnondeg g points proofs hwrong
  have hroots : separators.val ⊆ P.roots := fun r hr => (mem_roots hne).mpr (hroot r (haccept r hr))
  exact (card_le_degree_of_subset_roots hroots).trans_lt hdeg

/-- Two openings at `0` under `τ = 2`: the first is honest, the second claims
the value `1` of the zero polynomial. Only the separator `0`, which drops the
second, passes. -/
theorem pairingCheck_separators_lt_oneWrong :
    let proofs : List (Proof ℚ ℚ) := [⟨0, 0, 0⟩, ⟨0, 1, 0⟩]
    (2 : ℚ) = (2 : ℚ) • (1 : ℚ) ∧
      (∀ a : ℚ, LinearMap.mul ℚ ℚ a 1 = 0 → a = 0) ∧
      (∃ x ∈ [(0 : ℚ), 0].zip proofs, openingDefect 2 (1 : ℚ) x.1 x.2 ≠ 0) ∧
      (∀ r ∈ ({0} : Finset ℚ),
        pairingCheck (LinearMap.mul ℚ ℚ) 1 1 2 r [0, 0] proofs = true) ∧
      ({0} : Finset ℚ).card < ([(0 : ℚ), 0].zip proofs).length := by
  intro proofs
  have hkey : (2 : ℚ) = (2 : ℚ) • (1 : ℚ) := by norm_num
  have hnondeg : ∀ a : ℚ, LinearMap.mul ℚ ℚ a 1 = 0 → a = 0 := by simp
  have hwrong : ∃ x ∈ [(0 : ℚ), 0].zip proofs, openingDefect 2 (1 : ℚ) x.1 x.2 ≠ 0 :=
    ⟨(0, ⟨0, 1, 0⟩), by simp [proofs], by norm_num [openingDefect]⟩
  have haccept : ∀ r ∈ ({0} : Finset ℚ),
      pairingCheck (LinearMap.mul ℚ ℚ) 1 1 2 r [0, 0] proofs = true := by
    simp [proofs, pairingCheck, batchSides, List.enum, List.enumFrom]
  exact ⟨hkey, hnondeg, hwrong, haccept, pairingCheck_separators_lt hkey _ hnondeg 1 _ _ hwrong _
    haccept⟩

end BatchCheck

end Plonk.CommitmentScheme
