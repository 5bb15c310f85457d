import Plonk.ProofSystem.Verify

/-!
The last stage of `Proof::verify`, under the KZG opening key of the spec.
Once the evaluations are absorbed, `verify` builds two aggregate proofs, one at
`ζ_frak` over `t, r, a, b, c, d, σ₁, σ₂, σ₃, f, h₁, h₂, t'` and one at
`ζ_frak ω` over `z₁, a, b, d, h₁, z₂, t'`, flattens each with a transcript
challenge, absorbs the two witness commitments, and returns the batch check's
verdict (`Proof.verify_eq_batchCheck`).

This stage is complete with respect to the opener of `cs/opening.rs`: when
every part is the value and the commitment of one polynomial, the witnesses
that `compute_witness_polynomial` gives for `compute_challenge_poly_eval` of
those polynomials, at the flattening challenge's powers, are accepted
(`Proof.verify_accepts_opener_witnesses`). Nothing is assumed of the trapdoor,
the transcript's challenges or the separator beyond `[τ]₂ = τ [1]₂`.

It is sound at the separator. The key draws the separator from the
transcript on a history longer than any `verify` reads before it
(`Proof.verifyUntilOpening_congr`, `flatten_congr`), so the rest of the run
does not depend on the answer there; when a flattened opening fails its KZG
equation, at most one answer makes `verify` accept. Both halves are
`Proof.verify_separator_subsingleton`.
-/

namespace Plonk.ProofSystem

open Polynomial DensePolynomial CommitmentOpener
open CommitmentScheme (AggregateProof OpeningKey commit commit_apply exists_separator_polynomial
  openingDefect openingDefect_commit pairingCheck pairingCheck_of_defects)

variable {G F : Type} [Field F] [DecidableEq F] [AddCommGroup G] [Module F G]

/-- `[r]`, the linearisation commitment, from the challenges of the run. -/
def Proof.roundLinearisationCommitment (p : Proof G F) (r : Round5 G F)
    (verifierKey : VerifierKey G F) : G :=
  let ch := r.challenges
  p.computeLinearisationCommitment ch.alpha ch.beta ch.gamma ch.delta ch.epsilon ch.zeta
    (ch.rangeSepChallenge, ch.logicSepChallenge, ch.fixedBaseSepChallenge,
      ch.varBaseSepChallenge, ch.lookupSepChallenge)
    ch.zetaFrak r.l1Eval p.evaluations.tPrimeEval p.evaluations.tPrimeNextEval verifierKey

/-- The parts of the aggregate proof at `ζ_frak`, in the order `verify` adds
them. -/
def Proof.aggregateParts (p : Proof G F) (r : Round5 G F) (verifierKey : VerifierKey G F) :
    List (F × G) :=
  let e := p.evaluations
  [(r.tEval, r.tComm), (e.rPolyEval, p.roundLinearisationCommitment r verifierKey),
    (e.aEval, p.aComm), (e.bEval, p.bComm), (e.cEval, p.cComm), (e.dEval, p.dComm),
    (e.sSigma1Eval, verifierKey.permutation.sSigma1),
    (e.sSigma2Eval, verifierKey.permutation.sSigma2),
    (e.sSigma3Eval, verifierKey.permutation.sSigma3),
    (e.fEval, p.fComm), (e.h1Eval, p.h1Comm), (e.h2Eval, p.h2Comm),
    (e.tPrimeEval, r.tPrimeComm)]

/-- The parts of the shifted aggregate proof at `ζ_frak ω`, in order. -/
def Proof.shiftedAggregateParts (p : Proof G F) (r : Round5 G F) : List (F × G) :=
  let e := p.evaluations
  [(e.permEval, p.z1Comm), (e.aNextEval, p.aComm), (e.bNextEval, p.bComm),
    (e.dNextEval, p.dComm), (e.h1NextEval, p.h1Comm), (e.lookupPermEval, p.z2Comm),
    (e.tPrimeNextEval, r.tPrimeComm)]

/-! ## The opener's witnesses -/

omit [DecidableEq F] in
private theorem zip_range_pow (v z : F) (polys : List (DensePolynomial F)) :
    ((List.range polys.length).map (v ^ ·)).zip (polys.zip (polys.map (·.evaluate z))) =
      polys.enum.map fun x => (v ^ x.1, x.2, x.2.evaluate z) :=
  List.ext_getElem (by simp) fun i _ _ => by simp

omit [DecidableEq F] in
private theorem sum_pow_sub_eval (v z : F) :
    ∀ terms : List (Nat × DensePolynomial F),
      (terms.map fun x => C (v ^ x.1) * (x.2.toPolynomial - C (x.2.evaluate z))).sum =
        (terms.map fun x => C (v ^ x.1) * x.2.toPolynomial).sum -
          C (eval z (terms.map fun x => C (v ^ x.1) * x.2.toPolynomial).sum)
  | [] => by simp
  | x :: terms => by
    rw [List.map_cons, List.sum_cons, sum_pow_sub_eval v z terms]
    simp only [List.map_cons, List.sum_cons, evaluate_eq, eval_add, eval_mul, eval_C, C_add,
      C_mul]
    ring

/-- The opener on the parts' own values: `compute_witness_polynomial` of
`compute_challenge_poly_eval`, with the powers `1, v, v², …` and every
polynomial's value at `z`, is the KZG witness at `z` of `Σ vⁱ Pᵢ`, the
combination flattening commits to. -/
theorem computeWitnessPolynomial_powers (polys : List (DensePolynomial F)) (v z : F) :
    ∃ w, computeWitnessPolynomial (computeChallengePolyEval ((List.range polys.length).map (v ^ ·))
        polys (polys.map (·.evaluate z))) z = .ok w ∧
      w.toPolynomial * (X - C z) =
        ((polys.map toPolynomial).enum.map fun (i, P) => C (v ^ i) * P).sum -
          C (eval z ((polys.map toPolynomial).enum.map fun (i, P) => C (v ^ i) * P).sum) := by
  obtain ⟨w, hw, -, hmul, -⟩ := computeWitnessPolynomial_spec
    (computeChallengePolyEval ((List.range polys.length).map (v ^ ·)) polys
      (polys.map (·.evaluate z))) z
  refine ⟨w, hw, ?_⟩
  have hcomb : ((polys.map toPolynomial).enum.map fun (i, P) => C (v ^ i) * P) =
      polys.enum.map fun x => C (v ^ x.1) * x.2.toPolynomial := by
    rw [List.enum_map, List.map_map]
    rfl
  have hk : (computeChallengePolyEval ((List.range polys.length).map (v ^ ·)) polys
      (polys.map (·.evaluate z))).toPolynomial =
      (polys.enum.map fun x => C (v ^ x.1) * x.2.toPolynomial).sum -
        C (eval z (polys.enum.map fun x => C (v ^ x.1) * x.2.toPolynomial).sum) := by
    rw [toPolynomial_computeChallengePolyEval, zip_range_pow, List.map_map, ← sum_pow_sub_eval]
    rfl
  rw [hmul, hk, hcomb]
  simp

omit [DecidableEq F] in
/-- Parts given as the values at `z` and the commitments of polynomials, read
in `F[X]`. -/
private theorem map_evaluate_commit (tau : F) (g : G) (z : F) (polys : List (DensePolynomial F)) :
    polys.map (fun P => (P.evaluate z, commit tau g P.toPolynomial)) =
      (polys.map toPolynomial).map fun P => (P.eval z, commit tau g P) := by
  rw [List.map_map]
  exact List.map_congr_left fun P _ => by simp [evaluate_eq]

section Openings

variable (squeeze : List (TranscriptOp G F) → F)
  (newDomain : Nat → Except Error (EvaluationDomain F)) (flattenLabel : String)
  (verifierKey : VerifierKey G F) (transcript : Transcript G F) (pubInputs : List F)

/-- After the run up to the openings, `verify` flattens the two aggregate
proofs one after the other, absorbs `W_ζ` and `W_ζω`, and returns the verdict
of the batch check at `ζ_frak` and `ζ_frak ω`. -/
theorem Proof.verify_eq_batchCheck (openingKey : OpeningKey G F) (p : Proof G F)
    {r : Round5 G F} {t : Transcript G F}
    (hrun : p.verifyUntilOpening squeeze newDomain verifierKey transcript pubInputs = .ok (r, t)) :
    let flatA := (AggregateProof.ofParts p.wZetaFrakComm (p.aggregateParts r verifierKey)).flatten
      squeeze flattenLabel t
    let flatB := (AggregateProof.ofParts p.wZetaFrakWComm (p.shiftedAggregateParts r)).flatten
      squeeze flattenLabel flatA.2
    p.verify squeeze newDomain flattenLabel verifierKey transcript openingKey pubInputs =
      if openingKey.batchCheck [r.challenges.zetaFrak, r.challenges.zetaFrak * r.domain.groupGen]
          [flatA.1, flatB.1]
          ((flatB.2.appendCommitment "w_z" p.wZetaFrakComm).appendCommitment "w_z_w"
            p.wZetaFrakWComm) then
        .ok ()
      else .error (.error .proofVerificationError) := by
  simp only [Proof.verify, hrun, DuskBytes.except_ok_bind]
  rfl

variable {G2 GT : Type} [AddCommGroup G2] [Module F G2] [AddCommGroup GT] [Module F GT]
  [DecidableEq GT]

/-- Completeness of the openings. Take a run of `verify` that reaches the
openings, and polynomials behind its parts: every part at `ζ_frak` is the
value there and the commitment `P(τ) [1]₁` of one polynomial, and likewise at
`ζ_frak ω`. Then the opener's witnesses for those polynomials, at the powers of
the two flattening challenges, exist, and with their commitments in place of
`W_ζ` and `W_ζω` `verify` returns `Ok` under the KZG key, whatever the
trapdoor, the transcript's challenges and the separator. -/
theorem Proof.verify_accepts_opener_witnesses {tau : F} {h betaH : G2}
    (hkey : betaH = tau • h) (pairing : G →ₗ[F] G2 →ₗ[F] GT) (g : G) (separatorLabel : String)
    (p : Proof G F) {r : Round5 G F} {t : Transcript G F}
    (hrun : p.verifyUntilOpening squeeze newDomain verifierKey transcript pubInputs = .ok (r, t))
    (polys shiftedPolys : List (DensePolynomial F))
    (hparts : p.aggregateParts r verifierKey =
      polys.map fun P => (P.evaluate r.challenges.zetaFrak, commit tau g P.toPolynomial))
    (hshifted : p.shiftedAggregateParts r = shiftedPolys.map fun P =>
      (P.evaluate (r.challenges.zetaFrak * r.domain.groupGen), commit tau g P.toPolynomial)) :
    let zeta := r.challenges.zetaFrak
    let zetaOmega := r.challenges.zetaFrak * r.domain.groupGen
    let v := squeeze (t.history ++ [.challengeScalar flattenLabel])
    let u := squeeze (t.history ++ [.challengeScalar flattenLabel, .challengeScalar flattenLabel])
    ∃ wZ wZw,
      computeWitnessPolynomial (computeChallengePolyEval ((List.range polys.length).map (v ^ ·))
          polys (polys.map (·.evaluate zeta))) zeta = .ok wZ ∧
        computeWitnessPolynomial (computeChallengePolyEval
          ((List.range shiftedPolys.length).map (u ^ ·)) shiftedPolys
          (shiftedPolys.map (·.evaluate zetaOmega))) zetaOmega = .ok wZw ∧
        ({ p with
            wZetaFrakComm := commit tau g wZ.toPolynomial
            wZetaFrakWComm := commit tau g wZw.toPolynomial } : Proof G F).verify squeeze
          newDomain flattenLabel verifierKey transcript
          (OpeningKey.kzg pairing g h betaH squeeze separatorLabel) pubInputs = .ok () := by
  intro zeta zetaOmega v u
  obtain ⟨wZ, hwZ, hmulZ⟩ := computeWitnessPolynomial_powers polys v zeta
  obtain ⟨wZw, hwZw, hmulZw⟩ := computeWitnessPolynomial_powers shiftedPolys u zetaOmega
  refine ⟨wZ, wZw, hwZ, hwZw, ?_⟩
  set p' : Proof G F := { p with
    wZetaFrakComm := commit tau g wZ.toPolynomial
    wZetaFrakWComm := commit tau g wZw.toPolynomial }
  -- nothing before the first `flatten` reads the witness commitments
  have hrun' : p'.verifyUntilOpening squeeze newDomain verifierKey transcript pubInputs =
      .ok (r, t) := hrun
  have hA : p'.aggregateParts r verifierKey =
      (polys.map toPolynomial).map fun P => (P.eval zeta, commit tau g P) :=
    hparts.trans (map_evaluate_commit tau g zeta polys)
  have hB : p'.shiftedAggregateParts r =
      (shiftedPolys.map toPolynomial).map fun P => (P.eval zetaOmega, commit tau g P) :=
    hshifted.trans (map_evaluate_commit tau g zetaOmega shiftedPolys)
  obtain ⟨hwA, hvA, hcA⟩ := AggregateProof.flatten_ofParts (commit tau g) squeeze flattenLabel
    (commit tau g wZ.toPolynomial) (polys.map toPolynomial) zeta t
  obtain ⟨hwB, hvB, hcB⟩ := AggregateProof.flatten_ofParts (commit tau g) squeeze flattenLabel
    (commit tau g wZw.toPolynomial) (shiftedPolys.map toPolynomial) zetaOmega
    ⟨t.history ++ [.challengeScalar flattenLabel]⟩
  have hu : (t.history ++ [.challengeScalar flattenLabel]) ++ [.challengeScalar flattenLabel] =
      t.history ++ [.challengeScalar flattenLabel, .challengeScalar flattenLabel] := by simp
  rw [hu] at hvB hcB
  rw [Proof.verify_eq_batchCheck squeeze newDomain flattenLabel verifierKey transcript pubInputs
    _ _ hrun', if_pos]
  refine pairingCheck_of_defects hkey pairing g _ _ _ fun x hx => ?_
  simp only [hA, hB, List.zip_cons_cons, List.zip_nil_right, List.mem_cons, List.mem_singleton,
    List.not_mem_nil, or_false] at hx
  rcases hx with rfl | rfl
  · exact openingDefect_commit tau g zeta hmulZ hwA hvA hcA
  · exact openingDefect_commit tau g zetaOmega hmulZw hwB hvB hcB

end Openings

/-- The line through `(z, v)` and `(τ, c)`: its value at `z` is `v`, and its
commitment under the trapdoor `τ` with `[1]₁ = 1` is `c`. -/
def linearOpening (tau z v c : F) : DensePolynomial F :=
  let slope := (c - v) / (tau - z)
  fromCoefficientsVec [v - slope * z, slope]

/-- Away from the trapdoor, any parts are the openings of the lines through
them. -/
theorem map_linearOpening (tau z : F) (hz : tau ≠ z) (parts : List (F × F)) :
    (parts.map fun x => linearOpening tau z x.1 x.2).map
      (fun P => (P.evaluate z, commit tau (1 : F) P.toPolynomial)) = parts := by
  have hsub : tau - z ≠ 0 := sub_ne_zero.mpr hz
  rw [List.map_map]
  refine List.map_id'' (fun ⟨v, c⟩ => ?_) parts
  simp only [Function.comp, linearOpening, evaluate_eq, commit_apply,
    toPolynomial_fromCoefficientsVec, toPoly_cons, toPoly_nil, eval_add, eval_C, eval_mul, eval_X,
    mul_zero, add_zero, smul_eq_mul, mul_one, Prod.mk.injEq]
  constructor
  · ring
  · field_simp
    ring

/-- A proof with nonzero commitments and evaluations, on the two-point domain
with the challenges the history's length (`ζ_frak = 26`, `ζ_frak ω = -26`),
under the key `[τ]₂ = 3 [1]₂`: every part is opened by the line through it,
and the opener's witnesses for those lines are accepted. -/
theorem Proof.verify_accepts_opener_witnesses_linearOpenings :
    let p : Proof ℚ ℚ := { (default : Proof ℚ ℚ) with
      aComm := 2, qLowComm := 1, z1Comm := 4,
      evaluations := { (default : ProofEvaluations ℚ) with
        aEval := 1, rPolyEval := 6, permEval := 7, aNextEval := 5 } }
    let newDomain : Nat → Except Error (EvaluationDomain ℚ) := fun _ => .ok twoPointDomain
    ∃ r t, p.verifyUntilOpening historyLength newDomain zeroVerifierKey ⟨[]⟩ [] = .ok (r, t) ∧
      let zeta := r.challenges.zetaFrak
      let zetaOmega := r.challenges.zetaFrak * r.domain.groupGen
      let polys := (p.aggregateParts r zeroVerifierKey).map fun x => linearOpening 3 zeta x.1 x.2
      let shiftedPolys := (p.shiftedAggregateParts r).map fun x =>
        linearOpening 3 zetaOmega x.1 x.2
      let v := historyLength (t.history ++ [.challengeScalar "flatten"])
      let u := historyLength
        (t.history ++ [.challengeScalar "flatten", .challengeScalar "flatten"])
      (3 : ℚ) = (3 : ℚ) • (1 : ℚ) ∧
        p.aggregateParts r zeroVerifierKey =
          polys.map (fun P => (P.evaluate zeta, commit 3 1 P.toPolynomial)) ∧
        p.shiftedAggregateParts r =
          shiftedPolys.map (fun P => (P.evaluate zetaOmega, commit 3 1 P.toPolynomial)) ∧
        ∃ wZ wZw,
          computeWitnessPolynomial (computeChallengePolyEval
              ((List.range polys.length).map (v ^ ·)) polys (polys.map (·.evaluate zeta))) zeta =
              .ok wZ ∧
            computeWitnessPolynomial (computeChallengePolyEval
              ((List.range shiftedPolys.length).map (u ^ ·)) shiftedPolys
              (shiftedPolys.map (·.evaluate zetaOmega))) zetaOmega = .ok wZw ∧
            ({ p with
                wZetaFrakComm := commit 3 1 wZ.toPolynomial
                wZetaFrakWComm := commit 3 1 wZw.toPolynomial } : Proof ℚ ℚ).verify historyLength
              newDomain "flatten" zeroVerifierKey ⟨[]⟩
              (OpeningKey.kzg (LinearMap.mul ℚ ℚ) 1 1 3 historyLength "separator") [] = .ok () := by
  intro p newDomain
  obtain ⟨r, t, hrun⟩ := p.verifyUntilOpening_ok historyLength newDomain zeroVerifierKey ⟨[]⟩ []
    rfl p.deriveChallenges_historyLength_off_twoPoint
  obtain ⟨hch, -, hdomain⟩ :=
    p.verifyUntilOpening_history historyLength newDomain zeroVerifierKey ⟨[]⟩ [] hrun
  have hzeta : r.challenges.zetaFrak = 26 := by rw [hch, p.deriveChallenges_historyLength_zetaFrak]
  have hgen : r.domain.groupGen = -1 := by rw [← Except.ok.inj hdomain]; rfl
  have hkey : (3 : ℚ) = (3 : ℚ) • (1 : ℚ) := by norm_num
  have hparts := (map_linearOpening 3 r.challenges.zetaFrak (by rw [hzeta]; norm_num)
    (p.aggregateParts r zeroVerifierKey)).symm
  have hshifted := (map_linearOpening 3 (r.challenges.zetaFrak * r.domain.groupGen)
    (by rw [hzeta, hgen]; norm_num) (p.shiftedAggregateParts r)).symm
  exact ⟨r, t, hrun, hkey, hparts, hshifted, Proof.verify_accepts_opener_witnesses historyLength
    newDomain "flatten" zeroVerifierKey ⟨[]⟩ [] hkey (LinearMap.mul ℚ ℚ) 1 "separator" p hrun _ _
    hparts hshifted⟩

/-! ## Soundness at the separator -/

omit [Field F] [DecidableEq F] [AddCommGroup G] [Module F G] in
/-- The challenges up to `ζ_frak` read the transcript only on histories of at
most twenty-six operations more than the start: two transcript functions that
agree there draw the same challenges. -/
theorem Proof.deriveChallenges_congr {squeeze squeeze' : List (TranscriptOp G F) → F}
    (p : Proof G F) (transcript : Transcript G F)
    (hagree : ∀ history : List (TranscriptOp G F),
      history.length ≤ transcript.history.length + 26 → squeeze history = squeeze' history) :
    p.deriveChallenges squeeze transcript = p.deriveChallenges squeeze' transcript := by
  simp (disch := simp) only [Proof.deriveChallenges, Transcript.appendCommitment,
    Transcript.appendScalar, Transcript.challengeScalar, hagree]

/-- The run up to the openings reads the transcript only where the challenges
do. -/
theorem Proof.verifyUntilOpening_congr {squeeze squeeze' : List (TranscriptOp G F) → F}
    (newDomain : Nat → Except Error (EvaluationDomain F)) (verifierKey : VerifierKey G F)
    (transcript : Transcript G F) (pubInputs : List F) (p : Proof G F)
    (hagree : ∀ history : List (TranscriptOp G F),
      history.length ≤ transcript.history.length + 26 → squeeze history = squeeze' history) :
    p.verifyUntilOpening squeeze newDomain verifierKey transcript pubInputs =
      p.verifyUntilOpening squeeze' newDomain verifierKey transcript pubInputs := by
  simp only [Proof.verifyUntilOpening, p.deriveChallenges_congr transcript hagree]

/-- The transcript the first `flatten` reads holds forty-eight operations more
than the start. -/
theorem Proof.verifyUntilOpening_history_length (squeeze : List (TranscriptOp G F) → F)
    (newDomain : Nat → Except Error (EvaluationDomain F)) (verifierKey : VerifierKey G F)
    (transcript : Transcript G F) (pubInputs : List F) (p : Proof G F)
    {r : Round5 G F} {t : Transcript G F}
    (hrun : p.verifyUntilOpening squeeze newDomain verifierKey transcript pubInputs = .ok (r, t)) :
    t.history.length = transcript.history.length + 48 := by
  rw [(p.verifyUntilOpening_history squeeze newDomain verifierKey transcript pubInputs hrun).2.1,
    Proof.absorbEvaluations_history, List.length_append, p.deriveChallenges_history_length]
  rfl

omit [DecidableEq F] in
/-- `flatten` reads the transcript once, at its own challenge. -/
theorem flatten_congr {squeeze squeeze' : List (TranscriptOp G F) → F} (label : String)
    (a : AggregateProof G F) (t : Transcript G F)
    (hagree : squeeze (t.history ++ [.challengeScalar label]) =
      squeeze' (t.history ++ [.challengeScalar label])) :
    a.flatten squeeze label t = a.flatten squeeze' label t := by
  simp only [AggregateProof.flatten, Transcript.challengeScalar, hagree]

section Separator

variable (squeeze : List (TranscriptOp G F) → F)
  (newDomain : Nat → Except Error (EvaluationDomain F)) (flattenLabel : String)
  (verifierKey : VerifierKey G F) (transcript : Transcript G F) (pubInputs : List F)
  {G2 GT : Type} [AddCommGroup G2] [Module F G2] [AddCommGroup GT] [Module F GT]
  [DecidableEq GT]

/-- Soundness at the separator. Take a run of `verify` that reaches the
openings. The KZG key draws the separator from the same transcript function
as `verify`, on a history longer than any `verify` has read before it: every
transcript function that agrees with this one below the query's length runs
`verify` the same up to the batch check. If one of the two flattened openings
fails its KZG equation then, whatever the function answers elsewhere, at
most one answer at the separator's query makes `verify` accept. The pairing
is non-degenerate on `[1]₂` and the key has `[τ]₂ = τ [1]₂`. -/
theorem Proof.verify_separator_subsingleton [DecidableEq G] {tau : F} {h betaH : G2}
    (hkey : betaH = tau • h) (pairing : G →ₗ[F] G2 →ₗ[F] GT)
    (hnondeg : ∀ a, pairing a h = 0 → a = 0) (g : G) (separatorLabel : String)
    (p : Proof G F) {r : Round5 G F} {t : Transcript G F}
    (hrun : p.verifyUntilOpening squeeze newDomain verifierKey transcript pubInputs = .ok (r, t)) :
    let flatA := (AggregateProof.ofParts p.wZetaFrakComm (p.aggregateParts r verifierKey)).flatten
      squeeze flattenLabel t
    let flatB := (AggregateProof.ofParts p.wZetaFrakWComm (p.shiftedAggregateParts r)).flatten
      squeeze flattenLabel flatA.2
    let query := ((flatB.2.appendCommitment "w_z" p.wZetaFrakComm).appendCommitment "w_z_w"
      p.wZetaFrakWComm).history ++ [.challengeScalar separatorLabel]
    (∀ squeeze' : List (TranscriptOp G F) → F,
        (∀ history : List (TranscriptOp G F), history.length < query.length →
          squeeze' history = squeeze history) →
        p.verifyUntilOpening squeeze' newDomain verifierKey transcript pubInputs = .ok (r, t) ∧
          (AggregateProof.ofParts p.wZetaFrakComm (p.aggregateParts r verifierKey)).flatten
            squeeze' flattenLabel t = flatA ∧
          (AggregateProof.ofParts p.wZetaFrakWComm (p.shiftedAggregateParts r)).flatten
            squeeze' flattenLabel flatA.2 = flatB) ∧
      ((openingDefect tau g r.challenges.zetaFrak flatA.1 ≠ 0 ∨
          openingDefect tau g (r.challenges.zetaFrak * r.domain.groupGen) flatB.1 ≠ 0) →
        {c : F | p.verify (Function.update squeeze query c) newDomain flattenLabel verifierKey
          transcript (OpeningKey.kzg pairing g h betaH (Function.update squeeze query c)
            separatorLabel) pubInputs = .ok ()}.Subsingleton) := by
  intro flatA flatB query
  have hlen := p.verifyUntilOpening_history_length squeeze newDomain verifierKey transcript
    pubInputs hrun
  have hquery : query.length = t.history.length + 5 := by
    simp [query, flatB, flatA, AggregateProof.flatten, Transcript.challengeScalar,
      Transcript.appendCommitment]
  -- every read before the separator's is shorter than its query
  have hfresh : ∀ squeeze' : List (TranscriptOp G F) → F,
      (∀ history : List (TranscriptOp G F), history.length < query.length →
        squeeze' history = squeeze history) →
      p.verifyUntilOpening squeeze' newDomain verifierKey transcript pubInputs = .ok (r, t) ∧
        (AggregateProof.ofParts p.wZetaFrakComm (p.aggregateParts r verifierKey)).flatten
          squeeze' flattenLabel t = flatA ∧
        (AggregateProof.ofParts p.wZetaFrakWComm (p.shiftedAggregateParts r)).flatten
          squeeze' flattenLabel flatA.2 = flatB := fun squeeze' hbelow =>
    ⟨(p.verifyUntilOpening_congr newDomain verifierKey transcript pubInputs
        fun history hshort => hbelow history (by omega)).trans hrun,
      flatten_congr flattenLabel _ t (hbelow _ (by simp; omega)),
      flatten_congr flattenLabel _ flatA.2
        (hbelow _ (by simp [flatA, AggregateProof.flatten, Transcript.challengeScalar]; omega))⟩
  refine ⟨hfresh, fun hwrong => ?_⟩
  -- the answer at the query is the separator
  have haccept : ∀ c, p.verify (Function.update squeeze query c) newDomain flattenLabel
      verifierKey transcript (OpeningKey.kzg pairing g h betaH (Function.update squeeze query c)
        separatorLabel) pubInputs = .ok () →
      pairingCheck pairing g h betaH c [r.challenges.zetaFrak,
        r.challenges.zetaFrak * r.domain.groupGen] [flatA.1, flatB.1] = true := by
    intro c hc
    obtain ⟨hrun', hA, hB⟩ := hfresh (Function.update squeeze query c) fun history hshort =>
      Function.update_noteq (fun heq => (heq ▸ hshort).false) _ _
    rw [Proof.verify_eq_batchCheck _ newDomain flattenLabel verifierKey transcript pubInputs _ _
      hrun'] at hc
    simp only [hA, hB] at hc
    split at hc
    · rename_i hcheck
      rw [← Function.update_same query c squeeze]
      exact hcheck
    · cases hc
  obtain ⟨P, hne, hdeg, hroot⟩ := exists_separator_polynomial hkey pairing hnondeg g
    [r.challenges.zetaFrak, r.challenges.zetaFrak * r.domain.groupGen] [flatA.1, flatB.1]
    (hwrong.elim (fun hA => ⟨_, List.mem_cons_self _ _, hA⟩)
      fun hB => ⟨_, List.mem_cons_of_mem _ (List.mem_cons_self _ _), hB⟩)
  intro c₁ hc₁ c₂ hc₂
  by_contra hdiff
  have hroots : ({c₁, c₂} : Finset F).val ⊆ P.roots := fun c hc => by
    rw [Finset.mem_val, Finset.mem_insert, Finset.mem_singleton] at hc
    rcases hc with rfl | rfl
    · exact (mem_roots hne).mpr (hroot _ (haccept _ hc₁))
    · exact (mem_roots hne).mpr (hroot _ (haccept _ hc₂))
  have hcard := card_le_degree_of_subset_roots hroots
  rw [Finset.card_pair hdiff] at hcard
  simp at hdeg
  omega

end Separator

/-- The zero proof with `[t_low] = [1]₁`: the verifier's `[t]` is `[1]₁` while
`t(ζ_frak) = 0` and `W_ζ = 0`, so the flattened opening at `ζ_frak` fails its
KZG equation under `τ = 3`. -/
theorem Proof.verify_separator_subsingleton_qLow :
    let p : Proof ℚ ℚ := { (default : Proof ℚ ℚ) with qLowComm := 1 }
    let squeeze : List (TranscriptOp ℚ ℚ) → ℚ := fun _ => 0
    let newDomain : Nat → Except Error (EvaluationDomain ℚ) := fun _ => .ok twoPointDomain
    let challenges := p.deriveChallenges squeeze ⟨[]⟩
    let r : Round5 ℚ ℚ := ⟨twoPointDomain, challenges.1, 1 / 2, 0, 0, 1⟩
    let t := p.absorbEvaluations 0 challenges.2
    let flatA := (AggregateProof.ofParts p.wZetaFrakComm
      (p.aggregateParts r zeroVerifierKey)).flatten squeeze "flatten" t
    let flatB := (AggregateProof.ofParts p.wZetaFrakWComm (p.shiftedAggregateParts r)).flatten
      squeeze "flatten" flatA.2
    let query := ((flatB.2.appendCommitment "w_z" p.wZetaFrakComm).appendCommitment "w_z_w"
      p.wZetaFrakWComm).history ++ [.challengeScalar "separator"]
    (3 : ℚ) = (3 : ℚ) • (1 : ℚ) ∧ (∀ a : ℚ, LinearMap.mul ℚ ℚ a 1 = 0 → a = 0) ∧
      p.verifyUntilOpening squeeze newDomain zeroVerifierKey ⟨[]⟩ [] = .ok (r, t) ∧
      (∀ squeeze' : List (TranscriptOp ℚ ℚ) → ℚ,
        (∀ history : List (TranscriptOp ℚ ℚ), history.length < query.length →
          squeeze' history = squeeze history) →
        p.verifyUntilOpening squeeze' newDomain zeroVerifierKey ⟨[]⟩ [] = .ok (r, t) ∧
          (AggregateProof.ofParts p.wZetaFrakComm (p.aggregateParts r zeroVerifierKey)).flatten
            squeeze' "flatten" t = flatA ∧
          (AggregateProof.ofParts p.wZetaFrakWComm (p.shiftedAggregateParts r)).flatten
            squeeze' "flatten" flatA.2 = flatB) ∧
      (openingDefect 3 (1 : ℚ) r.challenges.zetaFrak flatA.1 ≠ 0 ∨
        openingDefect 3 (1 : ℚ) (r.challenges.zetaFrak * r.domain.groupGen) flatB.1 ≠ 0) ∧
      {c : ℚ | p.verify (Function.update squeeze query c) newDomain "flatten" zeroVerifierKey
        ⟨[]⟩ (OpeningKey.kzg (LinearMap.mul ℚ ℚ) 1 1 3 (Function.update squeeze query c)
          "separator") [] = .ok ()}.Subsingleton := by
  intro p squeeze newDomain challenges r t flatA flatB query
  have hkey : (3 : ℚ) = (3 : ℚ) • (1 : ℚ) := by norm_num
  have hnondeg : ∀ a : ℚ, LinearMap.mul ℚ ℚ a 1 = 0 → a = 0 := by simp
  have hrun : p.verifyUntilOpening squeeze newDomain zeroVerifierKey ⟨[]⟩ [] = .ok (r, t) :=
    Proof.verifyUntilOpening_zeroChallenges p
  have hwitness : (default : Proof ℚ ℚ).wZetaFrakComm = 0 := rfl
  have hwrong : openingDefect 3 (1 : ℚ) r.challenges.zetaFrak flatA.1 ≠ 0 := by
    simp [flatA, AggregateProof.flatten, AggregateProof.ofParts_eq, Proof.aggregateParts,
      Transcript.challengeScalar, openingDefect, squeeze, r, p, hwitness, List.range_succ]
  obtain ⟨hfresh, hsound⟩ := Proof.verify_separator_subsingleton squeeze newDomain "flatten"
    zeroVerifierKey ⟨[]⟩ [] hkey (LinearMap.mul ℚ ℚ) hnondeg 1 "separator" p hrun
  exact ⟨hkey, hnondeg, hrun, hfresh, .inl hwrong, hsound (.inl hwrong)⟩

end Plonk.ProofSystem
