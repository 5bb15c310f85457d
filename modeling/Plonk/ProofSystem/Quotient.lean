import Plonk.Cs.Opening
import Plonk.ProofSystem.Barycentric
import Plonk.ProofSystem.Proof

/-!
The verifier's two views of the quotient polynomial `t`:
`compute_quotient_evaluation`, its value at `ζ_frak` from the public inputs
and the proof's evaluations, and `compute_quotient_commitment`, its
commitment from the four committed pieces. The prover splits
`t = t_low + X^n t_mid + X^{2n} t_high + X^{3n} t_4`; at `ζ_frak` the verifier
weighs the pieces' commitments by `ζ_frak^n`, `ζ_frak^{2n}`, `ζ_frak^{3n}`.
Off `H`, `computeQuotientEvaluation_spec` gives the identity the evaluation
solves for `t(ζ_frak)`, with the public inputs read through their
interpolant on `H`.

The exponents are `u64` values: `2 * n as u64` and `3 * n as u64` are `u64`
products, which a release build wraps and a debug build panics on.
`computeQuotientCommitment_spec` holds while `3n` fits in a `u64`. The
verifier passes `domain.size`, and a domain over BLS12-381's scalar field
has at most `2^32` points (the field's two-adicity is 32), so `3n < 2^64` on
every input the verifier gives and neither the wrap nor the panic happens.
-/

namespace Plonk.ProofSystem

open Polynomial

variable {G F : Type} [Field F] [DecidableEq F]

/-- `Proof::compute_quotient_evaluation`. The addend `d` stands commented out
in the source (`//+ d`), and is absent here too. -/
def Proof.computeQuotientEvaluation (p : Proof G F) (domain : EvaluationDomain F)
    (pubInputs : List F) (alpha beta gamma delta epsilon zetaFrak zHEval l1Eval zHatEval
      lookupSepChallenge : F) : Except Failure F := do
  let piEval := computeBarycentricEval pubInputs zetaFrak domain
  let alphaSq := alpha ^ 2
  let lSep2 := lookupSepChallenge ^ 2
  let lSep3 := lookupSepChallenge * lSep2
  let epsilonOnePlusDelta := epsilon * (1 + delta)
  let a := p.evaluations.rPolyEval + piEval
  let betaSig1 := beta * p.evaluations.sSigma1Eval
  let b0 := p.evaluations.aEval + betaSig1 + gamma
  let betaSig2 := beta * p.evaluations.sSigma2Eval
  let b1 := p.evaluations.bEval + betaSig2 + gamma
  let betaSig3 := beta * p.evaluations.sSigma3Eval
  let b2 := p.evaluations.cEval + betaSig3 + gamma
  let b3 := (p.evaluations.dEval + gamma) * zHatEval * alpha
  let b := b0 * b1 * b2 * b3
  let c := l1Eval * alphaSq
  let e := l1Eval * lSep2
  let f0 := epsilonOnePlusDelta + p.evaluations.h1Eval + delta * p.evaluations.h2Eval
  let f1 := epsilonOnePlusDelta + delta * p.evaluations.h1NextEval
  let f := p.evaluations.lookupPermEval * f0 * f1 * lSep3
  let zHInv ← invertUnwrap .quotientEvaluation zHEval
  pure ((a - b - c - e - f) * zHInv)

/-- The quotient evaluation panics on `Z_H(ζ_frak) = 0`, whatever the rest of
its inputs. -/
theorem Proof.computeQuotientEvaluation_zero (p : Proof G F) (domain : EvaluationDomain F)
    (pubInputs : List F)
    (alpha beta gamma delta epsilon zetaFrak l1Eval zHatEval lookupSepChallenge : F) :
    p.computeQuotientEvaluation domain pubInputs alpha beta gamma delta epsilon zetaFrak 0
      l1Eval zHatEval lookupSepChallenge = .error (.panic .quotientEvaluation) := by
  simp only [computeQuotientEvaluation, invertUnwrap_zero]
  rfl

/-- `compute_quotient_evaluation` off `H`, on at most `n` public inputs: `t(ζ)`
times `Z_H(ζ)` is the quotient identity's right side, with `PI(ζ)` the value
of the public inputs' interpolant on `H`. -/
theorem Proof.computeQuotientEvaluation_spec (p : Proof G F) (domain : EvaluationDomain F)
    (pubInputs : List F) (alpha beta gamma delta epsilon zetaFrak l1Eval zHatEval
      lookupSepChallenge : F)
    (hlen : pubInputs.length ≤ domain.size) (hzeta : zetaFrak ^ domain.size ≠ 1) :
    ∃ tEval, p.computeQuotientEvaluation domain pubInputs alpha beta gamma delta epsilon zetaFrak
        (domain.evaluateVanishingPolynomial zetaFrak) l1Eval zHatEval lookupSepChallenge =
          .ok tEval ∧
      let e := p.evaluations
      let piEval := ∑ i ∈ Finset.range domain.size,
        pubInputs.getD i 0 * (domain.lagrangeBasis i).eval zetaFrak
      tEval * (zetaFrak ^ domain.size - 1) =
        e.rPolyEval + piEval -
          (e.aEval + beta * e.sSigma1Eval + gamma) * (e.bEval + beta * e.sSigma2Eval + gamma) *
            (e.cEval + beta * e.sSigma3Eval + gamma) * ((e.dEval + gamma) * zHatEval * alpha) -
          l1Eval * alpha ^ 2 - l1Eval * lookupSepChallenge ^ 2 -
          e.lookupPermEval * (epsilon * (1 + delta) + e.h1Eval + delta * e.h2Eval) *
            (epsilon * (1 + delta) + delta * e.h1NextEval) * lookupSepChallenge ^ 3 := by
  have hzH : zetaFrak ^ domain.size - 1 ≠ 0 := sub_ne_zero.mpr hzeta
  simp only [Proof.computeQuotientEvaluation, EvaluationDomain.evaluateVanishingPolynomial,
    invertUnwrap_of_ne_zero _ hzH, DuskBytes.except_ok_bind]
  refine ⟨_, rfl, ?_⟩
  rw [← computeBarycentricEval_eq_sum_lagrange domain pubInputs zetaFrak hlen hzeta,
    inv_mul_cancel_right₀ hzH]
  ring

section Commitment

variable [AddCommGroup G] [Module F G]

omit [DecidableEq F] in
/-- `Proof::compute_quotient_commitment`. `Commitment::from` takes the
projective sum back to affine form, the same group element. The `u64`
exponents wrap modulo `2^64` as in a release build. -/
def Proof.computeQuotientCommitment (p : Proof G F) (zetaFrak : F) (n : Nat) : G :=
  let zN := zetaFrak ^ n
  let zTwoN := zetaFrak ^ (2 * n % 2 ^ 64)
  let zThreeN := zetaFrak ^ (3 * n % 2 ^ 64)
  p.qLowComm + zN • p.qMidComm + zTwoN • p.qHighComm + zThreeN • p.q4Comm

omit [DecidableEq F] in
theorem commit_C_mul (commit : F[X] →ₗ[F] G) (a : F) (q : F[X]) :
    commit (C a * q) = a • commit q := by
  rw [← smul_eq_C_mul, map_smul]

/-- With the pieces committed by a linear `commit`, and `3n` within a `u64`,
the recombined commitment commits to `T = t_low + ζ^n t_mid + ζ^{2n} t_high +
ζ^{3n} t_4`, which agrees with the split `t` at `ζ`; the prover's
`compute_quotient_opening_poly` with `z^n`, `z^{2n}` likewise agrees at `z`
with `t_lo + X^n t_mid + X^{2n} t_hi`. -/
theorem computeQuotientCommitment_spec (commit : F[X] →ₗ[F] G) (p : Proof G F) (n : Nat)
    (hn : 3 * n < 2 ^ 64) (zetaFrak : F) (tLow tMid tHigh t4 : F[X])
    (hlow : p.qLowComm = commit tLow) (hmid : p.qMidComm = commit tMid)
    (hhigh : p.qHighComm = commit tHigh) (h4 : p.q4Comm = commit t4)
    (tLo tMidOpen tHi : DensePolynomial F) (z : F) :
    p.computeQuotientCommitment zetaFrak n =
        commit (tLow + C (zetaFrak ^ n) * tMid + C (zetaFrak ^ (2 * n)) * tHigh +
          C (zetaFrak ^ (3 * n)) * t4) ∧
      (tLow + C (zetaFrak ^ n) * tMid + C (zetaFrak ^ (2 * n)) * tHigh +
          C (zetaFrak ^ (3 * n)) * t4).eval zetaFrak =
        (tLow + X ^ n * tMid + X ^ (2 * n) * tHigh + X ^ (3 * n) * t4).eval zetaFrak ∧
      (CommitmentOpener.computeQuotientOpeningPoly tLo tMidOpen tHi (z ^ n)
          (z ^ (2 * n))).evaluate z =
        (tLo.toPolynomial + X ^ n * tMidOpen.toPolynomial +
          X ^ (2 * n) * tHi.toPolynomial).eval z := by
  have htwo : 2 * n % 2 ^ 64 = 2 * n := Nat.mod_eq_of_lt (by omega)
  have hthree : 3 * n % 2 ^ 64 = 3 * n := Nat.mod_eq_of_lt hn
  refine ⟨?_, by simp, ?_⟩
  · simp only [Proof.computeQuotientCommitment, htwo, hthree, map_add, commit_C_mul, hlow,
      hmid, hhigh, h4]
  · rw [DensePolynomial.evaluate_eq, CommitmentOpener.toPolynomial_computeQuotientOpeningPoly]
    simp

theorem computeQuotientCommitment_spec_four :
    let commit := lcoeff ℚ 0
    let p : Proof ℚ ℚ := { (default : Proof ℚ ℚ) with qHighComm := 1 }
    let zero : DensePolynomial ℚ := DensePolynomial.zero
    3 * 4 < 2 ^ 64 ∧ p.qLowComm = commit 0 ∧ p.qMidComm = commit 0 ∧
      p.qHighComm = commit (C 1) ∧ p.q4Comm = commit 0 ∧
      (p.computeQuotientCommitment 2 4 =
          commit (0 + C (2 ^ 4) * 0 + C (2 ^ (2 * 4)) * C 1 + C (2 ^ (3 * 4)) * 0) ∧
        (0 + C (2 ^ 4) * 0 + C (2 ^ (2 * 4)) * C 1 + C (2 ^ (3 * 4)) * 0 : ℚ[X]).eval 2 =
          (0 + X ^ 4 * 0 + X ^ (2 * 4) * C 1 + X ^ (3 * 4) * 0 : ℚ[X]).eval 2 ∧
        (CommitmentOpener.computeQuotientOpeningPoly zero zero zero (2 ^ 4)
            (2 ^ (2 * 4))).evaluate 2 =
          (zero.toPolynomial + X ^ 4 * zero.toPolynomial +
            X ^ (2 * 4) * zero.toPolynomial).eval 2) := by
  intro commit p zero
  have hhigh : p.qHighComm = commit (C 1) := by simp [commit, p]
  exact ⟨by norm_num, rfl, rfl, hhigh, rfl,
    computeQuotientCommitment_spec commit p 4 (by norm_num) 2 0 0 (C 1) 0 rfl rfl hhigh rfl
      zero zero zero 2⟩

end Commitment

end Plonk.ProofSystem
