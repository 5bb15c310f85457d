import Plonk.Poly.Division
import Plonk.Transcript

/-!
`cs/opening.rs`: the `commitmentOpener` that builds the two KZG opening
witnesses `W_z` and `W_zw` from the prover's polynomials. Panics are the
`error` of `Except Panic`: a `Vec` index out of bounds, an `unwrap` on
`None`, and the `expect` of polynomial division.

`compute_opening_polynomials` sizes `v_pow` with one element and then
assigns `v_pow[1]`, so every call panics (`computeOpeningPolynomials_panics`).
The helpers it would call are modelled in full and specified on their own:
the challenge combination is the sum `Σ vᵢ (Pᵢ - eᵢ)` it is documented to
be, and the witness division is exact. Composed, the witness of the
combination is the combination of the polynomials' own witnesses
`Pᵢ /ₘ (X - z)`, whatever the claimed values `eᵢ`
(`computeWitnessPolynomial_challengePolyEval`).
-/

namespace Plonk.CommitmentOpener

open Polynomial DensePolynomial

variable {G F : Type} [Field F] [DecidableEq F]

/-- The ways the opener panics. -/
inductive Panic
  | indexOutOfBounds (index len : Nat)
  | unwrapNone
  | divisionFailed
  deriving DecidableEq, Repr

/-- `v[i]` on a `Vec`. -/
def vecGet (v : List F) (i : Nat) : Except Panic F :=
  match v[i]? with
  | some x => .ok x
  | none => .error (.indexOutOfBounds i v.length)

/-- `v[i] = x` on a `Vec`: the value is evaluated first, then the place,
which panics past the end. -/
def vecSet (v : List F) (i : Nat) (x : F) : Except Panic (List F) :=
  if i < v.length then .ok (v.set i x) else .error (.indexOutOfBounds i v.length)

/-- `v.pop().unwrap()`: the last element and the rest. -/
def popUnwrap (v : List F) : Except Panic (F × List F) :=
  match v.getLast? with
  | some x => .ok (x, v.dropLast)
  | none => .error .unwrapNone

/-- The `expect` on a division result. -/
def expectDivision (result : Option (DensePolynomial F)) : Except Panic (DensePolynomial F) :=
  match result with
  | some p => .ok p
  | none => .error .divisionFailed

/-- `for i in indices { v_pow[i] = v_pow[i - 1] * &v; }`. -/
def powersLoop (v : F) : List Nat → List F → Except Panic (List F)
  | [], vPow => .ok vPow
  | i :: is, vPow => do
    let x ← vecGet vPow (i - 1)
    let vPow ← vecSet vPow i (x * v)
    powersLoop v is vPow

/-- `compute_quotient_opening_poly`: `t_hi * z^2n + t_mid * z^n + t_lo`, with
the two powers passed in. -/
def computeQuotientOpeningPoly (tLo tMid tHi : DensePolynomial F) (zN zTwoN : F) :
    DensePolynomial F :=
  let polyZn := fromCoefficientsVec [zN]
  let polyZTwoN := fromCoefficientsVec [zTwoN]
  let znTmidPoly := tMid.mul polyZn
  let zTwoNThiPoly := tHi.mul polyZTwoN
  (zTwoNThiPoly.add znTmidPoly).add tLo

/-- `compute_shifted_polynomial`: `v_7 * (Z - z_eval)` divided by
`X - shifted_z`. -/
def computeShiftedPolynomial (v7 : F) (zPoly : DensePolynomial F) (zEval shiftedZ : F) :
    Except Panic (DensePolynomial F) :=
  let polyZEval := fromCoefficientsVec [zEval]
  let polyV7 := fromCoefficientsVec [v7]
  let zMinusZEval := zPoly.sub polyZEval
  let t := polyV7.mul zMinusZEval
  let divisor := fromCoefficientsVec [-shiftedZ, 1]
  expectDivision (t.div divisor)

/-- One term of `compute_challenge_poly_eval`: `v * (poly - eval)`. -/
def challengeTerm (v : F) (poly : DensePolynomial F) (eval : F) : DensePolynomial F :=
  let polyEval := fromCoefficientsVec [eval]
  let polyV := fromCoefficientsVec [v]
  let polyMinusEval := poly.sub polyEval
  polyV.mul polyMinusEval

/-- `compute_challenge_poly_eval`: the terms over `izip!` of the three
vectors, which stops at the shortest, folded with `+=` from zero. The crate's
`AddAssign` is not among the sources; it is taken to pop the zeros a
cancellation leaves on top, as `Add` does. -/
def computeChallengePolyEval (challenges : List F) (polynomials : List (DensePolynomial F))
    (evaluations : List F) : DensePolynomial F :=
  ((challenges.zip (polynomials.zip evaluations)).map
      fun (v, poly, eval) => challengeTerm v poly eval).foldl add zero

/-- `compute_witness_polynomial`: `(p - p(z)) / (X - z)`. -/
def computeWitnessPolynomial (p : DensePolynomial F) (z : F) :
    Except Panic (DensePolynomial F) :=
  let pEval := p.evaluate z
  let polyEval := fromCoefficientsVec [pEval]
  let divisor := fromCoefficientsVec [-z, 1]
  expectDivision ((p.sub polyEval).div divisor)

/-- `compute_opening_polynomials`. `n` is a `usize`, so `n as u64` is `n`;
`2 * n as u64` is a product of `u64`s, which wraps here as in a release
build (a debug build panics on the overflow; no domain size reaches it). -/
def computeOpeningPolynomials (squeeze : List (TranscriptOp G F) → F)
    (transcript : Transcript G F) (rootOfUnity : F) (n : Nat) (zChallenge : F)
    (linPoly : DensePolynomial F) (evaluations : List F)
    (tLo tMid tHi wLPoly wRPoly wOPoly sigma1Poly sigma2Poly zPoly : DensePolynomial F) :
    Except Panic ((DensePolynomial F × DensePolynomial F) × Transcript G F) := do
  let evaluations := evaluations
  let (v, transcript) := transcript.challengeScalar squeeze "v"
  let vPow := [1]
  let vPow ← powersLoop v (List.range' 1 8) vPow
  let (v7, vPow) ← popUnwrap vPow
  let (zEval, evaluations) ← popUnwrap evaluations
  let zN := zChallenge ^ n
  let zTwoN := zChallenge ^ (2 * n % 2 ^ 64)
  let shiftedZ := zChallenge * rootOfUnity
  let quotientOpenPoly := computeQuotientOpeningPoly tLo tMid tHi zN zTwoN
  let polynomials :=
    [quotientOpenPoly, linPoly, wLPoly, wRPoly, wOPoly, sigma1Poly, sigma2Poly]
  let k := computeChallengePolyEval vPow polynomials evaluations
  let wZ ← computeWitnessPolynomial k zChallenge
  let wZw ← computeShiftedPolynomial v7 zPoly zEval shiftedZ
  pure ((wZ, wZw), transcript)

omit [DecidableEq F] in
/-- The loop that should fill `v_pow` stops at its first assignment: after
`Vec::with_capacity(6)` and one `push`, `v_pow` has length one, and
`v_pow[1]` is out of bounds. -/
theorem powersLoop_panics (v : F) :
    powersLoop v (List.range' 1 8) [1] = .error (.indexOutOfBounds 1 1) := rfl

/-- `compute_opening_polynomials` panics on every input, at `v_pow[1]`. -/
theorem computeOpeningPolynomials_panics (squeeze : List (TranscriptOp G F) → F)
    (transcript : Transcript G F) (rootOfUnity : F) (n : Nat) (zChallenge : F)
    (linPoly : DensePolynomial F) (evaluations : List F)
    (tLo tMid tHi wLPoly wRPoly wOPoly sigma1Poly sigma2Poly zPoly : DensePolynomial F) :
    computeOpeningPolynomials squeeze transcript rootOfUnity n zChallenge linPoly evaluations
      tLo tMid tHi wLPoly wRPoly wOPoly sigma1Poly sigma2Poly zPoly =
      .error (.indexOutOfBounds 1 1) := by
  simp only [computeOpeningPolynomials, powersLoop_panics]
  rfl

/-! ## The helpers -/

@[simp] theorem toPolynomial_computeQuotientOpeningPoly (tLo tMid tHi : DensePolynomial F)
    (zN zTwoN : F) :
    (computeQuotientOpeningPoly tLo tMid tHi zN zTwoN).toPolynomial =
      tLo.toPolynomial + C zN * tMid.toPolynomial + C zTwoN * tHi.toPolynomial := by
  simp only [computeQuotientOpeningPoly, toPolynomial_add, toPolynomial_mul,
    toPolynomial_fromCoefficientsVec_singleton]
  ring

@[simp] theorem toPolynomial_challengeTerm (v : F) (poly : DensePolynomial F) (eval : F) :
    (challengeTerm v poly eval).toPolynomial = C v * (poly.toPolynomial - C eval) := by
  simp [challengeTerm]

theorem toPolynomial_foldl_add (terms : List (DensePolynomial F)) (acc : DensePolynomial F) :
    (terms.foldl add acc).toPolynomial = acc.toPolynomial + (terms.map toPolynomial).sum := by
  induction terms generalizing acc with
  | nil => simp
  | cons term terms ih => simp [ih, add_assoc]

/-- `compute_challenge_poly_eval` is `Σ vᵢ (Pᵢ - eᵢ)` over the triples
`izip!` forms. -/
theorem toPolynomial_computeChallengePolyEval (challenges : List F)
    (polynomials : List (DensePolynomial F)) (evaluations : List F) :
    (computeChallengePolyEval challenges polynomials evaluations).toPolynomial =
      ((challenges.zip (polynomials.zip evaluations)).map
        fun (v, poly, eval) => C v * (poly.toPolynomial - C eval)).sum := by
  rw [computeChallengePolyEval, toPolynomial_foldl_add, toPolynomial_zero, zero_add,
    List.map_map]
  congr 1
  exact List.map_congr_left fun ⟨v, poly, eval⟩ _ => toPolynomial_challengeTerm v poly eval

theorem zip_ofFn {α β γ : Type} {m : Nat} (a : Fin m → α) (b : Fin m → β)
    (c : Fin m → γ) :
    (List.ofFn a).zip ((List.ofFn b).zip (List.ofFn c)) = List.ofFn fun i => (a i, b i, c i) := by
  induction m with
  | zero => rfl
  | succ m ih => simp [List.ofFn_succ, ih]

/-- The opener's `expect` on a division by `X - z` never fires; the result is
the quotient of `divide_with_q_and_r`, whose remainder is `p(z)`. -/
theorem expectDivision_div_linear (p : DensePolynomial F) (z : F) :
    ∃ w remainder, expectDivision (p.div (fromCoefficientsVec [-z, 1])) = .ok w ∧
      divideWithQAndR p (fromCoefficientsVec [-z, 1]) = some (w, remainder) ∧
      p.toPolynomial = w.toPolynomial * (X - C z) + remainder.toPolynomial ∧
      w.toPolynomial = p.toPolynomial /ₘ (X - C z) ∧
      remainder.toPolynomial = C (p.toPolynomial.eval z) := by
  obtain ⟨w, r, hres, hid, hw, hr⟩ := divideWithQAndR_linear p z
  have hdiv : p.div (fromCoefficientsVec [-z, 1]) = some w := by
    simp [DensePolynomial.div, hres]
  exact ⟨w, r, by rw [hdiv]; rfl, hres, hid, hw, hr⟩

/-- `compute_witness_polynomial` never panics, its division leaves remainder
zero, its result times `X - z` is `p - p(z)`, and it has degree one less
than `p`. -/
theorem computeWitnessPolynomial_spec (p : DensePolynomial F) (z : F) :
    ∃ w, computeWitnessPolynomial p z = .ok w ∧
      divideWithQAndR (p.sub (fromCoefficientsVec [p.evaluate z]))
        (fromCoefficientsVec [-z, 1]) = some (w, DensePolynomial.zero) ∧
      w.toPolynomial * (X - C z) = p.toPolynomial - C (p.toPolynomial.eval z) ∧
      (1 ≤ p.degree → w.degree = p.degree - 1) := by
  obtain ⟨w, r, hw, hres, hid, hq, hr⟩ :=
    expectDivision_div_linear (p.sub (fromCoefficientsVec [p.evaluate z])) z
  have hr0 : r = DensePolynomial.zero := toPolynomial_injective (by simp [hr, evaluate_eq])
  subst hr0
  refine ⟨w, hw, hres, by simpa [evaluate_eq] using hid.symm, fun hdeg => ?_⟩
  rw [degree_eq_natDegree_toPolynomial, degree_eq_natDegree_toPolynomial, hq,
    natDegree_divByMonic _ (monic_X_sub_C z), natDegree_X_sub_C, toPolynomial_sub,
    toPolynomial_fromCoefficientsVec_singleton, natDegree_sub_C]

/-- `compute_shifted_polynomial(c, Z, e, s)` never panics, and its division
of `c (Z - e)` by `X - s` leaves the remainder `c (Z(s) - e)`, which `/`
drops. So the result `w` satisfies `w (X - s) = c (Z - e)` exactly when
`e = Z(s)`; for any other `e` the dropped remainder is nonzero and `w` is not
an opening witness for the claimed value `e`. -/
theorem computeShiftedPolynomial_spec (c : F) (hc : c ≠ 0) (Z : DensePolynomial F) (e s : F) :
    ∃ w remainder, computeShiftedPolynomial c Z e s = .ok w ∧
      divideWithQAndR ((fromCoefficientsVec [c]).mul (Z.sub (fromCoefficientsVec [e])))
        (fromCoefficientsVec [-s, 1]) = some (w, remainder) ∧
      w.toPolynomial * (X - C s) + remainder.toPolynomial = C c * (Z.toPolynomial - C e) ∧
      remainder.toPolynomial = C (c * (Z.toPolynomial.eval s - e)) ∧
      (w.toPolynomial * (X - C s) = C c * (Z.toPolynomial - C e) ↔
        e = Z.toPolynomial.eval s) ∧
      (e ≠ Z.toPolynomial.eval s → remainder.toPolynomial ≠ 0 ∧
        w.toPolynomial * (X - C s) ≠ C c * (Z.toPolynomial - C e)) := by
  -- The numerator `v_7 * (Z - z_eval)` is the challenge term of `c`, `Z`, `e`.
  obtain ⟨w, r, hw, hres, hid, -, hr⟩ := expectDivision_div_linear (challengeTerm c Z e) s
  rw [toPolynomial_challengeTerm] at hid hr
  have hr' : r.toPolynomial = C (c * (Z.toPolynomial.eval s - e)) := by simp [hr]
  have hr0 : r.toPolynomial = 0 ↔ e = Z.toPolynomial.eval s := by
    rw [hr', C_eq_zero, mul_eq_zero, or_iff_right hc, sub_eq_zero, eq_comm]
  have hiff : w.toPolynomial * (X - C s) = C c * (Z.toPolynomial - C e) ↔
      e = Z.toPolynomial.eval s := by
    rw [hid, self_eq_add_right, hr0]
  exact ⟨w, r, hw, hres, hid.symm, hr', hiff, fun he => ⟨mt hr0.mp he, mt hiff.mp he⟩⟩

/-- At `c = 2`, `Z = X`, the claimed value `1` and `s = 0`, where `Z(s) = 0`,
the shifted witness drops the remainder `-2`. -/
theorem computeShiftedPolynomial_spec_wrongValue :
    let Z : DensePolynomial ℚ := fromCoefficientsVec [0, 1]
    (2 : ℚ) ≠ 0 ∧ ∃ w remainder, computeShiftedPolynomial 2 Z 1 0 = .ok w ∧
      divideWithQAndR ((fromCoefficientsVec [2]).mul (Z.sub (fromCoefficientsVec [1])))
        (fromCoefficientsVec [-0, 1]) = some (w, remainder) ∧
      w.toPolynomial * (X - C 0) + remainder.toPolynomial = C 2 * (Z.toPolynomial - C 1) ∧
      remainder.toPolynomial = C (2 * (Z.toPolynomial.eval 0 - 1)) ∧
      (w.toPolynomial * (X - C 0) = C 2 * (Z.toPolynomial - C 1) ↔ 1 = Z.toPolynomial.eval 0) ∧
      (1 ≠ Z.toPolynomial.eval 0 → remainder.toPolynomial ≠ 0 ∧
        w.toPolynomial * (X - C 0) ≠ C 2 * (Z.toPolynomial - C 1)) :=
  ⟨two_ne_zero, computeShiftedPolynomial_spec 2 two_ne_zero _ 1 0⟩

/-- The opening witness of a challenge combination: `k = Σ vᵢ (Pᵢ - eᵢ)`,
`compute_witness_polynomial(k, z)` divides `k - k(z)` by `X - z` exactly,
and its result opens `k` itself precisely when `Σ vᵢ (Pᵢ(z) - eᵢ) = 0`, in
particular when every `eᵢ` is `Pᵢ(z)`. -/
theorem challenge_witness_spec (m : Nat) (v : Fin m → F) (P : Fin m → DensePolynomial F)
    (e : Fin m → F) (z : F) :
    let k := computeChallengePolyEval (List.ofFn v) (List.ofFn P) (List.ofFn e)
    k.toPolynomial = ∑ i, C (v i) * ((P i).toPolynomial - C (e i)) ∧
      ∃ w, computeWitnessPolynomial k z = .ok w ∧
        divideWithQAndR (k.sub (fromCoefficientsVec [k.evaluate z]))
          (fromCoefficientsVec [-z, 1]) = some (w, DensePolynomial.zero) ∧
        w.toPolynomial * (X - C z) = k.toPolynomial - C (k.toPolynomial.eval z) ∧
        (1 ≤ k.degree → w.degree = k.degree - 1) ∧
        (w.toPolynomial * (X - C z) = ∑ i, C (v i) * ((P i).toPolynomial - C (e i)) ↔
          ∑ i, v i * ((P i).toPolynomial.eval z - e i) = 0) ∧
        ((∀ i, e i = (P i).evaluate z) →
          w.toPolynomial * (X - C z) = ∑ i, C (v i) * ((P i).toPolynomial - C (e i))) := by
  intro k
  have hk : k.toPolynomial = ∑ i, C (v i) * ((P i).toPolynomial - C (e i)) := by
    rw [toPolynomial_computeChallengePolyEval, zip_ofFn, List.map_ofFn, List.sum_ofFn]
    rfl
  have hkz : k.toPolynomial.eval z = ∑ i, v i * ((P i).toPolynomial.eval z - e i) := by
    simp [hk, eval_finset_sum]
  obtain ⟨w, hw, hres, hmul, hdeg⟩ := computeWitnessPolynomial_spec k z
  have hiff : w.toPolynomial * (X - C z) = ∑ i, C (v i) * ((P i).toPolynomial - C (e i)) ↔
      ∑ i, v i * ((P i).toPolynomial.eval z - e i) = 0 := by
    rw [hmul, ← hk, ← hkz, sub_eq_self, C_eq_zero]
  refine ⟨hk, w, hw, hres, hmul, hdeg, hiff, fun he => hiff.mpr ?_⟩
  exact Finset.sum_eq_zero fun i _ => by simp [he i, evaluate_eq]

omit [DecidableEq F] in
/-- What is left of `Σ vᵢ (Pᵢ - eᵢ)` after subtracting its value at `z` is
`Σ vᵢ (Pᵢ /ₘ (X - z))` times `X - z`: the claimed `eᵢ` cancel. -/
theorem sum_challengeTerms_sub_eval (z : F) :
    ∀ triples : List (F × DensePolynomial F × F),
      (triples.map fun (v, poly, eval) => C v * (poly.toPolynomial - C eval)).sum -
          C ((triples.map fun (v, poly, eval) => v * (poly.toPolynomial.eval z - eval)).sum) =
        (triples.map fun (v, poly, _) => C v * (poly.toPolynomial /ₘ (X - C z))).sum * (X - C z)
  | [] => by simp
  | (v, poly, eval) :: triples => by
    have ih := sum_challengeTerms_sub_eval z triples
    have hquot := X_sub_C_mul_divByMonic_eq_sub_modByMonic poly.toPolynomial z
    rw [modByMonic_X_sub_C_eq_C_eval] at hquot
    simp only [List.map_cons, List.sum_cons, C_add, C_mul, C_sub] at ih ⊢
    linear_combination ih - C v * hquot

/-- The batched opening witness. `compute_witness_polynomial` of the challenge
combination `Σ vᵢ (Pᵢ - eᵢ)` never panics and is `Σ vᵢ (Pᵢ /ₘ (X - z))`, the
combination of the polynomials' own witnesses: it does not depend on the
claimed evaluations `eᵢ`, only on how many there are, since `izip!` stops at
the shortest list. -/
theorem computeWitnessPolynomial_challengePolyEval (challenges : List F)
    (polynomials : List (DensePolynomial F)) (evaluations : List F) (z : F) :
    ∃ w, computeWitnessPolynomial (computeChallengePolyEval challenges polynomials evaluations)
        z = .ok w ∧
      w.toPolynomial = ((challenges.zip (polynomials.zip evaluations)).map
        fun (v, poly, _) => C v * (poly.toPolynomial /ₘ (X - C z))).sum := by
  obtain ⟨w, hw, -, hmul, -⟩ :=
    computeWitnessPolynomial_spec (computeChallengePolyEval challenges polynomials evaluations) z
  refine ⟨w, hw, mul_right_cancel₀ (X_sub_C_ne_zero z) ?_⟩
  rw [hmul, ← sum_challengeTerms_sub_eval, toPolynomial_computeChallengePolyEval,
    ← coe_evalRingHom, map_list_sum, List.map_map]
  congr 3
  exact List.map_congr_left fun ⟨v, poly, eval⟩ _ => by simp

end Plonk.CommitmentOpener
