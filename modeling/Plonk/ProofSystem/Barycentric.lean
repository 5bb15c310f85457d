import Plonk.Fft.Domain

/-!
The two Lagrange-basis computations of `Proof::verify`:
`compute_first_lagrange_evaluation`, the value of `L_0` at the evaluation
challenge from `Z_H(ζ)`, and `compute_barycentric_eval`, the value at a point
of the polynomial that takes the public inputs on `H`. Both end in field
inversions; the verifier's own `invert().unwrap()` calls are modelled as an
exit `Failure.panic` naming the call.

`computeBarycentricEval_eq_sum` says what the fast path computes on every
input: it drops the zero entries and inverts the rest of the denominators,
and the dropped terms would have been zero. The theorems after it identify
that sum with the Lagrange form off `H`.
-/

namespace Plonk.ProofSystem

open Polynomial

/-- The crate's `Error`, with the variants `Proof::verify` returns. -/
inductive Error
  | invalidEvalDomainSize (logSizeOfGroup adicity : Nat)
  | proofVerificationError
  deriving DecidableEq, Repr

/-- The `invert().unwrap()` calls in the verifier's arithmetic. -/
inductive UnwrapSite
  | firstLagrangeEvaluation
  | quotientEvaluation
  deriving DecidableEq, Repr

/-- How a call ends when it returns no value: an `Err`, or a panic. -/
inductive Failure
  | error (e : Error)
  | panic (site : UnwrapSite)
  deriving DecidableEq, Repr

variable {F : Type} [Field F] [DecidableEq F]

/-- `x.invert().unwrap()`: `invert` is `None` exactly at zero. -/
def invertUnwrap (site : UnwrapSite) (x : F) : Except Failure F :=
  if x = 0 then .error (.panic site) else .ok x⁻¹

theorem invertUnwrap_of_ne_zero (site : UnwrapSite) {x : F} (hx : x ≠ 0) :
    invertUnwrap site x = .ok x⁻¹ := if_neg hx

theorem invertUnwrap_zero (site : UnwrapSite) :
    invertUnwrap site (0 : F) = .error (.panic site) := if_pos rfl

/-- `compute_first_lagrange_evaluation`. -/
def computeFirstLagrangeEvaluation (domain : EvaluationDomain F) (zHEval zetaFrak : F) :
    Except Failure F := do
  let nFr := (domain.size : F)
  let denom := nFr * (zetaFrak - 1)
  let denomInv ← invertUnwrap .firstLagrangeEvaluation denom
  pure (zHEval * denomInv)

theorem computeFirstLagrangeEvaluation_of_ne_zero (domain : EvaluationDomain F)
    (zHEval zetaFrak : F) (hdenom : (domain.size : F) * (zetaFrak - 1) ≠ 0) :
    computeFirstLagrangeEvaluation domain zHEval zetaFrak =
      .ok (zHEval * ((domain.size : F) * (zetaFrak - 1))⁻¹) := by
  simp only [computeFirstLagrangeEvaluation, invertUnwrap_of_ne_zero _ hdenom]
  rfl

theorem computeFirstLagrangeEvaluation_one (domain : EvaluationDomain F) (zHEval : F) :
    computeFirstLagrangeEvaluation domain zHEval 1 = .error (.panic .firstLagrangeEvaluation) := by
  simp only [computeFirstLagrangeEvaluation, sub_self, mul_zero, invertUnwrap_zero]
  rfl

omit [DecidableEq F] in
/-- Modelled from the spec: `util::batch_inversion`, not in the sources.
Every entry is replaced by its inverse; the crate skips zero entries, which
stay zero, as `0⁻¹ = 0` here. -/
def batchInversion (v : List F) : List F := v.map (·⁻¹)

omit [DecidableEq F] in
theorem batchInversion_getD (v : List F) (i : Nat) :
    (batchInversion v).getD i 0 = (v.getD i 0)⁻¹ := by
  rw [batchInversion, List.getD_eq_getElem?_getD, List.getD_eq_getElem?_getD,
    List.getElem?_map]
  cases v[i]? <;> simp

/-- `compute_barycentric_eval`. Every index it reads is below the length of
the vector it reads, so the default of `getD` is never taken. -/
def computeBarycentricEval (evaluations : List F) (point : F) (domain : EvaluationDomain F) :
    F :=
  let numerator := (point ^ domain.size - 1) * domain.sizeInv
  let nonZeroEvaluations :=
    (List.range evaluations.length).filter fun i => evaluations.getD i 0 != 0
  let denominators := (List.range nonZeroEvaluations.length).map fun i =>
    let index := nonZeroEvaluations.getD i 0
    domain.groupGenInv ^ index * point - 1
  let denominators := batchInversion denominators
  let result := ((List.range nonZeroEvaluations.length).map fun i =>
    let evalIndex := nonZeroEvaluations.getD i 0
    let eval := evaluations.getD evalIndex 0
    denominators.getD i 0 * eval).sum
  result * numerator

section Lists

omit [DecidableEq F]

private theorem getD_map_range (g : Nat → F) {i n : Nat} (hi : i < n) :
    ((List.range n).map g).getD i 0 = g i := by
  rw [List.getD_eq_getElem?_getD, List.getElem?_map, List.getElem?_range hi]
  rfl

omit [Field F] in
private theorem map_range_getD (l : List Nat) (h : Nat → F) :
    (List.range l.length).map (fun j => h (l.getD j 0)) = l.map h := by
  apply List.ext_getElem (by simp)
  intro j hj _
  simp [List.getD_eq_getElem?_getD, List.getElem?_eq_getElem (by simpa using hj)]

private theorem sum_map_filter_of_zero {α : Type} (p : α → Bool) (h : α → F)
    (hz : ∀ a, p a = false → h a = 0) :
    ∀ l : List α, ((l.filter p).map h).sum = (l.map h).sum
  | [] => rfl
  | a :: l => by
    cases hp : p a <;>
      simp [List.filter_cons, hp, hz a, sum_map_filter_of_zero p h hz l]

theorem sum_map_range (f : Nat → F) :
    ∀ n, ((List.range n).map f).sum = ∑ i ∈ Finset.range n, f i
  | 0 => rfl
  | n + 1 => by rw [List.sum_range_succ, Finset.sum_range_succ, sum_map_range f n]

end Lists

/-- What the fast path computes, on every input: the full sum over the
vector, each term with its inverted denominator. -/
theorem computeBarycentricEval_eq_sum (domain : EvaluationDomain F) (evaluations : List F)
    (point : F) :
    computeBarycentricEval evaluations point domain =
      (∑ i ∈ Finset.range evaluations.length,
        (domain.groupGenInv ^ i * point - 1)⁻¹ * evaluations.getD i 0) *
        ((point ^ domain.size - 1) * domain.sizeInv) := by
  let term i := (domain.groupGenInv ^ i * point - 1)⁻¹ * evaluations.getD i 0
  have hzero : ∀ i, (evaluations.getD i 0 != 0) = false → term i = 0 := fun i hi => by
    simp only [bne_eq_false_iff_eq] at hi
    simp only [term, hi, mul_zero]
  simp only [computeBarycentricEval]
  rw [← sum_map_range, ← sum_map_filter_of_zero _ term hzero, ← map_range_getD _ term]
  congr 2
  apply List.map_congr_left
  intro j hj
  rw [batchInversion_getD, getD_map_range _ (List.mem_range.mp hj)]

section Lagrange

variable (domain : EvaluationDomain F)

/-- Off `H`, each term of the fast path's sum is an entry times its Lagrange
basis value. -/
theorem computeBarycentricEval_eq_sum_lagrange (evaluations : List F) (point : F)
    (hlen : evaluations.length ≤ domain.size) (hpoint : point ^ domain.size ≠ 1) :
    computeBarycentricEval evaluations point domain =
      ∑ i ∈ Finset.range domain.size,
        evaluations.getD i 0 * (domain.lagrangeBasis i).eval point := by
  have hbeyond : ∀ i ∈ Finset.range domain.size, i ∉ Finset.range evaluations.length →
      evaluations.getD i 0 * (domain.lagrangeBasis i).eval point = 0 := fun i _ hi => by
    rw [List.getD_eq_default _ _ (by simpa using hi), zero_mul]
  rw [computeBarycentricEval_eq_sum, Finset.sum_mul,
    ← Finset.sum_subset (Finset.range_subset.mpr hlen) hbeyond]
  refine Finset.sum_congr rfl fun i hi => ?_
  rw [domain.eval_lagrangeBasis (by simp at hi; omega) hpoint]
  ring

/-- `compute_barycentric_eval` off `H`: the Lagrange combination of the
entries, the shorter vector read as zero beyond its end, which is the value
at the point of every polynomial of degree `< n` taking those values on `H`;
one such polynomial exists. -/
theorem computeBarycentricEval_spec (evaluations : List F) (point : F)
    (hlen : evaluations.length ≤ domain.size) (hpoint : point ^ domain.size ≠ 1) :
    computeBarycentricEval evaluations point domain =
        ∑ i ∈ Finset.range domain.size,
          evaluations.getD i 0 * (domain.lagrangeBasis i).eval point ∧
      (∃ P : F[X], P.degree < domain.size ∧
        ∀ i < domain.size, P.eval (domain.element i) = evaluations.getD i 0) ∧
      ∀ P : F[X], P.degree < domain.size →
        (∀ i < domain.size, P.eval (domain.element i) = evaluations.getD i 0) →
        computeBarycentricEval evaluations point domain = P.eval point := by
  have hsum := computeBarycentricEval_eq_sum_lagrange domain evaluations point hlen hpoint
  refine ⟨hsum, domain.exists_interpolant _, fun P hP hvalues => ?_⟩
  rw [hsum, domain.eval_eq_sum_lagrangeBasis hP]
  exact Finset.sum_congr rfl fun i hi => by rw [hvalues i (Finset.mem_range.mp hi)]

/-- `compute_first_lagrange_evaluation` at `Z_H(ζ) = ζ^n - 1`, off `H`, is
`L_0(ζ)`, which is also what the barycentric evaluation gives the vector
`[1]`. -/
theorem computeFirstLagrangeEvaluation_spec (zeta : F) (hzeta : zeta ^ domain.size ≠ 1) :
    computeFirstLagrangeEvaluation domain (zeta ^ domain.size - 1) zeta =
        .ok ((domain.lagrangeBasis 0).eval zeta) ∧
      computeFirstLagrangeEvaluation domain (zeta ^ domain.size - 1) zeta =
        .ok (computeBarycentricEval [1] zeta domain) := by
  have hzeta1 : zeta - 1 ≠ 0 := sub_ne_zero.mpr fun h => hzeta (by rw [h, one_pow])
  rw [computeFirstLagrangeEvaluation_of_ne_zero _ _ _
      (mul_ne_zero domain.size_cast_ne_zero hzeta1),
    domain.eval_lagrangeBasis domain.size_pos hzeta, computeBarycentricEval_eq_sum,
    domain.sizeInv_eq, List.length_singleton, Finset.sum_range_one, pow_zero, one_mul, mul_inv,
    List.getD_cons_zero, mul_one]
  constructor <;> congr 1 <;> ring

end Lagrange

/-- The domain `{1, -1}` of the rationals. -/
def twoPointDomain : EvaluationDomain ℚ where
  size := 2
  logSizeOfGroup := 1
  sizeInv := 1 / 2
  groupGen := -1
  groupGenInv := -1
  size_eq := rfl
  groupGen_primitive := IsPrimitiveRoot.neg_one 0 (by norm_num)
  groupGenInv_eq := by norm_num
  sizeInv_eq := by norm_num

theorem computeBarycentricEval_spec_twoPoint :
    ([3, 5] : List ℚ).length ≤ twoPointDomain.size ∧ (2 : ℚ) ^ twoPointDomain.size ≠ 1 ∧
      (computeBarycentricEval [3, 5] 2 twoPointDomain =
          ∑ i ∈ Finset.range twoPointDomain.size,
            ([3, 5] : List ℚ).getD i 0 * (twoPointDomain.lagrangeBasis i).eval 2 ∧
        (∃ P : ℚ[X], P.degree < twoPointDomain.size ∧
          ∀ i < twoPointDomain.size,
            P.eval (twoPointDomain.element i) = ([3, 5] : List ℚ).getD i 0) ∧
        ∀ P : ℚ[X], P.degree < twoPointDomain.size →
          (∀ i < twoPointDomain.size,
            P.eval (twoPointDomain.element i) = ([3, 5] : List ℚ).getD i 0) →
          computeBarycentricEval [3, 5] 2 twoPointDomain = P.eval 2) :=
  ⟨le_refl 2, by norm_num [twoPointDomain],
    computeBarycentricEval_spec twoPointDomain [3, 5] 2 (le_refl 2)
      (by norm_num [twoPointDomain])⟩

theorem computeFirstLagrangeEvaluation_spec_twoPoint :
    (2 : ℚ) ^ twoPointDomain.size ≠ 1 ∧
      (computeFirstLagrangeEvaluation twoPointDomain (2 ^ twoPointDomain.size - 1) 2 =
          .ok ((twoPointDomain.lagrangeBasis 0).eval 2) ∧
        computeFirstLagrangeEvaluation twoPointDomain (2 ^ twoPointDomain.size - 1) 2 =
          .ok (computeBarycentricEval [1] 2 twoPointDomain)) :=
  ⟨by norm_num [twoPointDomain],
    computeFirstLagrangeEvaluation_spec twoPointDomain 2 (by norm_num [twoPointDomain])⟩

end Plonk.ProofSystem
