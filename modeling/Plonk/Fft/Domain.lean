import Mathlib

/-!
The evaluation domain the verifier works over, and the Lagrange basis of
its points. `fft::EvaluationDomain` is not among the sources; what the
verifier reads of it is its size `n`, the generator `ω` of the subgroup
`H = {ω^j : j < n}`, `ω⁻¹`, `n⁻¹`, and `Z_H(τ) = τ^n - 1`.

The closed form `eval_lagrangeBasis` is the one fact the barycentric
evaluation rests on: off `H`, the basis polynomial that is `1` at `ω^i` and
`0` on the rest of `H` takes the value `(ζ^n - 1) / (n (ω^{-i} ζ - 1))`.
-/

namespace Plonk

open Polynomial

/-- Modelled from the spec: `fft::EvaluationDomain`, not in the sources. A
multiplicative subgroup of size `n = 2^k` with generator `ω`, the inverse of
the generator and the inverse of the size. -/
structure EvaluationDomain (F : Type) [Field F] where
  size : Nat
  logSizeOfGroup : Nat
  sizeInv : F
  groupGen : F
  groupGenInv : F
  size_eq : size = 2 ^ logSizeOfGroup
  groupGen_primitive : IsPrimitiveRoot groupGen size
  groupGenInv_eq : groupGenInv = groupGen⁻¹
  sizeInv_eq : sizeInv = (size : F)⁻¹

namespace EvaluationDomain

variable {F : Type} [Field F] (domain : EvaluationDomain F)

/-- Modelled from the spec: `evaluate_vanishing_polynomial`,
`Z_H(τ) = τ^n - 1`. -/
def evaluateVanishingPolynomial (tau : F) : F := tau ^ domain.size - 1

/-- The point `ω^j` of `H`. -/
def element (j : Nat) : F := domain.groupGen ^ j

/-- The Lagrange basis polynomial of `H` that is `1` at `ω^i` and `0` at the
other points of `H`. -/
noncomputable def lagrangeBasis (i : Nat) : F[X] :=
  Lagrange.basis (Finset.range domain.size) domain.element i

theorem size_pos : 0 < domain.size := by
  rw [domain.size_eq]
  exact Nat.pos_pow_of_pos _ (by norm_num)

theorem size_cast_ne_zero : (domain.size : F) ≠ 0 := by
  haveI : NeZero domain.size := ⟨domain.size_pos.ne'⟩
  exact domain.groupGen_primitive.neZero'.out

theorem element_pow_size (j : Nat) : domain.element j ^ domain.size = 1 := by
  rw [element, ← pow_mul, mul_comm, pow_mul, domain.groupGen_primitive.pow_eq_one, one_pow]

theorem element_ne_zero (j : Nat) : domain.element j ≠ 0 := fun h => by
  have := domain.element_pow_size j
  rw [h, zero_pow domain.size_pos.ne'] at this
  exact zero_ne_one this

/-- A point that is not an `n`-th root of unity is none of the `ω^j`, for
every `j`, inside `H`'s index range or not. -/
theorem ne_element {zeta : F} (hzeta : zeta ^ domain.size ≠ 1) (j : Nat) :
    zeta ≠ domain.element j := fun h => hzeta (h ▸ domain.element_pow_size j)

theorem groupGenInv_pow (j : Nat) : domain.groupGenInv ^ j = (domain.element j)⁻¹ := by
  rw [domain.groupGenInv_eq, element, inv_pow]

/-- Off `H`, no barycentric denominator `ω^{-j} ζ - 1` is zero. -/
theorem groupGenInv_pow_mul_sub_one_ne_zero {zeta : F} (hzeta : zeta ^ domain.size ≠ 1)
    (j : Nat) : domain.groupGenInv ^ j * zeta - 1 ≠ 0 := by
  rw [domain.groupGenInv_pow, sub_ne_zero, Ne, inv_mul_eq_one₀ (domain.element_ne_zero j)]
  exact (domain.ne_element hzeta j).symm

theorem nodal_eq : Lagrange.nodal (Finset.range domain.size) domain.element =
    X ^ domain.size - 1 := by
  rw [← C_1, X_pow_sub_C_eq_prod domain.groupGen_primitive domain.size_pos (one_pow _),
    Lagrange.nodal]
  simp [element]

theorem nodalWeight_eq {i : Nat} (hi : i < domain.size) :
    Lagrange.nodalWeight (Finset.range domain.size) domain.element i =
      ((domain.size : F) * domain.element i ^ (domain.size - 1))⁻¹ := by
  rw [Lagrange.nodalWeight_eq_eval_nodal_derative (Finset.mem_range.mpr hi), nodal_eq]
  simp

/-- The value of the Lagrange basis polynomial at a point off `H`, in the
form the verifier computes it: `(ζ^n - 1) n⁻¹ (ω^{-i} ζ - 1)⁻¹`. -/
theorem eval_lagrangeBasis {i : Nat} (hi : i < domain.size) {zeta : F}
    (hzeta : zeta ^ domain.size ≠ 1) :
    (domain.lagrangeBasis i).eval zeta =
      (zeta ^ domain.size - 1) * domain.sizeInv * (domain.groupGenInv ^ i * zeta - 1)⁻¹ := by
  have hne := domain.ne_element hzeta i
  have hu := domain.element_ne_zero i
  have hpow : domain.element i ^ (domain.size - 1) = (domain.element i)⁻¹ := by
    apply eq_inv_of_mul_eq_one_left
    rw [← pow_succ, Nat.sub_add_cancel domain.size_pos, domain.element_pow_size]
  rw [lagrangeBasis, Lagrange.eval_basis_not_at_node (Finset.mem_range.mpr hi) hne,
    domain.nodal_eq, domain.nodalWeight_eq hi, hpow, domain.sizeInv_eq, domain.groupGenInv_pow]
  have hsub : zeta - domain.element i ≠ 0 := sub_ne_zero.mpr hne
  have hn := domain.size_cast_ne_zero
  field_simp

theorem element_injOn : Set.InjOn domain.element (Finset.range domain.size) :=
  domain.groupGen_primitive.injOn_pow

/-- Any values on `H` are taken by a polynomial of degree `< n`. -/
theorem exists_interpolant (values : Nat → F) :
    ∃ P : F[X], P.degree < domain.size ∧
      ∀ i < domain.size, P.eval (domain.element i) = values i := by
  refine ⟨Lagrange.interpolate (Finset.range domain.size) domain.element values, ?_, ?_⟩
  · simpa using Lagrange.degree_interpolate_lt values domain.element_injOn
  · exact fun i hi => Lagrange.eval_interpolate_at_node values domain.element_injOn
      (Finset.mem_range.mpr hi)

/-- A polynomial of degree `< n` is the Lagrange combination of its values
on `H`, at every point. -/
theorem eval_eq_sum_lagrangeBasis {P : F[X]} (hP : P.degree < domain.size) (point : F) :
    P.eval point = ∑ i ∈ Finset.range domain.size,
      P.eval (domain.element i) * (domain.lagrangeBasis i).eval point := by
  have hinterp := Lagrange.eq_interpolate_of_eval_eq (fun i => P.eval (domain.element i))
    domain.element_injOn (by simpa using hP) (fun _ _ => rfl)
  nth_rewrite 1 [hinterp]
  rw [Lagrange.interpolate_apply, eval_finset_sum]
  simp [lagrangeBasis]

end EvaluationDomain

end Plonk
