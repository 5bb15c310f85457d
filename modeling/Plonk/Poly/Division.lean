import Plonk.Poly.DensePolynomial

/-!
Polynomial long division as `ff_fft` runs it for `&p / &divisor`:
`DenseOrSparsePolynomial::divide_with_q_and_r`. The loop keeps a quotient
vector of fixed length and a normalized remainder; each pass cancels the
remainder's top coefficient against the divisor's, writes the quotient
coefficient into its slot, and pops the zeros off the remainder.

The loop is modelled on explicit fuel, the length of the dividend, and
`divideLoop_spec` proves that this is always enough. The invariant is
`DivideInvariant`: the division identity, with every quotient slot the loop
has yet to write still zero. From it, `divideWithQAndR_spec` gives the
identity and the remainder bound, so that the division is Mathlib's Euclidean
`/` and `%` and panics only on a nonzero dividend over a zero divisor
(`divideWithQAndR_eq_div_mod`); for the divisors `X - z` the opener uses,
`divideWithQAndR_linear` identifies the quotient with Mathlib's `/ₘ` and the
remainder with the constant `p(z)`.
-/

namespace Plonk

open Polynomial

variable {F : Type} [Field F]

theorem zipPad_getD (f : F → F → F) (hf : f 0 0 = 0) :
    ∀ (as bs : List F) (i : Nat), (zipPad f as bs).getD i 0 = f (as.getD i 0) (bs.getD i 0)
  | [], [], i => by simp [zipPad, hf]
  | a :: as, [], 0 => by simp [zipPad]
  | a :: as, [], i + 1 => by simpa [zipPad] using zipPad_getD f hf as [] i
  | [], b :: bs, 0 => by simp [zipPad]
  | [], b :: bs, i + 1 => by simpa [zipPad] using zipPad_getD f hf [] bs i
  | a :: as, b :: bs, 0 => by simp [zipPad]
  | a :: as, b :: bs, i + 1 => by simpa [zipPad] using zipPad_getD f hf as bs i

theorem getD_replicate_append (k m : Nat) (cs : List F) :
    (List.replicate k 0 ++ cs).getD m 0 = if m < k then 0 else cs.getD (m - k) 0 := by
  induction k generalizing m with
  | zero => simp
  | succ k ih =>
    rw [List.replicate_succ, List.cons_append]
    cases m with
    | zero => simp
    | succ m => rw [List.getD_cons_succ, ih m]; simp

theorem getD_map_mul (c : F) (cs : List F) (i : Nat) :
    (cs.map (c * ·)).getD i 0 = c * cs.getD i 0 := by
  simp only [List.getD_eq_getElem?_getD, List.getElem?_map]
  cases cs[i]? <;> simp

theorem toPoly_replicate_append (k : Nat) (cs : List F) :
    toPoly (List.replicate k 0 ++ cs) = X ^ k * toPoly cs := by
  induction k with
  | zero => simp
  | succ k ih =>
    rw [List.replicate_succ, List.cons_append, toPoly_cons, ih, C_0, zero_add, pow_succ]
    ring

theorem toPoly_set {q : List F} {k : Nat} (hk : k < q.length) (hzero : q.getD k 0 = 0)
    (c : F) : toPoly (q.set k c) = toPoly q + C c * X ^ k := by
  ext m
  simp only [toPoly_coeff, coeff_add, coeff_C_mul, coeff_X_pow, List.getD_eq_getElem?_getD,
    List.getElem?_set]
  by_cases hm : k = m
  · subst hm
    simp only [List.getD_eq_getElem?_getD, List.getElem?_eq_getElem hk, Option.getD_some] at hzero
    simp [hk, hzero]
  · simp [hm, Ne.symm hm]

/-- A normalized coefficient list is exactly as long as the degree bound
its polynomial meets. -/
theorem degree_toPoly_lt_iff {cs : List F} (hcs : cs.getLast? ≠ some 0) (n : Nat) :
    (toPoly cs).degree < n ↔ cs.length ≤ n := by
  rw [degree_lt_iff_coeff_zero]
  simp only [toPoly_coeff, List.getD_eq_getElem?_getD]
  constructor
  · intro h
    by_contra hlt
    have hlast := h (cs.length - 1) (by omega)
    rw [← List.getLast?_eq_getElem?] at hlast
    cases hl : cs.getLast? with
    | none => simp_all
    | some x => simp_all
  · intro h m hm
    simp [List.getElem?_eq_none (by omega : cs.length ≤ m)]

namespace DensePolynomial

variable [DecidableEq F]

theorem isZero_iff_coeffs (p : DensePolynomial F) : p.isZero = true ↔ p.coeffs = [] := by
  rw [isZero_iff]
  constructor
  · intro h
    rw [← trim_eq_self _ p.normalized]
    exact trim_eq_nil_of_getD _ fun i => by rw [← toPoly_coeff]; exact congrArg (coeff · i) h
  · intro h
    simp [toPolynomial, h]

theorem degree_eq (p : DensePolynomial F) : p.degree = p.coeffs.length - 1 := by
  unfold degree
  split
  · rename_i h
    simp [(isZero_iff_coeffs p).mp h]
  · rfl

omit [DecidableEq F] in
/-- The top coefficient of a nonzero normalized vector is not zero. -/
theorem getLast_ne_zero (p : DensePolynomial F) (hp : p.coeffs ≠ []) :
    p.coeffs.getLast?.getD 0 ≠ 0 := by
  have hn := p.normalized
  rw [List.getLast?_eq_getLast _ hp] at hn ⊢
  simpa using hn

omit [DecidableEq F] in
/-- `remainder[k + i] -= c * divisor[i]` for every coefficient of the
divisor. -/
def subShifted (remainder : List F) (k : Nat) (c : F) (divisor : List F) : List F :=
  zipPad (· - ·) remainder (List.replicate k 0 ++ divisor.map (c * ·))

omit [DecidableEq F] in
theorem subShifted_getD (remainder : List F) (k : Nat) (c : F) (divisor : List F) (m : Nat) :
    (subShifted remainder k c divisor).getD m 0 =
      remainder.getD m 0 - if m < k then 0 else c * divisor.getD (m - k) 0 := by
  rw [subShifted, zipPad_getD _ (by simp), getD_replicate_append]
  split
  · simp
  · rw [getD_map_mul]

omit [DecidableEq F] in
theorem toPoly_subShifted (remainder : List F) (k : Nat) (c : F) (divisor : List F) :
    toPoly (subShifted remainder k c divisor) =
      toPoly remainder - X ^ k * (C c * toPoly divisor) := by
  rw [subShifted, toPoly_zipPad_sub, toPoly_replicate_append, toPoly_map_mul]

/-- The `while` loop of `divide_with_q_and_r`, on explicit fuel. -/
def divideLoop (divisor : DensePolynomial F) (divisorLeadingInv : F) :
    Nat → List F → DensePolynomial F → List F × DensePolynomial F
  | 0, quotient, remainder => (quotient, remainder)
  | fuel + 1, quotient, remainder =>
    if !remainder.isZero && remainder.degree ≥ divisor.degree then
      let curQCoeff := remainder.coeffs.getLast?.getD 0 * divisorLeadingInv
      let curQDegree := remainder.degree - divisor.degree
      divideLoop divisor divisorLeadingInv fuel (quotient.set curQDegree curQCoeff)
        (fromCoefficientsVec (subShifted remainder.coeffs curQDegree curQCoeff divisor.coeffs))
    else (quotient, remainder)

/-- `DenseOrSparsePolynomial::divide_with_q_and_r`; `none` is its panic on
a zero divisor. -/
def divideWithQAndR (self divisor : DensePolynomial F) :
    Option (DensePolynomial F × DensePolynomial F) :=
  if self.isZero then some (zero, zero)
  else if divisor.isZero then none
  else if self.degree < divisor.degree then some (zero, self)
  else
    let quotient := List.replicate (self.degree - divisor.degree + 1) 0
    let divisorLeadingInv := (divisor.coeffs.getLast?.getD 0)⁻¹
    let (quotient, remainder) :=
      divideLoop divisor divisorLeadingInv self.coeffs.length quotient self
    some (fromCoefficientsVec quotient, remainder)

/-- `&p / &divisor`: the quotient of `divide_with_q_and_r`, whose `expect`
panics on `none`. -/
def div (p divisor : DensePolynomial F) : Option (DensePolynomial F) :=
  (divideWithQAndR p divisor).map Prod.fst

/-- The invariant of the division loop: the division identity holds, the
remainder is no longer than the dividend, and every quotient slot at or
below the remainder's degree minus the divisor's is still zero. -/
structure DivideInvariant (dividend divisor : DensePolynomial F) (quotient : List F)
    (remainder : DensePolynomial F) : Prop where
  identity : dividend.toPolynomial =
    toPoly quotient * divisor.toPolynomial + remainder.toPolynomial
  remainder_le : remainder.coeffs.length ≤ dividend.coeffs.length
  quotient_length : dividend.coeffs.length < divisor.coeffs.length + quotient.length
  free_slots : ∀ j, divisor.coeffs.length + j ≤ remainder.coeffs.length →
    quotient.getD j 0 = 0

section Step

variable {dividend divisor remainder : DensePolynomial F} {quotient : List F}

/-- One pass of the loop cancels the remainder's top coefficient. -/
theorem subShifted_length_lt (hdiv : divisor.coeffs ≠ []) (hrem : remainder.coeffs ≠ [])
    (hge : divisor.coeffs.length ≤ remainder.coeffs.length) :
    (fromCoefficientsVec (subShifted remainder.coeffs
      (remainder.coeffs.length - divisor.coeffs.length)
      (remainder.coeffs.getLast?.getD 0 * (divisor.coeffs.getLast?.getD 0)⁻¹)
      divisor.coeffs)).coeffs.length < remainder.coeffs.length := by
  have hd := divisor.getLast_ne_zero hdiv
  have hdpos := List.length_pos.mpr hdiv
  -- every coefficient from the old top one up is zero
  refine Nat.lt_of_le_of_lt ?_ (Nat.sub_lt (List.length_pos.mpr hrem) Nat.one_pos)
  rw [← degree_toPoly_lt_iff (fromCoefficientsVec _).normalized, degree_lt_iff_coeff_zero]
  intro m hm
  have hk : ¬ m < remainder.coeffs.length - divisor.coeffs.length := by omega
  rw [fromCoefficientsVec, toPoly_trim, toPoly_coeff, subShifted_getD, if_neg hk]
  rcases Nat.lt_or_ge m remainder.coeffs.length with hlt | hge'
  · have hm' : m = remainder.coeffs.length - 1 := by omega
    have hidx : m - (remainder.coeffs.length - divisor.coeffs.length) =
        divisor.coeffs.length - 1 := by omega
    rw [hidx, hm']
    simp only [List.getD_eq_getElem?_getD, ← List.getLast?_eq_getElem?]
    rw [inv_mul_cancel_right₀ hd, sub_self]
  · simp only [List.getD_eq_getElem?_getD]
    rw [List.getElem?_eq_none (by omega), List.getElem?_eq_none (by omega)]
    simp

/-- One pass of the loop keeps the invariant. -/
theorem divideInvariant_step (hdiv : divisor.coeffs ≠ [])
    (hinv : DivideInvariant dividend divisor quotient remainder) (hrem : remainder.coeffs ≠ [])
    (hge : divisor.coeffs.length ≤ remainder.coeffs.length) :
    DivideInvariant dividend divisor
      (quotient.set (remainder.coeffs.length - divisor.coeffs.length)
        (remainder.coeffs.getLast?.getD 0 * (divisor.coeffs.getLast?.getD 0)⁻¹))
      (fromCoefficientsVec (subShifted remainder.coeffs
        (remainder.coeffs.length - divisor.coeffs.length)
        (remainder.coeffs.getLast?.getD 0 * (divisor.coeffs.getLast?.getD 0)⁻¹)
        divisor.coeffs)) := by
  have hlt := subShifted_length_lt hdiv hrem hge
  have hslot := hinv.free_slots (remainder.coeffs.length - divisor.coeffs.length) (by omega)
  have hk : remainder.coeffs.length - divisor.coeffs.length < quotient.length := by
    have := hinv.remainder_le
    have := hinv.quotient_length
    omega
  refine ⟨?_, by have := hinv.remainder_le; omega, by simpa using hinv.quotient_length, ?_⟩
  · rw [hinv.identity, toPoly_set hk hslot, toPolynomial_fromCoefficientsVec, toPoly_subShifted]
    simp only [toPolynomial]
    ring
  · intro j hj
    have hne : remainder.coeffs.length - divisor.coeffs.length ≠ j := by omega
    simp only [List.getD_eq_getElem?_getD, List.getElem?_set, hne, if_false]
    simpa [List.getD_eq_getElem?_getD] using hinv.free_slots j (by omega)

/-- The loop starts from `deg self - deg divisor + 1` zero quotient slots and
the dividend as remainder. -/
theorem divideInvariant_init (hdiv : divisor.coeffs ≠ []) :
    DivideInvariant dividend divisor
      (List.replicate (dividend.degree - divisor.degree + 1) 0) dividend := by
  refine ⟨?_, le_rfl, ?_, fun j _ => ?_⟩
  · have hzero := toPoly_replicate_append (dividend.degree - divisor.degree + 1) ([] : List F)
    rw [List.append_nil, toPoly_nil, mul_zero] at hzero
    rw [hzero, zero_mul, zero_add]
  · have := List.length_pos.mpr hdiv
    rw [degree_eq, degree_eq]
    simp only [List.length_replicate]
    omega
  · simp [List.getD_eq_getElem?_getD, List.getElem?_replicate]
    split <;> rfl

end Step

/-- The loop condition `!remainder.is_zero() && remainder.degree() >=
divisor.degree()`, for a nonzero divisor. -/
theorem loopCondition_iff {divisor remainder : DensePolynomial F} (hdiv : divisor.coeffs ≠ []) :
    (!remainder.isZero && remainder.degree ≥ divisor.degree) = true ↔
      remainder.coeffs ≠ [] ∧ divisor.coeffs.length ≤ remainder.coeffs.length := by
  have hd := List.length_pos.mpr hdiv
  simp only [Bool.and_eq_true, Bool.not_eq_true', decide_eq_true_eq, degree_eq]
  rw [← Bool.not_eq_true, isZero_iff_coeffs]
  constructor
  · rintro ⟨hr, hle⟩
    have := List.length_pos.mpr hr
    exact ⟨hr, by omega⟩
  · rintro ⟨hr, hle⟩
    exact ⟨hr, by omega⟩

/-- Run lemma of the division loop: with fuel at least the remainder's
length, the loop ends with the invariant and a remainder below the
divisor's length. -/
theorem divideLoop_spec {dividend divisor : DensePolynomial F} (hdiv : divisor.coeffs ≠ []) :
    ∀ (fuel : Nat) (quotient : List F) (remainder : DensePolynomial F),
      DivideInvariant dividend divisor quotient remainder → remainder.coeffs.length ≤ fuel →
      DivideInvariant dividend divisor
          (divideLoop divisor (divisor.coeffs.getLast?.getD 0)⁻¹ fuel quotient remainder).1
          (divideLoop divisor (divisor.coeffs.getLast?.getD 0)⁻¹ fuel quotient remainder).2 ∧
        (divideLoop divisor (divisor.coeffs.getLast?.getD 0)⁻¹ fuel quotient
          remainder).2.coeffs.length < divisor.coeffs.length
  | 0, quotient, remainder, hinv, hfuel => by
    have hnil : remainder.coeffs = [] := List.eq_nil_of_length_eq_zero (by omega)
    refine ⟨hinv, ?_⟩
    simp only [divideLoop, hnil, List.length_nil]
    exact List.length_pos.mpr hdiv
  | fuel + 1, quotient, remainder, hinv, hfuel => by
    by_cases hcont : remainder.coeffs ≠ [] ∧ divisor.coeffs.length ≤ remainder.coeffs.length
    · rw [divideLoop, if_pos ((loopCondition_iff hdiv).mpr hcont)]
      have hsub : remainder.degree - divisor.degree =
          remainder.coeffs.length - divisor.coeffs.length := by
        have := List.length_pos.mpr hdiv
        rw [degree_eq, degree_eq]
        omega
      simp only [hsub]
      exact divideLoop_spec hdiv fuel _ _ (divideInvariant_step hdiv hinv hcont.1 hcont.2)
        (by have := subShifted_length_lt hdiv hcont.1 hcont.2; omega)
    · rw [divideLoop, if_neg (fun h => hcont ((loopCondition_iff hdiv).mp h))]
      refine ⟨hinv, ?_⟩
      by_cases hr : remainder.coeffs = []
      · simp only [hr, List.length_nil]
        exact List.length_pos.mpr hdiv
      · exact Nat.lt_of_not_le fun h => hcont ⟨hr, h⟩

omit [DecidableEq F] in
/-- A normalized vector shorter than a nonzero divisor has lower degree. -/
theorem degree_lt_of_length_lt {remainder divisor : DensePolynomial F}
    (hdiv : divisor.coeffs ≠ []) (hlen : remainder.coeffs.length < divisor.coeffs.length) :
    remainder.toPolynomial.degree < divisor.toPolynomial.degree := by
  have hd := List.length_pos.mpr hdiv
  have hr : remainder.toPolynomial.degree < (divisor.coeffs.length - 1 : Nat) :=
    (degree_toPoly_lt_iff remainder.normalized _).mpr (by omega)
  have hge : ¬ divisor.toPolynomial.degree < (divisor.coeffs.length - 1 : Nat) := fun h => by
    have := (degree_toPoly_lt_iff divisor.normalized _).mp h
    omega
  exact lt_of_lt_of_le hr (not_lt.mp hge)

/-- `divide_with_q_and_r` by a nonzero divisor returns a quotient and a
remainder with `self = quotient * divisor + remainder` and the remainder of
lower degree than the divisor. -/
theorem divideWithQAndR_spec (dividend divisor : DensePolynomial F)
    (hdiv : divisor.coeffs ≠ []) :
    ∃ quotient remainder, divideWithQAndR dividend divisor = some (quotient, remainder) ∧
      dividend.toPolynomial =
        quotient.toPolynomial * divisor.toPolynomial + remainder.toPolynomial ∧
      remainder.toPolynomial.degree < divisor.toPolynomial.degree := by
  have hdivz : divisor.isZero = false := by
    rw [← Bool.not_eq_true, isZero_iff_coeffs]
    exact hdiv
  have hd := List.length_pos.mpr hdiv
  unfold divideWithQAndR
  by_cases hz : dividend.isZero = true
  · refine ⟨zero, zero, by simp [hz], by simp [(isZero_iff dividend).mp hz], ?_⟩
    exact degree_lt_of_length_lt hdiv (by simpa [zero] using hd)
  rw [if_neg hz, if_neg (by simp [hdivz])]
  have hne : dividend.coeffs ≠ [] := fun h => hz ((isZero_iff_coeffs _).mpr h)
  have hn := List.length_pos.mpr hne
  by_cases hlt : dividend.degree < divisor.degree
  · refine ⟨zero, dividend, by simp [hlt], by simp, degree_lt_of_length_lt hdiv ?_⟩
    rw [degree_eq, degree_eq] at hlt
    omega
  rw [if_neg hlt]
  obtain ⟨hfin, hlen⟩ := divideLoop_spec hdiv _ _ _ (divideInvariant_init hdiv) le_rfl
  refine ⟨_, _, rfl, ?_, degree_lt_of_length_lt hdiv hlen⟩
  rw [toPolynomial_fromCoefficientsVec]
  exact hfin.identity

omit [DecidableEq F] in
/-- Division with remainder in `F[X]` is unique: a quotient with a remainder
below the divisor's degree is Mathlib's `/`, and the remainder its `%`. -/
theorem div_mod_unique {p d q r : F[X]} (hd : d ≠ 0) (hid : p = q * d + r)
    (hdeg : r.degree < d.degree) : p / d = q ∧ p % d = r := by
  have hlc : C (leadingCoeff d)⁻¹ * C (leadingCoeff d) = 1 := by
    rw [← C_mul, inv_mul_cancel₀ (leadingCoeff_ne_zero.mpr hd), C_1]
  -- Mathlib divides by the monic `d / lc(d)`, whose quotient is `lc(d) q`.
  have huniq : p /ₘ (d * C (leadingCoeff d)⁻¹) = C (leadingCoeff d) * q ∧
      p %ₘ (d * C (leadingCoeff d)⁻¹) = r :=
    div_modByMonic_unique _ _ (monic_mul_leadingCoeff_inv hd)
      ⟨by rw [hid]; linear_combination (d * q) * hlc,
        by rwa [degree_mul_leadingCoeff_inv _ hd]⟩
  refine ⟨?_, by rw [mod_def, huniq.2]⟩
  rw [div_def, huniq.1, ← mul_assoc, hlc, one_mul]

/-- `divide_with_q_and_r` is Euclidean division in `F[X]`: it panics exactly
on a nonzero polynomial divided by zero, and otherwise returns Mathlib's
`p / d` and `p % d`, the zero polynomial divided by anything included. -/
theorem divideWithQAndR_eq_div_mod (p d : DensePolynomial F) :
    (divideWithQAndR p d = none ↔ p.toPolynomial ≠ 0 ∧ d.toPolynomial = 0) ∧
      ∀ quotient remainder, divideWithQAndR p d = some (quotient, remainder) →
        quotient.toPolynomial = p.toPolynomial / d.toPolynomial ∧
          remainder.toPolynomial = p.toPolynomial % d.toPolynomial := by
  by_cases hp : p.isZero = true
  · have hp0 := (isZero_iff p).mp hp
    have hzero : divideWithQAndR p d = some (zero, zero) := by simp [divideWithQAndR, hp]
    refine ⟨by simp [hzero, hp0], ?_⟩
    rintro q r hres
    rw [hzero, Option.some.injEq, Prod.mk.injEq] at hres
    obtain ⟨rfl, rfl⟩ := hres
    simp [hp0]
  by_cases hd : d.isZero = true
  · have hnone : divideWithQAndR p d = none := by simp [divideWithQAndR, hp, hd]
    simp only [hnone, reduceCtorEq, false_implies, implies_true, and_true, true_iff]
    exact ⟨fun h => hp ((isZero_iff p).mpr h), (isZero_iff d).mp hd⟩
  have hd0 : d.toPolynomial ≠ 0 := fun h => hd ((isZero_iff d).mpr h)
  obtain ⟨q, r, hres, hid, hdeg⟩ :=
    divideWithQAndR_spec p d fun h => hd ((isZero_iff_coeffs d).mpr h)
  refine ⟨by simp [hres, hd0], ?_⟩
  rintro q' r' hres'
  rw [hres, Option.some.injEq, Prod.mk.injEq] at hres'
  obtain ⟨rfl, rfl⟩ := hres'
  obtain ⟨hq, hr⟩ := div_mod_unique hd0 hid hdeg
  exact ⟨hq.symm, hr.symm⟩

/-- The divisor `X - z` that the opener builds as
`from_coefficients_vec(vec![-z, 1])`. -/
@[simp] theorem toPolynomial_linear (z : F) :
    (fromCoefficientsVec [-z, 1]).toPolynomial = X - C z := by
  simp only [toPolynomial_fromCoefficientsVec, toPoly_cons, toPoly_nil, C_neg, C_1]
  ring

theorem linear_coeffs_ne_nil (z : F) : (fromCoefficientsVec [-z, 1]).coeffs ≠ [] := by
  simp [fromCoefficientsVec, trim]

/-- Division by `X - z` never panics: `p = quotient (X - z) + remainder`, the
quotient is Mathlib's `/ₘ` and the remainder the constant `p(z)`. -/
theorem divideWithQAndR_linear (p : DensePolynomial F) (z : F) :
    ∃ quotient remainder,
      divideWithQAndR p (fromCoefficientsVec [-z, 1]) = some (quotient, remainder) ∧
      p.toPolynomial = quotient.toPolynomial * (X - C z) + remainder.toPolynomial ∧
      quotient.toPolynomial = p.toPolynomial /ₘ (X - C z) ∧
      remainder.toPolynomial = C (p.toPolynomial.eval z) := by
  obtain ⟨q, r, hres, hid, hdeg⟩ := divideWithQAndR_spec p _ (linear_coeffs_ne_nil z)
  rw [toPolynomial_linear] at hid hdeg
  have huniq : p.toPolynomial /ₘ (X - C z) = q.toPolynomial ∧
      p.toPolynomial %ₘ (X - C z) = r.toPolynomial :=
    div_modByMonic_unique q.toPolynomial r.toPolynomial (monic_X_sub_C z)
      ⟨by rw [hid]; ring, hdeg⟩
  exact ⟨q, r, hres, hid, huniq.1.symm, by rw [← huniq.2, modByMonic_X_sub_C_eq_C_eval]⟩

/-- The crate's `degree` is the degree of the polynomial denoted. -/
theorem degree_eq_natDegree_toPolynomial (p : DensePolynomial F) :
    p.degree = p.toPolynomial.natDegree := by
  rw [degree_eq]
  by_cases hp : p.coeffs = []
  · simp [toPolynomial, hp]
  · have hpos := List.length_pos.mpr hp
    have hlt : p.toPolynomial.degree < p.coeffs.length :=
      (degree_toPoly_lt_iff p.normalized _).mpr le_rfl
    have hge : ¬ p.toPolynomial.degree < (p.coeffs.length - 1 : Nat) := fun h => by
      have := (degree_toPoly_lt_iff p.normalized _).mp h
      omega
    have hne : p.toPolynomial ≠ 0 := fun h =>
      hge (by rw [h, degree_zero]; exact WithBot.bot_lt_coe _)
    rw [Polynomial.degree_eq_natDegree hne, Nat.cast_lt] at hlt
    rw [Polynomial.degree_eq_natDegree hne, Nat.cast_lt] at hge
    omega

end DensePolynomial

end Plonk
