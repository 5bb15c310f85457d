import Mathlib

/-!
`ff_fft::DensePolynomial`, the polynomial type of `cs/opening.rs`: a vector
of coefficients, lowest degree first, whose last entry is never zero. The
crate is not among the sources. Every operation the opener uses ends by
popping zero coefficients off the top (`from_coefficients_vec`, and the loop
at the end of `Add` and `Sub`), which is the invariant `normalized` below.
Two operations are computed differently here. The crate multiplies by FFT
over a domain large enough for the product, with an `expect` that such a
domain exists; the model takes the coefficient product, which is what that
FFT computes whenever the domain exists, and leaves the `expect` out. The
crate's `evaluate` sums `coeffs[i] * point^i`; the model runs Horner's rule,
the same value.

The one bridge to Mathlib is `toPoly`, the polynomial a coefficient list
denotes. Each operation gets its hom lemma, and `toPolynomial_injective`
says that a normalized vector is determined by the polynomial it denotes, so
identities between polynomials are identities between the crate's values.
-/

namespace Plonk

open Polynomial

variable {F : Type} [Field F]

/-! ## Coefficient lists -/

/-- Coefficient-wise combination, the shorter vector padded with zeros, as
the `zip` loops of `Add` and `Sub` do after resizing. -/
def zipPad (f : F → F → F) : List F → List F → List F
  | [], [] => []
  | a :: as, [] => f a 0 :: zipPad f as []
  | [], b :: bs => f 0 b :: zipPad f [] bs
  | a :: as, b :: bs => f a b :: zipPad f as bs

/-- The coefficients of a product. -/
def mulCoeffs : List F → List F → List F
  | [], _ => []
  | a :: as, bs => zipPad (· + ·) (bs.map (a * ·)) (0 :: mulCoeffs as bs)

/-- The polynomial a little-endian coefficient list denotes. -/
noncomputable def toPoly : List F → F[X]
  | [] => 0
  | a :: as => C a + X * toPoly as

@[simp] theorem toPoly_nil : toPoly ([] : List F) = 0 := rfl

@[simp] theorem toPoly_cons (a : F) (as : List F) :
    toPoly (a :: as) = C a + X * toPoly as := rfl

theorem toPoly_coeff : ∀ (as : List F) (i : Nat), (toPoly as).coeff i = as.getD i 0
  | [], i => by simp
  | a :: as, 0 => by simp
  | a :: as, i + 1 => by simp [coeff_C, toPoly_coeff as i]

theorem toPoly_zipPad_add : ∀ as bs : List F,
    toPoly (zipPad (· + ·) as bs) = toPoly as + toPoly bs
  | [], [] => by simp [zipPad]
  | a :: as, [] => by simp [zipPad, toPoly_zipPad_add as []]
  | [], b :: bs => by simp [zipPad, toPoly_zipPad_add [] bs]
  | a :: as, b :: bs => by
    simp only [zipPad, toPoly_cons, toPoly_zipPad_add as bs, C_add]
    ring

theorem toPoly_zipPad_sub : ∀ as bs : List F,
    toPoly (zipPad (· - ·) as bs) = toPoly as - toPoly bs
  | [], [] => by simp [zipPad]
  | a :: as, [] => by simp [zipPad, toPoly_zipPad_sub as []]
  | [], b :: bs => by
    simp only [zipPad, toPoly_cons, toPoly_zipPad_sub [] bs, toPoly_nil, C_sub, C_0]
    ring
  | a :: as, b :: bs => by
    simp only [zipPad, toPoly_cons, toPoly_zipPad_sub as bs, C_sub]
    ring

theorem toPoly_map_mul (a : F) : ∀ bs : List F, toPoly (bs.map (a * ·)) = C a * toPoly bs
  | [] => by simp
  | b :: bs => by
    simp only [List.map_cons, toPoly_cons, toPoly_map_mul a bs, C_mul]
    ring

theorem toPoly_mulCoeffs : ∀ as bs : List F,
    toPoly (mulCoeffs as bs) = toPoly as * toPoly bs
  | [], bs => by simp [mulCoeffs]
  | a :: as, bs => by
    simp only [mulCoeffs, toPoly_zipPad_add, toPoly_map_mul, toPoly_cons,
      toPoly_mulCoeffs as bs, C_0]
    ring

variable [DecidableEq F]

/-- Pop zero coefficients off the top of a little-endian vector. -/
def trim : List F → List F
  | [] => []
  | a :: as => if trim as = [] ∧ a = 0 then [] else a :: trim as

theorem toPoly_trim : ∀ as : List F, toPoly (trim as) = toPoly as
  | [] => rfl
  | a :: as => by
    have ih := toPoly_trim as
    by_cases h : trim as = [] ∧ a = 0
    · rw [trim, if_pos h, toPoly_cons, ← ih, h.1, h.2]
      simp
    · rw [trim, if_neg h, toPoly_cons, toPoly_cons, ih]

theorem trim_getLast? : ∀ as : List F, (trim as).getLast? ≠ some 0
  | [] => by simp [trim]
  | a :: as => by
    have ih := trim_getLast? as
    by_cases h : trim as = [] ∧ a = 0
    · simp [trim, h]
    · rw [trim, if_neg h, List.getLast?_cons]
      cases ht : trim as with
      | nil => simpa [ht] using h
      | cons b bs =>
        rw [ht] at ih
        obtain ⟨x, hx⟩ := Option.ne_none_iff_exists'.mp (by simp : (b :: bs).getLast? ≠ none)
        simp only [hx, Option.getD_some]
        exact fun hx0 => ih (hx0 ▸ hx)

theorem trim_eq_self : ∀ as : List F, as.getLast? ≠ some 0 → trim as = as
  | [] => fun _ => rfl
  | a :: as => by
    intro hlast
    cases as with
    | nil =>
      have ha : a ≠ 0 := fun h => hlast (by simp [h])
      simp [trim, ha]
    | cons b bs =>
      have htail : (b :: bs).getLast? ≠ some 0 := by
        rwa [List.getLast?_cons_cons] at hlast
      rw [trim, trim_eq_self (b :: bs) htail]
      simp

theorem trim_eq_nil_of_getD : ∀ as : List F, (∀ i, as.getD i 0 = 0) → trim as = []
  | [] => fun _ => rfl
  | a :: as => by
    intro h
    have ha : a = 0 := by simpa using h 0
    have htail := trim_eq_nil_of_getD as fun i => by simpa using h (i + 1)
    simp [trim, ha, htail]

/-- `trim` depends only on the coefficient sequence. -/
theorem trim_eq_of_getD : ∀ as bs : List F, (∀ i, as.getD i 0 = bs.getD i 0) →
    trim as = trim bs
  | [], bs => fun h => (trim_eq_nil_of_getD bs fun i => by simpa using (h i).symm).symm
  | a :: as, [] => fun h => trim_eq_nil_of_getD (a :: as) fun i => by simpa using h i
  | a :: as, b :: bs => by
    intro h
    have hab : a = b := by simpa using h 0
    have htail := trim_eq_of_getD as bs fun i => by simpa using h (i + 1)
    simp [trim, hab, htail]

/-! ## The crate's values -/

/-- `DensePolynomial`: coefficients, lowest degree first, with no zero on
top. -/
structure DensePolynomial (F : Type) [Field F] where
  coeffs : List F
  normalized : coeffs.getLast? ≠ some 0

namespace DensePolynomial

/-- `DensePolynomial::from_coefficients_vec` (and `_slice`): pop the zeros
off the top. -/
def fromCoefficientsVec (as : List F) : DensePolynomial F := ⟨trim as, trim_getLast? as⟩

/-- `DensePolynomial::zero`. -/
def zero : DensePolynomial F := ⟨[], by simp⟩

/-- `is_zero`: no coefficients, or all of them zero. -/
def isZero (p : DensePolynomial F) : Bool := p.coeffs.all (· = 0)

/-- `degree`: the index of the top coefficient, `0` for the zero polynomial. -/
def degree (p : DensePolynomial F) : Nat := if p.isZero then 0 else p.coeffs.length - 1

/-- `&p + &q`. -/
def add (p q : DensePolynomial F) : DensePolynomial F :=
  fromCoefficientsVec (zipPad (· + ·) p.coeffs q.coeffs)

/-- `&p - &q`. -/
def sub (p q : DensePolynomial F) : DensePolynomial F :=
  fromCoefficientsVec (zipPad (· - ·) p.coeffs q.coeffs)

/-- `&p * &q`: zero if either factor is, else the product. -/
def mul (p q : DensePolynomial F) : DensePolynomial F :=
  if p.isZero || q.isZero then zero else fromCoefficientsVec (mulCoeffs p.coeffs q.coeffs)

/-- `evaluate`: the sum of `coeffs[i] * point^i`, here in Horner form. -/
def evaluate (p : DensePolynomial F) (point : F) : F :=
  p.coeffs.foldr (fun a acc => a + point * acc) 0

/-- The polynomial the coefficients denote. -/
noncomputable def toPolynomial (p : DensePolynomial F) : F[X] := toPoly p.coeffs

omit [DecidableEq F] in
theorem ext {p q : DensePolynomial F} (h : p.coeffs = q.coeffs) : p = q := by
  cases p
  cases q
  cases h
  rfl

theorem toPolynomial_injective {p q : DensePolynomial F}
    (h : p.toPolynomial = q.toPolynomial) : p = q := by
  apply ext
  have hcoeff : ∀ i, p.coeffs.getD i 0 = q.coeffs.getD i 0 := fun i => by
    rw [← toPoly_coeff, ← toPoly_coeff]
    exact congrArg (coeff · i) h
  rw [← trim_eq_self _ p.normalized, ← trim_eq_self _ q.normalized]
  exact trim_eq_of_getD _ _ hcoeff

@[simp] theorem toPolynomial_fromCoefficientsVec (as : List F) :
    (fromCoefficientsVec as).toPolynomial = toPoly as :=
  toPoly_trim as

omit [DecidableEq F] in
@[simp] theorem toPolynomial_zero : (zero : DensePolynomial F).toPolynomial = 0 := rfl

theorem isZero_iff (p : DensePolynomial F) : p.isZero = true ↔ p.toPolynomial = 0 := by
  constructor
  · intro h
    ext i
    simp only [toPolynomial, toPoly_coeff, coeff_zero, List.getD_eq_getElem?_getD]
    cases hi : p.coeffs[i]? with
    | none => rfl
    | some a =>
      simpa using (List.all_eq_true.mp h) a (List.getElem?_mem hi)
  · intro h
    have hnil : p.coeffs = [] := by
      rw [← trim_eq_self _ p.normalized]
      exact trim_eq_nil_of_getD _ fun i => by
        rw [← toPoly_coeff]
        exact congrArg (coeff · i) h
    simp [isZero, hnil]

@[simp] theorem toPolynomial_add (p q : DensePolynomial F) :
    (p.add q).toPolynomial = p.toPolynomial + q.toPolynomial := by
  rw [add, toPolynomial_fromCoefficientsVec, toPoly_zipPad_add]
  rfl

@[simp] theorem toPolynomial_sub (p q : DensePolynomial F) :
    (p.sub q).toPolynomial = p.toPolynomial - q.toPolynomial := by
  rw [sub, toPolynomial_fromCoefficientsVec, toPoly_zipPad_sub]
  rfl

@[simp] theorem toPolynomial_mul (p q : DensePolynomial F) :
    (p.mul q).toPolynomial = p.toPolynomial * q.toPolynomial := by
  unfold mul
  split
  · rename_i h
    rcases Bool.or_eq_true _ _ ▸ h with hp | hq
    · simp [(isZero_iff p).mp hp]
    · simp [(isZero_iff q).mp hq]
  · rw [toPolynomial_fromCoefficientsVec, toPoly_mulCoeffs]
    rfl

omit [DecidableEq F] in
theorem evaluate_eq (p : DensePolynomial F) (point : F) :
    p.evaluate point = p.toPolynomial.eval point := by
  unfold evaluate toPolynomial
  induction p.coeffs with
  | nil => simp
  | cons a as ih => simp [ih]

@[simp] theorem toPolynomial_fromCoefficientsVec_singleton (a : F) :
    (fromCoefficientsVec [a]).toPolynomial = C a := by
  simp

end DensePolynomial

end Plonk
