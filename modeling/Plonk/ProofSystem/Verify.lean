import Plonk.CommitmentScheme.Kzg10
import Plonk.ProofSystem.Quotient

/-!
`Proof::verify`, with the transcript passed explicitly. The run has three
stages: the challenges are derived from the commitments (`deriveChallenges`),
the verifier computes `L_1(ζ_frak)`, `t(ζ_frak)`, `[t]` and absorbs the
evaluations (`verifyUntilOpening`), and the two aggregate openings are
flattened and batch checked. The transcript the first `flatten` reads is the
one `verifyUntilOpening` returns: between the two nothing touches it.

`verifyUntilOpening_history` and `absorbEvaluations_history` give that
transcript: the history of the challenges, then the evaluations absorbed.
Three evaluations the openings batch, `f_eval`, `t_prime_eval` and
`t_prime_next_eval`, are not in it, so a proof that changes them draws the
same opening challenge (`verifyUntilOpening_unabsorbed`). Everything else the
run has read is bound by that transcript: the thirteen commitments before
`ζ_frak` (`deriveChallenges_history_eq_iff`), then `t(ζ_frak)` and the other
evaluations (`verifyUntilOpening_transcript_eq_iff`). The `t(ζ_frak)` it
absorbs and opens is the one PLONK's quotient identity gives
(`verifyUntilOpening_quotient_identity`). `verify_panic_sites` says where the
verifier's own arithmetic can panic: only when `ζ_frak` is an `n`-th root of
unity.
-/

namespace Plonk.ProofSystem

open CommitmentScheme (AggregateProof OpeningKey)

variable {G F : Type} [Field F] [DecidableEq F] [AddCommGroup G] [Module F G]

/-- Modelled from the spec: the lookup part of `widget::VerifierKey`, not in
the sources: the table commitments, and the `(scalar, point)` pairs its
`compute_linearisation_commitment` pushes, as a function of the arguments
`verify` passes it. -/
structure LookupVerifierKey (G F : Type) where
  table1 : G
  table2 : G
  table3 : G
  table4 : G
  computeLinearisationCommitment :
    F → ProofEvaluations F → F × F → F → F → F → F → G → G → List (F × G)

/-- Modelled from the spec: the permutation part of `widget::VerifierKey`:
the three `σ` commitments and its linearisation pairs. -/
structure PermutationVerifierKey (G F : Type) where
  sSigma1 : G
  sSigma2 : G
  sSigma3 : G
  computeLinearisationCommitment :
    ProofEvaluations F → F → F × F × F → F → G → List (F × G)

/-- Modelled from the spec: `widget::VerifierKey`, the circuit size and each
gadget's contribution to the linearisation commitment. -/
structure VerifierKey (G F : Type) where
  n : Nat
  arithmetic : ProofEvaluations F → List (F × G)
  range : F → ProofEvaluations F → List (F × G)
  logic : F → ProofEvaluations F → List (F × G)
  fixedBase : F → ProofEvaluations F → List (F × G)
  variableBase : F → ProofEvaluations F → List (F × G)
  lookup : LookupVerifierKey G F
  permutation : PermutationVerifierKey G F

/-- The challenges `verify` draws before the evaluations, in drawing order. -/
structure Challenges (F : Type) where
  zeta : F
  beta : F
  gamma : F
  delta : F
  epsilon : F
  alpha : F
  rangeSepChallenge : F
  logicSepChallenge : F
  fixedBaseSepChallenge : F
  varBaseSepChallenge : F
  lookupSepChallenge : F
  zetaFrak : F

section Transcript

variable (squeeze : List (TranscriptOp G F) → F)

omit [Field F] [DecidableEq F] [AddCommGroup G] [Module F G] in
/-- The commitments absorbed and the challenges drawn from the start of
`verify` to `ζ_frak`. -/
def Proof.deriveChallenges (p : Proof G F) (transcript : Transcript G F) :
    Challenges F × Transcript G F :=
  let t := transcript.appendCommitment "a_w" p.aComm
  let t := t.appendCommitment "b_w" p.bComm
  let t := t.appendCommitment "c_w" p.cComm
  let t := t.appendCommitment "d_w" p.dComm
  let (zeta, t) := t.challengeScalar squeeze "zeta"
  let t := t.appendCommitment "f" p.fComm
  let t := t.appendCommitment "h1" p.h1Comm
  let t := t.appendCommitment "h2" p.h2Comm
  let (beta, t) := t.challengeScalar squeeze "beta"
  let t := t.appendScalar "beta" beta
  let (gamma, t) := t.challengeScalar squeeze "gamma"
  let (delta, t) := t.challengeScalar squeeze "delta"
  let (epsilon, t) := t.challengeScalar squeeze "epsilon"
  let t := t.appendCommitment "z_1" p.z1Comm
  let t := t.appendCommitment "z_2" p.z2Comm
  let (alpha, t) := t.challengeScalar squeeze "alpha"
  let (rangeSepChallenge, t) := t.challengeScalar squeeze "range separation challenge"
  let (logicSepChallenge, t) := t.challengeScalar squeeze "logic separation challenge"
  let (fixedBaseSepChallenge, t) := t.challengeScalar squeeze "fixed base separation challenge"
  let (varBaseSepChallenge, t) := t.challengeScalar squeeze "variable base separation challenge"
  let (lookupSepChallenge, t) := t.challengeScalar squeeze "lookup challenge"
  let t := t.appendCommitment "q_low" p.qLowComm
  let t := t.appendCommitment "q_mid" p.qMidComm
  let t := t.appendCommitment "q_high" p.qHighComm
  let t := t.appendCommitment "q_4" p.q4Comm
  let (zetaFrak, t) := t.challengeScalar squeeze "zeta_frak"
  (⟨zeta, beta, gamma, delta, epsilon, alpha, rangeSepChallenge, logicSepChallenge,
    fixedBaseSepChallenge, varBaseSepChallenge, lookupSepChallenge, zetaFrak⟩, t)

omit [Field F] [DecidableEq F] [AddCommGroup G] [Module F G] in
/-- The evaluations `verify` absorbs after computing `t(ζ_frak)`. -/
def Proof.absorbEvaluations (p : Proof G F) (tEval : F) (transcript : Transcript G F) :
    Transcript G F :=
  let e := p.evaluations
  let t := transcript.appendScalar "a_eval" e.aEval
  let t := t.appendScalar "b_eval" e.bEval
  let t := t.appendScalar "c_eval" e.cEval
  let t := t.appendScalar "d_eval" e.dEval
  let t := t.appendScalar "a_next_eval" e.aNextEval
  let t := t.appendScalar "b_next_eval" e.bNextEval
  let t := t.appendScalar "d_next_eval" e.dNextEval
  let t := t.appendScalar "s_sigma_1_eval" e.sSigma1Eval
  let t := t.appendScalar "s_sigma_2_eval" e.sSigma2Eval
  let t := t.appendScalar "s_sigma_3_eval" e.sSigma3Eval
  let t := t.appendScalar "q_arith_eval" e.qArithEval
  let t := t.appendScalar "q_c_eval" e.qCEval
  let t := t.appendScalar "q_l_eval" e.qLEval
  let t := t.appendScalar "q_r_eval" e.qREval
  let t := t.appendScalar "q_k_eval" e.qKEval
  let t := t.appendScalar "perm_eval" e.permEval
  let t := t.appendScalar "lookup_perm_eval" e.lookupPermEval
  let t := t.appendScalar "h_1_eval" e.h1Eval
  let t := t.appendScalar "h_1_next_eval" e.h1NextEval
  let t := t.appendScalar "h_2_eval" e.h2Eval
  let t := t.appendScalar "t_eval" tEval
  t.appendScalar "r_eval" e.rPolyEval

omit [Field F] [DecidableEq F] [AddCommGroup G] [Module F G] in
/-- Fiat–Shamir binding up to `ζ_frak`. `ζ_frak` is drawn from the history
`verify` has built by then, and on a given starting transcript that history
determines exactly the thirteen commitments absorbed before it: two proofs
get the same history if and only if they agree on `a, b, c, d, f, h₁, h₂,
z₁, z₂` and the four quotient pieces, whatever their evaluations and opening
witnesses. -/
theorem Proof.deriveChallenges_history_eq_iff (transcript : Transcript G F) (p p' : Proof G F) :
    (p.deriveChallenges squeeze transcript).1.zetaFrak =
        squeeze (p.deriveChallenges squeeze transcript).2.history ∧
      ((p.deriveChallenges squeeze transcript).2.history =
          (p'.deriveChallenges squeeze transcript).2.history ↔
        p.aComm = p'.aComm ∧ p.bComm = p'.bComm ∧ p.cComm = p'.cComm ∧ p.dComm = p'.dComm ∧
          p.fComm = p'.fComm ∧ p.h1Comm = p'.h1Comm ∧ p.h2Comm = p'.h2Comm ∧
          p.z1Comm = p'.z1Comm ∧ p.z2Comm = p'.z2Comm ∧ p.qLowComm = p'.qLowComm ∧
          p.qMidComm = p'.qMidComm ∧ p.qHighComm = p'.qHighComm ∧ p.q4Comm = p'.q4Comm) := by
  refine ⟨rfl, ⟨fun h => ?_, ?_⟩⟩
  · simp only [Proof.deriveChallenges, Transcript.appendCommitment, Transcript.appendScalar,
      Transcript.challengeScalar, List.append_assoc, List.cons_append, List.nil_append,
      List.append_cancel_left_eq, List.cons.injEq, TranscriptOp.appendCommitment.injEq,
      TranscriptOp.appendScalar.injEq, true_and] at h
    tauto
  · rintro ⟨ha, hb, hc, hd, hf, hh1, hh2, hz1, hz2, hlow, hmid, hhigh, h4⟩
    simp only [Proof.deriveChallenges, Transcript.appendCommitment, Transcript.appendScalar,
      Transcript.challengeScalar, ha, hb, hc, hd, hf, hh1, hh2, hz1, hz2, hlow, hmid, hhigh, h4]

omit [Field F] [DecidableEq F] [AddCommGroup G] [Module F G] in
/-- The history grows by the twenty-six operations up to `ζ_frak`. -/
theorem Proof.deriveChallenges_history_length (squeeze : List (TranscriptOp G F) → F)
    (p : Proof G F) (transcript : Transcript G F) :
    (p.deriveChallenges squeeze transcript).2.history.length =
      transcript.history.length + 26 := by
  simp [Proof.deriveChallenges, Transcript.appendCommitment, Transcript.appendScalar,
    Transcript.challengeScalar]

omit [DecidableEq F] [AddCommGroup G] [Module F G] in
/-- Absorbing the evaluations after transcripts of one length: the results
agree exactly when the transcripts, `t(ζ_frak)`, and every evaluation but
`f_eval`, `t_prime_eval` and `t_prime_next_eval` agree. -/
theorem Proof.absorbEvaluations_eq_iff (p p' : Proof G F) (tEval tEval' : F)
    {t t' : Transcript G F} (hlen : t.history.length = t'.history.length) :
    p.absorbEvaluations tEval t = p'.absorbEvaluations tEval' t' ↔
      t = t' ∧ tEval = tEval' ∧
        ({ p.evaluations with fEval := 0, tPrimeEval := 0, tPrimeNextEval := 0 } :
          ProofEvaluations F) =
          { p'.evaluations with fEval := 0, tPrimeEval := 0, tPrimeNextEval := 0 } := by
  obtain ⟨history⟩ := t
  obtain ⟨history'⟩ := t'
  simp only [Proof.absorbEvaluations, Transcript.appendScalar, Transcript.mk.injEq,
    List.append_assoc, List.cons_append, List.nil_append, ProofEvaluations.mk.injEq, and_true]
  constructor
  · intro heq
    obtain ⟨rfl, hs⟩ := List.append_inj heq hlen
    simp only [List.cons.injEq, TranscriptOp.appendScalar.injEq, true_and, and_true] at hs
    tauto
  · rintro ⟨rfl, rfl, ha, hb, hc, hd, han, hbn, hdn, hqa, hqc, hql, hqr, hqk, hs1, hs2, hs3, hr,
      hperm, hlperm, hh1, hh1n, hh2⟩
    simp only [ha, hb, hc, hd, han, hbn, hdn, hqa, hqc, hql, hqr, hqk, hs1, hs2, hs3, hr, hperm,
      hlperm, hh1, hh1n, hh2]

end Transcript

omit [DecidableEq F] in
/-- Modelled from the spec: `msm_variable_base`, the sum of `scalar • point`
over the pairs the gadgets pushed. -/
def msmVariableBase (terms : List (F × G)) : G :=
  (terms.map fun (scalar, point) => scalar • point).sum

omit [DecidableEq F] in
/-- `Proof::compute_linearisation_commitment`: every gadget pushes its pairs
onto the shared accumulators, in this order, and one MSM sums them. -/
def Proof.computeLinearisationCommitment (p : Proof G F)
    (alpha beta gamma delta epsilon zeta : F) (sepChallenges : F × F × F × F × F)
    (zetaFrak l1Eval tEval tNextEval : F) (verifierKey : VerifierKey G F) : G :=
  let (rangeSepChallenge, logicSepChallenge, fixedBaseSepChallenge, varBaseSepChallenge,
    lookupSepChallenge) := sepChallenges
  let terms := verifierKey.arithmetic p.evaluations
  let terms := terms ++ verifierKey.range rangeSepChallenge p.evaluations
  let terms := terms ++ verifierKey.logic logicSepChallenge p.evaluations
  let terms := terms ++ verifierKey.fixedBase fixedBaseSepChallenge p.evaluations
  let terms := terms ++ verifierKey.variableBase varBaseSepChallenge p.evaluations
  let terms := terms ++ verifierKey.lookup.computeLinearisationCommitment lookupSepChallenge
    p.evaluations (delta, epsilon) zeta l1Eval tEval tNextEval p.h2Comm p.z2Comm
  let terms := terms ++ verifierKey.permutation.computeLinearisationCommitment p.evaluations
    zetaFrak (alpha, beta, gamma) l1Eval p.z1Comm
  msmVariableBase terms

/-- What `verify` has computed when it has absorbed the evaluations. -/
structure Round5 (G F : Type) [Field F] where
  domain : EvaluationDomain F
  challenges : Challenges F
  l1Eval : F
  tPrimeComm : G
  tEval : F
  tComm : G

/-- `verify` up to the first `flatten`: the domain, the challenges,
`Z_H(ζ_frak)`, `L_1(ζ_frak)`, `[t']`, `t(ζ_frak)`, `[t]`, and the
evaluations absorbed. `EvaluationDomain::new` is `newDomain`. -/
def Proof.verifyUntilOpening (squeeze : List (TranscriptOp G F) → F)
    (newDomain : Nat → Except Error (EvaluationDomain F)) (p : Proof G F)
    (verifierKey : VerifierKey G F) (transcript : Transcript G F) (pubInputs : List F) :
    Except Failure (Round5 G F × Transcript G F) := do
  let domain ← (newDomain verifierKey.n).mapError .error
  let (ch, t) := p.deriveChallenges squeeze transcript
  let zHEval := domain.evaluateVanishingPolynomial ch.zetaFrak
  let l1Eval ← computeFirstLagrangeEvaluation domain zHEval ch.zetaFrak
  let lookup := verifierKey.lookup
  let tPrimeComm := lookup.table1 + ch.zeta • lookup.table2 +
    ch.zeta • ch.zeta • lookup.table3 + ch.zeta • ch.zeta • ch.zeta • lookup.table4
  let tEval ← p.computeQuotientEvaluation domain pubInputs ch.alpha ch.beta ch.gamma ch.delta
    ch.epsilon ch.zetaFrak zHEval l1Eval p.evaluations.permEval ch.lookupSepChallenge
  let tComm := p.computeQuotientCommitment ch.zetaFrak domain.size
  let t := p.absorbEvaluations tEval t
  pure (⟨domain, ch, l1Eval, tPrimeComm, tEval, tComm⟩, t)

/-- `Proof::verify`. Both aggregate proofs are flattened under
`flattenLabel`, the label of `flatten`'s challenge. -/
def Proof.verify (squeeze : List (TranscriptOp G F) → F)
    (newDomain : Nat → Except Error (EvaluationDomain F)) (flattenLabel : String)
    (p : Proof G F) (verifierKey : VerifierKey G F) (transcript : Transcript G F)
    (openingKey : OpeningKey G F) (pubInputs : List F) : Except Failure Unit := do
  let (r, t) ← p.verifyUntilOpening squeeze newDomain verifierKey transcript pubInputs
  let ch := r.challenges
  let e := p.evaluations
  let rComm := p.computeLinearisationCommitment ch.alpha ch.beta ch.gamma ch.delta ch.epsilon
    ch.zeta (ch.rangeSepChallenge, ch.logicSepChallenge, ch.fixedBaseSepChallenge,
      ch.varBaseSepChallenge, ch.lookupSepChallenge)
    ch.zetaFrak r.l1Eval e.tPrimeEval e.tPrimeNextEval verifierKey
  let aggregateProof := AggregateProof.withWitness p.wZetaFrakComm
  let aggregateProof := aggregateProof.addPart (r.tEval, r.tComm)
  let aggregateProof := aggregateProof.addPart (e.rPolyEval, rComm)
  let aggregateProof := aggregateProof.addPart (e.aEval, p.aComm)
  let aggregateProof := aggregateProof.addPart (e.bEval, p.bComm)
  let aggregateProof := aggregateProof.addPart (e.cEval, p.cComm)
  let aggregateProof := aggregateProof.addPart (e.dEval, p.dComm)
  let aggregateProof := aggregateProof.addPart (e.sSigma1Eval, verifierKey.permutation.sSigma1)
  let aggregateProof := aggregateProof.addPart (e.sSigma2Eval, verifierKey.permutation.sSigma2)
  let aggregateProof := aggregateProof.addPart (e.sSigma3Eval, verifierKey.permutation.sSigma3)
  let aggregateProof := aggregateProof.addPart (e.fEval, p.fComm)
  let aggregateProof := aggregateProof.addPart (e.h1Eval, p.h1Comm)
  let aggregateProof := aggregateProof.addPart (e.h2Eval, p.h2Comm)
  let aggregateProof := aggregateProof.addPart (e.tPrimeEval, r.tPrimeComm)
  let (flattenedProofA, t) := aggregateProof.flatten squeeze flattenLabel t
  let shiftedAggregateProof := AggregateProof.withWitness p.wZetaFrakWComm
  let shiftedAggregateProof := shiftedAggregateProof.addPart (e.permEval, p.z1Comm)
  let shiftedAggregateProof := shiftedAggregateProof.addPart (e.aNextEval, p.aComm)
  let shiftedAggregateProof := shiftedAggregateProof.addPart (e.bNextEval, p.bComm)
  let shiftedAggregateProof := shiftedAggregateProof.addPart (e.dNextEval, p.dComm)
  let shiftedAggregateProof := shiftedAggregateProof.addPart (e.h1NextEval, p.h1Comm)
  let shiftedAggregateProof := shiftedAggregateProof.addPart (e.lookupPermEval, p.z2Comm)
  let shiftedAggregateProof := shiftedAggregateProof.addPart (e.tPrimeNextEval, r.tPrimeComm)
  let (flattenedProofB, t) := shiftedAggregateProof.flatten squeeze flattenLabel t
  let t := t.appendCommitment "w_z" p.wZetaFrakComm
  let t := t.appendCommitment "w_z_w" p.wZetaFrakWComm
  if openingKey.batchCheck [ch.zetaFrak, ch.zetaFrak * r.domain.groupGen]
      [flattenedProofA, flattenedProofB] t then
    pure ()
  else
    throw (.error .proofVerificationError)

/-- A verifier key of size `2` whose gadgets push no terms. -/
def zeroVerifierKey : VerifierKey ℚ ℚ where
  n := 2
  arithmetic _ := []
  range _ _ := []
  logic _ _ := []
  fixedBase _ _ := []
  variableBase _ _ := []
  lookup := ⟨0, 0, 0, 0, fun _ _ _ _ _ _ _ _ _ => []⟩
  permutation := ⟨0, 0, 0, fun _ _ _ _ _ => []⟩

/-- A transcript whose challenges are the length of the history. -/
def historyLength (history : List (TranscriptOp ℚ ℚ)) : ℚ := history.length

/-- An opening key whose batch check accepts. -/
def acceptingOpeningKey : OpeningKey ℚ ℚ := ⟨fun _ _ _ => true⟩

section Run

variable (squeeze : List (TranscriptOp G F) → F)
  (newDomain : Nat → Except Error (EvaluationDomain F)) (verifierKey : VerifierKey G F)
  (transcript : Transcript G F) (pubInputs : List F)

omit [Field F] [DecidableEq F] [AddCommGroup G] [Module F G] in
/-- Everything `verify` absorbs after `ζ_frak`, in order. -/
theorem Proof.absorbEvaluations_history (p : Proof G F) (tEval : F) (t : Transcript G F) :
    (p.absorbEvaluations tEval t).history = t.history ++
      [.appendScalar "a_eval" p.evaluations.aEval, .appendScalar "b_eval" p.evaluations.bEval,
        .appendScalar "c_eval" p.evaluations.cEval, .appendScalar "d_eval" p.evaluations.dEval,
        .appendScalar "a_next_eval" p.evaluations.aNextEval,
        .appendScalar "b_next_eval" p.evaluations.bNextEval,
        .appendScalar "d_next_eval" p.evaluations.dNextEval,
        .appendScalar "s_sigma_1_eval" p.evaluations.sSigma1Eval,
        .appendScalar "s_sigma_2_eval" p.evaluations.sSigma2Eval,
        .appendScalar "s_sigma_3_eval" p.evaluations.sSigma3Eval,
        .appendScalar "q_arith_eval" p.evaluations.qArithEval,
        .appendScalar "q_c_eval" p.evaluations.qCEval,
        .appendScalar "q_l_eval" p.evaluations.qLEval,
        .appendScalar "q_r_eval" p.evaluations.qREval,
        .appendScalar "q_k_eval" p.evaluations.qKEval,
        .appendScalar "perm_eval" p.evaluations.permEval,
        .appendScalar "lookup_perm_eval" p.evaluations.lookupPermEval,
        .appendScalar "h_1_eval" p.evaluations.h1Eval,
        .appendScalar "h_1_next_eval" p.evaluations.h1NextEval,
        .appendScalar "h_2_eval" p.evaluations.h2Eval, .appendScalar "t_eval" tEval,
        .appendScalar "r_eval" p.evaluations.rPolyEval] := by
  simp [Proof.absorbEvaluations, Transcript.appendScalar]

/-- Once the domain is built, the rest of the run up to the openings. -/
theorem Proof.verifyUntilOpening_of_newDomain (p : Proof G F) {domain : EvaluationDomain F}
    (hdomain : newDomain verifierKey.n = .ok domain) :
    p.verifyUntilOpening squeeze newDomain verifierKey transcript pubInputs = (do
      let ch := (p.deriveChallenges squeeze transcript).1
      let zHEval := domain.evaluateVanishingPolynomial ch.zetaFrak
      let l1Eval ← computeFirstLagrangeEvaluation domain zHEval ch.zetaFrak
      let lookup := verifierKey.lookup
      let tEval ← p.computeQuotientEvaluation domain pubInputs ch.alpha ch.beta ch.gamma ch.delta
        ch.epsilon ch.zetaFrak zHEval l1Eval p.evaluations.permEval ch.lookupSepChallenge
      pure (⟨domain, ch, l1Eval, lookup.table1 + ch.zeta • lookup.table2 +
          ch.zeta • ch.zeta • lookup.table3 + ch.zeta • ch.zeta • ch.zeta • lookup.table4,
          tEval, p.computeQuotientCommitment ch.zetaFrak domain.size⟩,
        p.absorbEvaluations tEval (p.deriveChallenges squeeze transcript).2)) := by
  simp only [Proof.verifyUntilOpening, hdomain]
  rfl

/-- The transcript the first `flatten` draws from: the challenges' history,
then the evaluations with `t(ζ_frak)`. The run's domain is the one
`EvaluationDomain::new` built. -/
theorem Proof.verifyUntilOpening_history (p : Proof G F) {r : Round5 G F} {t : Transcript G F}
    (hrun : p.verifyUntilOpening squeeze newDomain verifierKey transcript pubInputs = .ok (r, t)) :
    r.challenges = (p.deriveChallenges squeeze transcript).1 ∧
      t = p.absorbEvaluations r.tEval (p.deriveChallenges squeeze transcript).2 ∧
      newDomain verifierKey.n = .ok r.domain := by
  cases hdomain : newDomain verifierKey.n with
  | error e =>
    rw [Proof.verifyUntilOpening, hdomain] at hrun
    cases hrun
  | ok domain =>
    rw [p.verifyUntilOpening_of_newDomain squeeze newDomain verifierKey transcript pubInputs
      hdomain] at hrun
    obtain ⟨l1Eval, -, hrun⟩ := DuskBytes.except_bind_eq_ok.mp hrun
    obtain ⟨tEval, -, hrun⟩ := DuskBytes.except_bind_eq_ok.mp hrun
    cases hrun
    exact ⟨rfl, rfl, rfl⟩

/-- Off `H`, `verify` gets past both unwraps to the openings. -/
theorem Proof.verifyUntilOpening_ok (p : Proof G F) {domain : EvaluationDomain F}
    (hdomain : newDomain verifierKey.n = .ok domain)
    (hzeta : (p.deriveChallenges squeeze transcript).1.zetaFrak ^ domain.size ≠ 1) :
    ∃ r t,
      p.verifyUntilOpening squeeze newDomain verifierKey transcript pubInputs = .ok (r, t) := by
  have hzeta1 : (p.deriveChallenges squeeze transcript).1.zetaFrak - 1 ≠ 0 :=
    sub_ne_zero.mpr fun h => hzeta (by rw [h, one_pow])
  have hzH : domain.evaluateVanishingPolynomial (p.deriveChallenges squeeze transcript).1.zetaFrak
      ≠ 0 := sub_ne_zero.mpr hzeta
  rw [p.verifyUntilOpening_of_newDomain squeeze newDomain verifierKey transcript pubInputs
    hdomain]
  dsimp only
  rw [computeFirstLagrangeEvaluation_of_ne_zero _ _ _
    (mul_ne_zero domain.size_cast_ne_zero hzeta1)]
  simp only [DuskBytes.except_ok_bind, Proof.computeQuotientEvaluation,
    invertUnwrap_of_ne_zero _ hzH]
  exact ⟨_, _, rfl⟩

/-- At `ζ_frak = 1` the first unwrap, in `compute_first_lagrange_evaluation`,
panics. -/
theorem Proof.verifyUntilOpening_zetaFrak_one (p : Proof G F) {domain : EvaluationDomain F}
    (hdomain : newDomain verifierKey.n = .ok domain)
    (hone : (p.deriveChallenges squeeze transcript).1.zetaFrak = 1) :
    p.verifyUntilOpening squeeze newDomain verifierKey transcript pubInputs =
      .error (.panic .firstLagrangeEvaluation) := by
  rw [p.verifyUntilOpening_of_newDomain squeeze newDomain verifierKey transcript pubInputs
    hdomain]
  simp only [hone, computeFirstLagrangeEvaluation_one]
  rfl

/-- At the other points of `H` the first unwrap succeeds and the one on
`Z_H(ζ_frak) = 0`, in `compute_quotient_evaluation`, panics. -/
theorem Proof.verifyUntilOpening_zetaFrak_root (p : Proof G F) {domain : EvaluationDomain F}
    (hdomain : newDomain verifierKey.n = .ok domain)
    (hroot : (p.deriveChallenges squeeze transcript).1.zetaFrak ^ domain.size = 1)
    (hone : (p.deriveChallenges squeeze transcript).1.zetaFrak ≠ 1) :
    p.verifyUntilOpening squeeze newDomain verifierKey transcript pubInputs =
      .error (.panic .quotientEvaluation) := by
  have hzH : domain.evaluateVanishingPolynomial (p.deriveChallenges squeeze transcript).1.zetaFrak
      = 0 := sub_eq_zero.mpr hroot
  rw [p.verifyUntilOpening_of_newDomain squeeze newDomain verifierKey transcript pubInputs
    hdomain]
  dsimp only
  rw [computeFirstLagrangeEvaluation_of_ne_zero _ _ _
    (mul_ne_zero domain.size_cast_ne_zero (sub_ne_zero.mpr hone))]
  simp only [DuskBytes.except_ok_bind, hzH, Proof.computeQuotientEvaluation_zero]
  rfl

variable (flattenLabel : String) (openingKey : OpeningKey G F)

/-- After the openings `verify` can only return: `Ok`, or the failed batch
check. -/
theorem Proof.verify_of_verifyUntilOpening_ok (p : Proof G F) {r : Round5 G F}
    {t : Transcript G F}
    (hrun : p.verifyUntilOpening squeeze newDomain verifierKey transcript pubInputs = .ok (r, t)) :
    p.verify squeeze newDomain flattenLabel verifierKey transcript openingKey pubInputs = .ok () ∨
      p.verify squeeze newDomain flattenLabel verifierKey transcript openingKey pubInputs =
        .error (.error .proofVerificationError) := by
  simp only [Proof.verify, hrun, DuskBytes.except_ok_bind]
  split
  · exact .inl rfl
  · exact .inr rfl

theorem Proof.verify_of_verifyUntilOpening_error (p : Proof G F) {e : Failure}
    (hrun : p.verifyUntilOpening squeeze newDomain verifierKey transcript pubInputs = .error e) :
    p.verify squeeze newDomain flattenLabel verifierKey transcript openingKey pubInputs =
      .error e := by
  simp only [Proof.verify, hrun]
  rfl

/-- Where `verify`'s own arithmetic can panic. When `ζ_frak` is not an
`n`-th root of unity every element it inverts is nonzero and `verify`
returns; when it is one, `verify` panics, in `compute_first_lagrange_evaluation`
at `ζ_frak = 1` and on `Z_H(ζ_frak) = 0` at the other points of `H`. -/
theorem Proof.verify_panic_sites (p : Proof G F) {domain : EvaluationDomain F}
    (hdomain : newDomain verifierKey.n = .ok domain) :
    let zetaFrak := (p.deriveChallenges squeeze transcript).1.zetaFrak
    let result :=
      p.verify squeeze newDomain flattenLabel verifierKey transcript openingKey pubInputs
    (zetaFrak ^ domain.size ≠ 1 →
      (domain.size : F) * (zetaFrak - 1) ≠ 0 ∧
        (∀ i : Nat, domain.groupGenInv ^ i * zetaFrak - 1 ≠ 0) ∧
        domain.evaluateVanishingPolynomial zetaFrak ≠ 0 ∧
        (result = .ok () ∨ result = .error (.error .proofVerificationError))) ∧
      (zetaFrak = 1 → result = .error (.panic .firstLagrangeEvaluation)) ∧
      (zetaFrak ^ domain.size = 1 → zetaFrak ≠ 1 →
        result = .error (.panic .quotientEvaluation)) := by
  intro zetaFrak result
  refine ⟨fun hzeta => ⟨?_, domain.groupGenInv_pow_mul_sub_one_ne_zero hzeta,
    sub_ne_zero.mpr hzeta, ?_⟩, fun hone => ?_, fun hroot hone => ?_⟩
  · exact mul_ne_zero domain.size_cast_ne_zero
      (sub_ne_zero.mpr fun h => hzeta (by rw [h, one_pow]))
  · obtain ⟨r, t, hrun⟩ := p.verifyUntilOpening_ok _ _ _ _ pubInputs hdomain hzeta
    exact p.verify_of_verifyUntilOpening_ok _ _ _ _ _ _ _ hrun
  · exact p.verify_of_verifyUntilOpening_error _ _ _ _ _ _ _
      (p.verifyUntilOpening_zetaFrak_one _ _ _ _ _ hdomain hone)
  · exact p.verify_of_verifyUntilOpening_error _ _ _ _ _ _ _
      (p.verifyUntilOpening_zetaFrak_root _ _ _ _ _ hdomain hroot hone)

end Run

theorem Proof.verify_panic_sites_twoPoint :
    let p : Proof ℚ ℚ := default
    let newDomain : Nat → Except Error (EvaluationDomain ℚ) := fun _ => .ok twoPointDomain
    newDomain zeroVerifierKey.n = .ok twoPointDomain ∧
      let zetaFrak := (p.deriveChallenges historyLength ⟨[]⟩).1.zetaFrak
      let result := p.verify historyLength newDomain "aggregate" zeroVerifierKey ⟨[]⟩
        acceptingOpeningKey []
      (zetaFrak ^ twoPointDomain.size ≠ 1 →
        (twoPointDomain.size : ℚ) * (zetaFrak - 1) ≠ 0 ∧
          (∀ i : Nat, twoPointDomain.groupGenInv ^ i * zetaFrak - 1 ≠ 0) ∧
          twoPointDomain.evaluateVanishingPolynomial zetaFrak ≠ 0 ∧
          (result = .ok () ∨ result = .error (.error .proofVerificationError))) ∧
        (zetaFrak = 1 → result = .error (.panic .firstLagrangeEvaluation)) ∧
        (zetaFrak ^ twoPointDomain.size = 1 → zetaFrak ≠ 1 →
          result = .error (.panic .quotientEvaluation)) :=
  ⟨rfl, Proof.verify_panic_sites historyLength (fun _ => .ok twoPointDomain) zeroVerifierKey
    ⟨[]⟩ [] "aggregate" acceptingOpeningKey default rfl⟩

/-- At `ζ_frak = 1`, an `n`-th root of unity, the panic is not the unwrap on
`Z_H(ζ_frak)` but the earlier one in `compute_first_lagrange_evaluation`. -/
theorem Proof.verify_panics_at_first_lagrange :
    let p : Proof ℚ ℚ := default
    let zetaFrak := (p.deriveChallenges (fun _ => 1) ⟨[]⟩).1.zetaFrak
    zetaFrak ^ twoPointDomain.size = 1 ∧
      p.verify (fun _ => 1) (fun _ => .ok twoPointDomain) "aggregate" zeroVerifierKey ⟨[]⟩
        acceptingOpeningKey [] = .error (.panic .firstLagrangeEvaluation) := by
  intro p zetaFrak
  have hone : zetaFrak = 1 := rfl
  have hdomain : (fun _ => .ok twoPointDomain : Nat → Except Error (EvaluationDomain ℚ))
      zeroVerifierKey.n = .ok twoPointDomain := rfl
  exact ⟨by rw [hone, one_pow],
    p.verify_of_verifyUntilOpening_error _ _ _ _ _ _ _
      (p.verifyUntilOpening_zetaFrak_one _ _ _ _ _ hdomain hone)⟩

/-- `f_eval`, `t_prime_eval` and `t_prime_next_eval` are read by nothing
before the first `flatten`: a proof that changes them runs the same up to
it, on every transcript, and leaves the same transcript for it. -/
theorem Proof.verifyUntilOpening_unabsorbed (squeeze : List (TranscriptOp G F) → F)
    (newDomain : Nat → Except Error (EvaluationDomain F)) (verifierKey : VerifierKey G F)
    (transcript : Transcript G F) (pubInputs : List F) (p : Proof G F)
    (fEval tPrimeEval tPrimeNextEval : F) :
    ({ p with evaluations := { p.evaluations with fEval, tPrimeEval, tPrimeNextEval } } :
        Proof G F).verifyUntilOpening squeeze newDomain verifierKey transcript pubInputs =
      p.verifyUntilOpening squeeze newDomain verifierKey transcript pubInputs := rfl

/-- Under `historyLength`, `ζ_frak` is the length of the history it is drawn
on, `26`, whatever the proof: off the two-point domain. -/
theorem Proof.deriveChallenges_historyLength_zetaFrak (p : Proof ℚ ℚ) :
    (p.deriveChallenges historyLength ⟨[]⟩).1.zetaFrak = 26 := by
  simp only [Proof.deriveChallenges, Transcript.challengeScalar, Transcript.appendCommitment,
    Transcript.appendScalar, historyLength, List.length_append, List.length_cons,
    List.length_nil]
  norm_num

/-- Hence `ζ_frak^2 = 676 ≠ 1` under `historyLength`. -/
theorem Proof.deriveChallenges_historyLength_off_twoPoint (p : Proof ℚ ℚ) :
    (p.deriveChallenges historyLength ⟨[]⟩).1.zetaFrak ^ twoPointDomain.size ≠ 1 := by
  rw [p.deriveChallenges_historyLength_zetaFrak]
  norm_num [twoPointDomain]

/-- Two proofs that differ in `f_eval` alone, on a run that reaches the first
`flatten`: the transcript it draws the opening challenge from is the same. -/
theorem Proof.verifyUntilOpening_ignores_fEval :
    let p : Proof ℚ ℚ := default
    let p' : Proof ℚ ℚ := { p with evaluations := { p.evaluations with fEval := 1 } }
    let newDomain : Nat → Except Error (EvaluationDomain ℚ) := fun _ => .ok twoPointDomain
    p ≠ p' ∧ ∃ r t,
      p.verifyUntilOpening historyLength newDomain zeroVerifierKey ⟨[]⟩ [] = .ok (r, t) ∧
        p'.verifyUntilOpening historyLength newDomain zeroVerifierKey ⟨[]⟩ [] = .ok (r, t) := by
  intro p p' newDomain
  obtain ⟨r, t, hrun⟩ := p.verifyUntilOpening_ok historyLength newDomain zeroVerifierKey ⟨[]⟩ []
    rfl p.deriveChallenges_historyLength_off_twoPoint
  refine ⟨fun h => ?_, r, t, hrun, ?_⟩
  · have hf := congrArg (fun q : Proof ℚ ℚ => q.evaluations.fEval) h
    exact zero_ne_one hf
  · rw [← hrun]
    exact Proof.verifyUntilOpening_unabsorbed _ _ _ _ _ p 1 _ _

/-- Every run on the two-point domain with every challenge `0` reaches the
openings: `L_1(0) = 1/2`, `t(0) = -r(0)` and `[t] = [t_low]`. -/
theorem Proof.verifyUntilOpening_zeroChallenges (p : Proof ℚ ℚ) :
    p.verifyUntilOpening (fun _ => 0) (fun _ => .ok twoPointDomain) zeroVerifierKey ⟨[]⟩ [] =
      .ok (⟨twoPointDomain, (p.deriveChallenges (fun _ => 0) ⟨[]⟩).1, 1 / 2, 0,
          -p.evaluations.rPolyEval, p.qLowComm⟩,
        p.absorbEvaluations (-p.evaluations.rPolyEval)
          (p.deriveChallenges (fun _ => 0) ⟨[]⟩).2) := by
  have hch : (p.deriveChallenges (fun _ => 0) ⟨[]⟩).1 = ⟨0, 0, 0, 0, 0, 0, 0, 0, 0, 0, 0, 0⟩ :=
    rfl
  rw [Proof.verifyUntilOpening_of_newDomain _ _ _ _ _ _ rfl]
  simp only [hch]
  norm_num [computeFirstLagrangeEvaluation, invertUnwrap, Proof.computeQuotientEvaluation,
    EvaluationDomain.evaluateVanishingPolynomial, twoPointDomain, Proof.computeQuotientCommitment,
    computeBarycentricEval, zeroVerifierKey]

/-- Fiat–Shamir binding at the openings. On two runs that reach the first
`flatten`, the transcript it draws the opening challenge from is the same
exactly when the two runs had the same transcript at `ζ_frak`, computed the
same `t(ζ_frak)`, and carry the same evaluations but for `f_eval`,
`t_prime_eval` and `t_prime_next_eval`, which nothing absorbs. -/
theorem Proof.verifyUntilOpening_transcript_eq_iff (squeeze : List (TranscriptOp G F) → F)
    (newDomain : Nat → Except Error (EvaluationDomain F)) (verifierKey : VerifierKey G F)
    (transcript : Transcript G F) (pubInputs : List F) (p p' : Proof G F)
    {r r' : Round5 G F} {t t' : Transcript G F}
    (hrun : p.verifyUntilOpening squeeze newDomain verifierKey transcript pubInputs = .ok (r, t))
    (hrun' : p'.verifyUntilOpening squeeze newDomain verifierKey transcript pubInputs =
      .ok (r', t')) :
    t = t' ↔
      (p.deriveChallenges squeeze transcript).2 = (p'.deriveChallenges squeeze transcript).2 ∧
        r.tEval = r'.tEval ∧
        ({ p.evaluations with fEval := 0, tPrimeEval := 0, tPrimeNextEval := 0 } :
          ProofEvaluations F) =
          { p'.evaluations with fEval := 0, tPrimeEval := 0, tPrimeNextEval := 0 } := by
  obtain ⟨-, rfl, -⟩ := p.verifyUntilOpening_history squeeze newDomain verifierKey transcript
    pubInputs hrun
  obtain ⟨-, rfl, -⟩ := p'.verifyUntilOpening_history squeeze newDomain verifierKey transcript
    pubInputs hrun'
  exact Proof.absorbEvaluations_eq_iff p p' r.tEval r'.tEval
    (by rw [p.deriveChallenges_history_length, p'.deriveChallenges_history_length])

/-- The zero proof and the one with `f_eval = 1`, on the two-point domain with
every challenge `0`: both runs reach the openings with the same transcript. -/
theorem Proof.verifyUntilOpening_transcript_eq_iff_fEval :
    let p : Proof ℚ ℚ := default
    let p' : Proof ℚ ℚ := { p with evaluations := { p.evaluations with fEval := 1 } }
    let squeeze : List (TranscriptOp ℚ ℚ) → ℚ := fun _ => 0
    let newDomain : Nat → Except Error (EvaluationDomain ℚ) := fun _ => .ok twoPointDomain
    let challenges := p.deriveChallenges squeeze ⟨[]⟩
    let r : Round5 ℚ ℚ := ⟨twoPointDomain, challenges.1, 1 / 2, 0, 0, 0⟩
    let t := p.absorbEvaluations 0 challenges.2
    p.verifyUntilOpening squeeze newDomain zeroVerifierKey ⟨[]⟩ [] = .ok (r, t) ∧
      p'.verifyUntilOpening squeeze newDomain zeroVerifierKey ⟨[]⟩ [] = .ok (r, t) ∧
      (t = t ↔ (p.deriveChallenges squeeze ⟨[]⟩).2 = (p'.deriveChallenges squeeze ⟨[]⟩).2 ∧
        r.tEval = r.tEval ∧
          ({ p.evaluations with fEval := 0, tPrimeEval := 0, tPrimeNextEval := 0 } :
            ProofEvaluations ℚ) =
            { p'.evaluations with fEval := 0, tPrimeEval := 0, tPrimeNextEval := 0 }) := by
  intro p p' squeeze newDomain challenges r t
  have hrun : p.verifyUntilOpening squeeze newDomain zeroVerifierKey ⟨[]⟩ [] = .ok (r, t) :=
    Proof.verifyUntilOpening_zeroChallenges p
  exact ⟨hrun, hrun, Proof.verifyUntilOpening_transcript_eq_iff squeeze newDomain zeroVerifierKey
    ⟨[]⟩ [] p p' hrun hrun⟩

/-- The quotient identity `verify` opens. On every run that reaches the
openings with at most `n` public inputs, `ζ_frak` is off `H`, the verifier's
`L_1(ζ_frak)` is the first Lagrange basis polynomial's value there, and the
`t(ζ_frak)` it batches satisfies `t(ζ) Z_H(ζ) = r(ζ) + PI(ζ) - (a + β σ₁ + γ)
(b + β σ₂ + γ) (c + β σ₃ + γ) (d + γ) z(ζω) α - L_1(ζ) α² - L_1(ζ) λ² -
p(ζω) (ε(1 + δ) + h₁ + δ h₂) (ε(1 + δ) + δ h₁(ζω)) λ³`, with `PI` the public
inputs' interpolant on `H` and `λ` the lookup separation challenge. -/
theorem Proof.verifyUntilOpening_quotient_identity (squeeze : List (TranscriptOp G F) → F)
    (newDomain : Nat → Except Error (EvaluationDomain F)) (verifierKey : VerifierKey G F)
    (transcript : Transcript G F) (pubInputs : List F) (p : Proof G F)
    {r : Round5 G F} {t : Transcript G F}
    (hrun : p.verifyUntilOpening squeeze newDomain verifierKey transcript pubInputs = .ok (r, t))
    (hlen : pubInputs.length ≤ r.domain.size) :
    let ch := r.challenges
    let e := p.evaluations
    let piEval := ∑ i ∈ Finset.range r.domain.size,
      pubInputs.getD i 0 * (r.domain.lagrangeBasis i).eval ch.zetaFrak
    let l1Eval := (r.domain.lagrangeBasis 0).eval ch.zetaFrak
    ch.zetaFrak ^ r.domain.size ≠ 1 ∧ r.l1Eval = l1Eval ∧
      r.tEval * (ch.zetaFrak ^ r.domain.size - 1) =
        e.rPolyEval + piEval -
          (e.aEval + ch.beta * e.sSigma1Eval + ch.gamma) *
              (e.bEval + ch.beta * e.sSigma2Eval + ch.gamma) *
            (e.cEval + ch.beta * e.sSigma3Eval + ch.gamma) *
            ((e.dEval + ch.gamma) * e.permEval * ch.alpha) -
          l1Eval * ch.alpha ^ 2 - l1Eval * ch.lookupSepChallenge ^ 2 -
          e.lookupPermEval * (ch.epsilon * (1 + ch.delta) + e.h1Eval + ch.delta * e.h2Eval) *
            (ch.epsilon * (1 + ch.delta) + ch.delta * e.h1NextEval) *
            ch.lookupSepChallenge ^ 3 := by
  cases hdomain : newDomain verifierKey.n with
  | error err =>
    rw [Proof.verifyUntilOpening, hdomain] at hrun
    cases hrun
  | ok domain =>
    rw [p.verifyUntilOpening_of_newDomain squeeze newDomain verifierKey transcript pubInputs
      hdomain] at hrun
    obtain ⟨l1Eval, hl1, hrun⟩ := DuskBytes.except_bind_eq_ok.mp hrun
    obtain ⟨tEval, htEval, hrun⟩ := DuskBytes.except_bind_eq_ok.mp hrun
    cases hrun
    set ch := (p.deriveChallenges squeeze transcript).1
    -- the quotient's unwrap succeeded, so `Z_H(ζ_frak) ≠ 0`
    have hzeta : ch.zetaFrak ^ domain.size ≠ 1 := fun hone => by
      rw [show domain.evaluateVanishingPolynomial ch.zetaFrak = 0 from sub_eq_zero.mpr hone,
        Proof.computeQuotientEvaluation_zero] at htEval
      cases htEval
    have hzeta1 : ch.zetaFrak - 1 ≠ 0 := sub_ne_zero.mpr fun h => hzeta (by rw [h, one_pow])
    rw [computeFirstLagrangeEvaluation_of_ne_zero _ _ _
      (mul_ne_zero domain.size_cast_ne_zero hzeta1), Except.ok.injEq] at hl1
    have hL0 : l1Eval = (domain.lagrangeBasis 0).eval ch.zetaFrak := by
      rw [← hl1, domain.eval_lagrangeBasis domain.size_pos hzeta, domain.sizeInv_eq, pow_zero,
        one_mul, mul_inv, EvaluationDomain.evaluateVanishingPolynomial]
      ring
    obtain ⟨tEval', htEval', hidentity⟩ := p.computeQuotientEvaluation_spec domain pubInputs
      ch.alpha ch.beta ch.gamma ch.delta ch.epsilon ch.zetaFrak l1Eval p.evaluations.permEval
      ch.lookupSepChallenge hlen hzeta
    rw [htEval', Except.ok.injEq] at htEval
    subst htEval hL0
    exact ⟨hzeta, rfl, hidentity⟩

/-- Two public inputs and nonzero evaluations, on the two-point domain with the
challenges the history's length: `ζ_frak = 26` is off `H`, so the run reaches
the openings, and its `t(ζ_frak)` satisfies the identity. -/
theorem Proof.verifyUntilOpening_quotient_identity_publicInputs :
    let p : Proof ℚ ℚ := { (default : Proof ℚ ℚ) with
      evaluations := { (default : ProofEvaluations ℚ) with
        aEval := 1, bEval := 2, cEval := 3, dEval := 4, sSigma1Eval := 5, rPolyEval := 6,
        permEval := 7, lookupPermEval := 8, h1Eval := 9 } }
    let newDomain : Nat → Except Error (EvaluationDomain ℚ) := fun _ => .ok twoPointDomain
    let pubInputs : List ℚ := [3, 5]
    ∃ r t, p.verifyUntilOpening historyLength newDomain zeroVerifierKey ⟨[]⟩ pubInputs =
        .ok (r, t) ∧ pubInputs.length ≤ r.domain.size ∧
      let ch := r.challenges
      let e := p.evaluations
      let piEval := ∑ i ∈ Finset.range r.domain.size,
        pubInputs.getD i 0 * (r.domain.lagrangeBasis i).eval ch.zetaFrak
      let l1Eval := (r.domain.lagrangeBasis 0).eval ch.zetaFrak
      ch.zetaFrak ^ r.domain.size ≠ 1 ∧ r.l1Eval = l1Eval ∧
        r.tEval * (ch.zetaFrak ^ r.domain.size - 1) =
          e.rPolyEval + piEval -
            (e.aEval + ch.beta * e.sSigma1Eval + ch.gamma) *
                (e.bEval + ch.beta * e.sSigma2Eval + ch.gamma) *
              (e.cEval + ch.beta * e.sSigma3Eval + ch.gamma) *
              ((e.dEval + ch.gamma) * e.permEval * ch.alpha) -
            l1Eval * ch.alpha ^ 2 - l1Eval * ch.lookupSepChallenge ^ 2 -
            e.lookupPermEval * (ch.epsilon * (1 + ch.delta) + e.h1Eval + ch.delta * e.h2Eval) *
              (ch.epsilon * (1 + ch.delta) + ch.delta * e.h1NextEval) *
              ch.lookupSepChallenge ^ 3 := by
  intro p newDomain pubInputs
  obtain ⟨r, t, hrun⟩ := p.verifyUntilOpening_ok historyLength newDomain zeroVerifierKey ⟨[]⟩
    pubInputs rfl p.deriveChallenges_historyLength_off_twoPoint
  have hdomain : r.domain = twoPointDomain := Except.ok.inj
    (p.verifyUntilOpening_history historyLength newDomain zeroVerifierKey ⟨[]⟩ pubInputs hrun).2.2.symm
  have hlen : pubInputs.length ≤ r.domain.size := by rw [hdomain]; rfl
  exact ⟨r, t, hrun, hlen, Proof.verifyUntilOpening_quotient_identity historyLength newDomain
    zeroVerifierKey ⟨[]⟩ pubInputs p hrun hlen⟩

end Plonk.ProofSystem
