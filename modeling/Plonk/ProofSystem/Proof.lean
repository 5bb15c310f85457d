import Plonk.DuskBytes

/-!
The `Proof` record of `proof_system/proof.rs` and its fixed-size encoding,
`Serializable<{ 15 * Commitment::SIZE + ProofEvaluations::SIZE }> for Proof`.
`to_bytes` runs sixteen writes through one slice writer over a zeroed buffer
and ignores their results; `from_bytes` runs sixteen `from_reader` calls on
one slice and propagates the first error.

Commitments and evaluations are kept abstract: their encodings live in
`commitment_scheme` and `linearisation_poly`, which are not among the
sources, so each enters as a `Serializable` codec. The three results are
the wire layout (`toBytes_layout`), the round trip under codecs that
round-trip, and canonicity under codecs that accept only encodings.
-/

namespace Plonk.ProofSystem

open DuskBytes

/-- `ProofEvaluations`: the twenty-four scalars a proof carries, in the order
the serialisation test builds them. -/
structure ProofEvaluations (F : Type) where
  aEval : F
  bEval : F
  cEval : F
  dEval : F
  aNextEval : F
  bNextEval : F
  dNextEval : F
  qArithEval : F
  qCEval : F
  qLEval : F
  qREval : F
  qKEval : F
  sSigma1Eval : F
  sSigma2Eval : F
  sSigma3Eval : F
  rPolyEval : F
  permEval : F
  lookupPermEval : F
  h1Eval : F
  h1NextEval : F
  h2Eval : F
  fEval : F
  tPrimeEval : F
  tPrimeNextEval : F
  deriving DecidableEq, Repr, Inhabited

/-- `Proof`: fifteen commitments and the evaluations. A `Commitment` is a
wrapper around a curve point, modelled by the point itself. -/
structure Proof (G F : Type) where
  aComm : G
  bComm : G
  cComm : G
  dComm : G
  fComm : G
  h1Comm : G
  h2Comm : G
  z1Comm : G
  z2Comm : G
  qLowComm : G
  qMidComm : G
  qHighComm : G
  q4Comm : G
  wZetaFrakComm : G
  wZetaFrakWComm : G
  evaluations : ProofEvaluations F
  deriving DecidableEq, Repr, Inhabited

variable {G F : Type} (cc : Serializable G) (ce : Serializable (ProofEvaluations F))

/-- `Proof::SIZE`. -/
def Proof.size : Nat := 15 * cc.size + ce.size

/-- The sixteen byte strings `to_bytes` writes, in the order of its write
statements. -/
def Proof.writes (p : Proof G F) : List (List UInt8) :=
  [cc.toBytes p.aComm, cc.toBytes p.bComm, cc.toBytes p.cComm, cc.toBytes p.dComm,
    cc.toBytes p.fComm, cc.toBytes p.h1Comm, cc.toBytes p.h2Comm, cc.toBytes p.z1Comm,
    cc.toBytes p.z2Comm, cc.toBytes p.qLowComm, cc.toBytes p.qMidComm,
    cc.toBytes p.qHighComm, cc.toBytes p.q4Comm, cc.toBytes p.wZetaFrakComm,
    cc.toBytes p.wZetaFrakWComm, ce.toBytes p.evaluations]

/-- The writer `to_bytes` runs: the writes over `[0u8; SIZE]`, each result
kept so that it can be inspected. -/
def Proof.writeRun (p : Proof G F) : List (Except DuskBytes.Error Unit) × SliceWriter :=
  SliceWriter.writeAll ⟨[], List.replicate (Proof.size cc ce) 0⟩ (p.writes cc ce)

/-- `Proof::to_bytes`: the buffer after the writes, whose results it
ignores. -/
def Proof.toBytes (p : Proof G F) : List UInt8 :=
  (p.writeRun cc ce).2.buffer

/-- `Proof::from_bytes`. -/
def Proof.fromBytes (buf : List UInt8) : Except DuskBytes.Error (Proof G F) :=
  (do
    let aComm ← cc.fromReader
    let bComm ← cc.fromReader
    let cComm ← cc.fromReader
    let dComm ← cc.fromReader
    let fComm ← cc.fromReader
    let h1Comm ← cc.fromReader
    let h2Comm ← cc.fromReader
    let z1Comm ← cc.fromReader
    let z2Comm ← cc.fromReader
    let qLowComm ← cc.fromReader
    let qMidComm ← cc.fromReader
    let qHighComm ← cc.fromReader
    let q4Comm ← cc.fromReader
    let wZetaFrakComm ← cc.fromReader
    let wZetaFrakWComm ← cc.fromReader
    let evaluations ← ce.fromReader
    pure (Proof.mk aComm bComm cComm dComm fComm h1Comm h2Comm z1Comm z2Comm
      qLowComm qMidComm qHighComm q4Comm wZetaFrakComm wZetaFrakWComm
      evaluations) : Reader (Proof G F)).run' buf

theorem Proof.writes_length_sum (p : Proof G F) :
    ((p.writes cc ce).map List.length).sum = Proof.size cc ce := by
  simp [Proof.writes, Proof.size, Serializable.toBytes_length]
  omega

/-- The sixteen writes fill the zeroed buffer exactly: each succeeds and
the writer ends with no room left. -/
theorem Proof.writeRun_eq (p : Proof G F) :
    p.writeRun cc ce =
      ((p.writes cc ce).map fun _ => .ok (), ⟨(p.writes cc ce).flatten, []⟩) := by
  rw [Proof.writeRun, SliceWriter.writeAll_of_fits _ _ (by simp [p.writes_length_sum])]
  simp [p.writes_length_sum]

theorem Proof.toBytes_eq_flatten (p : Proof G F) :
    p.toBytes cc ce = (p.writes cc ce).flatten := by
  simp [Proof.toBytes, p.writeRun_eq, SliceWriter.buffer]

/-- The wire layout: `to_bytes` is the sixteen encodings in the order the
spec fixes, every write succeeds, and no byte of the zeroed buffer is left
unwritten. -/
theorem toBytes_layout (p : Proof G F) :
    (p.writeRun cc ce).1 = List.replicate 16 (.ok ()) ∧
      (p.writeRun cc ce).2.rest = [] ∧
      p.toBytes cc ce =
        cc.toBytes p.aComm ++ cc.toBytes p.bComm ++ cc.toBytes p.cComm ++
          cc.toBytes p.dComm ++ cc.toBytes p.fComm ++ cc.toBytes p.h1Comm ++
          cc.toBytes p.h2Comm ++ cc.toBytes p.z1Comm ++ cc.toBytes p.z2Comm ++
          cc.toBytes p.qLowComm ++ cc.toBytes p.qMidComm ++ cc.toBytes p.qHighComm ++
          cc.toBytes p.q4Comm ++ cc.toBytes p.wZetaFrakComm ++
          cc.toBytes p.wZetaFrakWComm ++ ce.toBytes p.evaluations := by
  refine ⟨by simp [p.writeRun_eq, Proof.writes], by simp [p.writeRun_eq], ?_⟩
  simp [p.toBytes_eq_flatten, Proof.writes]

/-- A one-byte codec for commitments, to run the theorems on concrete
buffers. -/
def byteCodec : Serializable UInt8 where
  size := 1
  toBytes b := [b]
  fromBytes
    | [b] => .ok b
    | _ => .error .invalidData
  toBytes_length _ := rfl

/-- The empty codec of evaluations over `Unit`. -/
def unitEvaluationsCodec : Serializable (ProofEvaluations Unit) where
  size := 0
  toBytes _ := []
  fromBytes _ := .ok default
  toBytes_length _ := rfl

theorem byteCodec_roundTrip : byteCodec.RoundTrip := fun _ => rfl

theorem byteCodec_canonical : byteCodec.Canonical := by
  intro bytes a hlen hdec
  match bytes, hlen, hdec with
  | [b], _, hdec => cases hdec; rfl

theorem unitEvaluationsCodec_roundTrip : unitEvaluationsCodec.RoundTrip := fun _ => rfl

theorem unitEvaluationsCodec_canonical : unitEvaluationsCodec.Canonical := by
  intro bytes _ hlen _
  exact (List.eq_nil_of_length_eq_zero hlen).symm

/-- A proof whose fifteen commitments are all different. -/
def distinctProof : Proof UInt8 Unit :=
  ⟨0, 1, 2, 3, 4, 5, 6, 7, 8, 9, 10, 11, 12, 13, 14, default⟩

/-- The round trip: decoding the encoding of any proof gives the proof back,
for codecs of commitments and evaluations that round-trip. -/
theorem fromBytes_toBytes (hcomm : cc.RoundTrip) (hevals : ce.RoundTrip)
    (p : Proof G F) :
    Proof.fromBytes cc ce (p.toBytes cc ce) = .ok p := by
  have hlast := ce.fromReader_toBytes p.evaluations (hevals _) []
  rw [List.append_nil] at hlast
  rw [p.toBytes_eq_flatten]
  simp only [Proof.writes, List.flatten, List.append_nil, Proof.fromBytes, StateT.run']
  simp only [cc.bind_fromReader_toBytes _ _ (hcomm _)]
  rw [reader_bind_apply, hlast]
  rfl

theorem fromBytes_toBytes_distinct :
    byteCodec.RoundTrip ∧ unitEvaluationsCodec.RoundTrip ∧
      Proof.fromBytes byteCodec unitEvaluationsCodec
        (distinctProof.toBytes byteCodec unitEvaluationsCodec) = .ok distinctProof :=
  ⟨byteCodec_roundTrip, unitEvaluationsCodec_roundTrip,
    fromBytes_toBytes byteCodec unitEvaluationsCodec byteCodec_roundTrip
      unitEvaluationsCodec_roundTrip distinctProof⟩

/-- Canonicity: a proof decoded from `SIZE` bytes encodes back to exactly
those bytes, for codecs that accept only encodings. So two buffers that
decode to the same proof are equal, and no byte is skipped by the decoder. -/
theorem toBytes_fromBytes (hcomm : cc.Canonical) (hevals : ce.Canonical)
    (buf : List UInt8) (p : Proof G F) (hlen : buf.length = Proof.size cc ce)
    (hdec : Proof.fromBytes cc ce buf = .ok p) :
    p.toBytes cc ce = buf := by
  obtain ⟨r, hrun, rfl⟩ := except_map_eq_ok.mp hdec
  -- the fifteen commitments, in the order the bytes are written
  iterate 15
    replace hrun := cc.bind_fromReader_ok hcomm hrun
    obtain ⟨_, _, rfl, hrun⟩ := hrun
  obtain ⟨_, rest, rfl, hlast⟩ := ce.bind_fromReader_ok hevals hrun
  cases hlast
  have hrest : rest = [] := by
    simp only [Proof.size, List.length_append, Serializable.toBytes_length] at hlen
    exact List.eq_nil_of_length_eq_zero (by omega)
  simp [hrest, Proof.toBytes_eq_flatten, Proof.writes]

theorem toBytes_fromBytes_distinct :
    byteCodec.Canonical ∧ unitEvaluationsCodec.Canonical ∧
      [0, 1, 2, 3, 4, 5, 6, 7, 8, 9, 10, 11, 12, 13, 14].length =
        Proof.size byteCodec unitEvaluationsCodec ∧
      Proof.fromBytes byteCodec unitEvaluationsCodec
        [0, 1, 2, 3, 4, 5, 6, 7, 8, 9, 10, 11, 12, 13, 14] = .ok distinctProof ∧
      distinctProof.toBytes byteCodec unitEvaluationsCodec =
        [0, 1, 2, 3, 4, 5, 6, 7, 8, 9, 10, 11, 12, 13, 14] :=
  ⟨byteCodec_canonical, unitEvaluationsCodec_canonical, rfl, rfl,
    toBytes_fromBytes byteCodec unitEvaluationsCodec byteCodec_canonical
      unitEvaluationsCodec_canonical _ distinctProof rfl rfl⟩

end Plonk.ProofSystem
