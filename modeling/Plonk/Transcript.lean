import Mathlib

/-!
The Fiat–Shamir transcript (`merlin::Transcript` through `TranscriptProtocol`)
as its history: the labelled commitments and scalars absorbed so far and the
challenges drawn, oldest first. Merlin is not among the sources. Its state is
a deterministic function of this history, so a challenge is modelled as a
function `squeeze` of the history up to and including the challenge's own
label; every statement below holds for every such function.
-/

namespace Plonk

/-- One operation on a transcript, with its label. -/
inductive TranscriptOp (G F : Type)
  | appendCommitment (label : String) (commitment : G)
  | appendScalar (label : String) (scalar : F)
  | challengeScalar (label : String)
  deriving DecidableEq, Repr

/-- A transcript: everything it has absorbed, oldest first. -/
structure Transcript (G F : Type) where
  history : List (TranscriptOp G F)
  deriving DecidableEq, Repr

variable {G F : Type}

namespace Transcript

/-- `append_commitment`. -/
def appendCommitment (t : Transcript G F) (label : String) (commitment : G) :
    Transcript G F :=
  ⟨t.history ++ [.appendCommitment label commitment]⟩

/-- `append_scalar`. -/
def appendScalar (t : Transcript G F) (label : String) (scalar : F) : Transcript G F :=
  ⟨t.history ++ [.appendScalar label scalar]⟩

/-- `challenge_scalar`: absorb the label and read the challenge off the
history. -/
def challengeScalar (squeeze : List (TranscriptOp G F) → F) (t : Transcript G F)
    (label : String) : F × Transcript G F :=
  (squeeze (t.history ++ [.challengeScalar label]), ⟨t.history ++ [.challengeScalar label]⟩)

end Transcript

end Plonk
