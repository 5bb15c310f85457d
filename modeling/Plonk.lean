import Plonk.DuskBytes
import Plonk.Poly.DensePolynomial
import Plonk.Poly.Division
import Plonk.Transcript
import Plonk.Cs.Opening
import Plonk.Fft.Domain
import Plonk.ProofSystem.Proof
import Plonk.ProofSystem.Barycentric
import Plonk.ProofSystem.Quotient
import Plonk.CommitmentScheme.Kzg10
import Plonk.ProofSystem.Verify
import Plonk.ProofSystem.BatchOpening
import Plonk.Debugger
