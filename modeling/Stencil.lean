import Stencil.Main
import Stencil.RenderFailure
import Stencil.Proofs.Addressable
import Stencil.Proofs.History
import Stencil.Proofs.LoadFaults
import Stencil.Proofs.Loading
import Stencil.Proofs.Locality
import Stencil.Proofs.LogLine
import Stencil.Proofs.Lookup
import Stencil.Proofs.Lossless
import Stencil.Proofs.Play
import Stencil.Proofs.Precedence
import Stencil.Proofs.Refusal
import Stencil.Proofs.Scan
import Stencil.Proofs.Seams
import Stencil.Proofs.Services
import Stencil.Proofs.Blame
import Stencil.Proofs.Ledger
import Stencil.Proofs.Futures
import Stencil.Proofs.CallRoot
import Stencil.Proofs.Composition
import Stencil.Proofs.LoadPhases
import Stencil.Proofs.Privacy
import Stencil.Proofs.Positions
import Stencil.Proofs.EmptySteps
import Stencil.Proofs.KeyOrder
import Stencil.Proofs.VariableNames
import Stencil.Proofs.Overrides
import Stencil.Proofs.Sharing
import Stencil.Proofs.Layers
import Stencil.Proofs.QuotedVariables
import Stencil.Proofs.FittingData
import Stencil.Proofs.SectionFiles
import Stencil.Proofs.PlainValues
import Stencil.Proofs.Reconfigured
