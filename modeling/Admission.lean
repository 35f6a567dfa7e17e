import Admission.Main
import Admission.Policy.Reader
import Admission.Proofs.Acceptance
import Admission.Proofs.BuiltIn
import Admission.Proofs.Composition
import Admission.Proofs.Faults
import Admission.Proofs.Identity
import Admission.Proofs.Mode
import Admission.Proofs.Shape
import Admission.Proofs.Bridging
import Admission.Proofs.Accounting
import Admission.Proofs.Loading
import Admission.Proofs.Scoping
import Admission.Proofs.Dialects
import Admission.Proofs.RuleData
import Admission.Proofs.PolicyData
import Admission.Proofs.Flow
import Admission.Proofs.Arguments
import Admission.Proofs.Layers
import Admission.Proofs.Substance
import Admission.Proofs.Requests
import Admission.Proofs.Writing
import Admission.Proofs.Wildcards
import Admission.Proofs.Thresholds
import Admission.Proofs.Reordering
import Admission.Proofs.Quoting
import Admission.Proofs.Bundles
import Admission.Proofs.Refusal
import Admission.Proofs.Quantities
import Admission.Proofs.Cells
import Admission.Proofs.HostFlags
import Admission.Proofs.BlockedRoles
import Admission.Proofs.Listing
import Admission.Proofs.Reference
import Admission.Proofs.Streams
