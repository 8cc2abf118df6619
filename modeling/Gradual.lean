import Gradual.Files
import Gradual.Main
import Gradual.Production
import Gradual.Proofs.Precision
import Gradual.Proofs.RoundTrip
import Gradual.Proofs.Solver.StaticFragment
import Gradual.Proofs.SupplyIndependence
import Gradual.Session
import Gradual.Proofs.SyntaxTree
import Gradual.Proofs.Acceptance
import Gradual.Proofs.Freshness
import Gradual.Proofs.Capture
import Gradual.Proofs.Patterns
import Gradual.Proofs.Tiling
import Gradual.Proofs.Solver.SolvedForm
import Gradual.Proofs.DynamicPositions
import Gradual.Proofs.Composition
import Gradual.Proofs.Dialogue
import Gradual.Proofs.BindingStructure
import Gradual.Proofs.CanonicalOrder
import Gradual.Proofs.SchemeText
import Gradual.Proofs.AlphaEquivalence
import Gradual.Proofs.Generalization
import Gradual.Proofs.FreshEquations
import Gradual.Proofs.ErrorPositions
import Gradual.Proofs.Separation
import Gradual.Proofs.LineEnds
import Gradual.Proofs.Progress
