import ClockedFormula.NodeMemory.Operation
import ClockedFormula.Proofs.Decimal.Text
import ClockedFormula.Proofs.Evaluation.Arrangement
import ClockedFormula.Proofs.Evaluation.Cancellation
import ClockedFormula.Proofs.Evaluation.Claim
import ClockedFormula.Proofs.Evaluation.Economy
import ClockedFormula.Proofs.Evaluation.Failure
import ClockedFormula.Proofs.Evaluation.Flag
import ClockedFormula.Proofs.Evaluation.Form
import ClockedFormula.Proofs.Evaluation.Interruption
import ClockedFormula.Proofs.Evaluation.Isolation
import ClockedFormula.Proofs.Evaluation.Laziness
import ClockedFormula.Proofs.Evaluation.Lockstep
import ClockedFormula.Proofs.Evaluation.Nesting
import ClockedFormula.Proofs.Evaluation.Order
import ClockedFormula.Proofs.Evaluation.Readout
import ClockedFormula.Proofs.Evaluation.Rejection
import ClockedFormula.Proofs.Evaluation.Respelling
import ClockedFormula.Proofs.Evaluation.Transparency
import ClockedFormula.Proofs.Expr.Numbering
import ClockedFormula.Proofs.Formula.Shadowing
import ClockedFormula.Proofs.NodeMemory.History
import ClockedFormula.Proofs.Saved.Restoration
import ClockedFormula.Proofs.Session.Freezing
import ClockedFormula.Proofs.Session.Injection
import ClockedFormula.Proofs.Session.Ownership
import ClockedFormula.Proofs.Session.Renewal
import ClockedFormula.Proofs.Session.Shape
import ClockedFormula.Proofs.Signal.Pulse
import ClockedFormula.Proofs.Smoothing.Bounds
import ClockedFormula.Proofs.Smoothing.Retry
import ClockedFormula.Proofs.Smoothing.Undelayed
import ClockedFormula.Proofs.Value.Denotation
import ClockedFormula.Proofs.Value.RoundTrip
import ClockedFormula.Saved
import ClockedFormula.Session
