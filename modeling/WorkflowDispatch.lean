import WorkflowDispatch.Error.Check
import WorkflowDispatch.Error.Outcome
import WorkflowDispatch.Fatal
import WorkflowDispatch.Log.Run
import WorkflowDispatch.Options.Workflow
import WorkflowDispatch.Scenario.Run
import WorkflowDispatch.Proofs.Attaching
import WorkflowDispatch.Proofs.Protocol
import WorkflowDispatch.Proofs.Objection
import WorkflowDispatch.Proofs.Reentry
import WorkflowDispatch.Proofs.Nesting
import WorkflowDispatch.Proofs.EarlierOutcome
import WorkflowDispatch.Proofs.Suppression
import WorkflowDispatch.Proofs.Misdeclared
import WorkflowDispatch.Proofs.Agreement
import WorkflowDispatch.Proofs.Collecting
import WorkflowDispatch.Proofs.Scope
import WorkflowDispatch.Proofs.GuardOwnership
import WorkflowDispatch.Proofs.Unambiguous
import WorkflowDispatch.Proofs.ResolvedTable
import WorkflowDispatch.Proofs.MemberIdentity
import WorkflowDispatch.Proofs.Layering
import WorkflowDispatch.Proofs.LastSetWins
import WorkflowDispatch.Proofs.Rethrowing
import WorkflowDispatch.Proofs.StartOptions
import WorkflowDispatch.Proofs.CacheHistory
import WorkflowDispatch.Proofs.TwoRuns
import WorkflowDispatch.Proofs.ImplicitSync
import WorkflowDispatch.Proofs.Interleaving
import WorkflowDispatch.Proofs.RoleAmbiguity
import WorkflowDispatch.Proofs.TypedCall
import WorkflowDispatch.Proofs.LogDelivery
import WorkflowDispatch.Proofs.CoefficientNumber
import WorkflowDispatch.Proofs.OptionEquality
