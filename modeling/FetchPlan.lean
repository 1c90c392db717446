import FetchPlan.Main
import FetchPlan.Proofs.Defaults.AsRequest
import FetchPlan.Proofs.Plan.Adoption
import FetchPlan.Proofs.Plan.PrintedPlans
import FetchPlan.Proofs.Command.Agreement
import FetchPlan.Proofs.Request.Sources
import FetchPlan.Proofs.Request.FaultPaths
import FetchPlan.Proofs.Request.Fallback
import FetchPlan.Proofs.Plan.Attainable
import FetchPlan.Proofs.Plan.Resubmission
import FetchPlan.Proofs.Request.Violations
import FetchPlan.Proofs.Request.Strictness
import FetchPlan.Proofs.Json.RecordTrees
import FetchPlan.Proofs.Plan.RecordTexts
import FetchPlan.Proofs.Include.Outcome
import FetchPlan.Proofs.Plan.FilterPlaces
import FetchPlan.Proofs.Document.Writing
import FetchPlan.Proofs.Command.Transactions
import FetchPlan.Proofs.Defaults.Outcome
import FetchPlan.Proofs.Request.Counts
import FetchPlan.Proofs.Defaults.Layers
import FetchPlan.Proofs.Defaults.Rereading
import FetchPlan.Proofs.Include.Decomposition
import FetchPlan.Proofs.Request.Reports
