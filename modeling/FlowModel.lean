import FlowModel.Microflow.MainLine
import FlowModel.Microflow.Outline
import FlowModel.Json.Printer
import FlowModel.Report.Json
import FlowModel.Repository.Run
import FlowModel.Service
import FlowModel.Settings.Json
import FlowModel.Proofs.Digraph
import FlowModel.Proofs.Microflow.FlowRelation
import FlowModel.Proofs.Microflow.Rules
import FlowModel.Proofs.Microflow.Regularity
import FlowModel.Proofs.Microflow.Growth
import FlowModel.Proofs.Drawing.Steps
import FlowModel.Proofs.Drawing.Diamond
import FlowModel.Proofs.Drawing.PageLoggingPlan
import FlowModel.Proofs.Generation.Soundness
import FlowModel.Proofs.Drawing.ValidationPlan
import FlowModel.Proofs.Microflow.Runs
import FlowModel.Proofs.Drawing.ValidationRuns
import FlowModel.Proofs.Drawing.ValidationOutcome
import FlowModel.Proofs.Drawing.ValidationShape
import FlowModel.Proofs.Microflow.Regions
import FlowModel.Proofs.Repository.History
import FlowModel.Proofs.Repository.Agreement
import FlowModel.Proofs.Generation.Guard
import FlowModel.Proofs.Generation.Uniqueness
import FlowModel.Proofs.Generation.Repetition
import FlowModel.Proofs.Repository.Repetition
import FlowModel.Proofs.Generation.Accounts
import FlowModel.Proofs.Generation.Atomicity
import FlowModel.Proofs.Generation.Coverage
import FlowModel.Proofs.Workspace.Refinement
import FlowModel.Proofs.Generation.Normalization
import FlowModel.Proofs.Generation.PageFolders
import FlowModel.Proofs.Generation.PageParameters
import FlowModel.Proofs.Project.Documents
import FlowModel.Proofs.Drawing.Cursors
import FlowModel.Proofs.Drawing.Scoping
import FlowModel.Proofs.Workspace.Traversal
import FlowModel.Proofs.Workspace.Coherence
import FlowModel.Proofs.Drawing.Spacing
import FlowModel.Proofs.Drawing.Capacity
import FlowModel.Proofs.Project.ParameterDiscovery
import FlowModel.Proofs.Microflow.PlaceGraph
import FlowModel.Proofs.Microflow.MainLine
import FlowModel.Proofs.Repository.BulkLoading
import FlowModel.Proofs.Microflow.Outlines
import FlowModel.Proofs.Newcomers
import FlowModel.Proofs.Generation.SelectionOrder
import FlowModel.Proofs.Drawing.Numbering
import FlowModel.Proofs.Drawing.OpenChains
