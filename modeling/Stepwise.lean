import Stepwise.Journal
import Stepwise.Proofs.Execution.Inputs
import Stepwise.Provider
import Stepwise.Service.Handling
import Stepwise.Proofs.Execution.Group
import Stepwise.Proofs.Canvas.Compile
import Stepwise.Proofs.Canvas.Wiring
import Stepwise.Proofs.Canvas.Admission
import Stepwise.Proofs.Service.Upload
import Stepwise.Proofs.Admission.Nested
import Stepwise.Proofs.Execution.Definition
import Stepwise.Proofs.Execution.Script
import Stepwise.Proofs.Execution.Interleaving
import Stepwise.Proofs.Execution.Rearranged
import Stepwise.Proofs.Execution.Reserved
import Stepwise.Proofs.Repository.Memory
import Stepwise.Proofs.Service.Saving
import Stepwise.Proofs.Execution.Asking
import Stepwise.Proofs.Execution.Requests
import Stepwise.Proofs.Reference.Template
import Stepwise.Proofs.Execution.Prompt
import Stepwise.Proofs.Workflow.Depth
import Stepwise.Proofs.Repository.Documents
import Stepwise.Proofs.Service.Refusal
import Stepwise.Proofs.Canvas.Slots
import Stepwise.Proofs.Canvas.Scheduling
import Stepwise.Proofs.Repository.Agreement
import Stepwise.Proofs.Prompt.Cache
import Stepwise.Proofs.Service.Paging
import Stepwise.Proofs.Reference.Wildcard
import Stepwise.Proofs.Execution.Gathering
import Stepwise.Proofs.Admission.References
import Stepwise.Proofs.Canvas.PassThrough
import Stepwise.Proofs.Reference.Composition
import Stepwise.Proofs.Reference.Scope
import Stepwise.Proofs.Reference.Name
import Stepwise.Proofs.Repository.Seed
import Stepwise.Proofs.Execution.Remote
import Stepwise.Proofs.Execution.Blank
import Stepwise.Proofs.Script.Compact
import Stepwise.Proofs.Script.Groups
import Stepwise.Proofs.Script.Sorted
import Stepwise.Proofs.Naming
