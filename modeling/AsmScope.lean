import AsmScope.Main
import AsmScope.Proofs.Service.Agreement
import AsmScope.Proofs.Service.Rejection
import AsmScope.Verbosity
import AsmScope.Web.Server
import AsmScope.Proofs.Compile.StoreAccount
import AsmScope.Proofs.Service.Permits
import AsmScope.Proofs.Service.Admission
import AsmScope.Proofs.Job.Runs
import AsmScope.Proofs.Job.Timely
import AsmScope.Proofs.Service.Keeping
import AsmScope.Proofs.Files.Tree
import AsmScope.Proofs.Job.Shape
import AsmScope.Proofs.Workspace.Manager
import AsmScope.Proofs.Workspace.Lifetime
import AsmScope.Proofs.Listing.Filtering
import AsmScope.Proofs.Trace.Positions
import AsmScope.Proofs.Job.Retrieval
import AsmScope.Proofs.Service.Cancellation
import AsmScope.Proofs.Compile.Registration
import AsmScope.Proofs.Listing.References
import AsmScope.Proofs.Workspace.Custody
import AsmScope.Proofs.Listing.Reach
import AsmScope.Proofs.Listing.Attribution
import AsmScope.Proofs.Listing.Ownership
import AsmScope.Proofs.Trace.Recovery
import AsmScope.Proofs.Listing.Rows
import AsmScope.Proofs.Listing.Links
import AsmScope.Proofs.Service.Screening
import AsmScope.Proofs.Tool.Killing
import AsmScope.Proofs.Compile.HeldOptions
import AsmScope.Proofs.Service.Confinement
import AsmScope.Proofs.Compile.StoreHistory
import AsmScope.Proofs.Compile.Messages
import AsmScope.Proofs.Compile.OptionFormats
import AsmScope.Proofs.Compile.CommandLayout
import AsmScope.Proofs.Listing.LabelLines
import AsmScope.Proofs.Web.Availability
import AsmScope.Proofs.Config.Layers
import AsmScope.Proofs.Listing.Layout
import AsmScope.Proofs.Workspace.Leftovers
import AsmScope.Proofs.Web.Compiling
