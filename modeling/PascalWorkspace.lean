import PascalWorkspace.Main
import PascalWorkspace.Proofs.Session.Paths
import PascalWorkspace.Proofs.Session.Targets
import PascalWorkspace.Proofs.Package.Shown
import PascalWorkspace.Proofs.Walk.Repair
import PascalWorkspace.Proofs.Package.Borrow
import PascalWorkspace.Proofs.Package.Reach
import PascalWorkspace.Proofs.Package.Cycle
import PascalWorkspace.Proofs.Package.Publication
import PascalWorkspace.Proofs.Walk.Nodes
import PascalWorkspace.Proofs.Session.Nodes
import PascalWorkspace.Proofs.Session.Scan
import PascalWorkspace.Proofs.Session.BackReferences
import PascalWorkspace.Proofs.Session.Names
import PascalWorkspace.Proofs.Session.Values
import PascalWorkspace.Proofs.Session.Integrity
import PascalWorkspace.Proofs.Session.Rescan
import PascalWorkspace.Proofs.Session.Walks
import PascalWorkspace.Proofs.Session.Success
import PascalWorkspace.Proofs.Session.Toolchain
import PascalWorkspace.Proofs.Session.Case
import PascalWorkspace.Proofs.Session.Order
import PascalWorkspace.Proofs.Session.Isolation
import PascalWorkspace.Proofs.Package.Turns
import PascalWorkspace.Proofs.Session.Rejection
import PascalWorkspace.Proofs.Session.Configuration
import PascalWorkspace.Proofs.Session.Requests
import PascalWorkspace.Proofs.Package.FirstMatch
import PascalWorkspace.Proofs.Package.Gathering
import PascalWorkspace.Proofs.Package.PublishOrder
import PascalWorkspace.Proofs.Session.Resolution
import PascalWorkspace.Proofs.Uri.FileUri
import PascalWorkspace.Proofs.Walk.Ignored
import PascalWorkspace.Proofs.Session.Manifests
import PascalWorkspace.Proofs.Manifest.SearchLists
import PascalWorkspace.Proofs.Define.Scope
import PascalWorkspace.Proofs.Session.Spellings
import PascalWorkspace.Proofs.CommandLine.Run
