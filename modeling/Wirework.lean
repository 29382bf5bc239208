import Wirework.Main
import Wirework.Proofs.FieldValue
import Wirework.Proofs.Command.Verdict
import Wirework.Proofs.Graph.Cascade
import Wirework.Proofs.Graph.Removal
import Wirework.Proofs.ProjectFile.Failures
import Wirework.Proofs.ProjectFile.Reopening
import Wirework.Proofs.Service.Independence
import Wirework.Report
import Wirework.Proofs.Service.Containment
import Wirework.Proofs.Graph.Deletion
import Wirework.Proofs.Check.Exemption
import Wirework.Proofs.Service.Handlers
import Wirework.Proofs.Check.Loop
import Wirework.Proofs.Migration.Indexes
import Wirework.Proofs.Service.Declarations
import Wirework.Proofs.DataType
import Wirework.Proofs.Migration.Order
import Wirework.Proofs.Graph.Duplication
import Wirework.Proofs.Quoting
import Wirework.Proofs.Rust.Integers
import Wirework.Proofs.Migration.Filenames
import Wirework.Proofs.Graph.Connectivity
import Wirework.Proofs.Migration.Nullability
import Wirework.Proofs.Service.Credentials
import Wirework.Proofs.Check.Names
import Wirework.Proofs.Naming.Words
