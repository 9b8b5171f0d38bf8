import SqlBuilder.Client
import SqlBuilder.Proofs.Display
import SqlBuilder.Proofs.Reachable
import SqlBuilder.Proofs.Render.Ensures
import SqlBuilder.Proofs.Render.Written
import SqlBuilder.Proofs.Placeholders
import SqlBuilder.Proofs.Safety
import SqlBuilder.Proofs.Render.Appends
import SqlBuilder.Proofs.Noninterference
import SqlBuilder.Proofs.Precedence
import SqlBuilder.Proofs.Representation
import SqlBuilder.Proofs.Buildable
import SqlBuilder.Proofs.Reading
import SqlBuilder.Proofs.Execution
import SqlBuilder.Proofs.ClauseOrder
import SqlBuilder.Proofs.UniqueReading
import SqlBuilder.Proofs.Outputs
import SqlBuilder.Proofs.Confidentiality
import SqlBuilder.Proofs.Identifiers
import SqlBuilder.Proofs.Protocol
import SqlBuilder.Proofs.Rebuild
import SqlBuilder.Proofs.Counterparts
import SqlBuilder.Proofs.ColumnLists
import SqlBuilder.Proofs.DebugText
import SqlBuilder.Proofs.Assignments
import SqlBuilder.Proofs.ExistenceTests
import SqlBuilder.Proofs.Labels
import SqlBuilder.Proofs.Scanning
