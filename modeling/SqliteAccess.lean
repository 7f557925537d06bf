import SqliteAccess.Engine.Scripted
import SqliteAccess.Operation.Run
import SqliteAccess.Proofs.Backup.Life
import SqliteAccess.Proofs.Connection.Agreement
import SqliteAccess.Proofs.Connection.Atomicity
import SqliteAccess.Proofs.Connection.Batch
import SqliteAccess.Proofs.Connection.Closed
import SqliteAccess.Proofs.Error.Attribution
import SqliteAccess.Proofs.Operation.Framing
import SqliteAccess.Proofs.Operation.Logging
import SqliteAccess.Proofs.Operation.Moving
import SqliteAccess.Proofs.Operation.Shaping
import SqliteAccess.Proofs.Session.Consistency
import SqliteAccess.Proofs.Session.Counted
import SqliteAccess.Proofs.Session.Discipline
import SqliteAccess.Proofs.Session.Pending
import SqliteAccess.Proofs.Session.Rejection
import SqliteAccess.Proofs.Statement.Conformance
import SqliteAccess.Proofs.Statement.Converting
import SqliteAccess.Proofs.Statement.Currency
import SqliteAccess.Proofs.Statement.Finalized
import SqliteAccess.Proofs.Statement.Reporting
import SqliteAccess.Proofs.Statement.Rereading
import SqliteAccess.Proofs.Statement.RoundTrip
import SqliteAccess.Proofs.Text.Tokens
import SqliteAccess.Proofs.Text.Utf8
import SqliteAccess.Proofs.Transaction.Convenience
import SqliteAccess.Proofs.Transaction.Lineage
import SqliteAccess.Proofs.Transaction.Ownership
import SqliteAccess.Proofs.Transaction.Retrying
import SqliteAccess.Proofs.Transaction.Stacking
import SqliteAccess.Proofs.Transaction.Within
