import QueryBook.Execution.Scripted
import QueryBook.Postgres.Encoding
import QueryBook.Postgres.Executor
import QueryBook.Runner
import QueryBook.Sqlite.Executor
import QueryBook.Sqlite.KeyValue.Database
import QueryBook.Proofs.Catalog.Incremental
import QueryBook.Proofs.Catalog.Missing
import QueryBook.Proofs.Catalog.Unchanged
import QueryBook.Proofs.Template.Alike
import QueryBook.Proofs.Catalog.Exchange
import QueryBook.Proofs.Catalog.Settling
import QueryBook.Proofs.Template.Placement
import QueryBook.Proofs.Template.Replacement
import QueryBook.Proofs.Sql.Occurrences
import QueryBook.Proofs.Sql.Regions
import QueryBook.Proofs.Sql.Parts
import QueryBook.Proofs.Sql.Statements
import QueryBook.Proofs.Template.Batch
import QueryBook.Proofs.Template.Pieces
import QueryBook.Proofs.Template.Origin
import QueryBook.Proofs.Decimal.Number
import QueryBook.Proofs.Decimal.Rounding
import QueryBook.Proofs.Postgres.Numbers
import QueryBook.Proofs.Execution.Tries
import QueryBook.Proofs.Sqlite.Faulty
import QueryBook.Proofs.Execution.Calls
import QueryBook.Proofs.Sqlite.Batch
import QueryBook.Proofs.Sql.Enclosed
import QueryBook.Proofs.Catalog.Accounted
import QueryBook.Proofs.Sql.Positions
import QueryBook.Proofs.Xml.Entries
import QueryBook.Proofs.Rows.Members
import QueryBook.Proofs.Catalog.Isolation
import QueryBook.Proofs.Catalog.Marks
import QueryBook.Proofs.Xml.EmptyTags
import QueryBook.Proofs.Sqlite.Abandoned
import QueryBook.Proofs.Execution.Retries
import QueryBook.Proofs.Directive.Pairing
import QueryBook.Proofs.Timestamp.Text
import QueryBook.Proofs.Template.Overlaps
import QueryBook.Proofs.Template.Malformed
import QueryBook.Proofs.Template.Inclusion
import QueryBook.Proofs.Files.Traversal
import QueryBook.Proofs.Connections.Spellings
