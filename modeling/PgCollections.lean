import PgCollections.Json.Reader
import PgCollections.Main
import PgCollections.Proofs.Filter.Leaf
import PgCollections.Proofs.Sql.Bindings
import PgCollections.Proofs.Sql.Token
import PgCollections.Proofs.Sql.Predicate
import PgCollections.Proofs.Sql.Clause
import PgCollections.Proofs.Sql.Statement
import PgCollections.Proofs.Filter.Meaning
import PgCollections.Proofs.Sql.Grammar
import PgCollections.Proofs.Sql.Meaning
import PgCollections.Proofs.Sql.Selection
import PgCollections.Proofs.CommandLine.Removal
import PgCollections.Proofs.Sql.Outline
import PgCollections.Proofs.Database.Failure
import PgCollections.Proofs.Filter.Document
import PgCollections.Proofs.Sql.Turns
import PgCollections.Proofs.Postgres.Execution
import PgCollections.Proofs.Postgres.Resending
import PgCollections.Proofs.Number.Numeric
import PgCollections.Proofs.Text.Hex
import PgCollections.Proofs.Postgres.Literals
import PgCollections.Proofs.Json.RoundTrip
import PgCollections.Proofs.Postgres.Documents
import PgCollections.Proofs.Postgres.ArrayText
import PgCollections.Proofs.Postgres.NullElements
import PgCollections.Proofs.Postgres.StoredList
import PgCollections.Proofs.Postgres.SentType
import PgCollections.Proofs.Database.Disclosure
import PgCollections.Proofs.CommandLine.DryRun
import PgCollections.Proofs.Sql.SinglePass
import PgCollections.Proofs.Sql.Insertion
import PgCollections.Proofs.Sql.Update
import PgCollections.Proofs.Filter.Entries
import PgCollections.Proofs.Postgres.WholeNumbers
import PgCollections.Proofs.Postgres.Moments
import PgCollections.Proofs.Postgres.Lists
import PgCollections.Proofs.Postgres.Layout
import PgCollections.Proofs.Postgres.Acquisition
import PgCollections.Proofs.Schema.Definitions
import PgCollections.Proofs.Schema.Names
import PgCollections.Proofs.Schema.Descriptors
import PgCollections.Proofs.Sql.Quotation
import PgCollections.Proofs.CommandLine.Alignment
import PgCollections.Proofs.CommandLine.Sorting
import PgCollections.Proofs.Number.Total
import PgCollections.Proofs.Postgres.LiteralFormat
