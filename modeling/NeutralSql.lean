import NeutralSql.Dialect.Json
import NeutralSql.Executor
import NeutralSql.Executor.Scripted
import NeutralSql.Main
import NeutralSql.Samples
import NeutralSql.Proofs.Cache.Index
import NeutralSql.Proofs.Cache.Removal
import NeutralSql.Proofs.Text.Lowercase
import NeutralSql.Proofs.Text.NameSet
import NeutralSql.Proofs.Cache.WellFormed
import NeutralSql.Proofs.Cache.Operation
import NeutralSql.Proofs.Executor.Transparency
import NeutralSql.Proofs.Cache.Generation
import NeutralSql.Proofs.Executor.Interleaving
import NeutralSql.Proofs.Executor.Freshness
import NeutralSql.Proofs.Compile.Placeholder
import NeutralSql.Proofs.Compile.Context
import NeutralSql.Proofs.Compile.Query
import NeutralSql.Proofs.Compile.Alignment
import NeutralSql.Proofs.Compile.Erasure
import NeutralSql.Proofs.Fingerprint
import NeutralSql.Proofs.Cache.Plain
import NeutralSql.Proofs.Cache.Refinement
import NeutralSql.Proofs.SqlText.Scan
import NeutralSql.Proofs.SqlText.Path
import NeutralSql.Proofs.SqlText.Query
import NeutralSql.Proofs.SqlText.Write
import NeutralSql.Proofs.SqlText.Awaiting
import NeutralSql.Proofs.Executor.Reached
import NeutralSql.Proofs.Executor.Invalidation
import NeutralSql.Proofs.Compile.Run
import NeutralSql.Proofs.Compile.Rejection
import NeutralSql.Proofs.Compile.Definition
import NeutralSql.Proofs.Compile.Reporting
import NeutralSql.Proofs.Compile.Verdict
import NeutralSql.Proofs.Compile.Downgrade
import NeutralSql.Proofs.Compile.Sharing
import NeutralSql.Proofs.Compile.Uniformity
import NeutralSql.Proofs.Json.Statement
import NeutralSql.Proofs.Cache.ConditionalStore
import NeutralSql.Proofs.Cache.History
import NeutralSql.Proofs.Cache.Provenance
import NeutralSql.Proofs.Cache.Recency
import NeutralSql.Proofs.Cache.Accounting
import NeutralSql.Proofs.Executor.Recording
import NeutralSql.Proofs.Executor.Failure
import NeutralSql.Proofs.SqlText.Preamble
import NeutralSql.Proofs.SqlText.Kind
import NeutralSql.Proofs.Executor.Agreement
import NeutralSql.Proofs.Compile.Insertion
import NeutralSql.Proofs.Compile.TableLayout
import NeutralSql.Proofs.Row
import NeutralSql.Proofs.Compile.Alteration
import NeutralSql.Proofs.Text.Case
import NeutralSql.Proofs.SqlText.Case
import NeutralSql.Proofs.SqlText.FromList
import NeutralSql.Proofs.Compile.ConstraintName
import NeutralSql.Proofs.Compile.Quotation
import NeutralSql.Proofs.Compile.InlineText
import NeutralSql.Proofs.Json.Printer
import NeutralSql.Proofs.Schema.TypeText
import NeutralSql.Proofs.Json.Part
import NeutralSql.Proofs.Json.Token
import NeutralSql.Proofs.Json.NumberText
import NeutralSql.Proofs.Json.Depth
import NeutralSql.Proofs.Json.Layout
import NeutralSql.Proofs.CommandLine
