import EvidenceSearch.Clock
import EvidenceSearch.Failure
import EvidenceSearch.FileType
import EvidenceSearch.Filter.Basic
import EvidenceSearch.Filter.Clause
import EvidenceSearch.Filter.Description
import EvidenceSearch.Filter.Kind
import EvidenceSearch.Frequency
import EvidenceSearch.Json.Basic
import EvidenceSearch.Json.Fault
import EvidenceSearch.Json.Reader
import EvidenceSearch.Json.Writer
import EvidenceSearch.Log
import EvidenceSearch.Main
import EvidenceSearch.Number.Basic
import EvidenceSearch.Number.Numeral
import EvidenceSearch.Number.Rounding
import EvidenceSearch.Number.Text
import EvidenceSearch.Record
import EvidenceSearch.Report
import EvidenceSearch.Search.Enrichment
import EvidenceSearch.Search.Run
import EvidenceSearch.Search.Trace
import EvidenceSearch.Server.Context
import EvidenceSearch.Server.Message
import EvidenceSearch.Server.Process
import EvidenceSearch.Server.Tools
import EvidenceSearch.Settings
import EvidenceSearch.Size
import EvidenceSearch.Sql.Condition
import EvidenceSearch.Sql.Error
import EvidenceSearch.Sql.Literal
import EvidenceSearch.Sql.Pattern
import EvidenceSearch.Sql.Selection
import EvidenceSearch.Sql.Table
import EvidenceSearch.Sql.Token
import EvidenceSearch.Storage.CaseStore
import EvidenceSearch.Storage.CaseTables
import EvidenceSearch.Storage.Cell
import EvidenceSearch.Storage.Error
import EvidenceSearch.Storage.FileSystem
import EvidenceSearch.Storage.FileTypes
import EvidenceSearch.Storage.Handle
import EvidenceSearch.Storage.Hash
import EvidenceSearch.Storage.Image
import EvidenceSearch.Storage.KeyValues
import EvidenceSearch.Storage.Path
import EvidenceSearch.Storage.RepositoryStore
import EvidenceSearch.Storage.RepositoryTables
import EvidenceSearch.Storage.Schema
import EvidenceSearch.Storage.Tables
import EvidenceSearch.Storage.Workspace
import EvidenceSearch.Text.Blank
import EvidenceSearch.Text.CaseMapping
import EvidenceSearch.Text.CaseTable
import EvidenceSearch.Text.CasedTable
import EvidenceSearch.Text.Units
import EvidenceSearch.Text.Utf8
import EvidenceSearch.Tools.Arguments
import EvidenceSearch.Tools.Criteria
import EvidenceSearch.Tools.Registry
import EvidenceSearch.Tools.Response
import EvidenceSearch.Proofs.Sql.Reading
import EvidenceSearch.Proofs.Sql.Cutting
import EvidenceSearch.Proofs.Sql.Deciding
import EvidenceSearch.Proofs.Sql.Matching
import EvidenceSearch.Proofs.Sql.Wildcards
import EvidenceSearch.Proofs.Sql.QuotedLists
import EvidenceSearch.Proofs.Text.Trimming
import EvidenceSearch.Proofs.Text.Lowering
import EvidenceSearch.Proofs.Text.Units
import EvidenceSearch.Proofs.Number.Numerals
import EvidenceSearch.Proofs.Json.Quoting
import EvidenceSearch.Proofs.Json.Reading
import EvidenceSearch.Proofs.Listing
import EvidenceSearch.Proofs.Filter.FileTypes
import EvidenceSearch.Proofs.Filter.Listed
import EvidenceSearch.Proofs.Filter.Entries
import EvidenceSearch.Proofs.Filter.Conditions
import EvidenceSearch.Proofs.Filter.Naming
import EvidenceSearch.Proofs.Filter.Selecting
import EvidenceSearch.Proofs.Search.Stages
import EvidenceSearch.Proofs.Steps
import EvidenceSearch.Proofs.Storage.Hashes
import EvidenceSearch.Proofs.Storage.Handles
import EvidenceSearch.Proofs.Storage.Schemas
import EvidenceSearch.Proofs.Storage.Reopening
import EvidenceSearch.Proofs.Storage.Changes
import EvidenceSearch.Proofs.Storage.Closing
import EvidenceSearch.Proofs.Storage.Ledger
import EvidenceSearch.Proofs.Storage.Recording
import EvidenceSearch.Proofs.Storage.Counting
import EvidenceSearch.Proofs.Storage.Looking
import EvidenceSearch.Proofs.Storage.Guarding
import EvidenceSearch.Proofs.Storage.Ingesting
import EvidenceSearch.Proofs.Storage.Transactions
import EvidenceSearch.Proofs.Storage.Switching
import EvidenceSearch.Proofs.Storage.Replacing
import EvidenceSearch.Proofs.Storage.Persisting
import EvidenceSearch.Proofs.Storage.Interposing
import EvidenceSearch.Proofs.Search.Criteria
import EvidenceSearch.Proofs.Search.Answers
import EvidenceSearch.Proofs.Search.Overlapping
import EvidenceSearch.Proofs.Search.Failing
import EvidenceSearch.Proofs.Search.Reordering
import EvidenceSearch.Proofs.Search.Offering
import EvidenceSearch.Proofs.Search.SizeRanges
import EvidenceSearch.Proofs.Search.Presets
import EvidenceSearch.Proofs.Search.Demands
import EvidenceSearch.Proofs.Search.Shapes
import EvidenceSearch.Proofs.Search.Resolving
import EvidenceSearch.Proofs.Search.Hits
import EvidenceSearch.Proofs.Server.Calls
import EvidenceSearch.Proofs.Server.Starting
import EvidenceSearch.Proofs.Server.Serving
import EvidenceSearch.Proofs.Server.Answering
import EvidenceSearch.Proofs.Server.Options
import EvidenceSearch.Proofs.Server.Registering
