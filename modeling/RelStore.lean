import RelStore.Decimal.Shortest
import RelStore.Text.Case
import RelStore.Text.Units
import RelStore.Text.Blank
import RelStore.Sql.Expr
import RelStore.Row
import RelStore.Error
import RelStore.Sql.Parse.Statement
import RelStore.Json.Read
import RelStore.Aggregate
import RelStore.Sorting
import RelStore.Display
import RelStore.Database
import RelStore.Query
import RelStore.Disk
import RelStore.Store
import RelStore.Engine
import RelStore.Url
import RelStore.Settings
import RelStore.Connection
import RelStore.Shell
import RelStore.CommandLine.Arguments
import RelStore.CommandLine
import RelStore.Main
import RelStore.Proofs.Index
import RelStore.Proofs.Name
import RelStore.Proofs.Row
import RelStore.Proofs.Success
import RelStore.Proofs.Table.Shape
import RelStore.Proofs.Value
import RelStore.Proofs.Table.Invariant
import RelStore.Proofs.Table.Insert
import RelStore.Proofs.Table.Update
import RelStore.Proofs.Table.Delete
import RelStore.Proofs.Table.Consistency
import RelStore.Proofs.Database.Reference
import RelStore.Proofs.Database.Schema
import RelStore.Proofs.Database.Update
import RelStore.Proofs.Database.Integrity
import RelStore.Proofs.Table.Acceptance
import RelStore.Proofs.Database.Restrictions
import RelStore.Proofs.Like
import RelStore.Proofs.LetterCase.Sigma
import RelStore.Proofs.Like.Within
import RelStore.Proofs.Json.Quoted
import RelStore.Proofs.Json.Reading
import RelStore.Proofs.Disk
import RelStore.Proofs.Disk.Alike
import RelStore.Proofs.Path
import RelStore.Proofs.Store
import RelStore.Proofs.Catalog
import RelStore.Proofs.Plan
import RelStore.Proofs.Atomicity
import RelStore.Proofs.Unchanged
import RelStore.Proofs.Query.Scan
import RelStore.Proofs.Binary64.Rounding
import RelStore.Proofs.Decimal
import RelStore.Proofs.Decimal.Shortest
import RelStore.Proofs.Json.Number
import RelStore.Proofs.Binary64.Whole
import RelStore.Proofs.Document
import RelStore.Proofs.Alike
import RelStore.Proofs.Document.Loading
import RelStore.Proofs.Document.Named
import RelStore.Proofs.Document.Saving
import RelStore.Proofs.Document.Opening
import RelStore.Proofs.Catalog.Mirror
import RelStore.Proofs.Catalog.Skipped
import RelStore.Proofs.Storable
import RelStore.Proofs.Sql.Tokens
import RelStore.Proofs.Sql.Writable
import RelStore.Proofs.Stopping
import RelStore.Proofs.Lockstep
import RelStore.Proofs.Lockstep.Condition
import RelStore.Proofs.Sorting
import RelStore.Proofs.Sorting.Permutation
import RelStore.Proofs.Sorting.Ordered
import RelStore.Proofs.Text.Order
import RelStore.Proofs.Sorting.Keys
import RelStore.Proofs.Aggregate
import RelStore.Proofs.Lockstep.Sorting
import RelStore.Proofs.Table.Matches
import RelStore.Proofs.Table.Lockstep
import RelStore.Proofs.Database.Matches
import RelStore.Proofs.Lockstep.Aggregate
import RelStore.Proofs.Query.Lockstep
import RelStore.Proofs.Catalog.Matches
import RelStore.Proofs.Engine.Lockstep
import RelStore.Proofs.Engine.Reopening
import RelStore.Proofs.Evaluation
import RelStore.Proofs.Condition.Connectives
import RelStore.Proofs.Condition.Negation
import RelStore.Proofs.Condition.Membership
import RelStore.Proofs.Sql.Parsed
import RelStore.Proofs.Reached
import RelStore.Proofs.Query.Join
import RelStore.Proofs.Table.Meaning
import RelStore.Proofs.Engine.Writes
import RelStore.Proofs.KeyText
import RelStore.Proofs.Distinct
import RelStore.Proofs.Query.Grouping
import RelStore.Proofs.Failing
import RelStore.Proofs.Sql.Grammar
import RelStore.Proofs.Sql.Readers
import RelStore.Proofs.Sql.Conditions
import RelStore.Proofs.Sql.Statements
import RelStore.Proofs.Sql.Spelling
import RelStore.Proofs.Sql.Rendering
import RelStore.Proofs.Sql.RoundTrip
import RelStore.Proofs.Sql.Refusals
import RelStore.Proofs.Sql.Calls
import RelStore.Proofs.Database.Refusals
import RelStore.Proofs.Query.Ordering
import RelStore.Proofs.Query.Refusals
import RelStore.Proofs.Query.Types
import RelStore.Proofs.Query.Groups
import RelStore.Proofs.Query.Recall
import RelStore.Proofs.Query.Finite
import RelStore.Proofs.Query.Answers
import RelStore.Proofs.Engine.Refusals
import RelStore.Proofs.Engine.Assignments
import RelStore.Proofs.Paired
import RelStore.Proofs.Sql.Renaming
import RelStore.Proofs.Sql.Scanning
import RelStore.Proofs.Sql.Retelling
import RelStore.Proofs.Sql.Semicolons
import RelStore.Proofs.Sql.Scripts
import RelStore.Proofs.Sql.Elsewhere
import RelStore.Proofs.Engine.Scripts
import RelStore.Proofs.Shell.Lines
import RelStore.Proofs.Query.Words
import RelStore.Proofs.Query.Names
import RelStore.Proofs.LetterCase
import RelStore.Proofs.Lockstep.Codes
import RelStore.Proofs.Sql.LetterCase
import RelStore.Proofs.Sql.Layout
import RelStore.Proofs.Query.LetterCase
import RelStore.Proofs.Query.Headings
import RelStore.Proofs.Query.Recased
import RelStore.Proofs.Query.Counting
import RelStore.Proofs.Query.DistinctGroups
import RelStore.Proofs.Query.AggregateOrder
import RelStore.Proofs.Query.Extremes
import RelStore.Proofs.Engine.LetterCase
import RelStore.Proofs.Engine.Skipped
import RelStore.Proofs.Engine.Effect
import RelStore.Proofs.Engine.Interleaving
import RelStore.Proofs.Equality
import RelStore.Proofs.Index.History
import RelStore.Proofs.Query.Afresh
import RelStore.Proofs.Sql.Accepted
import RelStore.Proofs.Sql.Walk
import RelStore.Proofs.Sql.Following
import RelStore.Proofs.Sql.Progress
