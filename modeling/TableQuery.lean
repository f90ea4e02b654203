import TableQuery.Database.Http
import TableQuery.Proofs.Collation.Accepting
import TableQuery.Proofs.Collation.NormalForm
import TableQuery.Proofs.Collation.Resolving
import TableQuery.Proofs.Database.Across
import TableQuery.Proofs.Database.Amid
import TableQuery.Proofs.Database.Asking
import TableQuery.Proofs.Database.Changing
import TableQuery.Proofs.Database.Claiming
import TableQuery.Proofs.Database.Collecting
import TableQuery.Proofs.Database.Contributing
import TableQuery.Proofs.Database.Draining
import TableQuery.Proofs.Database.Inserting
import TableQuery.Proofs.Database.Naming
import TableQuery.Proofs.Database.Presorting
import TableQuery.Proofs.Database.Pushing
import TableQuery.Proofs.Database.Recording
import TableQuery.Proofs.Database.Refusing
import TableQuery.Proofs.Database.Requesting
import TableQuery.Proofs.Database.Selecting
import TableQuery.Proofs.Database.Settling
import TableQuery.Proofs.Database.Sparing
import TableQuery.Proofs.Database.Stopping
import TableQuery.Proofs.Database.Tracing
import TableQuery.Proofs.Database.Unmoved
import TableQuery.Proofs.Evaluation.Apart
import TableQuery.Proofs.Evaluation.Binding
import TableQuery.Proofs.Evaluation.Bounded
import TableQuery.Proofs.Evaluation.Columns
import TableQuery.Proofs.Evaluation.Limits
import TableQuery.Proofs.Evaluation.Membership
import TableQuery.Proofs.Evaluation.Misfits
import TableQuery.Proofs.Evaluation.Operands
import TableQuery.Proofs.Evaluation.Pattern
import TableQuery.Proofs.Evaluation.Places
import TableQuery.Proofs.Evaluation.Proper
import TableQuery.Proofs.Evaluation.Selects
import TableQuery.Proofs.Evaluation.Steady
import TableQuery.Proofs.Evaluation.WellFormed
import TableQuery.Proofs.Names
import TableQuery.Proofs.Number.Decimal
import TableQuery.Proofs.Number.Range
import TableQuery.Proofs.Number.Reading
import TableQuery.Proofs.Number.Remainder
import TableQuery.Proofs.Number.Rounding
import TableQuery.Proofs.Reading.Bounded
import TableQuery.Proofs.Reading.Checking
import TableQuery.Proofs.Reading.Delivery
import TableQuery.Proofs.Reading.Determined
import TableQuery.Proofs.Reading.Gathering
import TableQuery.Proofs.Reading.Independence
import TableQuery.Proofs.Reading.Matching
import TableQuery.Proofs.Reading.Planning
import TableQuery.Proofs.Reading.Skipping
import TableQuery.Proofs.Reading.SortKeys
import TableQuery.Proofs.Reading.Sorting
import TableQuery.Proofs.Reading.Stopping
import TableQuery.Proofs.Reading.Watching
import TableQuery.Proofs.Run
import TableQuery.Proofs.Sql.Changes
import TableQuery.Proofs.Sql.Clauses
import TableQuery.Proofs.Sql.Grammar
import TableQuery.Proofs.Sql.Naming
import TableQuery.Proofs.Sql.Numbering
import TableQuery.Proofs.Sql.Operand
import TableQuery.Proofs.Sql.Operators
import TableQuery.Proofs.Sql.Proper
import TableQuery.Proofs.Sql.Queries
import TableQuery.Proofs.Sql.Questions
import TableQuery.Proofs.Sql.Quoting
import TableQuery.Proofs.Sql.Reader
import TableQuery.Proofs.Sql.Scanning
import TableQuery.Proofs.Sql.Sentences
import TableQuery.Proofs.Sql.Subqueries
import TableQuery.Proofs.Starting
import TableQuery.Proofs.Statement.Bound
import TableQuery.Proofs.Table.BlankLines
import TableQuery.Proofs.Table.Kept
import TableQuery.Proofs.Table.Numbering
import TableQuery.Proofs.Table.Yield
import TableQuery.Proofs.Text.Case
import TableQuery.Proofs.Text.Trimming
import TableQuery.Proofs.Value.Equality
import TableQuery.Proofs.Value.Members
import TableQuery.Proofs.Value.Padding
import TableQuery.Proofs.ValueOrder
import TableQuery.Service
