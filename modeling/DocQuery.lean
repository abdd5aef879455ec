import DocQuery.Main
import DocQuery.Scheme.Writer
import DocQuery.Proofs.Condition.Reading
import DocQuery.Proofs.Condition.Flattening
import DocQuery.Proofs.Condition.Separation
import DocQuery.Proofs.Condition.Skipping
import DocQuery.Proofs.Plan.Building
import DocQuery.Proofs.Plan.Sentence
import DocQuery.Proofs.Plan.Spelling
import DocQuery.Proofs.Dictionaries
import DocQuery.Proofs.Tables
import DocQuery.Proofs.Run.Matching
import DocQuery.Proofs.Run.Changing
import DocQuery.Proofs.Alike
import DocQuery.Proofs.Limits
import DocQuery.Proofs.Run.Bounding
import DocQuery.Proofs.Rows.Joining
import DocQuery.Proofs.Run.Deleting
import DocQuery.Proofs.Rows.JoinedColumns
import DocQuery.Proofs.Plan.Heads
import DocQuery.Proofs.Run.Targets
import DocQuery.Proofs.Run.Showing
import DocQuery.Proofs.Rows.Pairing
import DocQuery.Proofs.Values
import DocQuery.Proofs.Rows.Repeating
import DocQuery.Proofs.Run.Merging
import DocQuery.Proofs.Rows.Classes
import DocQuery.Proofs.Rows.Projecting
import DocQuery.Proofs.Run.Calling
import DocQuery.Proofs.Run.Arranging
import DocQuery.Proofs.Plan.Selecting
import DocQuery.Proofs.Rows.Combining
import DocQuery.Proofs.Run.Listing
import DocQuery.Proofs.Session.Batches
import DocQuery.Proofs.Plan.Clauses
import DocQuery.Proofs.Run.Inserting
import DocQuery.Proofs.Run.PartialFailures
import DocQuery.Condition.Cached
import DocQuery.Proofs.Condition.LeafOrder
import DocQuery.Proofs.Condition.Interleaving
import DocQuery.Proofs.Canonical
import DocQuery.Proofs.Naming
import DocQuery.Proofs.Scheme.Rereading
import DocQuery.Proofs.Plan.Layout
import DocQuery.Proofs.Json.Lexing
import DocQuery.Proofs.Json.Rereading
import DocQuery.Proofs.Json.Integers
import DocQuery.Proofs.Store.Documents
import DocQuery.Proofs.Store.Persistence
import DocQuery.Proofs.Condition.Columns
import DocQuery.Proofs.Plan.Keychains
import DocQuery.Proofs.Plan.Resolving
import DocQuery.Proofs.Plan.Positions
import DocQuery.Proofs.Plan.Precedence
import DocQuery.Proofs.Run.Isolation
import DocQuery.Proofs.Condition.Likeness
import DocQuery.Proofs.Plan.Likeness
import DocQuery.Proofs.Session.Literals
import DocQuery.Proofs.Condition.Descent
import DocQuery.Proofs.Condition.Residues
import DocQuery.Proofs.Condition.Tidying
import DocQuery.Proofs.Patterns
import DocQuery.Proofs.Condition.Scanning
import DocQuery.Proofs.Condition.Gaps
import DocQuery.Proofs.Condition.Deleting
import DocQuery.Proofs.Condition.Expressions
import DocQuery.Proofs.Condition.Evaluating
import DocQuery.Proofs.Plan.Traces
import DocQuery.Proofs.Value.Order
import DocQuery.Proofs.Value.Equality
import DocQuery.Proofs.Rows.Ordering
import DocQuery.Proofs.Rows.Partitioning
import DocQuery.Proofs.Function.Framing
import DocQuery.Proofs.Run.Requested
import DocQuery.Proofs.Calendar.Texts
import DocQuery.Proofs.Function.Extremes
import DocQuery.Proofs.Function.Moments
import DocQuery.Proofs.Run.Adding
import DocQuery.Proofs.Plan.Nesting
import DocQuery.Proofs.Plan.Continuing
import DocQuery.Proofs.Function.Delimiters
import DocQuery.Proofs.Function.Places
import DocQuery.Proofs.Function.Lengths
import DocQuery.Proofs.Condition.Pushing
