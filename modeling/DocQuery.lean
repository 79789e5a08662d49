import DocQuery.Answer
import DocQuery.Builtin
import DocQuery.Builtin.Basic
import DocQuery.Builtin.Choice
import DocQuery.Builtin.Construct
import DocQuery.Builtin.Contain
import DocQuery.Builtin.Date
import DocQuery.Builtin.List
import DocQuery.Builtin.Number
import DocQuery.Builtin.Text
import DocQuery.Calendar.Date
import DocQuery.Calendar.Day
import DocQuery.Calendar.Literal
import DocQuery.Calendar.Pattern.Basic
import DocQuery.Calendar.Pattern.Read
import DocQuery.Calendar.Pattern.Show
import DocQuery.Command
import DocQuery.Corpus
import DocQuery.Corpus.Document
import DocQuery.Corpus.Read
import DocQuery.Decimal
import DocQuery.Duration.Basic
import DocQuery.Duration.Text
import DocQuery.Engine
import DocQuery.Eval.Context
import DocQuery.Eval.Error
import DocQuery.Eval.Function
import DocQuery.Eval.Index
import DocQuery.Eval.Operators
import DocQuery.Eval.Operators.Standard
import DocQuery.Eval.Scope
import DocQuery.Expr.Basic
import DocQuery.Expr.Outline
import DocQuery.Expr.Read
import DocQuery.Json.Basic
import DocQuery.Json.Read
import DocQuery.Json.Record
import DocQuery.Json.Write
import DocQuery.Keyed
import DocQuery.Link
import DocQuery.Main
import DocQuery.Manual
import DocQuery.Manual.Page
import DocQuery.Number.Arithmetic
import DocQuery.Number.Basic
import DocQuery.Number.Text
import DocQuery.Op
import DocQuery.Ordered
import DocQuery.Pattern.Bracket
import DocQuery.Pattern.CharSet
import DocQuery.Pattern.Class
import DocQuery.Pattern.Engine
import DocQuery.Pattern.Escape
import DocQuery.Pattern.Fault
import DocQuery.Pattern.Node
import DocQuery.Pattern.Program
import DocQuery.Pattern.Read
import DocQuery.Pattern.Search
import DocQuery.Pipeline
import DocQuery.Pipeline.Row
import DocQuery.Pipeline.Stage
import DocQuery.Query.Basic
import DocQuery.Query.Read
import DocQuery.Sequence
import DocQuery.Settings
import DocQuery.Settings.Read
import DocQuery.Text.Class
import DocQuery.Text.LetterCase
import DocQuery.Text.Quoted
import DocQuery.Text.Range
import DocQuery.Text.Slice
import DocQuery.Text.Table.Case
import DocQuery.Text.Table.Category
import DocQuery.Text.Table.Letters
import DocQuery.Text.Table.Script
import DocQuery.Token.Basic
import DocQuery.Token.Fault
import DocQuery.Token.Scan
import DocQuery.Value.Basic
import DocQuery.Value.Exchange
import DocQuery.Value.Order
import DocQuery.Value.Render
import DocQuery.Proofs.Ordering
import DocQuery.Proofs.Value.Order
import DocQuery.Proofs.Eval.Comparison
import DocQuery.Proofs.Pipeline.SortOrder
import DocQuery.Proofs.Keyed
import DocQuery.Proofs.Sequence
import DocQuery.Proofs.Pipeline.Run
import DocQuery.Proofs.Pipeline.Stage
import DocQuery.Proofs.Pipeline.Regroup
import DocQuery.Proofs.Pipeline.Nesting
import DocQuery.Proofs.Eval.Function
import DocQuery.Proofs.Eval.Variables
import DocQuery.Proofs.Expr.Grammar
import DocQuery.Proofs.Pipeline.Leaves
import DocQuery.Proofs.Expr.Written
import DocQuery.Proofs.Text.Class
import DocQuery.Proofs.Token.Scan
import DocQuery.Proofs.Token.Written
import DocQuery.Proofs.Expr.RoundTrip
import DocQuery.Proofs.Token.Cut
import DocQuery.Proofs.Query.Setting
import DocQuery.Proofs.Query.Moved
import DocQuery.Proofs.Query.Join
import DocQuery.Proofs.Ordered
import DocQuery.Proofs.Corpus.Coherence
import DocQuery.Proofs.Corpus.History
import DocQuery.Proofs.Corpus.Normalize
import DocQuery.Proofs.Corpus.Rows
import DocQuery.Proofs.Calendar.Day
import DocQuery.Proofs.Text.Slice
import DocQuery.Proofs.Calendar.Literal
import DocQuery.Proofs.Link
import DocQuery.Proofs.Number.Rounding
import DocQuery.Proofs.Number.Arithmetic
import DocQuery.Proofs.Json.Basic
import DocQuery.Proofs.Value.Exchange
import DocQuery.Proofs.Json.Read
import DocQuery.Proofs.Corpus.Links
import DocQuery.Proofs.Corpus.Select
import DocQuery.Proofs.Pipeline.Faults
import DocQuery.Proofs.Pipeline.Diagnostics
import DocQuery.Proofs.Sequence.Sort
import DocQuery.Proofs.Sequence.Partition
import DocQuery.Proofs.Pipeline.Ranking
import DocQuery.Proofs.Pipeline.Selection
import DocQuery.Proofs.Pipeline.Spread
import DocQuery.Proofs.Pipeline.SortLaws
import DocQuery.Proofs.Pipeline.Conjunction
import DocQuery.Proofs.Pipeline.Rearranged
import DocQuery.Proofs.Engine.View
import DocQuery.Proofs.Token.Local
import DocQuery.Proofs.Token.Tiling
import DocQuery.Proofs.Expr.Progress
import DocQuery.Proofs.Query.Progress
import DocQuery.Proofs.Query.Names
import DocQuery.Proofs.Pipeline.Partition
import DocQuery.Proofs.Query.Keyword
import DocQuery.Proofs.Eval.Index
import DocQuery.Proofs.Text.LowerCase
import DocQuery.Proofs.Corpus.Tags
import DocQuery.Proofs.Corpus.Names
import DocQuery.Proofs.Number.Whole
import DocQuery.Proofs.Duration.Literal
import DocQuery.Proofs.Duration.Split
import DocQuery.Proofs.Calendar.Elapsed
import DocQuery.Proofs.Duration.Difference
import DocQuery.Proofs.Calendar.Period
import DocQuery.Proofs.Calendar.Named
import DocQuery.Proofs.Text.FinalSigma
import DocQuery.Proofs.Builtin.Contain
import DocQuery.Proofs.Query.RowField
import DocQuery.Proofs.Builtin.Extreme
import DocQuery.Proofs.Number.Rank
import DocQuery.Proofs.Value.Equality
import DocQuery.Proofs.Text.AsciiCase
import DocQuery.Proofs.Token.Recased
import DocQuery.Proofs.Expr.Respelled
import DocQuery.Proofs.Eval.FunctionName
import DocQuery.Proofs.Number.Commutation
import DocQuery.Proofs.Eval.Commutation
import DocQuery.Proofs.Builtin.Size
import DocQuery.Proofs.Builtin.WholeMatch
import DocQuery.Proofs.Calendar.Form
import DocQuery.Proofs.Calendar.Grammar
import DocQuery.Proofs.Pattern.Language
import DocQuery.Proofs.Pattern.Plain
import DocQuery.Proofs.Pattern.Program
import DocQuery.Proofs.Pattern.Search
import DocQuery.Proofs.Builtin.Flatten
import DocQuery.Proofs.Eval.Registration
