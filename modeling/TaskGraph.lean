import TaskGraph.Bounds
import TaskGraph.Cache.Index
import TaskGraph.Cache.Key
import TaskGraph.Cache.Sha256
import TaskGraph.CommandLine
import TaskGraph.Config.Driver
import TaskGraph.Config.Launcher
import TaskGraph.Decimal.Binary
import TaskGraph.Decimal.Layout
import TaskGraph.Decimal.Shortest
import TaskGraph.Error
import TaskGraph.Expr.Error
import TaskGraph.Expr.Eval
import TaskGraph.Expr.Functions
import TaskGraph.Expr.Lexer
import TaskGraph.Expr.Operators
import TaskGraph.Expr.Parser
import TaskGraph.Expr.Syntax
import TaskGraph.Expr.Token
import TaskGraph.Invoke.Basic
import TaskGraph.Invoke.Container
import TaskGraph.Invoke.Dag
import TaskGraph.Invoke.Execute
import TaskGraph.Invoke.Outputs
import TaskGraph.Invoke.Root
import TaskGraph.Json.Basic
import TaskGraph.Json.Codec
import TaskGraph.Json.Number
import TaskGraph.Json.Parser
import TaskGraph.Json.Printer
import TaskGraph.Json.Reader
import TaskGraph.Json.Skip
import TaskGraph.Main
import TaskGraph.Options
import TaskGraph.Parameter
import TaskGraph.Pattern.Basic
import TaskGraph.Pattern.Form
import TaskGraph.Pattern.Parser
import TaskGraph.Pattern.Size
import TaskGraph.Pattern.Tree
import TaskGraph.Placeholder
import TaskGraph.Plan
import TaskGraph.Pod.Extension
import TaskGraph.Pod.ModelCar
import TaskGraph.Pod.Patch
import TaskGraph.Pod.Quantity
import TaskGraph.Pod.Spec
import TaskGraph.Resolve.Inputs
import TaskGraph.Resolve.Producers
import TaskGraph.Service.Http
import TaskGraph.Service.MediaType
import TaskGraph.Service.Reply
import TaskGraph.Service.Request
import TaskGraph.Service.Template
import TaskGraph.SortedMap
import TaskGraph.Spec.Component
import TaskGraph.Spec.Container
import TaskGraph.Spec.ExecutorInput
import TaskGraph.Spec.Task
import TaskGraph.Spec.Types
import TaskGraph.Storage.Bucket
import TaskGraph.Storage.Session
import TaskGraph.Store.Basic
import TaskGraph.Store.Producer
import TaskGraph.Store.Record
import TaskGraph.Store.Registry
import TaskGraph.Text.Basic
import TaskGraph.Text.Float
import TaskGraph.Text.Integer
import TaskGraph.Text.Quoted
import TaskGraph.Unicode.Blank
import TaskGraph.Unicode.Fold
import TaskGraph.Unicode.Intervals
import TaskGraph.Unicode.Letter
import TaskGraph.Unicode.Printable
import TaskGraph.Unicode.Word
import TaskGraph.World
import TaskGraph.Yaml.Basic
import TaskGraph.Yaml.Cursor
import TaskGraph.Yaml.Parser
import TaskGraph.Yaml.Scalar
import TaskGraph.Yaml.Tag
import TaskGraph.Yaml.Token
import TaskGraph.Proofs.Plan
import TaskGraph.Proofs.Calls
import TaskGraph.Proofs.SortedMap
import TaskGraph.Proofs.Resolve.Visits
import TaskGraph.Proofs.Resolve.Reach
import TaskGraph.Proofs.Resolve.Descent
import TaskGraph.Proofs.Resolve.Scope
import TaskGraph.Proofs.Invoke.FanOut
import TaskGraph.Proofs.Json.Same
import TaskGraph.Proofs.Json.Strings
import TaskGraph.Proofs.Json.Text
import TaskGraph.Proofs.Cache.Identity
import TaskGraph.Proofs.Expr.Grammar
import TaskGraph.Proofs.Expr.Soundness
import TaskGraph.Proofs.Expr.Fuel
import TaskGraph.Proofs.Expr.Completeness
import TaskGraph.Proofs.Resolve.Collect
import TaskGraph.Proofs.Resolve.Reachable
import TaskGraph.Proofs.History
import TaskGraph.Proofs.Invoke.Container
import TaskGraph.Proofs.Invoke.Endings
import TaskGraph.Proofs.Invoke.Reuse
import TaskGraph.Proofs.Invoke.Creates
import TaskGraph.Proofs.Cache.Histories
import TaskGraph.Proofs.Growth
import TaskGraph.Proofs.Contexts
import TaskGraph.Proofs.Interleaving
import TaskGraph.Proofs.Resolve.Parameters
import TaskGraph.Proofs.Invoke.Failures
import TaskGraph.Proofs.Invoke.Roots
import TaskGraph.Proofs.Invoke.PassThrough
import TaskGraph.Proofs.Invoke.Ownership
import TaskGraph.Proofs.Cache.Influence
import TaskGraph.Proofs.Json.Codec
import TaskGraph.Proofs.Numbering
import TaskGraph.Proofs.Spec.Task
import TaskGraph.Proofs.Spec.Component
import TaskGraph.Proofs.Spec.ExecutorInput
import TaskGraph.Proofs.Invoke.Registration
import TaskGraph.Proofs.Resolve.Chains
import TaskGraph.Proofs.Resolve.Depth
import TaskGraph.Proofs.Resolve.Typing
import TaskGraph.Proofs.Resolve.Unset
import TaskGraph.Proofs.Expr.Lexing
import TaskGraph.Proofs.Expr.Written
import TaskGraph.Proofs.Resolve.Nulls
import TaskGraph.Proofs.Invoke.Atomic
import TaskGraph.Proofs.Invoke.Iterations
import TaskGraph.Proofs.Expr.Evaluation
import TaskGraph.Proofs.Expr.Integers
import TaskGraph.Proofs.Decimal.Value
import TaskGraph.Proofs.Decimal.Nearest
import TaskGraph.Proofs.Expr.Equality
import TaskGraph.Proofs.Expr.Comparison
import TaskGraph.Proofs.Expr.Conversion
import TaskGraph.Proofs.Placeholder
import TaskGraph.Proofs.Pod.ModelCar
import TaskGraph.Proofs.Pod.Patch
import TaskGraph.Proofs.Pod.Mounts
import TaskGraph.Proofs.Text
import TaskGraph.Proofs.Decimal.Shortest
import TaskGraph.Proofs.Pod.Quantity
import TaskGraph.Proofs.Pod.Amounts
import TaskGraph.Proofs.Pod.Resources
import TaskGraph.Proofs.Storage.Bucket
import TaskGraph.Proofs.Invoke.Outputs
import TaskGraph.Proofs.Storage.Session
import TaskGraph.Proofs.Service.Request
import TaskGraph.Proofs.Json.Reading
import TaskGraph.Proofs.Json.Canonical
import TaskGraph.Proofs.Expr.LexFaults
import TaskGraph.Proofs.Expr.Progress
