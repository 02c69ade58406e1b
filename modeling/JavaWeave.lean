import JavaWeave.Command
import JavaWeave.Decimal.Binary64
import JavaWeave.Decimal.Style
import JavaWeave.Diagnostic.Message
import JavaWeave.Diagnostic.Report
import JavaWeave.Generator.Compile
import JavaWeave.Generator.Completion
import JavaWeave.Generator.Lower
import JavaWeave.Generator.Machine
import JavaWeave.Generator.Optimize
import JavaWeave.Generator.Scope
import JavaWeave.Generator.Shape
import JavaWeave.Generator.Yield
import JavaWeave.Generator.Yielder
import JavaWeave.Handler.BoundSetter
import JavaWeave.Handler.Builder
import JavaWeave.Handler.Builder.Extensions
import JavaWeave.Handler.Builder.Fields
import JavaWeave.Handler.Builder.Steps
import JavaWeave.Handler.ConditionLock
import JavaWeave.Handler.DoPrivileged
import JavaWeave.Handler.Entrypoint
import JavaWeave.Handler.EnumId
import JavaWeave.Handler.FluentSetter
import JavaWeave.Handler.FunctionObject
import JavaWeave.Handler.ListenerSupport
import JavaWeave.Handler.Rethrow
import JavaWeave.Handler.Singleton
import JavaWeave.Handler.Standard
import JavaWeave.Handler.SwingInvoke
import JavaWeave.Interpreter.Call
import JavaWeave.Interpreter.Classes
import JavaWeave.Interpreter.Double
import JavaWeave.Interpreter.Expression
import JavaWeave.Interpreter.Fault
import JavaWeave.Interpreter.Frame
import JavaWeave.Interpreter.Library
import JavaWeave.Interpreter.LibraryObject
import JavaWeave.Interpreter.LibraryStatic
import JavaWeave.Interpreter.Number
import JavaWeave.Interpreter.Object
import JavaWeave.Interpreter.Perform
import JavaWeave.Interpreter.Request
import JavaWeave.Interpreter.Scope
import JavaWeave.Interpreter.Session
import JavaWeave.Interpreter.Snapshot
import JavaWeave.Interpreter.Statement
import JavaWeave.Interpreter.Text
import JavaWeave.Interpreter.Value
import JavaWeave.Interpreter.World
import JavaWeave.Json.Reader
import JavaWeave.Json.Value
import JavaWeave.Json.Writer
import JavaWeave.Layout.Literal
import JavaWeave.Layout.Page
import JavaWeave.Layout.Source
import JavaWeave.Main
import JavaWeave.Names
import JavaWeave.Options.Basic
import JavaWeave.Options.Json
import JavaWeave.Project.Files
import JavaWeave.Project.Output
import JavaWeave.Project.Path
import JavaWeave.Project.Program
import JavaWeave.Span
import JavaWeave.Syntax.Build
import JavaWeave.Syntax.Decode
import JavaWeave.Syntax.Encode
import JavaWeave.Syntax.Events
import JavaWeave.Syntax.JavaType
import JavaWeave.Syntax.Modifiers
import JavaWeave.Syntax.Node
import JavaWeave.Syntax.Operator
import JavaWeave.Syntax.Revision
import JavaWeave.Syntax.Tree
import JavaWeave.Text.Runs
import JavaWeave.Text.Identifier
import JavaWeave.Text.LetterCase
import JavaWeave.Text.Lowercase
import JavaWeave.Text.Search
import JavaWeave.Types.Library
import JavaWeave.Types.Table
import JavaWeave.Weave.Edit
import JavaWeave.Weave.Handler
import JavaWeave.Weave.Lowering
import JavaWeave.Weave.Member
import JavaWeave.Weave.Problem
import JavaWeave.Weave.Relocate
import JavaWeave.Weave.Session
import JavaWeave.Weave.Transform
import JavaWeave.Proofs.Generator.IteratorProtocol
import JavaWeave.Proofs.Weave.Commit
import JavaWeave.Proofs.Weave.Dispatch
import JavaWeave.Proofs.Weave.Idempotence
import JavaWeave.Proofs.Syntax.Lossless
import JavaWeave.Proofs.Syntax.Traversals
import JavaWeave.Proofs.Layout.Rereading
import JavaWeave.Proofs.Builder.Enforcement
import JavaWeave.Proofs.Builder.Faithful
import JavaWeave.Proofs.Project.Order
import JavaWeave.Proofs.Interpreter.Answering
import JavaWeave.Proofs.Project.Outputs
import JavaWeave.Proofs.Generator.Completion
import JavaWeave.Proofs.Weave.Refusal
import JavaWeave.Proofs.Interpreter.Initializing
import JavaWeave.Proofs.Interpreter.Locking
import JavaWeave.Proofs.Generator.HandlerTable
import JavaWeave.Proofs.Generator.Routes
import JavaWeave.Proofs.Generator.Binding
import JavaWeave.Proofs.Generator.Closed
import JavaWeave.Proofs.Generator.Transitions
import JavaWeave.Proofs.Layout.DefaultReturns
import JavaWeave.Proofs.Layout.Quotation
import JavaWeave.Proofs.Layout.TypeText
import JavaWeave.Proofs.Layout.Nesting
import JavaWeave.Proofs.Layout.Operands
import JavaWeave.Proofs.Syntax.Shell
import JavaWeave.Proofs.Weave.Fragments
import JavaWeave.Proofs.Builder.Clashes
import JavaWeave.Proofs.Builder.Assignments
import JavaWeave.Proofs.Builder.Reset
import JavaWeave.Proofs.Handler.RethrowMessage
import JavaWeave.Proofs.Handler.LockFields
import JavaWeave.Proofs.Handler.PropertyConstants
import JavaWeave.Proofs.Types.Subtyping
import JavaWeave.Proofs.Weave.Returning
import JavaWeave.Proofs.Handler.Privileged
import JavaWeave.Proofs.Handler.EnumLookup
import JavaWeave.Proofs.Handler.ListenerMethods
import JavaWeave.Proofs.Text.Filling
import JavaWeave.Proofs.Interpreter.PlainAssignment
import JavaWeave.Proofs.Generator.Aliases
import JavaWeave.Proofs.Names.Freshness
