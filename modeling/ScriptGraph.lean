import ScriptGraph.Command
import ScriptGraph.Compile
import ScriptGraph.Compiled
import ScriptGraph.Context
import ScriptGraph.Diagnostic
import ScriptGraph.Dict
import ScriptGraph.Graph.Basic
import ScriptGraph.Graph.Document
import ScriptGraph.Graph.Listing
import ScriptGraph.Graph.Literal
import ScriptGraph.Graph.Node
import ScriptGraph.Graph.Op
import ScriptGraph.Graph.Template
import ScriptGraph.Graph.Validation
import ScriptGraph.Graph.ValueType
import ScriptGraph.Graph.Wiring
import ScriptGraph.Json.Decode
import ScriptGraph.Json.Number
import ScriptGraph.Json.Reader
import ScriptGraph.Json.Value
import ScriptGraph.Json.Writer
import ScriptGraph.Lower.Call
import ScriptGraph.Lower.Class
import ScriptGraph.Lower.Expression
import ScriptGraph.Lower.State
import ScriptGraph.Lower.Statement
import ScriptGraph.Lower.Value
import ScriptGraph.Main
import ScriptGraph.Numeric.Binary
import ScriptGraph.Numeric.Float
import ScriptGraph.Numeric.Layout
import ScriptGraph.Numeric.Shortest
import ScriptGraph.Options
import ScriptGraph.Pattern.Arithmetic
import ScriptGraph.Pattern.BoundedList
import ScriptGraph.Pattern.Flow
import ScriptGraph.Pattern.Pointer
import ScriptGraph.Pattern.Quaternion
import ScriptGraph.Pattern.Space
import ScriptGraph.Pattern.Transform
import ScriptGraph.Pattern.Variable
import ScriptGraph.Proofs.Compile.Findings
import ScriptGraph.Proofs.Runtime.Builders
import ScriptGraph.Proofs.Runtime.Growth
import ScriptGraph.Proofs.Runtime.Loops
import ScriptGraph.Proofs.Wire.RoundTrip
import ScriptGraph.Source.Constant
import ScriptGraph.Source.Document
import ScriptGraph.Source.Host
import ScriptGraph.Source.Loop
import ScriptGraph.Source.Message
import ScriptGraph.Source.Names
import ScriptGraph.Source.Size
import ScriptGraph.Source.Syntax
import ScriptGraph.Targets
import ScriptGraph.Text.Hidden
import ScriptGraph.Text.Quoted
import ScriptGraph.Wire.Codec
import ScriptGraph.Wire.Compiled
import ScriptGraph.Proofs.Runtime.ListHistory
import ScriptGraph.Proofs.Construction.Appending
import ScriptGraph.Proofs.Construction.Sessions
import ScriptGraph.Proofs.Wire.Truncation
import ScriptGraph.Proofs.Pattern.Readings
import ScriptGraph.Proofs.Lower.Expressions
import ScriptGraph.Proofs.Pattern.InitialLists
import ScriptGraph.Proofs.Lower.Inlining
import ScriptGraph.Proofs.Lower.WrittenNames
import ScriptGraph.Proofs.Compile.InliningLimit
import ScriptGraph.Proofs.Compile.Parentheses
import ScriptGraph.Proofs.Compile.TickPorts
import ScriptGraph.Proofs.Validation.Clean
import ScriptGraph.Proofs.Validation.Cleared
import ScriptGraph.Proofs.Validation.TypeChain
import ScriptGraph.Proofs.Compile.SpaceConversion
import ScriptGraph.Proofs.Compile.Literals
import ScriptGraph.Proofs.Lower.Sequenced
import ScriptGraph.Proofs.Runtime.Assignments
import ScriptGraph.Proofs.Lower.Exits
import ScriptGraph.Proofs.Lower.LogMessages
import ScriptGraph.Proofs.Lower.LoopHeaders
import ScriptGraph.Proofs.Lower.Scopes.Statements
import ScriptGraph.Proofs.Rotation.Euler
import ScriptGraph.Proofs.Rotation.Readback
import ScriptGraph.Proofs.Source.Negations
import ScriptGraph.Proofs.Runtime.SteppedLoops
import ScriptGraph.Proofs.Runtime.WaitPatterns
import ScriptGraph.Proofs.Runtime.Insertions
import ScriptGraph.Proofs.Meaning.Classes
import ScriptGraph.Proofs.Meaning.Calls
