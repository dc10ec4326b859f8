import JsonExpr.Interpreter
import JsonExpr.Proofs.FrameLaw
import JsonExpr.Proofs.Reading
import JsonExpr.Proofs.Spelling
import JsonExpr.Proofs.RoundTrip
import JsonExpr.Proofs.Expansion
import JsonExpr.Proofs.Moment
import JsonExpr.Proofs.Limited
import JsonExpr.Proofs.CallDepth
import JsonExpr.Proofs.Registry
import JsonExpr.Proofs.Loading
import JsonExpr.Proofs.ModuleRegistry
import JsonExpr.Proofs.Builtins
import JsonExpr.Proofs.Termination
import JsonExpr.Proofs.Simulation
import JsonExpr.Proofs.LexicalScope
import JsonExpr.Proofs.LoadHistory
import JsonExpr.Proofs.ModuleExports
import JsonExpr.Proofs.Grammar
import JsonExpr.Proofs.RaisedLimits
import JsonExpr.Proofs.Incremental
import JsonExpr.Proofs.ExpandedText
import JsonExpr.Proofs.RawSubstitution
import JsonExpr.Proofs.ExportOrigin
import JsonExpr.Proofs.Failure
import JsonExpr.Proofs.Phases
import JsonExpr.Proofs.CallLimit
import JsonExpr.Proofs.WellFormed
import JsonExpr.Proofs.Invocation
import JsonExpr.Proofs.Equality
import JsonExpr.Proofs.Pointer
import JsonExpr.Proofs.Refusal
import JsonExpr.Proofs.DeclaredTypes
import JsonExpr.Proofs.ScopeHistory
import JsonExpr.Proofs.Parameters
