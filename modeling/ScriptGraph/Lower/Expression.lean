import ScriptGraph.Lower.Call

/-!
Lowering an expression to the value output that carries it. Expressions make value nodes only.
-/

namespace ScriptGraph

open Pattern Build

namespace Lower

/-- One expression, given how to lower smaller ones. -/
def expressionStep (c : ScriptClass) (inliner : Inliner) (active : List String) :
    (e : Expression) → Below e.size → Lower (Option ValueOut)
  | ⟨.parenthesized, _, _, _, _, _, _, inner :: _⟩, low => low inner (size_head_lt rfl)
  | e, low =>
    match e.kind with
    | .literal => lowerLiteral e
    | .identifier => lowerIdentifier c e
    | .this => return some (← objectLiteral .self)
    | .memberAccess => lowerMemberAccess e low
    | .methodInvocation => return (← lowerInvocation c inliner active e low none).value
    | .binary => lowerBinary e low
    | .unary | .prefixUnary => lowerUnary e low
    | .objectCreation => lowerConstruction e low
    | .elementAccess => lowerElement e low
    | .cast => lowerCast e low
    | .await =>
      match children : e.children with
      | [] => return none
      | inner :: _ => low inner (size_head_lt children)
    | .postfixUnary | .assignment | .parenthesized => do
      unsupported (e.kind.title ++ " used as a value")
      return none

/-- Lowers an expression; `none` if it has no value. -/
def lowerExpression (c : ScriptClass) (inliner : Inliner) (active : List String)
    (e : Expression) : Lower (Option ValueOut) :=
  expressionStep c inliner active e fun smaller _ => lowerExpression c inliner active smaller
termination_by e.size

/-- Lowers a call. -/
def lowerCall (c : ScriptClass) (inliner : Inliner) (active : List String) (e : Expression)
    (flow : Option FlowOut) : Lower Invocation :=
  lowerInvocation c inliner active e (fun smaller _ => lowerExpression c inliner active smaller) flow

/-- Lowers the value of a write. A call that has to be a step is put before it; the flow to go on
with comes with the value. -/
def lowerWithFlow (c : ScriptClass) (inliner : Inliner) (active : List String) (e : Expression)
    (flow : FlowOut) : Lower (Option ValueOut × FlowOut) := do
  let outer := e.unwrapped
  let call? := if outer.kind = .await then (outer.child? 0).map (·.unwrapped) else some outer
  match call? with
  | none => return (none, flow)
  | some call =>
    if call.kind = .methodInvocation && c.needsFlow call then
      let invocation ← lowerCall c inliner active call (some flow)
      return (invocation.value, invocation.flow.getD flow)
    else return (← lowerExpression c inliner active e, flow)

end Lower

end ScriptGraph
