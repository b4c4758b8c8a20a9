import ScriptGraph.Lower.Statement

/-!
Lowering a class: its fields become variables and lists, its entry points become flows behind
events.
-/

namespace ScriptGraph

open Pattern Build

namespace Lower

/-- The initial elements of a list field. What is no constant is noted and left out; an element
too many ends them. -/
def fillList (field : String) (list : BoundedList) : List Expression → Lower Unit
  | [] => return ()
  | item :: items => do
    match item.constant? (some list.valueType) with
    | none =>
      unsupported ("initializer item of list '" ++ field ++ "' is not a constant")
      fillList field list items
    | some value =>
      match ← list.addInitial value with
      | .ok () => fillList field list items
      | .error problem => malformed problem.message

/-- A list field. -/
def declareList (field : Field) (element : HostType) : Lower Unit := do
  match element.valueType? with
  | none =>
    unsupported ("list field '" ++ field.name ++ "' has unsupported element type '" ++
      element.fullName ++ "'")
  | some type =>
    let capacity := field.capacity.getD (← get).context.options.defaultListCapacity
    let list ← BoundedList.new type capacity
    fillList field.name list ((field.initializer.map (·.children)).getD [])
    modify fun s => { s with lists := s.lists.insert field.name list }

/-- A field: a list, an object, which is looked up where it is used, or a variable. -/
def declareField (field : Field) : Lower Unit := do
  match field.fieldType.elementType? with
  | some element => declareList field element
  | none =>
    if field.fieldType.isObject then return ()
    else
      match field.fieldType.valueType? with
      | none =>
        unsupported ("field '" ++ field.name ++ "' has unsupported type '" ++
          field.fieldType.fullName ++ "'")
      | some type =>
        let initial := (field.initializer.bind (·.constant? (some type))).getD type.default
        let id ← declareVariable field.name (some initial) type
        modify fun s => { s with fields := s.fields.insert field.name id }

/-- The fields of a list, in order. -/
def declareAll : List Field → Lower Unit
  | [] => return ()
  | field :: fields => do
    declareField field
    declareAll fields

/-- All fields of a class. -/
def declareFields (c : ScriptClass) : Lower Unit := do
  setMethod c.name
  declareAll c.fields

/-- The values that an event carries for a method: its parameters of a known type. -/
def eventValues (method : Method) : List EventValue :=
  method.parameters.filterMap fun p =>
    p.paramType.storageType?.map fun type => { name := p.name, valueType := type }

/-- Names the parameters of a method after the outputs of the node that receives its event. -/
def bindParameters (receive : NodeId) : List Parameter → Dict ValueOut → Lower (Dict ValueOut)
  | [], bindings => return bindings
  | parameter :: parameters, bindings => do
    let output := receive.valueOut parameter.name
    if let some type := parameter.paramType.storageType? then
      expect output (.exact type)
    bindParameters receive parameters (bindings.insert parameter.name output)

/-- The flow that starts an entry point, and the parameters that come with it. -/
def openEntryPoint (method : Method) : Lower (FlowOut × Dict ValueOut) := do
  match method.name with
  | "Start" => return ((← createNode .eventOnStart).flowOut "out", Dict.empty)
  | "Update" => return (← tickFlow, Dict.empty)
  | name =>
    let event ← declareEvent name (eventValues method)
    let receive ← createNode .eventReceive
    configure receive "event" (.int (.ofNat event))
    let bindings ← bindParameters receive method.parameters Dict.empty
    return (receive.flowOut "out", bindings)

/-- The inliner with all the levels that the options allow. -/
def fullInliner (c : ScriptClass) : Lower Inliner :=
  return inliner c (← get).context.options.maxInlineDepth

/-- An entry point. -/
def lowerEntryPoint (c : ScriptClass) (method : Method) : Lower Exits := do
  setMethod method.name
  let (flow, bindings) ← openEntryPoint method
  let inliner ← fullInliner c
  withFrame { method := method.name, bindings } do
    let flow ← copyParameters (Statement.assignedNames method.body) false method.parameters flow
    lowerBlock c inliner [] method.body (.one flow)

/-- The entry points of a list that the class has, in order. Returns how many those are. -/
def lowerEntryPoints (c : ScriptClass) : List String → Lower Nat
  | [] => return 0
  | name :: names => do
    match c.method? name with
    | none => lowerEntryPoints c names
    | some method =>
      let _ ← lowerEntryPoint c method
      return (← lowerEntryPoints c names) + 1

/-- A whole class. It fails if the class has none of the entry points. -/
def lowerClass (c : ScriptClass) : Lower (Except CompileError Unit) := do
  declareFields c
  let entryPoints := (← get).context.options.entryPoints
  if (← lowerEntryPoints c entryPoints) = 0 then
    return .error (.noEntryPoints c.name entryPoints)
  else return .ok ()

end Lower

end ScriptGraph
