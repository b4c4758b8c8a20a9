import ScriptGraph.Lower.State

/-!
What a step ensures of its result and of the state after it.
-/

namespace ScriptGraph

/-- Run from `s`, the step ends in a result and a state that satisfy the condition. -/
def Ensures {σ α : Type} (step : StateM σ α) (s : σ) (post : α → σ → Prop) : Prop :=
  post (step s).1 (step s).2

namespace Ensures

variable {σ α β : Type} {s : σ}

theorem bind {step : StateM σ α} {next : α → StateM σ β} {middle : α → σ → Prop}
    {post : β → σ → Prop} (first : Ensures step s middle)
    (second : ∀ a s', middle a s' → Ensures (next a) s' post) : Ensures (step >>= next) s post :=
  second _ _ first

theorem mono {step : StateM σ α} {post post' : α → σ → Prop} (ensures : Ensures step s post)
    (weaker : ∀ a s', post a s' → post' a s') : Ensures step s post' :=
  weaker _ _ ensures

theorem and {step : StateM σ α} {post post' : α → σ → Prop} (first : Ensures step s post)
    (second : Ensures step s post') : Ensures step s fun a s' => post a s' ∧ post' a s' :=
  ⟨first, second⟩

theorem map {step : StateM σ α} {f : α → β} {post : β → σ → Prop}
    (ensures : Ensures step s fun a s' => post (f a) s') : Ensures (f <$> step) s post :=
  ensures

theorem pure {a : α} {post : α → σ → Prop} (holds : post a s) :
    Ensures (Pure.pure a : StateM σ α) s post :=
  holds

/-- The state before a step. -/
theorem getBind {next : σ → StateM σ β} {post : β → σ → Prop} (holds : Ensures (next s) s post) :
    Ensures (get >>= next) s post :=
  holds

/-- A change of the state. -/
theorem modifyBind {f : σ → σ} {next : PUnit → StateM σ β} {post : β → σ → Prop}
    (holds : Ensures (next ⟨⟩) (f s) post) : Ensures (modify f >>= next) s post :=
  holds

/-- A step of construction as a step of lowering. -/
theorem lift {step : Build α} {s : Lowering} {post : α → Lowering → Prop}
    (ensures : Ensures step s.context fun a c => post a { s with context := c }) :
    Ensures (@liftM (StateT Context Id) (StateT Lowering Id) _ α step) s post :=
  ensures

/-- A step of construction, followed by further steps of lowering. -/
theorem liftBind {step : Build α} {next : α → Lower β} {s : Lowering} {middle : α → Context → Prop}
    {post : β → Lowering → Prop} (first : Ensures step s.context middle)
    (second : ∀ a c, middle a c → Ensures (next a) { s with context := c } post) :
    Ensures (@liftM (StateT Context Id) (StateT Lowering Id) _ α step >>= next) s post :=
  second _ _ first

section Lists

variable {c : Context} {l l' : Pattern.BoundedList} {post : β × Pattern.BoundedList → Context → Prop}

theorem listBind {step : Pattern.ListBuild α} {next : α → Pattern.ListBuild β}
    {middle : α × Pattern.BoundedList → Context → Prop} (first : Ensures (step.run l) c middle)
    (second : ∀ r c', middle r c' → Ensures ((next r.1).run r.2) c' post) :
    Ensures ((step >>= next).run l) c post :=
  second _ _ first

theorem listGet {next : Pattern.BoundedList → Pattern.ListBuild β}
    (holds : Ensures ((next l).run l) c post) : Ensures ((get >>= next).run l) c post :=
  holds

theorem listSet {next : PUnit → Pattern.ListBuild β} (holds : Ensures ((next ⟨⟩).run l') c post) :
    Ensures ((set l' >>= next).run l) c post :=
  holds

/-- A step of construction as a step on a list. -/
theorem listLift {step : Build α} {next : α → Pattern.ListBuild β} {middle : α → Context → Prop}
    (first : Ensures step c middle) (second : ∀ a c', middle a c' → Ensures ((next a).run l) c' post) :
    Ensures ((@liftM (StateT Context Id) (StateT Pattern.BoundedList Build) _ α step >>= next).run l) c post :=
  second _ _ first

theorem listPure {a : β} (holds : post (a, l) c) : Ensures ((Pure.pure a : Pattern.ListBuild β).run l) c post :=
  holds

end Lists

end Ensures

end ScriptGraph
