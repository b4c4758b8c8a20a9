import Mathlib
import ScriptGraph.Proofs.Space.Primitives

/-!
The patterns keep pace.

What a pattern is given plays the same part in both runs, and so does what it hands out. Inputs that a pattern hands
out may be fed through flips: in the converting run the input of the flip is handed out in place of the node's own.
-/

namespace ScriptGraph.Pattern

open Build

variable {p : Pairing} {a a' b b' : ValueOut}

section Arithmetic

theorem tracks_unary (op : Op) (first : Pair p a a') : Tracks p (unary op a) (unary op a') :=
  .bind (tracks_createNode op) fun _ _ _ _ node =>
    .andThen (tracks_connect (node.valueIn "a") first.lift) fun _ _ => .pure (node.lift.valueOut "value")

theorem tracks_binary (op : Op) (first : Pair p a a') (second : Pair p b b') :
    Tracks p (binary op a b) (binary op a' b') :=
  .bind (tracks_createNode op) fun _ _ _ _ node =>
    .andThen (tracks_connect (node.valueIn "a") first.lift) fun _ _ =>
    .andThen (tracks_connect (node.lift.valueIn "b") second.lift) fun _ _ => .pure (node.lift.valueOut "value")

theorem tracks_binaryLiteral (op : Op) (first : Pair p a a') (second : Literal) :
    Tracks p (binaryLiteral op a second) (binaryLiteral op a' second) :=
  .bind (tracks_createNode op) fun _ _ _ _ node =>
    .andThen (tracks_connect (node.valueIn "a") first.lift) fun _ _ =>
    .andThen (tracks_setLiteral (node.lift.valueIn "b") second) fun _ _ => .pure (node.lift.valueOut "value")

theorem tracks_select {condition condition' : ValueOut} (chosen : Pair p condition condition') (first : Pair p a a')
    (second : Pair p b b') : Tracks p (select condition a b) (select condition' a' b') :=
  .bind (tracks_createNode .mathSelect) fun _ _ _ _ node =>
    .andThen (tracks_connect (node.valueIn "condition") chosen.lift) fun _ _ =>
    .andThen (tracks_connect (node.lift.valueIn "a") first.lift) fun _ _ =>
    .andThen (tracks_connect (node.lift.valueIn "b") second.lift) fun _ _ => .pure (node.lift.valueOut "value")

theorem tracks_connectAll {id id' : NodeId} (node : Pair p id id') (sockets : List String)
    {parts parts' : List ValueOut} (pairs : Pair p parts parts') :
    Tracks p (connectAll id sockets parts) (connectAll id' sockets parts') := by
  induction sockets generalizing p parts parts' with
  | nil => exact .pure rfl
  | cons socket sockets ih =>
    cases pairs with
    | nil => exact .pure rfl
    | @cons part part' parts parts' first rest =>
      have rest : Pair p parts parts' := rest
      exact .andThen (tracks_connect (node.valueIn socket) first) fun _ _ => ih node.lift rest.lift

theorem tracks_combine? {parts parts' : List ValueOut} (pairs : Pair p parts parts') :
    Tracks p (combine? parts) (combine? parts') := by
  have length : parts'.length = parts.length := (List.Forall₂.length_eq pairs).symm
  unfold combine?
  rw [length]
  dsimp only
  split
  · exact .pure .none
  · next op _ =>
    exact .bind (tracks_createNode op) fun _ _ _ _ node =>
      .andThen (tracks_connectAll node componentSockets pairs.lift) fun _ _ =>
      .pure (.some (node.lift.valueOut "value"))

theorem tracks_extract? {vector vector' : ValueOut} (pair : Pair p vector vector') (count : Nat) :
    Tracks p (extract? vector count) (extract? vector' count) := by
  unfold extract?
  dsimp only
  split
  · exact .pure .none
  · next op _ =>
    refine .bind (tracks_createNode op) fun _ _ _ _ node =>
      .andThen (tracks_connect (node.valueIn "a") pair.lift) fun q _ => .pure (.some ?_)
    exact List.forall₂_map_left_iff.2 (List.forall₂_map_right_iff.2
      (List.forall₂_same.2 fun i _ => (node.lift : Pair q _ _).valueOut (toString i)))

theorem tracks_extract3 {vector vector' : ValueOut} (pair : Pair p vector vector') :
    Tracks p (extract3 vector) (extract3 vector') :=
  .bind (tracks_createNode .mathExtract3) fun _ _ _ _ node =>
    .andThen (tracks_connect (node.valueIn "a") pair.lift) fun _ _ =>
    .pure ⟨node.lift.valueOut "0", node.lift.valueOut "1", node.lift.valueOut "2"⟩

theorem tracks_combine4 {c c' d d' : ValueOut} (first : Pair p a a') (second : Pair p b b') (third : Pair p c c')
    (fourth : Pair p d d') : Tracks p (combine4 a b c d) (combine4 a' b' c' d') :=
  .bind (tracks_createNode .mathCombine4) fun _ _ _ _ node =>
    .andThen (tracks_connectAll node componentSockets
      (.cons first.lift (.cons second.lift (.cons third.lift (.cons fourth.lift .nil))))) fun _ _ =>
    .pure (node.lift.valueOut "value")

end Arithmetic

section Rotations

theorem tracks_invert (rotation : Pair p a a') : Tracks p (invert a) (invert a') :=
  tracks_binaryLiteral .mathMul rotation conjugateFlip

theorem tracks_multiply (first : Pair p a a') (second : Pair p b b') : Tracks p (multiply a b) (multiply a' b') :=
  tracks_binary .mathQuatMul first second

theorem tracks_fromEulerRadians (euler : Pair p a a') : Tracks p (fromEulerRadians a) (fromEulerRadians a') := by
  refine .bind (tracks_binaryLiteral .mathMul euler _) fun _ _ _ _ halved => ?_
  refine .bind (tracks_unary .mathSin halved) fun _ _ _ _ sin => .bind (tracks_unary .mathCos halved.lift) ?_
  intro _ cosine cosine' _ cos
  refine .bind (tracks_extract3 sin.lift) ?_
  rintro _ ⟨sx, sy, sz⟩ ⟨sx', sy', sz'⟩ _ ⟨sx, sy, sz⟩
  refine .bind (tracks_extract3 cos.lift) ?_
  rintro _ ⟨cx, cy, cz⟩ ⟨cx', cy', cz'⟩ _ ⟨cx, cy, cz⟩
  refine .bind (tracks_combine4 sx.lift cx cx cx) fun _ _ _ _ a0 => ?_
  refine .bind (tracks_combine4 cy.lift sy.lift cy.lift cy.lift) fun _ _ _ _ a1 => ?_
  refine .bind (tracks_combine4 cz.lift cz.lift sz.lift cz.lift) fun _ _ _ _ a2 => ?_
  refine .bind (tracks_combine4 cx.lift sx.lift sx.lift sx.lift) fun _ _ _ _ b0 => ?_
  refine .bind (tracks_combine4 sy.lift cy.lift sy.lift sy.lift) fun _ _ _ _ b1 => ?_
  refine .bind (tracks_combine4 sz.lift sz.lift cz.lift sz.lift) fun _ _ _ _ b2 => ?_
  refine .bind (tracks_binary .mathMul a0.lift a1.lift) fun _ _ _ _ a01 => ?_
  refine .bind (tracks_binary .mathMul a01 a2.lift) fun _ _ _ _ aTerm => ?_
  refine .bind (tracks_binary .mathMul b0.lift b1.lift) fun _ _ _ _ b01 => ?_
  refine .bind (tracks_binary .mathMul b01 b2.lift) fun _ _ _ _ b012 => ?_
  exact .bind (tracks_binaryLiteral .mathMul b012 _) fun _ _ _ _ bTerm => tracks_binary .mathAdd aTerm.lift bTerm

theorem tracks_fromEulerDegrees (euler : Pair p a a') : Tracks p (fromEulerDegrees a) (fromEulerDegrees a') :=
  .bind (tracks_unary .mathRad euler) fun _ _ _ _ radians => tracks_fromEulerRadians radians

end Rotations

section Variables

theorem tracks_getVariable (id : Nat) : Tracks p (getVariable id) (getVariable id) := by
  refine .bind (tracks_createNode .variableGet) fun _ _ _ _ node =>
    .andThen (tracks_configure node "variable" _) fun _ _ => .bind .read fun _ c c' _ shares => ?_
  have vars : c'.graph.vars = c.graph.vars := Context.Shares.vars shares
  rw [vars]
  cases c.graph.vars[id]? with
  | none => exact .pure (node.lift.valueOut "value")
  | some v =>
    exact .andThen (tracks_expect node.lift "value" _) fun _ _ => .pure (node.lift.valueOut "value")

theorem tracks_setVariable (id : Nat) : Tracks p (setVariable id) (setVariable id) :=
  .bind (tracks_createNode .variableSet) fun _ _ _ _ node =>
    .andThen (tracks_configure node "variable" _) fun _ _ =>
    .pure ⟨node.lift, node.lift.valueIn "value", node.lift.flowIn "in", node.lift.flowOut "out"⟩

theorem tracks_setVariableFrom (id : Nat) (value : Pair p a a') :
    Tracks p (setVariableFrom id a) (setVariableFrom id a') := by
  refine .bind (tracks_setVariable id) fun _ s s' _ set => ?_
  exact .andThen (tracks_connect set.2.1 value.lift) fun _ _ => .pure (Pair.lift set)

theorem tracks_setVariableStatic (id : Nat) (value : Literal) :
    Tracks p (setVariableStatic id value) (setVariableStatic id value) := by
  refine .bind (tracks_setVariable id) fun _ s s' _ set => ?_
  exact .andThen (tracks_setLiteral set.2.1 value) fun _ _ => .pure (Pair.lift set)

end Variables

section Pointers

variable {id id' : NodeId}

theorem tracks_restrict (node : Pair p id id') (socket : String) (r : TypeRestriction) :
    Tracks p (restrict (id.valueIn socket) r) (restrict (id'.valueIn socket) r) :=
  (stays_restrict node socket r).forget

theorem tracks_restrictTokens (node : Pair p id id') (names : List String) :
    Tracks p (restrictTokens id names) (restrictTokens id' names) := by
  induction names generalizing p with
  | nil => exact .pure rfl
  | cons name names ih => exact .andThen (tracks_restrict node name _) fun _ _ => ih node.lift

theorem tracks_configurePointer (node : Pair p id id') (template : String) (type : ValueType) :
    Tracks p (configurePointer id template type) (configurePointer id' template type) :=
  .andThen (tracks_configure node "pointer" _) fun _ _ =>
    .andThen (tracks_configure node.lift "type" _) fun _ _ => tracks_restrictTokens node.lift _

theorem tracks_pointerGet (template : String) (type : ValueType) :
    Tracks p (pointerGet template type) (pointerGet template type) :=
  .bind (tracks_createNode .pointerGet) fun _ _ _ _ node =>
    .andThen (tracks_configurePointer node template type) fun _ _ =>
    .andThen (tracks_expect node.lift "value" _) fun _ _ =>
    .pure ⟨node.lift, node.lift.valueIn Pointer.nodeIndex, .kept node.lift "value", .kept node.lift "isValid"⟩

theorem tracks_pointerSet (template : String) (type : ValueType) :
    Tracks p (pointerSet template type) (pointerSet template type) :=
  .bind (tracks_createNode .pointerSet) fun _ _ _ _ node =>
    .andThen (tracks_configurePointer node template type) fun _ _ =>
    .andThen (tracks_restrict node.lift "value" _) fun _ _ =>
    .pure ⟨node.lift, node.lift.valueIn Pointer.nodeIndex, node.lift.valueIn "value", node.lift.flowIn "in",
      node.lift.flowOut "out"⟩

end Pointers

section Sinks

variable {α : Type} {r : Pairing → α → α → Prop} {sink : Option String} {id id' : NodeId}

theorem stays_restrictTokens (keeps : p.Keeps sink id id') (names : List String) :
    Abreast p p.Stays (restrictTokens id names) (restrictTokens id' names) := by
  induction names generalizing p with
  | nil => exact .pure (.inl rfl)
  | cons name names ih =>
    refine .follow (stays_restrict keeps name _) (fun _ => .inr rfl) fun _ _ _ le stays => ?_
    exact (ih (keeps.mono le.le)).weaken fun _ _ _ _ stays' => stays.trans stays'

theorem stays_configurePointer (keeps : p.Keeps sink id id') (template : String) (type : ValueType) :
    Abreast p p.Stays (configurePointer id template type) (configurePointer id' template type) := by
  refine .follow (stays_configure keeps "pointer" _) (fun _ => .inr rfl) fun _ _ _ le stays => ?_
  refine .follow (stays_configure (keeps.mono le.le) "type" _) (fun _ => .inr rfl) fun _ _ _ le' stays' => ?_
  refine (stays_restrictTokens (keeps.mono (le.le.trans le'.le)) _).weaken fun _ _ _ _ stays'' => ?_
  exact (stays.trans stays').trans stays''

/-- A write through a path whose value is to be fed through a flip. -/
theorem abreast_pointerSink (template : String) (type : ValueType) {f g : PointerSet → Build α}
    (second : ∀ p' id id', p.Next p' → p'.Unfed "value" id id' → Abreast p' r
      (f { node := id, target := id.valueIn Pointer.nodeIndex, value := id.valueIn "value",
           flowIn := id.flowIn "in", flowOut := id.flowOut "out" })
      (g { node := id', target := id'.valueIn Pointer.nodeIndex, value := id'.valueIn "value",
           flowIn := id'.flowIn "in", flowOut := id'.flowOut "out" })) :
    Abreast p r (pointerSet template type >>= f) (pointerSet template type >>= g) := by
  unfold pointerSet
  simp only [bind_assoc, pure_bind]
  refine .follow (abreast_createSink .pointerSet "value" (by decide)) (fun _ => .refl _) fun p₁ id id' le₁ unfed => ?_
  refine .follow (stays_configurePointer unfed.1 template type) (fun _ => .inr rfl) fun p₂ _ _ le₂ stays => ?_
  have unfed := unfed.stays stays
  refine .follow (stays_restrict unfed.1 "value" _) (fun _ => .inr rfl) fun p₃ _ _ le₃ stays' => ?_
  exact second p₃ id id' ⟨inferInstance⟩ (unfed.stays stays')

end Sinks

section Properties

theorem tracks_localPositionGet : Tracks p localPositionGet localPositionGet := by
  refine .bind (tracks_pointerGet Pointer.position .float3) fun _ _ _ _ read => ?_
  exact .bind (tracks_convert (.inl rfl) read.2.2.1) fun _ _ _ _ converted => .pure ⟨read.2.1.lift, converted⟩

theorem tracks_localRotationGet : Tracks p localRotationGet localRotationGet := by
  refine .bind (tracks_pointerGet Pointer.rotation .float4) fun _ _ _ _ read => ?_
  exact .bind (tracks_convert (.inr rfl) read.2.2.1) fun _ _ _ _ converted => .pure ⟨read.2.1.lift, converted⟩

theorem tracks_localScaleGet : Tracks p localScaleGet localScaleGet :=
  .bind (tracks_pointerGet Pointer.scale .float3) fun _ _ _ _ read => .pure ⟨read.2.1, read.2.2.1.output⟩

/-- A write through a path whose value is fed through a flip. -/
theorem tracks_flippedSet {factor : Literal} (signs : factor = positionFlip ∨ factor = rotationFlip) (template : String)
    (type : ValueType) :
    Tracks p (do let s ← pointerSet template type; return { s.toProperty with value := ← convertInto factor s.value })
      (do let s ← pointerSet template type; return { s.toProperty with value := ← convertInto factor s.value }) := by
  refine abreast_pointerSink template type fun p₁ id id' _ unfed => ?_
  refine .bind (tracks_convertInto signs unfed) fun p₂ _ _ le into => ?_
  have keeps := unfed.1.mono le.le
  exact .pure ⟨keeps.valueIn Pointer.nodeIndex (by decide), into, keeps.flowIn "in", keeps.flowOut "out"⟩

theorem tracks_localPositionSet : Tracks p localPositionSet localPositionSet :=
  tracks_flippedSet (.inl rfl) Pointer.position .float3

theorem tracks_localRotationSet : Tracks p localRotationSet localRotationSet :=
  tracks_flippedSet (.inr rfl) Pointer.rotation .float4

theorem tracks_localScaleSet : Tracks p localScaleSet localScaleSet :=
  .bind (tracks_pointerSet Pointer.scale .float3) fun _ _ _ _ write => .pure write.2

theorem tracks_worldMatrix : Tracks p worldMatrix worldMatrix :=
  .bind (tracks_pointerGet Pointer.globalMatrix .float4x4) fun _ _ _ _ read =>
    .bind (tracks_createNode .mathMatDecompose) fun _ _ _ _ parts =>
    .andThen (tracks_connect (parts.valueIn "a") (read.2.2.1.output.mono inferInstance)) fun _ _ =>
    .pure ⟨Pair.lift read, parts.lift⟩

theorem tracks_worldPositionGet : Tracks p worldPositionGet worldPositionGet := by
  refine .bind tracks_worldMatrix ?_
  rintro _ ⟨matrix, parts⟩ ⟨matrix', parts'⟩ _ ⟨matrix, parts⟩
  exact .bind (tracks_convert (.inl rfl) (.kept parts "translation")) fun _ _ _ _ converted =>
    .pure ⟨matrix.2.1.lift, converted⟩

theorem tracks_worldRotationGet : Tracks p worldRotationGet worldRotationGet := by
  refine .bind tracks_worldMatrix ?_
  rintro _ ⟨matrix, parts⟩ ⟨matrix', parts'⟩ _ ⟨matrix, parts⟩
  exact .bind (tracks_convert (.inr rfl) (.kept parts "rotation")) fun _ _ _ _ converted =>
    .pure ⟨matrix.2.1.lift, converted⟩

theorem tracks_worldScaleGet : Tracks p worldScaleGet worldScaleGet := by
  refine .bind tracks_worldMatrix ?_
  rintro _ ⟨matrix, parts⟩ ⟨matrix', parts'⟩ _ ⟨matrix, parts⟩
  exact .pure ⟨matrix.2.1, parts.valueOut "scale"⟩

theorem tracks_connectThree {sink : Option String} {combined combined' split split' : NodeId}
    (node : Pair p combined combined') (keeps : p.Keeps sink split split') :
    Tracks p (connectThree combined split) (connectThree combined' split') :=
  tracks_connectAll node _
    (.cons (keeps.valueOut "0") (.cons (keeps.valueOut "1") (.cons (keeps.valueOut "2") .nil)))

theorem tracks_worldPositionSet : Tracks p worldPositionSet worldPositionSet := by
  refine .bind (tracks_pointerGet Pointer.globalMatrix .float4x4) fun p₁ _ _ _ world => ?_
  refine .bind (tracks_pointerGet Pointer.matrix .float4x4) fun p₂ _ _ _ own => ?_
  refine .bind (tracks_pointerSet Pointer.position .float3) fun p₃ _ _ _ write => ?_
  refine .bind (tracks_unary .mathInverse (own.2.2.1.output.mono inferInstance)) fun p₄ _ _ _ ownInverse => ?_
  refine .bind (tracks_binary .mathMatMul (world.2.2.1.output.mono inferInstance) ownInverse) fun p₅ _ _ _ parent => ?_
  refine .bind (tracks_unary .mathInverse parent) fun p₆ _ _ _ parentInverse => ?_
  refine .follow (abreast_createSink .mathExtract3 "a" (by decide)) (fun _ => .refl _) fun p₇ _ _ _ split => ?_
  refine .bind (tracks_convertInto (.inl rfl) split) fun p₈ _ _ _ value => ?_
  refine .bind (tracks_createNode .mathCombine4) fun p₉ _ _ _ point => ?_
  refine .andThen (tracks_connectThree point (split.1.mono inferInstance)) fun p₁₀ _ => ?_
  refine .andThen (tracks_setLiteral (point.lift.valueIn "d") _) fun p₁₁ _ => ?_
  refine .bind (tracks_createNode .mathTransform) fun p₁₂ _ _ _ transformed => ?_
  refine .andThen (tracks_connect (transformed.valueIn "a") parentInverse.lift) fun p₁₃ _ => ?_
  refine .andThen (tracks_connect (transformed.lift.valueIn "b") (point.lift.valueOut "value")) fun p₁₄ _ => ?_
  refine .bind (tracks_createNode .mathExtract4) fun p₁₅ _ _ _ localPoint => ?_
  refine .andThen (tracks_connect (localPoint.valueIn "a") (transformed.lift.valueOut "value")) fun p₁₆ _ => ?_
  refine .bind (tracks_createNode .mathCombine3) fun p₁₇ _ _ _ moved => ?_
  refine .andThen (tracks_connectThree moved localPoint.lift) fun p₁₈ _ => ?_
  refine .andThen (tracks_connect write.2.2.1.lift (moved.lift.valueOut "value")) fun p₁₉ _ => .returns fun sound => ?_
  exact ⟨pairs_link sound (.cons world.2.1.lift (.cons own.2.1.lift (.cons write.2.1.lift .nil))), value.lift,
    write.2.2.2.1.lift, write.2.2.2.2.lift⟩

theorem tracks_worldRotationSet : Tracks p worldRotationSet worldRotationSet := by
  refine .bind tracks_worldMatrix ?_
  rintro p₁ ⟨matrix, parts⟩ ⟨matrix', parts'⟩ _ ⟨matrix, parts⟩
  refine .bind (tracks_pointerGet Pointer.rotation .float4) fun p₂ _ _ _ own => ?_
  refine .bind (tracks_pointerSet Pointer.rotation .float4) fun p₃ _ _ _ write => ?_
  refine .bind (tracks_invert (own.2.2.1.output.mono inferInstance)) fun p₄ _ _ _ ownInverse => ?_
  refine .bind (tracks_multiply (parts.lift.valueOut "rotation") ownInverse) fun p₅ _ _ _ parent => ?_
  refine .bind (tracks_invert parent) fun p₆ _ _ _ parentInverse => ?_
  refine .follow (abreast_createSink .mathQuatMul "b" (by decide)) (fun _ => .refl _) fun p₇ _ _ _ product => ?_
  -- The flip comes last, so the product has no flip while it is wired.
  refine .follow (stays_connect (product.1.valueIn "a" (by decide)) parentInverse.lift) (fun _ => .inr rfl)
    fun p₈ _ _ _ stays => ?_
  have product := product.stays stays
  refine .follow (stays_connect write.2.2.1.lift (product.1.valueOut "value")) (fun _ => .inr rfl)
    fun p₉ _ _ _ stays' => ?_
  refine .bind (tracks_convertInto (.inr rfl) (product.stays stays')) fun p₁₀ _ _ _ value => .returns fun sound => ?_
  exact ⟨pairs_link sound (.cons matrix.2.1.lift (.cons own.2.1.lift (.cons write.2.1.lift .nil))), value,
    write.2.2.2.1.lift, write.2.2.2.2.lift⟩

theorem tracks_activeSet : Tracks p activeSet activeSet := by
  refine .bind (tracks_pointerSet Pointer.visible .bool) fun p₁ _ _ _ visible => ?_
  refine .bind (tracks_pointerSet Pointer.selectable .bool) fun p₂ _ _ _ selectable => ?_
  refine .andThen (tracks_connectFlow visible.2.2.2.2.lift selectable.2.2.2.1) fun p₃ _ => .returns fun sound => ?_
  exact ⟨pairs_link sound (.cons visible.2.1.lift (.cons selectable.2.1.lift .nil)),
    pairs_link sound (.cons visible.2.2.1.lift (.cons selectable.2.2.1.lift .nil)), visible.2.2.2.1.lift,
    selectable.2.2.2.2.lift⟩

end Properties

section Actions

theorem tracks_translate (offset : Pair p a a') : Tracks p (translate a) (translate a') := by
  refine .bind tracks_localPositionGet fun p₁ _ _ _ current => .bind tracks_localPositionSet fun p₂ _ _ _ write => ?_
  refine .bind (tracks_binary .mathAdd current.2.lift offset.lift) fun p₃ _ _ _ moved => ?_
  refine .andThen (tracks_connect write.2.1.lift moved) fun p₄ _ => .returns fun sound => ?_
  exact ⟨pairs_link sound (.cons current.1.lift (.cons write.1.lift .nil)), write.2.2.1.lift, write.2.2.2.lift⟩

theorem tracks_rotate (rotation : Pair p a a') : Tracks p (rotate a) (rotate a') := by
  refine .bind tracks_localRotationGet fun p₁ _ _ _ current => .bind tracks_localRotationSet fun p₂ _ _ _ write => ?_
  refine .bind (tracks_multiply current.2.lift rotation.lift) fun p₃ _ _ _ rotated => ?_
  refine .andThen (tracks_connect write.2.1.lift rotated) fun p₄ _ => .returns fun sound => ?_
  exact ⟨pairs_link sound (.cons current.1.lift (.cons write.1.lift .nil)), write.2.2.1.lift, write.2.2.2.lift⟩

theorem tracks_lookAt (point : Pair p a a') : Tracks p (lookAt a) (lookAt a') := by
  refine .bind tracks_worldPositionGet fun p₁ _ _ _ position => .bind tracks_worldRotationSet fun p₂ _ _ _ write => ?_
  refine .bind (tracks_binary .mathSub point.lift position.2.lift) fun p₃ _ _ _ direction => ?_
  refine .bind (tracks_extract3 direction) ?_
  rintro p₄ ⟨dx, dy, dz⟩ ⟨dx', dy', dz'⟩ _ ⟨dx, dy, dz⟩
  refine .bind (tracks_binary .mathAtan2 dx dz) fun p₅ _ _ _ yaw => ?_
  refine .bind (tracks_createNode .mathCombine2) fun p₆ _ _ _ horizontal => ?_
  refine .andThen (tracks_connect (horizontal.valueIn "a") dx.lift) fun p₇ _ => ?_
  refine .andThen (tracks_connect (horizontal.lift.valueIn "b") dz.lift) fun p₈ _ => ?_
  refine .bind (tracks_unary .mathLength (horizontal.lift.valueOut "value")) fun p₉ _ _ _ ground => ?_
  refine .bind (tracks_binary .mathAtan2 dy.lift ground) fun p₁₀ _ _ _ rise => ?_
  refine .bind (tracks_binaryLiteral .mathMul rise _) fun p₁₁ _ _ _ pitch => ?_
  refine .bind (tracks_createNode .mathCombine3) fun p₁₂ _ _ _ euler => ?_
  refine .andThen (tracks_connect (euler.valueIn "a") pitch.lift) fun p₁₃ _ => ?_
  refine .andThen (tracks_connect (euler.lift.valueIn "b") yaw.lift) fun p₁₄ _ => ?_
  refine .andThen (tracks_setLiteral (euler.lift.valueIn "c") _) fun p₁₅ _ => ?_
  refine .bind (tracks_fromEulerRadians (euler.lift.valueOut "value")) fun p₁₆ _ _ _ rotation => ?_
  refine .andThen (tracks_connect write.2.1.lift rotation) fun p₁₇ _ => .returns fun sound => ?_
  exact ⟨pairs_link sound (.cons position.1.lift (.cons write.1.lift .nil)), write.2.2.1.lift, write.2.2.2.lift⟩

end Actions

end ScriptGraph.Pattern
