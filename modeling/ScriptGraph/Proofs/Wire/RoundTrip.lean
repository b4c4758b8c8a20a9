import ScriptGraph.Proofs.Wire.Lossless
import ScriptGraph.Wire.Compiled

/-!
The binary form of compiled graphs loses nothing.

Every codec of the format is put together from lossless ones; what needs an argument of its own is that
a dictionary comes back from its entries and a constant from its components.
-/

namespace ScriptGraph

namespace Dict

variable {α : Type}

theorem updateEntries_eq_append {key : String} {f : Option α → α} {entries : List (String × α)}
    (last : ∀ e ∈ entries, e.1 < key) : updateEntries key f entries = entries ++ [(key, f none)] := by
  induction entries with
  | nil => rfl
  | cons head rest ih =>
    have below : head.1 < key := last head List.mem_cons_self
    have notAbove : ¬key < head.1 := fun above => String.lt_irrefl key (String.lt_trans above below)
    have different : key ≠ head.1 := fun same => String.lt_irrefl key (by rwa [← same] at below)
    rw [updateEntries, if_neg notAbove, if_neg different,
      ih fun e member => last e (List.mem_cons_of_mem _ member), List.cons_append]

/-- Entries that come in order are stored one behind the other. -/
theorem entries_foldl_insert {d : Dict α} {entries : List (String × α)}
    (ascending : Ascending (d.entries ++ entries)) :
    (entries.foldl (fun d e => d.insert e.1 e.2) d).entries = d.entries ++ entries := by
  induction entries generalizing d with
  | nil => exact (List.append_nil _).symm
  | cons head rest ih =>
    have stored : (d.insert head.1 head.2).entries = d.entries ++ [head] :=
      updateEntries_eq_append fun e member =>
        (List.pairwise_append.1 ascending).2.2 e member head List.mem_cons_self
    have split : d.entries ++ head :: rest = d.entries ++ [head] ++ rest := by simp
    rw [List.foldl_cons, ih (by rwa [stored, ← split]), stored, split]

theorem ofList_entries (d : Dict α) : ofList d.entries = d := by
  have same : (ofList d.entries).entries = d.entries := entries_foldl_insert d.ascending
  cases d
  cases h : ofList _
  simp_all

end Dict

theorem NameSet.ofNames_keys (s : NameSet) : ofNames s.keys = s := by
  have listed : ofNames s.keys = Dict.ofList s.entries := by
    rw [ofNames, Dict.keys, List.foldl_map]
    rfl
  rw [listed, Dict.ofList_entries]

theorem Literal.vectorOf?_toList {n : Nat} (v : Vector Single n) : vectorOf? n v.toList = some v := by
  rw [vectorOf?, dif_pos Vector.length_toList]
  rfl

namespace Wire

open Codec

theorem lossless_single : single.Lossless := .iso lossless_bits fun _ => rfl

theorem lossless_dict {α : Type} {codec : Codec α} (lossless : codec.Lossless) : (dict codec).Lossless :=
  .iso (.list (.pair lossless_text lossless)) Dict.ofList_entries

theorem lossless_nameSet : nameSet.Lossless := .iso (.list lossless_text) NameSet.ofNames_keys

theorem lossless_valueType : valueType.Lossless := lossless_ofAll (by intro a; cases a <;> decide) (by decide)

theorem lossless_op : op.Lossless := lossless_ofAll (by intro a; cases a <;> decide) (by decide)

theorem lossless_findingKind : findingKind.Lossless :=
  lossless_ofAll (by intro a; cases a <;> decide) (by decide)

theorem lossless_nodeId : nodeId.Lossless := .iso lossless_word fun _ => rfl

/-- A constant of a float type comes back from its components. -/
theorem restores_components {l : Literal} (count : l.components.length = l.valueType.componentCount)
    (whole : Literal.ofComponents? l.valueType l.components = some l) :
    (components l.valueType).Restores l :=
  (Lossless.exactly lossless_single count).via whole

theorem restores_vector {l : Literal} (count : l.components.length = l.valueType.componentCount)
    (whole : Literal.ofComponents? l.valueType l.components = some l)
    (written : literal.write l = valueType.write l.valueType ++ (components l.valueType).write l)
    (isVector : l.valueType ≠ .bool ∧ l.valueType ≠ .int) : literal.Restores l := by
  refine Restores.tagged (f := id) (Lossless.restores lossless_valueType l.valueType)
    (restores_components count whole) written fun bytes rest found => ?_
  have read : literal.read bytes = (components l.valueType).read rest := by
    simp only [literal, found]
    cases type : l.valueType <;> simp_all
  rw [read]
  exact Option.map_id'.symm

theorem lossless_literal : literal.Lossless where
  restores l := by
    have typed := Lossless.restores lossless_valueType l.valueType
    cases l with
    | bool b =>
      refine typed.tagged (Lossless.restores lossless_bool b) rfl fun bytes rest found => ?_
      simp only [literal, found]
      exact read_iso bool (fun _ => false) Literal.bool rest
    | int n =>
      refine typed.tagged (Lossless.restores lossless_int n) rfl fun bytes rest found => ?_
      simp only [literal, found]
      exact read_iso int (fun _ => 0) Literal.int rest
    | float x => exact restores_vector rfl rfl rfl (by simp [Literal.valueType])
    | float2 v | float3 v | float4 v | float4x4 v =>
      exact restores_vector Vector.length_toList
        (congrArg (Option.map _) (Literal.vectorOf?_toList v)) rfl (by simp [Literal.valueType])
  length_pos l := by
    have := Lossless.length_pos lossless_valueType l.valueType
    simp only [literal, List.length_append]
    omega

theorem lossless_configValue : configValue.Lossless where
  restores v := by
    cases v with
    | int n =>
      refine (restores_index (by decide : 0 < 256 ^ 4)).tagged (Lossless.restores lossless_int n) rfl ?_
      intro bytes rest found
      simp only [configValue, found]
      rfl
    | intList ns =>
      refine (restores_index (by decide : 1 < 256 ^ 4)).tagged (Lossless.restores (.list lossless_int) ns) rfl ?_
      intro bytes rest found
      simp only [configValue, found]
      rfl
    | bool b =>
      refine (restores_index (by decide : 2 < 256 ^ 4)).tagged (Lossless.restores lossless_bool b) rfl ?_
      intro bytes rest found
      simp only [configValue, found]
      rfl
    | float x =>
      refine (restores_index (by decide : 3 < 256 ^ 4)).tagged (Lossless.restores lossless_single x) rfl ?_
      intro bytes rest found
      simp only [configValue, found]
      rfl
    | text s =>
      refine (restores_index (by decide : 4 < 256 ^ 4)).tagged (Lossless.restores lossless_text s) rfl ?_
      intro bytes rest found
      simp only [configValue, found]
      rfl
  length_pos v := by
    cases v <;> simp only [configValue, List.length_append] <;> exact Nat.add_pos_left (length_pos_index _) _

theorem lossless_expectedType : expectedType.Lossless where
  restores v := by
    cases v with
    | exact type =>
      refine (restores_index (by decide : 0 < 256 ^ 4)).tagged (Lossless.restores lossless_valueType type) rfl ?_
      intro bytes rest found
      simp only [expectedType, found]
      rfl
    | fromInput input =>
      refine (restores_index (by decide : 1 < 256 ^ 4)).tagged (Lossless.restores lossless_text input) rfl ?_
      intro bytes rest found
      simp only [expectedType, found]
      rfl
  length_pos v := by
    cases v <;> simp only [expectedType, List.length_append] <;> exact Nat.add_pos_left (length_pos_index _) _

theorem lossless_restriction : restriction.Lossless where
  restores v := by
    cases v with
    | only type =>
      refine (restores_index (by decide : 0 < 256 ^ 4)).tagged (Lossless.restores lossless_valueType type) rfl ?_
      intro bytes rest found
      simp only [restriction, found]
      rfl
    | oneOf types =>
      have inside := Lossless.restores (.list lossless_valueType) types
      refine (restores_index (by decide : 1 < 256 ^ 4)).tagged inside rfl ?_
      intro bytes rest found
      simp only [restriction, found]
      rfl
    | sameAsInput input =>
      refine (restores_index (by decide : 2 < 256 ^ 4)).tagged (Lossless.restores lossless_text input) rfl ?_
      intro bytes rest found
      simp only [restriction, found]
      rfl
  length_pos v := by
    cases v <;> simp only [restriction, List.length_append] <;> exact Nat.add_pos_left (length_pos_index _) _

theorem lossless_address : address.Lossless := .iso (.pair lossless_nodeId lossless_text) fun _ => rfl

theorem lossless_valueInput : valueInput.Lossless :=
  .iso (.pair (.option lossless_literal) (.pair (.option lossless_address) (.option lossless_restriction))) fun _ => rfl

theorem lossless_valueOutput : valueOutput.Lossless := .iso (.option lossless_expectedType) fun _ => rfl

theorem lossless_flowOutput : flowOutput.Lossless := .iso (.list lossless_address) fun _ => rfl

theorem lossless_node : node.Lossless :=
  .iso (.pair lossless_nodeId (.pair lossless_op (.pair (lossless_dict (.option lossless_configValue))
    (.pair (lossless_dict lossless_valueInput) (.pair (lossless_dict lossless_valueOutput)
      (.pair lossless_nameSet (lossless_dict lossless_flowOutput))))))) fun _ => rfl

theorem lossless_variableRecord : variableRecord.Lossless :=
  .iso (.pair lossless_text (.pair lossless_valueType (.option lossless_literal))) fun _ => rfl

theorem lossless_eventValue : eventValue.Lossless := .iso (.pair lossless_text lossless_valueType) fun _ => rfl

theorem lossless_event : event.Lossless := .iso (.pair lossless_text (.list lossless_eventValue)) fun _ => rfl

theorem lossless_graph : graph.Lossless :=
  .iso (.pair (.list lossless_node) (.pair (.list lossless_variableRecord) (.list lossless_event))) fun _ => rfl

theorem lossless_finding : finding.Lossless :=
  .iso (.pair lossless_nodeId (.pair lossless_op (.pair (.option lossless_text)
    (.pair lossless_findingKind lossless_text)))) fun _ => rfl

theorem lossless_report : report.Lossless := .iso (.list lossless_finding) fun _ => rfl

theorem lossless_compiled : compiled.Lossless :=
  .iso (.pair lossless_text (.pair lossless_graph lossless_report)) fun _ => rfl

end Wire

namespace Compiled

/-- A compiled graph is read back from its binary form, whatever follows it. -/
theorem decode_toBytes_append (c : Compiled) (rest : List UInt8) (short : c.toBytes.length < Wire.capacity) :
    decode (c.toBytes ++ rest) = .ok c := by
  have read := Wire.Codec.Lossless.restores Wire.lossless_compiled c rest short
  have whole : ofBytes? (c.toBytes ++ rest) = some c := by
    unfold ofBytes? toBytes
    rw [read]
    rfl
  simp only [decode, whole]

/-- A graph with constants at the ends of their ranges and a name beyond plain letters. -/
def boundaries : Compiled :=
  { name := "Zähler"
    graph :=
      { nodes := #[(Node.new (.ofNat 70000) .flowSwitch).configure "cases"
          (.intList [0, -1, 125, -126, 32768, -2147483648])]
        vars := #[
          { name := "Σ", valueType := .int, initial := some (.int 2147483647) },
          { name := "NaN", valueType := .float2, initial := some (.float2 #v[⟨0x7fc00001⟩, ⟨0x80000000⟩]) }]
        events := #[{ name := "Ring", values := [{ name := "who", valueType := .float4x4 }] }] }
    validation := { findings := [⟨.ofNat 250, .mathAdd, none, .missingCase, ""⟩] } }

/-- Nothing of such a graph is lost, though one byte more follows it. -/
theorem decode_boundaries_append : boundaries.toBytes.length = 115 ∧
    decode (boundaries.toBytes ++ [0]) = .ok boundaries := by
  have length : boundaries.toBytes.length = 115 := by cbv
  refine ⟨length, decode_toBytes_append boundaries [0] ?_⟩
  rw [length]
  decide

end Compiled

end ScriptGraph
