/-
# Workflows as they are walked

The values of a workflow as the writer walks them (`Workflow.node`): each part with its fields in
the order of the table of the data model.  Part by part, what is written for these values is the
document, and the mappings inside them are those of the part (`Mirrors`).
-/

import WorkflowKit.Proofs.Workflow.Content
import WorkflowKit.Proofs.Workflow.Pruning

namespace WorkflowKit

open Canonical Decode

/-! ### Values -/

namespace Canonical.Node

/-- A value that may be missing. -/
def maybe {α : Type} (node : α → Node) : Option α → Node
  | none => .absent
  | some a => node a

/-- A text. -/
def text (s : Text) : Node := .scalar (.text s)

/-- An integer. -/
def int (n : Int) : Node := .scalar (.int n)

/-- A truth value. -/
def bool (b : Bool) : Node := .scalar (.bool b)

end Canonical.Node

open Node (maybe text int bool)

/-- The values of a trigger. -/
def Trigger.node (t : Trigger) : Node := .record .trigger
  [maybe text t.name, maybe text t.source, maybe text t.type, maybe text t.correlationToken]

/-- The values of a function. -/
def Function.node (f : Function) : Node := .record .function
  [maybe text f.name, maybe text f.type, .texts f.parameters]

/-- The values of a retry declaration. -/
def Retry.node (r : Retry) : Node := .record .retry
  [maybe text r.condition, maybe int r.maxRetry, maybe int r.retryInterval, maybe text r.nextState]

/-- The values of an action. -/
def Action.node (a : Action) : Node := .record .action
  [maybe Function.node a.function, maybe int a.timeout, maybe Retry.node a.retry]

/-- The values of data paths. -/
def Filter.node (f : Filter) : Node := .record .filter
  [maybe text f.inputPath, maybe text f.resultPath, maybe text f.outputPath]

/-- The values of an event condition. -/
def Event.node (e : Event) : Node := .record .event
  [maybe text e.expression, maybe text e.nextState, text e.actionMode.text, maybe int e.timeout,
    .list (e.actions.map Action.node)]

/-- The values of a comparison. -/
def SingleChoice.node (c : SingleChoice) : Node := .record (.choice .single)
  [text ChoiceKind.single.text, maybe text c.path, maybe text c.value,
    maybe text (c.operator.map fun o => o.text), maybe text c.nextState]

/-- The values of a choice. -/
def Choice.node : Choice → Node
  | .single c => c.node
  | .all cs next => .record (.choice .all)
    [text ChoiceKind.all.text, .list (cs.map SingleChoice.node), maybe text next]
  | .any cs next => .record (.choice .any)
    [text ChoiceKind.any.text, .list (cs.map SingleChoice.node), maybe text next]
  | .none c next => .record (.choice .none)
    [text ChoiceKind.none.text, maybe SingleChoice.node c, maybe text next]

/-- The values that all kinds of states have. -/
def StateHead.nodes (h : StateHead) (kind : StateKind) : List Node :=
  [maybe text h.name, text kind.text, bool h.start, bool h.final]

namespace State

mutual

/-- The values of a state. -/
def node : State → Node
  | event h es => .record (.state .event) (h.nodes .event ++ [.list (es.map Event.node)])
  | operation h m as next f => .record (.state .operation) (h.nodes .operation ++
      [text m.text, .list (as.map Action.node), maybe text next, maybe Filter.node f])
  | switch h cs fallback => .record (.state .switch) (h.nodes .switch ++
      [.list (cs.map Choice.node), maybe text fallback])
  | delay h n next => .record (.state .delay) (h.nodes .delay ++ [maybe int n, maybe text next])
  | parallel h bs next => .record (.state .parallel) (h.nodes .parallel ++
      [.list (branchNodes bs), maybe text next])
  | finish h s => .record (.state .finish) (h.nodes .finish ++ [text s.text])
  | subflow h i v w => .record (.state .subflow) (h.nodes .subflow ++
      [maybe text i, maybe text v, bool w])

/-- The values of a branch. -/
def branchNode : Branch → Node
  | .mk name states waits => .record .branch [maybe text name, .list (nodes states), bool waits]

/-- The values of states. -/
def nodes : List State → List Node
  | [] => []
  | s :: ss => node s :: nodes ss

/-- The values of branches. -/
def branchNodes : List Branch → List Node
  | [] => []
  | b :: bs => branchNode b :: branchNodes bs

end

theorem nodes_eq_map (ss : List State) : nodes ss = ss.map node := by
  induction ss with
  | nil => rfl
  | cons s ss ih => rw [nodes, ih, List.map_cons]

theorem branchNodes_eq_map (bs : List Branch) : branchNodes bs = bs.map branchNode := by
  induction bs with
  | nil => rfl
  | cons b bs ih => rw [branchNodes, ih, List.map_cons]

end State

/-- The value of a field of an extension record. -/
def ExtensionValue.node : ExtensionValue → Node
  | .text s => Node.text s
  | .int n => Node.int n
  | .optionalText s => maybe Node.text s
  | .texts m => .texts m
  | .items ss => .list (ss.map Node.text)
  | .filter f => maybe Filter.node f

/-- The values of an extension record of a shape. -/
def Extension.node (shape : ExtensionShape) (e : Extension) : Node :=
  .record (.extension shape) (Node.text e.id :: e.fields.map fun f => f.2.node)

/-- The values of a workflow whose extension records are those of a registry. -/
def Workflow.node (r : ExtensionRegistry) (w : Workflow) : Node := .record .workflow
  [maybe text w.id, maybe text w.name, maybe text w.version, maybe text w.startsAt,
    .list (w.triggers.map Trigger.node), .list (State.nodes w.states), .texts w.metadata,
    .list (w.extensions.map fun e => maybe (fun s => e.node s) (r.get? e.id))]

/-! ### What is written for them -/

namespace Canonical

variable {α : Type} {n : Node} {ns : List Node} {v : Value} {o : Option Value} {p : Part}
  {key : String} {keys : List String} {ms : List Member} {maps maps' : List TextMap}
  {node : α → Node} {document : α → Value} {mapsOf : α → List TextMap}

/-- A value for which `v` is written and which holds the mappings `maps`. -/
structure Mirrors (n : Node) (v : Value) (maps : List TextMap) : Prop where
  /-- Its records have all their fields. -/
  sound : n.Sound
  /-- What is written. -/
  written : n.written = v
  /-- The mappings inside it. -/
  textMaps : n.textMaps = maps

/-- The value of a field for which `o` is written and which holds the mappings `maps`. -/
structure MirrorsField (n : Node) (o : Option Value) (maps : List TextMap) : Prop where
  /-- Its records have all their fields. -/
  sound : n.Sound
  /-- What is written, if anything. -/
  written : (if n.isShown then some n.written else none) = o
  /-- The mappings inside it. -/
  textMaps : n.textMaps = maps

/-- The values of some fields for which `ms` are written and which hold the mappings `maps`. -/
inductive MirrorsFields : List String → List Node → List Member → List TextMap → Prop
  /-- No field. -/
  | nil : MirrorsFields [] [] [] []
  /-- A field and others. -/
  | cons {key : String} {keys : List String} {n : Node} {ns : List Node} {o : Option Value}
    {ms : List Member} {maps maps' : List TextMap} (field : MirrorsField n o maps)
    (fields : MirrorsFields keys ns ms maps') :
    MirrorsFields (key :: keys) (n :: ns) ((key, o) :: ms) (maps ++ maps')

/-- The four things that the fields of a record need, read off together: their number, their own
fields, what is written and the mappings. -/
theorem MirrorsFields.all (h : MirrorsFields keys ns ms maps) :
    ns.length = keys.length ∧ (∀ n ∈ ns, n.Sound) ∧ Node.members keys ns = ms ∧
      Node.allTextMaps ns = maps := by
  induction h with
  | nil => simp [Node.members, Node.allTextMaps]
  | cons field _ ih =>
    obtain ⟨hlength, hsound, hmembers, hmaps⟩ := ih
    refine ⟨congrArg (· + 1) hlength, List.forall_mem_cons.2 ⟨field.sound, hsound⟩, ?_, ?_⟩
    · rw [Node.members, field.written, hmembers]
    · rw [Node.allTextMaps, field.textMaps, hmaps]

/-- A record is written as its fields are. -/
theorem Mirrors.record (nodup : p.keys.Nodup) (h : MirrorsFields p.keys ns ms maps) :
    Mirrors (.record p ns) (.ofMembers ms) maps := by
  obtain ⟨hlength, hsound, hmembers, hmaps⟩ := h.all
  exact ⟨.record hlength nodup hsound, by rw [Node.written, hmembers], hmaps⟩

/-- The mappings of a value may be listed in another way. -/
theorem Mirrors.of_maps (h : Mirrors n v maps) (heq : maps = maps') : Mirrors n v maps' :=
  heq ▸ h

/-- A value that is neither absent nor empty. -/
theorem Mirrors.field (h : Mirrors n v maps) (hn : n.isShown = true) :
    MirrorsField n (some v) maps :=
  ⟨h.sound, by rw [if_pos hn, h.written], h.textMaps⟩

/-- A scalar is written as it is, and holds no mappings. -/
theorem mirrors_scalar (v : Value) : Mirrors (.scalar v) v [] := ⟨.scalar v, rfl, rfl⟩

namespace MirrorsField

/-- A scalar is always written. -/
theorem scalar (v : Value) : MirrorsField (.scalar v) (some v) [] := (mirrors_scalar v).field rfl

/-- A missing value is not written, and holds no mappings. -/
theorem maybe (h : ∀ a, MirrorsField (node a) (some (document a)) (mapsOf a)) (a : Option α) :
    MirrorsField (.maybe node a) (a.map document) (a.toList.flatMap mapsOf) := by
  cases a with
  | none => exact ⟨.absent, rfl, rfl⟩
  | some a => simpa [Node.maybe] using h a

/-- A missing scalar is not written. -/
theorem maybeScalar (f : α → Value) (a : Option α) :
    MirrorsField (.maybe (fun a => .scalar (f a)) a) (a.map f) [] := by
  cases a with
  | none => exact ⟨.absent, rfl, rfl⟩
  | some a => exact .scalar (f a)

/-- An empty mapping is not written, but counts as one of the mappings. -/
theorem texts (m : TextMap) : MirrorsField (.texts m)
    (if m.entries.isEmpty then none else some (.map (Member.writtenTexts m))) [m] := by
  refine ⟨.texts m, ?_, rfl⟩
  cases h : m.entries <;> simp [Node.isShown, Node.isAbsent, Node.isEmpty, Node.written, h]

/-- A list is written with the documents of its members, unless it is empty. -/
theorem list {as : List α} (h : ∀ a ∈ as, Mirrors (node a) (document a) (mapsOf a)) :
    MirrorsField (.list (as.map node))
      (if (as.map document).isEmpty then none else some (.list (as.map document)))
      (as.flatMap mapsOf) := by
  have hwritten : as.map (fun a => (node a).written) = as.map document :=
    List.map_congr_left fun a ha => (h a ha).written
  refine ⟨.list ?_, ?_, ?_⟩
  · rintro n hn
    obtain ⟨a, ha, rfl⟩ := List.mem_map.1 hn
    exact (h a ha).sound
  · rw [Node.written, Node.writtenItems_eq_map, List.map_map]
    simp only [Function.comp_def, hwritten]
    cases as <;> rfl
  · rw [Node.textMaps, Node.allTextMaps_eq_flatMap, List.flatMap_map]
    exact List.flatMap_congr fun a ha => (h a ha).textMaps

end MirrorsField

/-! ### Parts without states -/

/-- The walk over a trigger writes its document. -/
theorem mirrors_trigger (t : Trigger) : Mirrors t.node t.document [] :=
  .record (by decide) (.cons (.maybeScalar _ _) (.cons (.maybeScalar _ _)
    (.cons (.maybeScalar _ _) (.cons (.maybeScalar _ _) .nil))))

/-- The walk over a function writes its document, and meets its parameters. -/
theorem mirrors_function (f : Function) : Mirrors f.node f.document [f.parameters] :=
  .of_maps (.record (by decide) (.cons (.maybeScalar _ _) (.cons (.maybeScalar _ _)
    (.cons (.texts _) .nil)))) rfl

/-- The walk over a retry declaration writes its document. -/
theorem mirrors_retry (r : Retry) : Mirrors r.node r.document [] :=
  .record (by decide) (.cons (.maybeScalar _ _) (.cons (.maybeScalar _ _)
    (.cons (.maybeScalar _ _) (.cons (.maybeScalar _ _) .nil))))

/-- The walk over an action writes its document, and meets the parameters of its function. -/
theorem mirrors_action (a : Action) : Mirrors a.node a.document a.textMaps := by
  have hfunction := MirrorsField.maybe (fun f => (mirrors_function f).field rfl) a.function
  have hretry := MirrorsField.maybe (fun r => (mirrors_retry r).field rfl) a.retry
  refine .of_maps (.record (by decide)
    (.cons hfunction (.cons (.maybeScalar _ _) (.cons hretry .nil)))) ?_
  simp [Action.textMaps, List.map_eq_flatMap]

/-- The walk over data paths writes their document. -/
theorem mirrors_filter (f : Filter) : Mirrors f.node f.document [] :=
  .record (by decide) (.cons (.maybeScalar _ _) (.cons (.maybeScalar _ _)
    (.cons (.maybeScalar _ _) .nil)))

/-- The walk over an event condition writes its document, and meets the parameters of its actions in
order. -/
theorem mirrors_event (e : Event) :
    Mirrors e.node e.document (e.actions.flatMap Action.textMaps) := by
  refine .of_maps (.record (by decide) (.cons (.maybeScalar _ _) (.cons (.maybeScalar _ _)
    (.cons (.scalar _) (.cons (.maybeScalar _ _)
      (.cons (.list fun a _ => mirrors_action a) .nil)))))) ?_
  simp

/-- The walk over a comparison writes its document. -/
theorem mirrors_singleChoice (c : SingleChoice) : Mirrors c.node c.document [] :=
  .record (by decide) (.cons (.scalar _) (.cons (.maybeScalar _ _) (.cons (.maybeScalar _ _)
    (.cons (.maybeScalar _ _) (.cons (.maybeScalar _ _) .nil)))))

/-- The walk over a choice writes its document, for each of the four kinds. -/
theorem mirrors_choice (c : Choice) : Mirrors c.node c.document [] := by
  cases c with
  | single c => exact mirrors_singleChoice c
  | all cs next =>
    refine .of_maps (.record (by decide) (.cons (.scalar _)
      (.cons (.list fun c _ => mirrors_singleChoice c) (.cons (.maybeScalar _ _) .nil)))) ?_
    simp
  | any cs next =>
    refine .of_maps (.record (by decide) (.cons (.scalar _)
      (.cons (.list fun c _ => mirrors_singleChoice c) (.cons (.maybeScalar _ _) .nil)))) ?_
    simp
  | none c next =>
    have hchoice := MirrorsField.maybe (fun c => (mirrors_singleChoice c).field rfl) c
    refine .of_maps (.record (by decide) (.cons (.scalar _)
      (.cons hchoice (.cons (.maybeScalar _ _) .nil)))) ?_
    simp

/-! ### States -/

/-- The fields of all kinds come before those of the kind. -/
theorem mirrorsFields_head (h : StateHead) {k : StateKind}
    (hfields : MirrorsFields ((stateSpecs k).map fun s => s.name.key) ns ms maps) :
    MirrorsFields (Part.state k).keys (h.nodes k ++ ns) (h.members k ++ ms) maps :=
  .cons (.maybeScalar _ _) (.cons (.scalar _) (.cons (.scalar _) (.cons (.scalar _) hfields)))

end Canonical

/-- The mappings of the actions that some states perform themselves. -/
def State.ownTextMaps (ss : List State) : List TextMap :=
  ss.flatMap fun s => s.actions.flatMap Action.textMaps

namespace Canonical

mutual

/-- The walk over a state writes its document, and meets the mappings of all states inside it. -/
theorem mirrors_state (s : State) : Mirrors s.node s.document (State.ownTextMaps s.withInner) := by
  cases s with
  | event h es =>
    refine .of_maps (.record (by decide) (mirrorsFields_head h
      (.cons (.list fun e _ => mirrors_event e) .nil))) ?_
    simp [State.ownTextMaps, State.withInner, State.actions, List.flatMap_assoc]
  | operation h m as next f =>
    have hfilter := MirrorsField.maybe (fun f => (mirrors_filter f).field rfl) f
    refine .of_maps (.record (by decide) (mirrorsFields_head h (.cons (.scalar _)
      (.cons (.list fun a _ => mirrors_action a) (.cons (.maybeScalar _ _)
        (.cons hfilter .nil)))))) ?_
    simp [State.ownTextMaps, State.withInner, State.actions]
  | switch h cs fallback =>
    refine .of_maps (.record (by decide) (mirrorsFields_head h
      (.cons (.list fun c _ => mirrors_choice c) (.cons (.maybeScalar _ _) .nil)))) ?_
    simp [State.ownTextMaps, State.withInner, State.actions]
  | delay h n next =>
    exact .of_maps (.record (by decide) (mirrorsFields_head h
      (.cons (.maybeScalar _ _) (.cons (.maybeScalar _ _) .nil)))) rfl
  -- The only kind with states inside; its branches are walked by a function of their own, so the
  -- maps come first.
  | parallel h bs next =>
    have hnodes : (State.parallel h bs next).node = .record (.state .parallel)
        (h.nodes .parallel ++ [.list (bs.map State.branchNode), maybe text next]) := by
      rw [State.node, State.branchNodes_eq_map]
    have hdocument : (State.parallel h bs next).document = .ofMembers (h.members .parallel ++
        [.list "branches" (bs.map State.branchDocument), .text "next-state" next]) := by
      rw [State.document, State.branchDocuments_eq_map]
    rw [hnodes, hdocument]
    refine .of_maps (.record (by decide) (mirrorsFields_head h
      (.cons (.list (mirrors_branches bs)) (.cons (.maybeScalar _ _) .nil)))) ?_
    simp [State.ownTextMaps, State.withInner, State.actions, State.innerOfBranches_eq_flatMap,
      List.flatMap_assoc]
  | finish h s =>
    exact .of_maps (.record (by decide) (mirrorsFields_head h (.cons (.scalar _) .nil))) rfl
  | subflow h i v w =>
    exact .of_maps (.record (by decide) (mirrorsFields_head h (.cons (.maybeScalar _ _)
      (.cons (.maybeScalar _ _) (.cons (.scalar _) .nil))))) rfl

/-- The same for a branch, by induction together with states. -/
theorem mirrors_branch (b : Branch) :
    Mirrors (State.branchNode b) (State.branchDocument b)
      (State.ownTextMaps (State.innerOfBranch b)) := by
  obtain ⟨name, ss, waits⟩ := b
  have hnodes : State.branchNode (.mk name ss waits) = .record .branch
      [maybe text name, .list (ss.map State.node), bool waits] := by
    rw [State.branchNode, State.nodes_eq_map]
  have hdocument : State.branchDocument (.mk name ss waits) = .ofMembers
      [.text "name" name, .list "states" (ss.map State.document),
        .bool "wait-for-completion" waits] := by
    rw [State.branchDocument, State.documents_eq_map]
  rw [hnodes, hdocument]
  refine .of_maps (.record (by decide) (.cons (.maybeScalar _ _)
    (.cons (.list (mirrors_states ss)) (.cons (.scalar _) .nil)))) ?_
  simp [State.ownTextMaps, State.innerOfBranch, State.allWithInner_eq_flatMap, List.flatMap_assoc]

/-- The same for each of some states. -/
theorem mirrors_states (ss : List State) :
    ∀ s ∈ ss, Mirrors s.node s.document (State.ownTextMaps s.withInner) := by
  intro s hs
  cases ss with
  | nil => cases hs
  | cons t ss =>
    rcases List.mem_cons.1 hs with rfl | hs
    · exact mirrors_state s
    · exact mirrors_states ss s hs

/-- The same for each of some branches. -/
theorem mirrors_branches (bs : List Branch) :
    ∀ b ∈ bs, Mirrors (State.branchNode b) (State.branchDocument b)
      (State.ownTextMaps (State.innerOfBranch b)) := by
  intro b hb
  cases bs with
  | nil => cases hb
  | cons b' bs =>
    rcases List.mem_cons.1 hb with rfl | hb
    · exact mirrors_branch b
    · exact mirrors_branches bs b hb

end

/-! ### Extension records -/

/-- The keys of an extension record: its id, then those of its shape. -/
theorem keys_extension (shape : ExtensionShape) :
    (Part.extension shape).keys = "extensionid" :: shape.fields.map Prod.fst := by
  rw [Part.keys, Part.specs, List.map_cons, List.map_map]
  refine congrArg ("extensionid" :: ·) (List.map_congr_left fun f _ => ?_)
  rw [Function.comp_apply, extensionSpec_name]
  rfl

/-- A field of an extension record is written by its type. -/
theorem mirrors_extensionValue (v : ExtensionValue) :
    MirrorsField v.node (v.member key).2 v.textMaps := by
  cases v with
  | text s => exact .scalar _
  | int n => exact .scalar _
  | optionalText s => exact .maybeScalar _ _
  | texts m => exact .texts m
  | items ss =>
    have hlist := MirrorsField.list fun s (_ : s ∈ ss) => mirrors_scalar (.text s)
    rwa [List.flatMap_eq_nil_iff.2 fun _ _ => rfl] at hlist
  | filter f =>
    have hfilter := MirrorsField.maybe (fun f => (mirrors_filter f).field rfl) f
    rwa [List.flatMap_eq_nil_iff.2 fun _ _ => rfl] at hfilter

/-- The fields of a record that has those of its shape. -/
theorem mirrors_extension {shape : ExtensionShape} {e : Extension} (hshape : shape.WellFormed)
    (he : e.fields.map Prod.fst = shape.fields.map Prod.fst) :
    Mirrors (e.node shape) e.document
      ((e.fields.map Prod.snd).flatMap ExtensionValue.textMaps) := by
  have hfields (fs : List (String × ExtensionValue)) :
      MirrorsFields (fs.map Prod.fst) (fs.map fun f => f.2.node)
        (fs.map fun f => f.2.member f.1) ((fs.map Prod.snd).flatMap ExtensionValue.textMaps) := by
    induction fs with
    | nil => exact .nil
    | cons f fs ih =>
      have hmember : f.2.member f.1 = (f.1, (f.2.member f.1).2) :=
        Prod.ext (member_fst f.1 f.2) rfl
      rw [List.map_cons, List.map_cons, List.map_cons, hmember]
      exact .cons (mirrors_extensionValue f.2) ih
  have hnodup : ("extensionid" :: shape.fields.map Prod.fst).Nodup :=
    hshape.names_nodup.sublist ((List.sublist_cons_self _ _).cons_cons _)
  refine .record (by rwa [keys_extension]) ?_
  rw [keys_extension, ← he]
  exact .cons (.scalar _) (hfields e.fields)

/-! ### Workflows -/

/-- **The walk over a workflow writes its document.** Each extension record has to have the fields
of the shape that its id stands for; the mappings are those of the states, the metadata and the
extension records, in this order. -/
theorem mirrors_workflow {r : ExtensionRegistry} {w : Workflow}
    (hw : ∀ e ∈ w.extensions, ∃ shape, r.get? e.id = some shape ∧
      e.fields.map Prod.fst = shape.fields.map Prod.fst) :
    Mirrors (w.node r) w.document (State.ownTextMaps w.allStates ++
      (w.metadata :: w.extensionValues.flatMap ExtensionValue.textMaps)) := by
  obtain ⟨id, name, version, startsAt, triggers, states, metadata, extensions⟩ := w
  have hextension : ∀ e ∈ extensions, Mirrors (maybe (fun s => e.node s) (r.get? e.id)) e.document
      ((e.fields.map Prod.snd).flatMap ExtensionValue.textMaps) := by
    intro e he
    obtain ⟨shape, hget, hfields⟩ := hw e he
    rw [hget]
    exact mirrors_extension (wellFormed_of_get? hget) hfields
  rw [Workflow.node, Workflow.document, State.nodes_eq_map, State.documents_eq_map]
  refine .of_maps (.record (by decide) (.cons (.maybeScalar _ _) (.cons (.maybeScalar _ _)
    (.cons (.maybeScalar _ _) (.cons (.maybeScalar _ _)
      (.cons (.list fun t _ => mirrors_trigger t) (.cons (.list (mirrors_states states))
        (.cons (.texts _) (.cons (.list hextension) .nil))))))))) ?_
  simp [State.ownTextMaps, Workflow.allStates, Workflow.extensionValues,
    State.allWithInner_eq_flatMap, List.flatMap_assoc]

end Canonical
end WorkflowKit
