import TypedGraph.Proofs.Validation

/-!
# What transformations produce, item by item

A transformation that is malformed gives account of that alone. Any other one gives account
of every level of its root array that is no list, and of every branch that meets its
conditions; other branches leave no trace. So what a mapping produces is put together from
what its live transformations produce for their items (`Ingest.returns_produce_eq`).
-/
namespace TypedGraph

open Access

/-- What a transformation has to give account of for a payload: that it is malformed, a level
of its root array that is no list, or a branch that meets its conditions. -/
inductive Item where
  | malformed (cause : Malformation)
  | unlisted (e : BranchError)
  | branch (target : Target) (index : List Nat)
deriving DecidableEq, Repr

/-- Everything that was produced. -/
def Produced.joined (parts : List Produced) : Produced where
  nodes := parts.flatMap Produced.nodes
  edges := parts.flatMap Produced.edges
  failures := parts.flatMap Produced.failures

theorem Produced.joined_cons (part : Produced) (parts : List Produced) :
    joined (part :: parts) = part.append (joined parts) := by
  simp [joined, append]

theorem Produced.joined_append (parts parts' : List Produced) :
    joined (parts ++ parts') = (joined parts).append (joined parts') := by
  simp [joined, append]

namespace Transformation

/-- The key of an id, among those for records of a target. -/
def key? (o : OntologyStore) (t : Transformation) (target : Target) (id : String) :
    Option PropertyKey :=
  match target with
  | .node _ => o.metatypeKey? t.containerId id
  | .edge _ => o.relationshipKey? t.containerId id

/-- The keys with the given ids that an ontology has for records of a target. -/
def knownKeys (o : OntologyStore) (t : Transformation) (target : Target) (ids : List String) :
    List (String × PropertyKey) :=
  ids.filterMap fun id => (t.key? o target id).map (id, ·)

/-- The items that a transformation has to give account of. -/
def items (t : Transformation) (staged : StagedData) : List Item :=
  match t.checkedTarget with
  | .error cause => [.malformed cause]
  | .ok target =>
    let expansion := Expansion.ofLevels staged.data t.rootLevels
    expansion.errors.map .unlisted ++ (t.accepted staged expansion.branches).map (.branch target)

/-- The record of a branch, or why there is none. -/
def generate (t : Transformation) (o : OntologyStore) (target : Target) (staged : StagedData)
    (index : List Nat) : Except TransformError GraphRecord :=
  t.produce target (t.knownKeys o target (t.keyIds target)) staged index

/-- What a transformation produces for an item: one record or one failure. -/
def producedFor (t : Transformation) (o : OntologyStore) (staged : StagedData) : Item → Produced
  | .malformed cause => { failures := [⟨t.id, [], .transform (.malformed cause)⟩] }
  | .unlisted e => { failures := [⟨t.id, e.index, .transform e.error⟩] }
  | .branch target index =>
    match t.generate o target staged index with
    | .error e => { failures := [⟨t.id, index, .transform e⟩] }
    | .ok (.node n) => { nodes := [⟨t.id, index, n⟩] }
    | .ok (.edge x) => { edges := [⟨t.id, index, x⟩] }

theorem edges_producedFor_node (t : Transformation) (o : OntologyStore) (staged : StagedData)
    (metatypeId : String) (index : List Nat) :
    (t.producedFor o staged (.branch (.node metatypeId) index)).edges = [] := by
  unfold producedFor generate produce
  dsimp only
  cases t.draftProperties (.node metatypeId) (t.knownKeys o (.node metatypeId)
    (t.keyIds (.node metatypeId))) staged.data index t.keys {} <;> rfl

theorem nodes_producedFor_edge (t : Transformation) (o : OntologyStore) (staged : StagedData)
    (pairId : String) (index : List Nat) :
    (t.producedFor o staged (.branch (.edge pairId) index)).nodes = [] := by
  unfold producedFor generate produce
  dsimp only
  cases t.draftProperties (.edge pairId) (t.knownKeys o (.edge pairId)
    (t.keyIds (.edge pairId))) staged.data index t.keys {} <;> rfl

/-- An edge that is produced for an item is the record of a branch. -/
theorem generate_of_mem_edges {t : Transformation} {o : OntologyStore} {staged : StagedData}
    {item : Item} {p : Pending Edge} (h : p ∈ (t.producedFor o staged item).edges) :
    ∃ target index, t.generate o target staged index = .ok (.edge p.record) := by
  cases item with
  | malformed cause => simp [producedFor] at h
  | unlisted e => simp [producedFor] at h
  | branch target index =>
    unfold producedFor at h
    dsimp only at h
    split at h
    · simp at h
    · simp at h
    · rename_i x hx
      cases List.mem_singleton.1 h
      exact ⟨target, index, hx⟩

section Answers

variable {σ : Type} [KeepsCalls σ] {P : σ → Prop} {s : IngestSetting} {t : Transformation}
  {target : Target} {staged : StagedData}

theorem answers_lookUpKey_key? (hP : ∀ m t, P t → P (KeepsCalls.record m t)) (id : String) :
    Answers P s.IsOut OntologyError.Tells (lookUpKey s.ontology t target id) fun r =>
      (∃ key, t.key? s.ontology.store target id = some key ∧ r = .ok key) ∨
        t.key? s.ontology.store target id = none ∧ ∃ kind, r = .error (.notFound kind id) := by
  cases target with
  | node metatypeId =>
    exact (Ontology.answers_lookUp rfl (hP _)).mono fun r =>
      .imp_right fun ⟨hnone, hr⟩ => ⟨hnone, _, hr⟩
  | edge pairId =>
    exact (Ontology.answers_lookUp rfl (hP _)).mono fun r =>
      .imp_right fun ⟨hnone, hr⟩ => ⟨hnone, _, hr⟩

theorem answers_fetchKeys_eq (hP : ∀ m t, P t → P (KeepsCalls.record m t)) (ids : List String) :
    Answers P s.IsOut TransformError.Tells (fetchKeys s.ontology t target ids)
      (· = .ok (t.knownKeys s.ontology.store target ids)) := by
  induction ids with
  | nil => exact .pure rfl
  | cons id ids ih =>
    refine (answers_lookUpKey_key? hP id).outcome_bind (fun r hr => ?_) fun m e _ he => ?_
    · rcases hr with ⟨key, hkey, rfl⟩ | ⟨hnone, kind, rfl⟩
      · refine ih.bind (fun keys hkeys => .pure ?_) nofun
        cases hkeys
        simp [knownKeys, hkey]
      · simpa [knownKeys, hnone] using ih
    · obtain ⟨hm, rfl⟩ := he
      exact ⟨_, rfl, hm, rfl⟩

/-- The output of a transformation with a target: the records of the branches that meet its
conditions, and the errors. -/
def outputFor (t : Transformation) (o : OntologyStore) (target : Target) (staged : StagedData) :
    TransformOutput :=
  let expansion := Expansion.ofLevels staged.data t.rootLevels
  let output := t.produceAll target (t.knownKeys o target (t.keyIds target)) staged
    (t.accepted staged expansion.branches)
  { output with errors := expansion.errors ++ output.errors }

theorem answers_apply_eq (hP : ∀ m t, P t → P (KeepsCalls.record m t)) :
    Answers P s.IsOut TransformError.Tells (t.apply s.ontology staged)
      (· = (t.checkedTarget.mapError .malformed).map
        fun target => t.outputFor s.ontology.store target staged) := by
  refine Answers.bind (R := (· = t.checkedTarget.mapError .malformed)) (.ofResult rfl)
    (fun target htarget => ?_) fun e he => by rw [← he]; rfl
  rw [← htarget]
  dsimp only
  split
  · rename_i hempty
    rw [List.isEmpty_iff] at hempty
    exact .pure (by simp [Except.map, outputFor, hempty, produceAll])
  · refine (answers_fetchKeys_eq hP _).bind (fun keys hkeys => .pure ?_) nofun
    cases hkeys
    rfl

end Answers

theorem produceAll_cons (t : Transformation) (target : Target) (keys : List (String × PropertyKey))
    (staged : StagedData) (index : List Nat) (branches : List (List Nat)) :
    t.produceAll target keys staged (index :: branches) =
      match t.produce target keys staged index with
      | .ok record =>
        { t.produceAll target keys staged branches with
          records := ⟨index, record⟩ :: (t.produceAll target keys staged branches).records }
      | .error e =>
        { t.produceAll target keys staged branches with
          errors := ⟨index, e⟩ :: (t.produceAll target keys staged branches).errors } := by
  simp only [produceAll, List.map_cons, List.filterMap_cons]
  cases t.produce target keys staged index <;> rfl

/-- What is produced for branches, one after the other. -/
theorem ofOutput_produceAll (t : Transformation) (o : OntologyStore) (target : Target)
    (staged : StagedData) (branches : List (List Nat)) :
    Produced.ofOutput t.id (t.produceAll target (t.knownKeys o target (t.keyIds target)) staged
        branches) =
      Produced.joined
        (branches.map fun index => t.producedFor o staged (.branch target index)) := by
  induction branches with
  | nil => rfl
  | cons index branches ih =>
    rw [List.map_cons, Produced.joined_cons, ← ih, produceAll_cons, producedFor, generate]
    cases t.produce target (t.knownKeys o target (t.keyIds target)) staged index with
    | error e => rfl
    | ok record => cases record <;> rfl

/-- What a transformation produces is what it produces for its items. -/
theorem ofOutput_outputFor {t : Transformation} {o : OntologyStore} {target : Target}
    {staged : StagedData} (h : t.checkedTarget = .ok target) :
    Produced.ofOutput t.id (t.outputFor o target staged) =
      Produced.joined ((t.items staged).map (t.producedFor o staged)) := by
  have hitems : t.items staged =
      (Expansion.ofLevels staged.data t.rootLevels).errors.map .unlisted ++
        (t.accepted staged (Expansion.ofLevels staged.data t.rootLevels).branches).map
          (.branch target) := by
    rw [items, h]
  have herrors (errors : List BranchError) :
      Produced.joined (errors.map (t.producedFor o staged ∘ Item.unlisted)) =
        { failures := errors.map fun e => ⟨t.id, e.index, .transform e.error⟩ } := by
    induction errors with
    | nil => rfl
    | cons e errors ih =>
      rw [List.map_cons, Produced.joined_cons, ih]
      rfl
  rw [hitems, List.map_append, Produced.joined_append, List.map_map, List.map_map, herrors,
    Function.comp_def (g := Item.branch target), ← ofOutput_produceAll]
  simp [Produced.ofOutput, outputFor, Produced.append]

end Transformation

/-- The items of the live transformations of a mapping, each with its transformation. -/
def TypeMapping.items (m : TypeMapping) (staged : StagedData) : List (Transformation × Item) :=
  m.liveTransformations.flatMap fun t => (t.items staged).map (t, ·)

/-- What the items of a mapping produce, one after the other. -/
def TypeMapping.parts (m : TypeMapping) (o : OntologyStore) (staged : StagedData) :
    List Produced :=
  (m.items staged).map fun entry => entry.1.producedFor o staged entry.2

/-- What a mapping produces from a payload. -/
def TypeMapping.produced (m : TypeMapping) (o : OntologyStore) (staged : StagedData) : Produced :=
  .joined (m.parts o staged)

namespace Ingest

variable {σ : Type} [KeepsCalls σ] {P : σ → Prop} {s : IngestSetting} {staged : StagedData}

/-- What transformations produce is what they produce for their items. -/
theorem answers_produce_eq (hP : ∀ m t, P t → P (KeepsCalls.record m t))
    (ts : List Transformation) :
    Answers P s.IsOut IngestError.Tells (produce s.ontology staged ts)
      (· = .ok (.joined ((ts.flatMap fun t => (t.items staged).map (t, ·)).map fun entry =>
        entry.1.producedFor s.ontology.store staged entry.2))) := by
  induction ts with
  | nil => exact .pure rfl
  | cons t ts ih =>
    have hrest : Answers P s.IsOut IngestError.Tells (do
        return (Produced.joined ((t.items staged).map
          (t.producedFor s.ontology.store staged))).append
            (← produce s.ontology staged ts) : Access σ IngestError Produced)
        (· = .ok (.joined (((t :: ts).flatMap fun t => (t.items staged).map (t, ·)).map
          fun entry => entry.1.producedFor s.ontology.store staged entry.2))) := by
      refine ih.bind (fun rest hrest => .pure ?_) nofun
      cases hrest
      rw [List.flatMap_cons, List.map_append, Produced.joined_append, List.map_map]
      rfl
    refine (Transformation.answers_apply_eq hP).outcome_bind (fun r hr => ?_) fun m e _ he => ?_
    · cases htarget : t.checkedTarget with
      | error cause =>
        rw [htarget] at hr
        subst hr
        have hitems : t.items staged = [.malformed cause] := by rw [Transformation.items, htarget]
        rw [hitems] at hrest
        exact hrest
      | ok target =>
        rw [htarget] at hr
        subst hr
        rw [← Transformation.ofOutput_outputFor htarget] at hrest
        exact hrest
    · have htells : IngestError.Tells m (.ontology (.backend m.unavailable)) :=
        IngestError.Tells.ofOntology ⟨he.1, rfl⟩
      obtain ⟨-, rfl⟩ := he
      exact ⟨_, rfl, htells⟩

theorem returns_produce_eq (s : IngestSetting) (mapping : TypeMapping) (staged : StagedData) :
    Returns (produce s.ontology staged mapping.liveTransformations : Access σ IngestError Produced)
      (· = mapping.produced s.ontology.store staged) :=
  fun t produced t' hrun => Except.ok.inj ((answers_produce_eq (P := fun _ : σ => True) (s := s)
    (fun _ _ _ => trivial) mapping.liveTransformations).returns t produced t' hrun)

end Ingest

end TypedGraph
