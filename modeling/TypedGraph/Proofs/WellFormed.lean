import TypedGraph.Proofs.EdgeEnds
import TypedGraph.Proofs.CurrentGraph

/-!
# Well-formed graphs

A graph is well formed if its records stand under their ids and are told apart by their
composite identities, its edges end at nodes that it stores, and no two live edges of a
pair join the same nodes. Every write keeps it well formed, and every write keeps the ids
that are stored. So both hold throughout a history, whatever its steps do and wherever
they fail (`GraphStore.wellFormed_after`).
-/
namespace TypedGraph

/-- A sound graph whose edges end at stored nodes, where no two live edges of a pair have
the same ends. -/
structure Graph.IsWellFormed (g : Graph) : Prop extends g.IsSound where
  ends : g.EndsAt fun _ _ _ => True
  unique {id id' : String} {x y : Edge} :
    g.edges.get? id = some x → g.edges.get? id' = some y →
    x.archived = false → y.archived = false → y.pairId = x.pairId →
    y.origin.nodeId = x.origin.nodeId → y.destination.nodeId = x.destination.nodeId → id = id'

/-- Whether the ids of all records of a graph are stored in another one too. -/
structure Graph.Within (g g' : Graph) : Prop where
  nodes : ∀ id ∈ g.nodes.keys, id ∈ g'.nodes.keys
  edges : ∀ id ∈ g.edges.keys, id ∈ g'.edges.keys

namespace Graph

variable {g g' g'' : Graph}

theorem isWellFormed_empty : IsWellFormed {} where
  toIsSound := isSound_empty
  ends := endsAt_empty
  unique h := by simp at h

theorem within_refl (g : Graph) : g.Within g := ⟨fun _ h => h, fun _ h => h⟩

theorem Within.trans (h : g.Within g') (h' : g'.Within g'') : g.Within g'' where
  nodes id hid := h'.nodes id (h.nodes id hid)
  edges id hid := h'.edges id (h.edges id hid)

theorem Within.node (h : g.Within g') {id : String} {n : Node} (hn : g.nodes.get? id = some n) :
    ∃ n', g'.nodes.get? id = some n' :=
  Table.mem_keys_iff.1 (h.nodes id (Table.mem_keys_iff.2 ⟨n, hn⟩))

end Graph

/-! ## Writes -/

namespace Transaction

variable {t : Transaction} {x y : Edge} {key : String}

variable [Supply]

/-- A live edge that joins the same nodes as a live one that may be written has its id. -/
theorem key_of_obstacle?_eq_none (ht : t.graph.IsSound) (hfree : t.obstacle? x = none)
    (hlive : x.archived = false) (hy : t.graph.edges.get? key = some y)
    (hylive : y.archived = false) (hpair : y.pairId = x.pairId)
    (horigin : y.origin.nodeId = x.origin.nodeId)
    (hdestination : y.destination.nodeId = x.destination.nodeId) :
    key = (t.storedEdge x).id.getD "" := by
  have hmem : y ∈ t.graph.liveEdges :=
    Graph.mem_liveEdges.2 ⟨ht.edges.ordered.mem_values_iff.2 ⟨key, hy⟩, hylive⟩
  have hclash : t.graph.clash? (t.storedEdge x) = none := by
    simpa [obstacle?, hlive] using hfree
  have hid : y.id = (t.storedEdge x).id := by
    simpa [storedEdge, hpair, horigin, hdestination] using List.find?_eq_none.1 hclash y hmem
  rw [← hid, ht.edges.id_eq hy]
  rfl

end Transaction

namespace Graph

section

variable [Supply]

theorem isWellFormed_withNode {t : Transaction} (h : t.graph.IsWellFormed) (n : Node) :
    (t.withNode n).graph.IsWellFormed where
  toIsSound := Transaction.isSound_withNode h.toIsSound n
  ends := h.ends.withNode fun _ _ => trivial
  unique := h.unique

theorem isWellFormed_withEdge {t : Transaction} {x : Edge} {ids : String × String}
    (h : t.graph.IsWellFormed) (hjoined : Transaction.joinedNodes t.graph x = .ok ids)
    (hfree : t.obstacle? x = none) : (t.withEdge x).graph.IsWellFormed where
  toIsSound := Transaction.isSound_withEdge h.toIsSound x
  ends := h.ends.withEdge ((Transaction.endsIn_of_joinedNodes hjoined).mono fun _ _ _ => trivial)
  unique {id id' y z} hy hz hylive hzlive hpair horigin hdestination := by
    have harchived : (t.storedEdge x).archived = x.archived := Transaction.stamped_archived
    rcases Table.get?_insert_cases hy with ⟨rfl, rfl⟩ | ⟨-, hy⟩
    · rcases Table.get?_insert_cases hz with ⟨rfl, rfl⟩ | ⟨-, hz⟩
      · rfl
      · rw [harchived] at hylive
        exact (Transaction.key_of_obstacle?_eq_none h.toIsSound hfree hylive hz hzlive hpair
          horigin hdestination).symm
    · rcases Table.get?_insert_cases hz with ⟨rfl, rfl⟩ | ⟨-, hz⟩
      · rw [harchived] at hzlive
        exact Transaction.key_of_obstacle?_eq_none h.toIsSound hfree hzlive hy hylive hpair.symm
          horigin.symm hdestination.symm
      · exact h.unique hy hz hylive hzlive hpair horigin hdestination

end

variable {g g' : Graph} {id : String}

theorem isWellFormed_archiveNode? (h : g.IsWellFormed) (hg : g.archiveNode? id = some g') :
    g'.IsWellFormed where
  toIsSound := isSound_archiveNode? h.toIsSound hg
  ends := h.ends.archiveNode? (fun _ _ _ => trivial) hg
  unique hx hy hxlive hylive := h.unique (live_of_archiveNode? hg hx hxlive)
    (live_of_archiveNode? hg hy hylive) hxlive hylive

theorem isWellFormed_archiveEdge? (h : g.IsWellFormed) (hg : g.archiveEdge? id = some g') :
    g'.IsWellFormed where
  toIsSound := isSound_archiveEdge? h.toIsSound hg
  ends := h.ends.archiveEdge? (fun _ _ _ => trivial) hg
  unique hx hy hxlive hylive := h.unique (live_of_archiveEdge? hg hx hxlive)
    (live_of_archiveEdge? hg hy hylive) hxlive hylive

variable [Supply]

theorem keptByWrites_isWellFormed : KeptByWrites (fun _ => True) IsWellFormed where
  sound _ h := h.toIsSound
  putNode _ n _ h := isWellFormed_withNode h n
  putEdge _ _ _ hjoined hfree h := isWellFormed_withEdge h hjoined hfree
  archiveNode _ _ _ hg h := isWellFormed_archiveNode? h hg
  archiveEdge _ _ _ hg h := isWellFormed_archiveEdge? h hg

/-! ## Ids -/

theorem within_withNode (t : Transaction) (n : Node) : t.graph.Within (t.withNode n).graph where
  nodes _ hid := Table.mem_keys_insert.2 (.inr hid)
  edges _ hid := hid

theorem within_withEdge (t : Transaction) (x : Edge) : t.graph.Within (t.withEdge x).graph where
  nodes _ hid := hid
  edges _ hid := Table.mem_keys_insert.2 (.inr hid)

omit [Supply] in
theorem within_archiveNode? (hg : g.archiveNode? id = some g') : g.Within g' := by
  obtain ⟨n, -, rfl⟩ := Option.map_eq_some_iff.1 hg
  constructor
  · intro key hkey
    exact Table.mem_keys_insert.2 (.inr hkey)
  · intro key hkey
    simpa [Table.keys, Function.comp_def] using hkey

omit [Supply] in
theorem within_archiveEdge? (hg : g.archiveEdge? id = some g') : g.Within g' := by
  obtain ⟨x, -, rfl⟩ := Option.map_eq_some_iff.1 hg
  constructor
  · intro key hkey
    exact hkey
  · intro key hkey
    exact Table.mem_keys_insert.2 (.inr hkey)

/-- No write loses an id of a graph. -/
theorem keptByWrites_within (g₀ : Graph) :
    KeptByWrites (fun _ => True) fun g => g.IsSound ∧ g₀.Within g where
  sound _ h := h.1
  putNode t n _ h := ⟨Transaction.isSound_withNode h.1 n, h.2.trans (within_withNode t n)⟩
  putEdge t x _ _ _ h := ⟨Transaction.isSound_withEdge h.1 x, h.2.trans (within_withEdge t x)⟩
  archiveNode _ _ _ hg h := ⟨isSound_archiveNode? h.1 hg, h.2.trans (within_archiveNode? hg)⟩
  archiveEdge _ _ _ hg h := ⟨isSound_archiveEdge? h.1 hg, h.2.trans (within_archiveEdge? hg)⟩

end Graph

/-! ## Histories -/

theorem Step.keeps_within [Supply] [PatternEngine] (step : Step) (g₀ : Graph) :
    step.Keeps fun g => g.IsSound ∧ g₀.Within g :=
  (Graph.keptByWrites_within g₀).step (fun _ _ => trivial) step.putsOnly_true

namespace GraphStore

variable {g : GraphStore} {steps : List Step}

/-- A store with sound graphs, where an open transaction has all committed ids. -/
def IsNested (g : GraphStore) : Prop :=
  g.All fun graph => graph.IsSound ∧ g.committed.Within graph

theorem isNested_empty : IsNested {} :=
  ⟨⟨Graph.isSound_empty, Graph.within_refl _⟩, nofun⟩

variable [Supply] [PatternEngine]

theorem IsNested.step (h : g.IsNested) (step : Step) : (g.step step).IsNested := by
  have hall := All.step h (step.keeps_within g.committed)
  -- A step that commits a graph leaves no copy of it, and any other one commits nothing.
  rcases g.idle_or_committed_eq step with hidle | heq
  · refine ⟨⟨hall.1.1, Graph.within_refl _⟩, fun graph hgraph => ?_⟩
    rw [hidle] at hgraph
    contradiction
  · rw [IsNested, heq]
    exact hall

theorem IsNested.after (h : g.IsNested) (steps : List Step) : (g.after steps).IsNested :=
  after_induction h fun _ step _ hbefore => hbefore.step step

/-- Every graph of every history is well formed. The ids of the committed graph stay in it,
and those of the current graph do unless a step discards it. -/
theorem wellFormed_after (steps rest : List Step) :
    (after {} steps).All Graph.IsWellFormed ∧
      (after {} steps).committed.Within (after {} (steps ++ rest)).committed ∧
      ((∀ step ∈ rest, ¬ step.Discards) →
        (after {} steps).current.Within (after {} (steps ++ rest)).current) := by
  have hsplit : after {} (steps ++ rest) = (after {} steps).after rest := List.foldl_append
  have hnested := isNested_empty.after steps
  rw [hsplit]
  refine ⟨?_, ?_, fun hrest => ?_⟩
  · refine All.after ⟨Graph.isWellFormed_empty, nofun⟩ fun step _ => ?_
    exact Graph.keptByWrites_isWellFormed.step (fun _ _ => trivial) step.putsOnly_true
  · have hall := All.after hnested fun step (_ : step ∈ rest) => step.keeps_within _
    exact hall.1.2
  · have hcurrent := current_after
      (I := fun g => g.IsSound ∧ (after {} steps).current.Within g)
      ⟨All.current hnested |>.1, Graph.within_refl _⟩ (fun step _ => step.keeps_within _) hrest
    exact hcurrent.2

end GraphStore

end TypedGraph
