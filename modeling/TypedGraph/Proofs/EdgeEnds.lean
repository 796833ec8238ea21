import TypedGraph.Proofs.Writing

/-!
# Where stored edges end

The ends of an edge name nodes. An edge that may be written ends at stored nodes, and at
live ones unless it is archived itself (`Transaction.endsIn_of_joinedNodes`). What is
written later changes neither the edge nor the ids of the nodes, but it may change what
the nodes are.
-/
namespace TypedGraph

/-- Whether the ends of an edge are at nodes of a table, and these are as `P` says. -/
def Edge.EndsIn (nodes : Table Node) (P : End → Node → Prop) (x : Edge) : Prop :=
  ∀ which, ∃ id n, (x.side which).nodeId = some id ∧ nodes.get? id = some n ∧ P which n

/-- Whether the ends of all edges of a graph are at nodes of it, and these are as `Q` says. -/
def Graph.EndsAt (Q : Edge → End → Node → Prop) (g : Graph) : Prop :=
  ∀ key x, g.edges.get? key = some x → x.EndsIn g.nodes (Q x)

namespace Edge

variable {nodes : Table Node} {P P' : End → Node → Prop} {x y : Edge}

theorem EndsIn.mono (h : x.EndsIn nodes P) (hP : ∀ which n, P which n → P' which n) :
    x.EndsIn nodes P' := by
  intro which
  obtain ⟨id, n, hid, hn, hPn⟩ := h which
  exact ⟨id, n, hid, hn, hP which n hPn⟩

/-- Nothing matters of an edge but the nodes that it names. -/
theorem EndsIn.congr (h : x.EndsIn nodes P)
    (hends : ∀ which, (y.side which).nodeId = (x.side which).nodeId) : y.EndsIn nodes P := by
  intro which
  rw [hends which]
  exact h which

/-- A node may be stored if it is as it has to be at the ends that name it. -/
theorem EndsIn.insert {id : String} {n : Node} (h : x.EndsIn nodes P)
    (hn : ∀ which, (x.side which).nodeId = some id → P which n) :
    x.EndsIn (nodes.insert id n) P := by
  intro which
  obtain ⟨id', n', hid', hn', hPn'⟩ := h which
  by_cases heq : id' = id
  · subst heq
    exact ⟨id', n, hid', by simp [Table.get?_insert], hn which hid'⟩
  · exact ⟨id', n', hid', by simpa [Table.get?_insert, heq] using hn', hPn'⟩

end Edge

namespace Transaction

variable {t : Transaction} {x : Edge}

variable [Supply]

@[simp] theorem side_storedEdge (t : Transaction) (x : Edge) (which : End) :
    (t.storedEdge x).side which = x.side which := by
  cases which <;> rfl

omit [Supply] in
/-- An edge that may be written ends at stored nodes, at live ones if it is live. -/
theorem endsIn_of_joinedNodes {g : Graph} {ids : String × String}
    (h : joinedNodes g x = .ok ids) :
    x.EndsIn g.nodes fun _ n => x.archived = false → n.archived = false := by
  unfold joinedNodes at h
  split at h
  · rename_i originId destinationId ho hd
    dsimp only at h
    split at h
    · contradiction
    rename_i horigin
    split at h
    · contradiction
    rename_i hdestination
    have husable {id : String}
        (hid : ¬ (!(g.nodes.get? id).any fun n => x.archived || !n.archived) = true) :
        ∃ n, g.nodes.get? id = some n ∧ (x.archived = false → n.archived = false) := by
      cases hn : g.nodes.get? id with
      | none => simp [hn] at hid
      | some n =>
        refine ⟨n, rfl, fun hx => ?_⟩
        simpa [hn, hx] using hid
    intro which
    cases which with
    | origin =>
      obtain ⟨n, hn, hlive⟩ := husable horigin
      exact ⟨originId, n, ho, hn, hlive⟩
    | destination =>
      obtain ⟨n, hn, hlive⟩ := husable hdestination
      exact ⟨destinationId, n, hd, hn, hlive⟩
  · contradiction

end Transaction

namespace Graph

variable {g g' : Graph} {Q : Edge → End → Node → Prop} {id key : String} {x : Edge}

theorem endsAt_empty : EndsAt Q {} := by
  intro key x hx
  simp at hx

/-- An edge after a node was archived is an edge before, archived if it ended at the node. -/
theorem edge_of_archiveNode? (hg : g.archiveNode? id = some g')
    (hx : g'.edges.get? key = some x) :
    ∃ y, g.edges.get? key = some y ∧
      (x = y ∧ touches id y = false ∨ x = { y with archived := true }) := by
  obtain ⟨n, -, rfl⟩ := Option.map_eq_some_iff.1 hg
  rw [Table.get?_map fun x => if touches id x then { x with archived := true } else x] at hx
  obtain ⟨y, hy, rfl⟩ := Option.map_eq_some_iff.1 hx
  refine ⟨y, hy, ?_⟩
  by_cases htouches : touches id y = true
  · simp [htouches]
  · simp [htouches]

/-- An edge after an edge was archived is an edge before, or the one that was archived. -/
theorem edge_of_archiveEdge? (hg : g.archiveEdge? id = some g')
    (hx : g'.edges.get? key = some x) :
    ∃ y, g.edges.get? key = some y ∧ (x = y ∨ x = { y with archived := true }) := by
  obtain ⟨z, hz, rfl⟩ := Option.map_eq_some_iff.1 hg
  rcases Table.get?_insert_cases hx with ⟨rfl, rfl⟩ | ⟨-, hx⟩
  · exact ⟨z, hz, .inr rfl⟩
  · exact ⟨x, hx, .inl rfl⟩

/-- Nothing that is archived makes an edge live. -/
theorem live_of_archiveNode? (hg : g.archiveNode? id = some g')
    (hx : g'.edges.get? key = some x) (hlive : x.archived = false) :
    g.edges.get? key = some x := by
  obtain ⟨y, hy, ⟨rfl, -⟩ | rfl⟩ := edge_of_archiveNode? hg hx
  · exact hy
  · contradiction

theorem live_of_archiveEdge? (hg : g.archiveEdge? id = some g')
    (hx : g'.edges.get? key = some x) (hlive : x.archived = false) :
    g.edges.get? key = some x := by
  obtain ⟨y, hy, rfl | rfl⟩ := edge_of_archiveEdge? hg hx
  · exact hy
  · contradiction

theorem nodes_of_archiveNode? (hg : g.archiveNode? id = some g') :
    ∃ n, g.nodes.get? id = some n ∧ g'.nodes = g.nodes.insert id { n with archived := true } := by
  obtain ⟨n, hn, rfl⟩ := Option.map_eq_some_iff.1 hg
  exact ⟨n, hn, rfl⟩

theorem nodes_of_archiveEdge? (hg : g.archiveEdge? id = some g') : g'.nodes = g.nodes := by
  obtain ⟨x, -, rfl⟩ := Option.map_eq_some_iff.1 hg
  rfl

/-! ## Writes that leave the ends where they are -/

variable [Supply]

theorem EndsAt.withNode {t : Transaction} {n : Node} (h : t.graph.EndsAt Q)
    (hn : ∀ x which, Q x which (t.storedNode n)) : (t.withNode n).graph.EndsAt Q := by
  intro key x hx
  exact (h key x hx).insert fun which _ => hn x which

theorem EndsAt.withEdge {t : Transaction} (h : t.graph.EndsAt Q)
    (hx : x.EndsIn t.graph.nodes (Q (t.storedEdge x))) : (t.withEdge x).graph.EndsAt Q := by
  intro key y hy
  rcases Table.get?_insert_cases hy with ⟨-, rfl⟩ | ⟨-, hy⟩
  · exact hx.congr fun which => by rw [Transaction.side_storedEdge]
  · exact h key y hy

variable (hQ : ∀ (x : Edge) which n, Q { x with archived := true } which n)

include hQ

omit [Supply] in
/-- An edge that is archived may end at any node. -/
theorem EndsAt.archiveNode? (h : g.EndsAt Q) (hg : g.archiveNode? id = some g') :
    g'.EndsAt Q := by
  obtain ⟨n, -, hnodes⟩ := nodes_of_archiveNode? hg
  intro key x hx
  rw [hnodes]
  obtain ⟨y, hy, hxy⟩ := edge_of_archiveNode? hg hx
  have hends := h key y hy
  rcases hxy with ⟨rfl, htouches⟩ | rfl
  · refine hends.insert fun which hid => ?_
    cases which <;> simp_all [touches, Edge.side]
  · have harchived := hends.mono fun which n _ => hQ y which n
    exact (harchived.insert fun which _ => hQ y which _).congr fun which => by cases which <;> rfl

omit [Supply] in
theorem EndsAt.archiveEdge? (h : g.EndsAt Q) (hg : g.archiveEdge? id = some g') :
    g'.EndsAt Q := by
  intro key x hx
  rw [nodes_of_archiveEdge? hg]
  obtain ⟨y, hy, rfl | rfl⟩ := edge_of_archiveEdge? hg hx
  · exact h key x hy
  · have harchived := (h key y hy).mono fun which n _ => hQ y which n
    exact harchived.congr fun which => by cases which <;> rfl

end Graph

end TypedGraph
