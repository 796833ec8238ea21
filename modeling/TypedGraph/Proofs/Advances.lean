import TypedGraph.Proofs.Ingests
import TypedGraph.Proofs.NodesTwice

/-!
# Identities keep their ids

A record without an id is written under the id that its identity has, be the record of it
archived or not, or else under an id that is drawn; archiving changes neither ids nor
identities. So while the ids that are drawn are fresh, every identity keeps its id, and
later ones stay fresh (`Transaction.Advances`). Calls that put records without ids go on
in this way, and so does every ingest, also where they fail (`Ingest.proceeds_run`).
-/
namespace TypedGraph

open Access

/-! ## Tables -/

namespace Table

variable {α : Type} {base : α → RecordBase} {t u v : Table α}

/-- Whether the identities in one table have the same ids in another one. -/
def KeepsIds (base : α → RecordBase) (t u : Table α) : Prop :=
  ∀ compositeId dataSourceId a, Graph.byIdentity? base t compositeId dataSourceId = some a →
    ∃ b, Graph.byIdentity? base u compositeId dataSourceId = some b ∧ (base b).id = (base a).id

theorem KeepsIds.refl (t : Table α) : KeepsIds base t t := fun _ _ a ha => ⟨a, ha, rfl⟩

theorem KeepsIds.trans (h : KeepsIds base t u) (h' : KeepsIds base u v) : KeepsIds base t v := by
  intro c d a ha
  obtain ⟨b, hb, hid⟩ := h c d a ha
  obtain ⟨b', hb', hid'⟩ := h' c d b hb
  exact ⟨b', hb', hid'.trans hid⟩

/-- Whether two tables have the same keys, with records of the same identities. -/
def SameIdentities (base : α → RecordBase) (t u : Table α) : Prop :=
  ∀ key, ((u.get? key).map fun a => ((base a).compositeId, (base a).dataSourceId)) =
    (t.get? key).map fun a => ((base a).compositeId, (base a).dataSourceId)

variable [Supply]

theorem SameIdentities.fresh (h : SameIdentities base t u) {drawn : Drawn}
    (hfresh : Transaction.Fresh t drawn) : Transaction.Fresh u drawn := by
  intro n hn
  simpa [hfresh n hn] using h (Supply.drawnId n)

omit [Supply] in
theorem SameIdentities.keepsIds (h : SameIdentities base t u) (ht : IsRegister base t)
    (hu : IsRegister base u) : KeepsIds base t u := by
  intro c d a ha
  obtain ⟨⟨key, hkey⟩, hidentity⟩ := ht.byIdentity?_eq_some.1 ha
  have hsame := h key
  rw [hkey, Option.map_some] at hsame
  obtain ⟨b, hb, heq⟩ := Option.map_eq_some_iff.1 hsame
  obtain ⟨hc, hd⟩ := Prod.ext_iff.1 heq
  rw [← RecordBase.hasIdentity_congr hc hd] at hidentity
  exact ⟨b, hu.byIdentity?_eq_some.2 ⟨⟨key, hb⟩, hidentity⟩,
    (hu.id_eq hb).trans (ht.id_eq hkey).symm⟩

omit [Supply] in
/-- A record may be set in the place of one with its identity. -/
theorem sameIdentities_insert {key : String} {a b : α} (hb : t.get? key = some b)
    (hc : (base a).compositeId = (base b).compositeId)
    (hd : (base a).dataSourceId = (base b).dataSourceId) :
    SameIdentities base t (t.insert key a) := by
  intro other
  rw [get?_insert]
  split
  · rename_i heq
    rw [heq, hb, Option.map_some, Option.map_some, hc, hd]
  · rfl

omit [Supply] in
theorem sameIdentities_map {f : α → α} (hc : ∀ a, (base (f a)).compositeId = (base a).compositeId)
    (hd : ∀ a, (base (f a)).dataSourceId = (base a).dataSourceId) :
    SameIdentities base t (t.map fun row => (row.1, f row.2)) := by
  intro key
  rw [get?_map, Option.map_map]
  simp only [Function.comp_def, hc, hd]

end Table

/-- A sound graph in which the ids are fresh that are drawn after a number of others. -/
structure Graph.HasRoom [Supply] (g : Graph) (drawn : Drawn) : Prop where
  sound : g.IsSound
  nodes : Transaction.Fresh g.nodes drawn
  edges : Transaction.Fresh g.edges drawn

/-- Whether the identities in one graph have the same ids in another one. -/
structure Graph.KeepsIds (g g' : Graph) : Prop where
  nodes : Table.KeepsIds Node.toRecordBase g.nodes g'.nodes
  edges : Table.KeepsIds Edge.toRecordBase g.edges g'.edges

namespace Graph

variable {g g' g'' : Graph} {drawn drawn' : Drawn} {id : String}

variable [Supply]

theorem hasRoom_empty (drawn : Drawn) : HasRoom {} drawn :=
  ⟨isSound_empty, fun _ _ => rfl, fun _ _ => rfl⟩

theorem HasRoom.mono (h : g.HasRoom drawn) (hdrawn : drawn.ids ≤ drawn'.ids) : g.HasRoom drawn' :=
  ⟨h.sound, h.nodes.mono hdrawn, h.edges.mono hdrawn⟩

omit [Supply] in
theorem KeepsIds.refl (g : Graph) : g.KeepsIds g := ⟨.refl _, .refl _⟩

omit [Supply] in
theorem KeepsIds.trans (h : g.KeepsIds g') (h' : g'.KeepsIds g'') : g.KeepsIds g'' :=
  ⟨h.nodes.trans h'.nodes, h.edges.trans h'.edges⟩

/-- Graphs with the same identities under the same keys have room for the same ids. -/
theorem HasRoom.of_sameIdentities (h : g.HasRoom drawn) (hsound : g'.IsSound)
    (hnodes : Table.SameIdentities Node.toRecordBase g.nodes g'.nodes)
    (hedges : Table.SameIdentities Edge.toRecordBase g.edges g'.edges) :
    g'.HasRoom drawn ∧ g.KeepsIds g' :=
  ⟨⟨hsound, hnodes.fresh h.nodes, hedges.fresh h.edges⟩,
    hnodes.keepsIds h.sound.nodes hsound.nodes, hedges.keepsIds h.sound.edges hsound.edges⟩

theorem HasRoom.archiveNode? (h : g.HasRoom drawn) (hg : g.archiveNode? id = some g') :
    g'.HasRoom drawn ∧ g.KeepsIds g' := by
  have hsound := isSound_archiveNode? h.sound hg
  obtain ⟨n, hn, rfl⟩ := Option.map_eq_some_iff.1 hg
  refine h.of_sameIdentities hsound (Table.sameIdentities_insert hn rfl rfl) ?_
  refine Table.sameIdentities_map (f := fun x => if touches id x then { x with archived := true }
    else x) ?_ ?_
  all_goals
    intro x
    split <;> rfl

theorem HasRoom.archiveEdge? (h : g.HasRoom drawn) (hg : g.archiveEdge? id = some g') :
    g'.HasRoom drawn ∧ g.KeepsIds g' := by
  have hsound := isSound_archiveEdge? h.sound hg
  obtain ⟨x, hx, rfl⟩ := Option.map_eq_some_iff.1 hg
  exact h.of_sameIdentities hsound (fun _ => rfl) (Table.sameIdentities_insert hx rfl rfl)

end Graph

/-! ## Transactions -/

namespace Transaction

variable [Supply]

/-- Whether a transaction goes on to another one without taking back ids that were drawn
or changing the ids of identities, if the ids that are drawn are fresh. -/
structure Advances (t t' : Transaction) : Prop where
  drawn : t.drawn.ids ≤ t'.drawn.ids
  room : t.graph.HasRoom t.drawn → t'.graph.HasRoom t'.drawn
  keepsIds : t.graph.HasRoom t.drawn → t.graph.KeepsIds t'.graph

variable {t t' t'' : Transaction} {n : Node} {x : Edge}

theorem Advances.of_graph (hgraph : t'.graph = t.graph) (hdrawn : t.drawn.ids ≤ t'.drawn.ids) :
    t.Advances t' where
  drawn := hdrawn
  room h := hgraph ▸ h.mono hdrawn
  keepsIds _ := hgraph ▸ .refl _

theorem Advances.trans (h : t.Advances t') (h' : t'.Advances t'') : t.Advances t'' where
  drawn := Nat.le_trans h.drawn h'.drawn
  room ht := h'.room (h.room ht)
  keepsIds ht := (h.keepsIds ht).trans (h'.keepsIds (h.room ht))

/-- A node without an id takes the id of its identity or a fresh one. -/
theorem advances_withNode (hn : n.id = none) (t : Transaction) : t.Advances (t.withNode n) where
  drawn := stamped_ids_le _ _ _
  room h := ⟨isSound_withNode h.sound n, fresh_withNode h.sound hn h.nodes,
    h.edges.mono (stamped_ids_le _ _ _)⟩
  keepsIds h := by
    refine ⟨fun c d m hm => ?_, .refl _⟩
    obtain ⟨m', hm', hid, -⟩ :=
      h.sound.nodes.byIdentity?_insert (a := t.storedNode n) hn h.nodes rfl hm
    exact ⟨m', hm', hid⟩

/-- An edge without an id takes the id of its identity or a fresh one. -/
theorem advances_withEdge (hx : x.id = none) (t : Transaction) : t.Advances (t.withEdge x) where
  drawn := stamped_ids_le _ _ _
  room h := ⟨isSound_withEdge h.sound x, h.nodes.mono (stamped_ids_le _ _ _),
    h.sound.edges.fresh_insert (a := t.storedEdge x) hx h.edges rfl⟩
  keepsIds h := by
    refine ⟨.refl _, fun c d y hy => ?_⟩
    obtain ⟨y', hy', hid, -⟩ :=
      h.sound.edges.byIdentity?_insert (a := t.storedEdge x) hx h.edges rfl hy
    exact ⟨y', hy', hid⟩

end Transaction

/-! ## Computations -/

namespace Access

variable {ε ε' α β : Type} {x : Access Transaction ε α} {Q R : α → Prop}

variable [Supply]

/-- Whether every run of a computation advances its transaction, also where it fails, and
what it returns is as `Q` says. -/
def Proceeds (x : Access Transaction ε α) (Q : α → Prop) : Prop :=
  ∀ t, t.Advances (x.run.run t).2 ∧ ∀ a, (x.run.run t).1 = .ok a → Q a

theorem Proceeds.pure {a : α} (h : Q a) : Proceeds (pure a : Access Transaction ε α) Q :=
  fun _ => ⟨.of_graph rfl (Nat.le_refl _), fun _ ha => by cases ha; exact h⟩

theorem Proceeds.throw {e : ε} : Proceeds (throw e : Access Transaction ε α) Q :=
  fun _ => ⟨.of_graph rfl (Nat.le_refl _), nofun⟩

theorem Proceeds.bind {f : α → Access Transaction ε β} {Q : β → Prop} (hx : Proceeds x R)
    (hf : ∀ a, R a → Proceeds (f a) Q) : Proceeds (x >>= f) Q := by
  intro t
  obtain ⟨hfirst, hreturns⟩ := hx t
  rcases run_bind_cases x f t with ⟨a, t', hrun, heq⟩ | ⟨e, t', hrun, heq⟩
  · rw [hrun] at hfirst hreturns
    obtain ⟨hrest, hQ⟩ := hf a (hreturns a rfl) t'
    rw [heq]
    exact ⟨hfirst.trans hrest, hQ⟩
  · rw [hrun] at hfirst
    rw [heq]
    exact ⟨hfirst, nofun⟩

theorem Proceeds.outcome (hx : Proceeds x R) :
    Proceeds (outcome x : Access Transaction ε' (Except ε α)) fun r => ∀ a, r = .ok a → R a := by
  intro t
  rw [run_outcome]
  refine ⟨(hx t).1, fun r hr a ha => (hx t).2 a ?_⟩
  cases hr
  exact ha

theorem Proceeds.ofResult {asError : ε' → ε} {r : Except ε' α} (h : ∀ a, r = .ok a → Q a) :
    Proceeds (ofResult asError r : Access Transaction ε α) Q := by
  cases r with
  | error e => exact .throw
  | ok a => exact .pure (h a rfl)

theorem Proceeds.mapM {f : β → Access Transaction ε α} {bs : List β}
    (hf : ∀ b ∈ bs, Proceeds (f b) fun _ => True) : Proceeds (bs.mapM f) fun _ => True := by
  induction bs with
  | nil => exact .pure trivial
  | cons b bs ih =>
    rw [List.mapM_cons]
    refine (hf b (by simp)).bind fun _ _ => ?_
    exact (ih fun b hb => hf b (by simp [hb])).bind fun _ _ => .pure trivial

theorem Proceeds.call {outage : Outage} {m : Method} {failure : String → ε} (hx : Proceeds x Q) :
    Proceeds (call outage m failure x) Q := by
  intro t
  by_cases h : m ∈ outage.methods
  · rw [run_call_of_mem h]
    exact ⟨.of_graph rfl (Nat.le_refl _), nofun⟩
  · rw [run_call_of_notMem h]
    have hrecord : t.Advances (KeepsCalls.record m t) := .of_graph rfl (Nat.le_refl _)
    exact ⟨hrecord.trans (hx _).1, (hx _).2⟩

/-- What changes nothing advances every transaction. -/
theorem Answers.proceeds {P : Transaction → Transaction → Prop} {out : Method → Prop}
    {tells : Method → ε → Prop} {R : Transaction → Except ε α → Prop}
    (h : ∀ t, Answers (P t) out tells x (R t)) (hP : ∀ t, P t t)
    (hQ : ∀ t a, R t (.ok a) → Q a) : Proceeds x Q := by
  intro t
  refine ⟨?_, fun a ha => hQ t a ((h t).of_ok (hP t) ha)⟩
  obtain ⟨r, calls, hruns, -⟩ := h t
  rw [(hruns t (hP t)).1, recordAll_transaction]
  exact .of_graph rfl (Nat.le_refl _)

end Access

namespace Transaction

variable {ε : Type} {outage : Outage} {x : Edge} {id : String}

variable [Supply]

theorem proceeds_putNode {n : Node} (hn : n.id = none) :
    Proceeds (putNode n : Access Transaction ε Node) fun _ => True := by
  intro t
  rw [run_putNode]
  exact ⟨advances_withNode hn t, fun _ _ => trivial⟩

theorem proceeds_putNodes {nodes : List Node} (hnodes : ∀ n ∈ nodes, n.id = none) :
    Proceeds (putNodes outage nodes) fun _ => True :=
  .call (.mapM fun n hn => proceeds_putNode (hnodes n hn))

theorem proceeds_putEdge (hx : x.id = none) : Proceeds (putEdge x) fun _ => True := by
  intro t
  refine ⟨?_, fun _ _ => trivial⟩
  cases hjoined : joinedNodes t.graph x with
  | error cause =>
    rw [run_putEdge_of_unusable hjoined]
    exact .of_graph rfl (Nat.le_refl _)
  | ok ids =>
    cases hy : t.obstacle? x with
    | some y =>
      rw [run_putEdge_of_obstacle hjoined hy]
      exact .of_graph rfl (stamped_ids_le _ _ _)
    | none =>
      rw [run_putEdge_of_free hjoined hy]
      exact advances_withEdge hx t

theorem proceeds_putEdges {edges : List Edge} (hedges : ∀ x ∈ edges, x.id = none) :
    Proceeds (putEdges outage edges) fun _ => True := by
  refine .call ?_
  split
  · exact .pure trivial
  · exact .mapM fun x hx => proceeds_putEdge (hedges x hx)

/-- A change of the graph that leaves ids and identities as they are. -/
theorem proceeds_update {f : Graph → Option Graph} {e : StorageError}
    (h : ∀ g g' drawn, f g = some g' → g.HasRoom drawn → g'.HasRoom drawn ∧ g.KeepsIds g') :
    Proceeds (do
      match f (← get).graph with
      | some graph => modify fun t => { t with graph }
      | none => throw e : Access Transaction StorageError Unit) fun _ => True := by
  intro t
  refine ⟨?_, fun _ _ => trivial⟩
  have hget : (get : Access Transaction StorageError _).run.run t = (.ok t, t) := rfl
  rw [run_bind_of_ok hget]
  cases hg : f t.graph with
  | none => exact .of_graph rfl (Nat.le_refl _)
  | some g' =>
    have hroom := h t.graph g' t.drawn hg
    exact ⟨Nat.le_refl _, fun ht => (hroom ht).1, fun ht => (hroom ht).2⟩

theorem proceeds_archiveNode : Proceeds (archiveNode outage id) fun _ => True :=
  .call (proceeds_update fun _ _ _ hg h => h.archiveNode? hg)

theorem proceeds_archiveEdge : Proceeds (archiveEdge outage id) fun _ => True :=
  .call (proceeds_update fun _ _ _ hg h => h.archiveEdge? hg)

end Transaction

/-! ## Ingests -/

namespace Ingest

variable {s : IngestSetting} {mapping : TypeMapping} {staged : StagedData}

variable [Supply]

theorem proceeds_connect {a : Attempt} (ha : a.joined.id = none) :
    Proceeds (connect s a.pair a.edge a.origin a.destination) fun _ => True := by
  have hreplaced : Proceeds (replacedId s a.joined) fun _ => True :=
    Answers.proceeds (fun t => answers_replacedId t.graph a.joined) (fun _ => rfl)
      fun _ _ _ => trivial
  refine hreplaced.outcome.bind fun r _ => ?_
  refine (Proceeds.ofResult (Q := fun _ => True) fun _ _ => trivial).bind fun replaced _ => ?_
  have hcheck : Proceeds (Connection.check s.outage a.pair a.origin a.destination replaced)
      fun _ => True :=
    Answers.proceeds (fun t => Connection.answers_check t.graph a.pair a.origin a.destination
      replaced) (fun _ => rfl) fun _ _ _ => trivial
  refine hcheck.outcome.bind fun r _ => ?_
  split
  · exact .throw
  · exact .pure trivial
  · have hput : Proceeds (Transaction.putEdges s.outage [a.joined]) fun _ => True :=
      Transaction.proceeds_putEdges (by simpa using ha)
    refine hput.outcome.bind fun r _ => ?_
    split
    · split <;> exact .pure trivial
    · exact .pure trivial
    · exact .throw

variable [PatternEngine]

/-- Planning an edge changes nothing, and what is planned is that edge. -/
theorem proceeds_planEdge {memo : EdgeMemo} (hmemo : memo.IsSound s.ontology.store) (edge : Edge) :
    Proceeds (planEdge s memo edge) fun ans =>
      (∀ a, .ok a ∈ ans.1 → a.edge.id = edge.id) ∧ ans.2.IsSound s.ontology.store := by
  refine Answers.proceeds (P := fun t => HasNodes t.graph.nodes)
    (fun t => answers_planEdge hmemo edge) (fun _ => rfl) fun t ans h => ?_
  obtain ⟨_, heq, hplan, hmemo'⟩ := h
  cases heq
  exact ⟨fun a ha => (hplan.isFor.attempts a ha).id, hmemo'⟩

theorem proceeds_writeEdges {memo : EdgeMemo} (hmemo : memo.IsSound s.ontology.store)
    {ps : List (Pending Edge)} (hps : ∀ p ∈ ps, p.record.id = none) :
    Proceeds (writeEdges s memo ps) fun _ => True := by
  induction ps generalizing memo with
  | nil => exact .pure trivial
  | cons p ps ih =>
    unfold writeEdges
    rw [writeEdge_eq, bind_assoc]
    refine (proceeds_planEdge hmemo p.record).bind fun ans hans => ?_
    obtain ⟨plan, memo'⟩ := ans
    obtain ⟨hplan, hmemo'⟩ := hans
    rw [bind_assoc]
    have hattempts : Proceeds (plan.mapM (attempt s)) fun _ => True := .mapM fun x hx => by
      cases x with
      | error e => exact .pure trivial
      | ok a => exact proceeds_connect ((hplan a hx).trans (hps p (by simp)))
    refine hattempts.bind fun _ _ => ?_
    exact (ih hmemo' fun p hp => hps p (by simp [hp])).bind fun _ _ => .pure trivial

/-- The records that an ingest prepares have no ids. -/
theorem proceeds_start : Proceeds (start s mapping staged) fun prepared =>
    (∀ n ∈ prepared.nodes, n.id = none) ∧ ∀ p ∈ prepared.edges, p.record.id = none := by
  refine Answers.proceeds (P := fun _ _ => True) (fun _ => answers_start) (fun _ => trivial)
    fun _ prepared h => ?_
  rcases h with ⟨produced, _, heq, -, -, hsound, hfrom⟩ | ⟨_, h, -⟩
  · cases heq
    refine ⟨fun n hn => ?_, fun p hp => (hsound.edges p (hfrom.edges ▸ hp)).id⟩
    obtain ⟨p, hp, properties, rfl⟩ := hfrom.nodes n hn
    exact (hsound.nodes p hp).id
  · contradiction

/-- Identities keep their ids in an ingest, however it ends. -/
theorem proceeds_run : Proceeds (run s mapping staged) fun _ => True := by
  refine proceeds_start.bind fun prepared ⟨hnodes, hedges⟩ => ?_
  have hwrite : Proceeds (write s prepared) fun _ => True := by
    refine (Transaction.proceeds_putNodes hnodes).outcome.bind fun r _ => ?_
    refine (Proceeds.ofResult (Q := fun _ => True) fun _ _ => trivial).bind fun _ _ => ?_
    exact (proceeds_writeEdges (EdgeMemo.isSound_empty _) hedges).bind fun _ _ => .pure trivial
  exact hwrite.bind fun _ _ => .call (.pure trivial)

end Ingest

end TypedGraph
