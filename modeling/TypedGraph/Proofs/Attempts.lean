import TypedGraph.Proofs.Connections
import TypedGraph.Proofs.Plans

/-!
# Attempts at writing edges

An attempt is refused by the check, or its edge is written, or the write comes to nothing;
`Ingest.Attempted` is all that it can do. Writing edges makes the attempts of their plan
one after the other (`Ingest.serves_writeEdges`). It can end the ingest only if a method
is out, or if the tables of the graph are no registers.
-/
namespace TypedGraph

open Access

/-- A transaction without the calls that it recorded. -/
def Transaction.content (t : Transaction) : Transaction := { t with calls := [] }

theorem Transaction.content_congr {t t' : Transaction} (hgraph : t'.graph = t.graph)
    (hdrawn : t'.drawn = t.drawn) : t'.content = t.content := by
  simp [content, hgraph, hdrawn]

theorem Transaction.graph_eq {t u : Transaction} (h : t.content = u) : t.graph = u.graph := by
  rw [← h]
  rfl

/-- The id of the edge that the check of an edge leaves out of account. -/
def Graph.replacedId (g : Graph) (x : Edge) : Option String :=
  (match x.compositeId, x.dataSourceId with
    | some compositeId, some dataSourceId => g.edgeByComposite? compositeId dataSourceId
    | _, _ => none).bind (·.id) <|> x.id

/-- Whether a graph permits what is attempted. -/
def Attempt.IsPermitted (a : Attempt) (g : Graph) : Prop :=
  Connection.Permits g a.pair a.origin a.destination (g.replacedId a.joined)

namespace Ingest

section

variable [Supply]

/-- What an attempt can do to a transaction, and its outcome. -/
inductive Attempted (s : IngestSetting) :
    Except RecordError Attempt → Transaction → Except RecordError Edge → Transaction → Prop
  | unplanned {e : RecordError} {t : Transaction} : Attempted s (.error e) t (.error e) t
  | refused {a : Attempt} {t : Transaction} {cause : ConnectionError}
      (own : ∀ c, cause ≠ .lookup c) (refused : ¬ a.IsPermitted t.graph) :
      Attempted s (.ok a) t (.error (.connection cause)) t
  | dropped {a : Attempt} {t : Transaction} (permitted : a.IsPermitted t.graph)
      (silent : s.outage.silentEdges) :
      Attempted s (.ok a) t (.error (.storage (.backend "edge write returned nothing"))) t
  | clashing {a : Attempt} {t : Transaction} {y : Edge} {originId destinationId : String}
      (permitted : a.IsPermitted t.graph) (loud : s.outage.silentEdges = false)
      (clash : t.obstacle? a.joined = some y) :
      Attempted s (.ok a) t (.error (.storage (.uniqueViolation (y.id.getD "") originId
        destinationId a.joined.pairId))) { t with drawn := (t.edgeStamp a.joined).2 }
  | written {a : Attempt} {t : Transaction} (permitted : a.IsPermitted t.graph)
      (loud : s.outage.silentEdges = false) (free : t.obstacle? a.joined = none) :
      Attempted s (.ok a) t (.ok (t.storedEdge a.joined)) (t.withEdge a.joined)

/-- Attempts made one after the other. -/
inductive Made (s : IngestSetting) :
    List (Pending (Except RecordError Attempt)) → Transaction →
      List (Pending (Except RecordError Edge)) → Transaction → Prop
  | nil {t : Transaction} : Made s [] t [] t
  | cons {p : Pending (Except RecordError Attempt)}
      {plan : List (Pending (Except RecordError Attempt))} {outcome : Except RecordError Edge}
      {outcomes : List (Pending (Except RecordError Edge))} {t t' t'' : Transaction}
      (first : Attempted s p.record t outcome t')
      (rest : Made s plan t' outcomes t'') :
      Made s (p :: plan) t (p.replace outcome :: outcomes) t''

end

variable {s : IngestSetting}

section Made

variable {x : Except RecordError Attempt} {outcome : Except RecordError Edge}
  {plan plan' : List (Pending (Except RecordError Attempt))}
  {outcomes outcomes' : List (Pending (Except RecordError Edge))} {t t' t'' : Transaction}

variable [Supply]

theorem Made.append (h : Made s plan t outcomes t') (h' : Made s plan' t' outcomes' t'') :
    Made s (plan ++ plan') t (outcomes ++ outcomes') t'' := by
  induction h with
  | nil => exact h'
  | cons first _ ih => exact .cons first (ih h')

/-- What every attempt keeps is kept by all of them. -/
theorem Made.keeps {I : Transaction → Prop} (h : Made s plan t outcomes t') (ht : I t)
    (hkeeps : ∀ p ∈ plan, ∀ t outcome t', Attempted s p.record t outcome t' → I t → I t') :
    I t' := by
  induction h with
  | nil => exact ht
  | cons first rest ih =>
    refine ih (hkeeps _ (by simp) _ _ _ first ht) fun p hp => hkeeps p (by simp [hp])

/-- Every outcome is that of a planned attempt, made where what all attempts keep is true. -/
theorem Made.attempted_of_mem {I : Transaction → Prop} (h : Made s plan t outcomes t') (ht : I t)
    (hkeeps : ∀ p ∈ plan, ∀ t outcome t', Attempted s p.record t outcome t' → I t → I t')
    {q : Pending (Except RecordError Edge)} (hq : q ∈ outcomes) :
    ∃ p ∈ plan, ∃ u u', I u ∧ Attempted s p.record u q.record u' := by
  induction h with
  | nil => simp at hq
  | @cons p plan outcome outcomes t t' t'' first rest ih =>
    rcases List.mem_cons.1 hq with rfl | hq
    · exact ⟨p, by simp, t, t', ht, first⟩
    · obtain ⟨p', hp', h⟩ := ih (hkeeps p (by simp) _ _ _ first ht)
        (fun p hp => hkeeps p (by simp [hp])) hq
      exact ⟨p', by simp [hp'], h⟩

/-- Attempts do not change the nodes. -/
theorem Attempted.nodes (h : Attempted s x t outcome t') : t'.graph.nodes = t.graph.nodes := by
  cases h <;> rfl

theorem Made.nodes (h : Made s plan t outcomes t') : t'.graph.nodes = t.graph.nodes :=
  h.keeps (I := fun t' => t'.graph.nodes = t.graph.nodes) rfl
    fun _ _ _ _ _ hfirst ht => hfirst.nodes.trans ht

theorem Attempted.isSound (h : Attempted s x t outcome t') (ht : t.graph.IsSound) :
    t'.graph.IsSound := by
  cases h
  case written => exact Transaction.isSound_withEdge ht _
  all_goals exact ht

theorem Made.isSound (h : Made s plan t outcomes t') (ht : t.graph.IsSound) : t'.graph.IsSound :=
  h.keeps (I := fun t => t.graph.IsSound) ht fun _ _ _ _ _ hfirst ht => hfirst.isSound ht

end Made

/-! ## Runs of attempts -/

theorem answers_replacedId (g : Graph) (x : Edge) :
    Answers (fun t => t.graph = g) s.IsOut StorageError.Tells (replacedId s x)
      (· = .ok (g.replacedId x)) := by
  have hnone : Answers (fun t => t.graph = g) s.IsOut StorageError.Tells
      (pure none : Access Transaction StorageError (Option Edge)) (· = .ok none) := .pure rfl
  have hfind (c d : String) : Answers (fun t => t.graph = g) s.IsOut StorageError.Tells
      (Transaction.findEdgeByComposite s.outage c d) (· = .ok (g.edgeByComposite? c d)) :=
    Transaction.answers_read rfl (fun _ h => h) fun t ht => by rw [ht]
  have hreplaced {find : Access Transaction StorageError (Option Edge)} {found : Option Edge}
      (h : Answers (fun t => t.graph = g) s.IsOut StorageError.Tells find (· = .ok found)) :
      Answers (fun t => t.graph = g) s.IsOut StorageError.Tells
        (do return (← find).bind (·.id) <|> x.id) (· = .ok (found.bind (·.id) <|> x.id)) := by
    refine h.bind (fun stored h => ?_) fun e he => by contradiction
    cases h
    exact .pure rfl
  unfold replacedId Graph.replacedId
  cases x.compositeId with
  | none => exact hreplaced hnone
  | some c =>
    cases x.dataSourceId with
    | none => exact hreplaced hnone
    | some d => exact hreplaced (hfind c d)

section

variable [Supply]

/-- How the call ends that writes one edge. -/
inductive EdgePut (s : IngestSetting) (x : Edge) (t : Transaction) :
    Except StorageError (List Edge) → Transaction → Prop
  | silent (silent : s.outage.silentEdges) : EdgePut s x t (.ok []) t
  | unusable {cause : StorageError} (unusable : Transaction.joinedNodes t.graph x = .error cause) :
      EdgePut s x t (.error cause) t
  | clashing {y : Edge} {originId destinationId : String} (loud : s.outage.silentEdges = false)
      (clash : t.obstacle? x = some y) :
      EdgePut s x t (.error (.uniqueViolation (y.id.getD "") originId destinationId x.pairId))
        { t with drawn := (t.edgeStamp x).2 }
  | written (loud : s.outage.silentEdges = false) (free : t.obstacle? x = none) :
      EdgePut s x t (.ok [t.storedEdge x]) (t.withEdge x)

theorem serves_putEdge (x : Edge) (t : Transaction) :
    Serves s.IsOut StorageError.Tells (Transaction.putEdges s.outage [x]) t fun r t' =>
      EdgePut s x t.content r t'.content := by
  refine Serves.call (by rfl) ⟨rfl, rfl⟩ ?_
  split
  · exact .pure (.silent ‹_›)
  have loud : s.outage.silentEdges = false := by simp_all
  rw [List.mapM_cons, List.mapM_nil]
  cases hjoined : Transaction.joinedNodes t.graph x with
  | error cause =>
    have hrun := Transaction.run_putEdge_of_unusable (t := KeepsCalls.record .putEdges t) hjoined
    exact .of_run (run_bind_of_error hrun _) rfl (.unusable hjoined)
  | ok ids =>
    cases hy : t.obstacle? x with
    | some y =>
      have hrun := Transaction.run_putEdge_of_obstacle (t := KeepsCalls.record .putEdges t)
        hjoined hy
      exact .of_run (run_bind_of_error hrun _) rfl (.clashing loud hy)
    | none =>
      have hrun := Transaction.run_putEdge_of_free (t := KeepsCalls.record .putEdges t) hjoined hy
      exact .of_run (run_bind_of_ok hrun _) rfl (.written loud hy)

end

theorem joinedNodes_ne_uniqueViolation {g : Graph} {x : Edge} {yId o d p : String} :
    Transaction.joinedNodes g x ≠ .error (.uniqueViolation yId o d p) := by
  unfold Transaction.joinedNodes
  split
  · dsimp only
    split
    · simp
    · split <;> simp
  · simp

theorem serves_replacedId (x : Edge) (t : Transaction) :
    Serves s.IsOut StorageError.Tells (replacedId s x) t fun r t' =>
      r = .ok (t.graph.replacedId x) ∧ t'.content = t.content :=
  (answers_replacedId t.graph x).serves rfl fun _ _ hr hg hd =>
    ⟨hr, Transaction.content_congr hg hd⟩

/-- The check passes if and only if the attempt is permitted. -/
theorem serves_check (a : Attempt) (t : Transaction) :
    Serves s.IsOut ConnectionError.Tells
      (Connection.check s.outage a.pair a.origin a.destination (t.graph.replacedId a.joined)) t
      fun r t' => t'.content = t.content ∧ (r = .ok () ∧ a.IsPermitted t.graph ∨
        ∃ cause, r = .error cause ∧ (∀ c, cause ≠ .lookup c) ∧ ¬ a.IsPermitted t.graph) :=
  (Connection.answers_check t.graph a.pair a.origin a.destination _).serves rfl
    fun _ _ hr hg hd => ⟨Transaction.content_congr hg hd, hr⟩

section

variable [Supply]

/-- An attempt ends with an outcome, unless the ends of its edge cannot be used. -/
theorem serves_connect (a : Attempt) (t : Transaction) :
    Serves s.IsOut IngestError.Tells (connect s a.pair a.edge a.origin a.destination) t fun r t' =>
      (∃ outcome, r = .ok outcome ∧ Attempted s (.ok a) t.content outcome t'.content) ∨
        ∃ cause, r = .error (.storage cause) ∧ a.IsPermitted t.graph ∧
          Transaction.joinedNodes t.graph a.joined = .error cause := by
  refine Serves.outcome_bind (serves_replacedId a.joined t) (fun r t₁ h => ?_)
    fun m e _ he => ⟨_, rfl, IngestError.Tells.ofStorage he⟩
  obtain ⟨rfl, h₁⟩ := h
  have hgraph : t₁.graph = t.graph := Transaction.graph_eq (u := t.content) h₁
  have hcheck := serves_check (s := s) a t₁
  rw [hgraph] at hcheck
  rw [ofResult_ok, pure_bind]
  refine Serves.outcome_bind hcheck (fun r t₂ h => ?_) fun m e _ he => ?_
  · rw [h₁] at h
    obtain ⟨h₂, ⟨rfl, hpermitted⟩ | ⟨cause, rfl, hown, hrefused⟩⟩ := h
    · refine Serves.outcome_bind (serves_putEdge a.joined t₂) (fun r t₃ h => ?_) fun m e _ he => ?_
      · rw [h₂] at h
        generalize hend : t₃.content = finish at h
        cases h with
        | silent silent =>
          refine .pure (.inl ⟨_, rfl, ?_⟩)
          rw [hend]
          exact .dropped hpermitted silent
        | @unusable cause hjoined =>
          have hthrow : Serves s.IsOut IngestError.Tells
              (throw (.storage cause) : Access Transaction IngestError (Except RecordError Edge)) t₃
              fun r t' => (∃ outcome, r = .ok outcome ∧
                Attempted s (.ok a) t.content outcome t'.content) ∨
                ∃ cause, r = .error (.storage cause) ∧ a.IsPermitted t.graph ∧
                  Transaction.joinedNodes t.graph a.joined = .error cause :=
            .throw (.inr ⟨cause, rfl, hpermitted, hjoined⟩)
          cases cause with
          | uniqueViolation => exact absurd hjoined joinedNodes_ne_uniqueViolation
          | notFound => exact hthrow
          | backend => exact hthrow
        | clashing loud clash =>
          refine .pure (.inl ⟨_, rfl, ?_⟩)
          rw [hend]
          exact .clashing hpermitted loud clash
        | written loud free =>
          refine .pure (.inl ⟨_, rfl, ?_⟩)
          rw [hend]
          exact .written hpermitted loud free
      · obtain ⟨hm, rfl⟩ := he
        exact ⟨_, rfl, IngestError.Tells.ofStorage ⟨hm, rfl⟩⟩
    · have hrefusal : Attempted s (.ok a) t.content (.error (.connection cause)) t₂.content := by
        rw [h₂]
        exact .refused hown hrefused
      cases cause with
      | lookup c => exact absurd rfl (hown c)
      | _ => exact .pure (.inl ⟨_, rfl, hrefusal⟩)
  · obtain ⟨hm, rfl⟩ := he
    exact ⟨_, rfl, IngestError.Tells.ofStorage ⟨hm, rfl⟩⟩

omit [Supply] in
/-- In a sound graph a live node stands under its id. -/
theorem get?_of_liveIn {g : Graph} (h : g.IsSound) {n : Node} {id : String}
    (hn : LiveIn g.nodes n) (hid : n.id = some id) : g.nodes.get? id = some n := by
  obtain ⟨key, hkey⟩ := h.nodes.ordered.mem_values_iff.1 hn.1
  have hkeyId := h.nodes.id_eq hkey
  rw [hid] at hkeyId
  cases hkeyId
  exact hkey

omit [Supply] in
/-- In a sound graph an edge between live nodes can be written if it is permitted. -/
theorem joinedNodes_of_isPermitted {g : Graph} (h : g.IsSound) {a : Attempt}
    (horigin : LiveIn g.nodes a.origin) (hdestination : LiveIn g.nodes a.destination)
    (hpermitted : a.IsPermitted g) : ∃ ids, Transaction.joinedNodes g a.joined = .ok ids := by
  obtain ⟨originId, destinationId, hids, -⟩ := hpermitted
  obtain ⟨ho, hd, -, -⟩ := Connection.checkNodes_ok hids
  refine ⟨(originId, destinationId), ?_⟩
  simp [Transaction.joinedNodes, Attempt.joined, joinTo, ho, hd, get?_of_liveIn h horigin ho,
    get?_of_liveIn h hdestination hd, horigin.2, hdestination.2]

variable {nodes : Table Node} {o : OntologyStore} {edge : Edge}

theorem serves_attempt {plan : Plan} (hplan : plan.IsFor o nodes edge)
    {x : Except RecordError Attempt} (hx : x ∈ plan) {t : Transaction} (ht : HasNodes nodes t) :
    Serves s.IsOut IngestError.Tells (attempt s x) t fun r t' =>
      (∃ outcome, r = .ok outcome ∧ Attempted s x t.content outcome t'.content) ∨
        ∃ e, r = .error e ∧ ¬ t.graph.IsSound := by
  cases x with
  | error e => exact .pure (.inl ⟨_, rfl, .unplanned⟩)
  | ok a =>
    have ha := hplan.attempts a hx
    have hnodes : t.graph.nodes = nodes := ht
    refine (serves_connect a t).mono fun r t' hr => ?_
    rcases hr with hr | ⟨cause, rfl, hpermitted, hjoined⟩
    · exact .inl hr
    · refine .inr ⟨_, rfl, fun h => ?_⟩
      obtain ⟨ids, hids⟩ := joinedNodes_of_isPermitted h (hnodes ▸ ha.origin.live)
        (hnodes ▸ ha.destination.live) hpermitted
      rw [hids] at hjoined
      contradiction

/-- The attempts of a plan are made one after the other. -/
theorem serves_attempts {whole plan : Plan} (hwhole : whole.IsFor o nodes edge)
    (hplan : ∀ x ∈ plan, x ∈ whole) (p : Pending Edge) {t : Transaction} (ht : HasNodes nodes t) :
    Serves s.IsOut IngestError.Tells (plan.mapM (attempt s)) t fun r t' =>
      (∃ outcomes, r = .ok outcomes ∧
        Made s (plan.map p.replace) t.content (outcomes.map p.replace) t'.content) ∨
        ∃ e, r = .error e ∧ ¬ t.graph.IsSound := by
  induction plan generalizing t with
  | nil => exact .pure (.inl ⟨[], rfl, .nil⟩)
  | cons x plan ih =>
    rw [List.mapM_cons]
    refine (serves_attempt hwhole (hplan x (by simp)) ht).bind_cases (fun outcome t₁ hfirst => ?_)
      fun e _ hunsound => .inr ⟨e, rfl, hunsound⟩
    have ht₁ : HasNodes nodes t₁ := hfirst.nodes.trans ht
    refine (ih (fun x hx => hplan x (by simp [hx])) ht₁).bind_cases (fun outcomes t₂ hrest => ?_)
      fun e _ hunsound => .inr ⟨e, rfl, fun h => hunsound (hfirst.isSound h)⟩
    exact .pure (.inl ⟨_, rfl, .cons hfirst hrest⟩)

/-! ## Runs of plans -/

variable [PatternEngine]

/-- What is planned for edges on a table of nodes, in every run. -/
structure Planned (s : IngestSetting) (nodes : Table Node) (memo : EdgeMemo)
    (ps : List (Pending Edge)) (plan : List (Pending (Except RecordError Attempt))) : Prop where
  result : ∀ t, HasNodes nodes t → ((planEdges s memo ps).run.run t).1 = .ok plan
  attempts : ∀ p ∈ plan, ∀ a, p.record = .ok a →
    ∃ q ∈ ps, a.IsFor s.ontology.store nodes q.record
  errors : ∀ p ∈ plan, ∀ e, p.record = .error e → e.IsOwn

omit [Supply] in
theorem planned_nil (memo : EdgeMemo) : Planned s nodes memo [] [] :=
  ⟨fun _ _ => rfl, by simp, by simp⟩

omit [Supply] in
theorem Planned.cons {memo memo' : EdgeMemo} {p : Pending Edge} {ps : List (Pending Edge)}
    {plan : Plan} {rest : List (Pending (Except RecordError Attempt))}
    (hruns : ∀ t, HasNodes nodes t → ((planEdge s memo p.record).run.run t).1 = .ok (plan, memo') ∧
      HasNodes nodes ((planEdge s memo p.record).run.run t).2)
    (hplan : plan.IsFor s.ontology.store nodes p.record) (hrest : Planned s nodes memo' ps rest) :
    Planned s nodes memo (p :: ps) (plan.map p.replace ++ rest) := by
  refine ⟨fun t ht => ?_, fun q hq a ha => ?_, fun q hq e he => ?_⟩
  · obtain ⟨hok, ht'⟩ := hruns t ht
    have hrun : (planEdge s memo p.record).run.run t =
        (.ok (plan, memo'), ((planEdge s memo p.record).run.run t).2) := Prod.ext hok rfl
    have hrun' : (planEdges s memo' ps).run.run ((planEdge s memo p.record).run.run t).2 =
        (.ok rest, _) := Prod.ext (hrest.result _ ht') rfl
    change ((planEdge s memo p.record >>= _ : Access _ _ _).run.run t).1 = _
    rw [run_bind_of_ok hrun, run_bind_of_ok hrun']
    rfl
  · rcases List.mem_append.1 hq with hq | hq
    · obtain ⟨x, hx, rfl⟩ := List.mem_map.1 hq
      exact ⟨p, by simp, hplan.attempts a (by rwa [← show x = .ok a from ha])⟩
    · obtain ⟨q', hq', ha⟩ := hrest.attempts q hq a ha
      exact ⟨q', by simp [hq'], ha⟩
  · rcases List.mem_append.1 hq with hq | hq
    · obtain ⟨x, hx, rfl⟩ := List.mem_map.1 hq
      exact hplan.errors e (by rwa [← show x = .error e from he])
    · exact hrest.errors q hq e he

end

/-- The edges that were written. -/
def writtenEdges (outcomes : List (Pending (Except RecordError Edge))) : List Edge :=
  outcomes.filterMap fun p => p.record.toOption

theorem writtenEdges_cons (q : Pending (Except RecordError Edge))
    (outcomes : List (Pending (Except RecordError Edge))) :
    writtenEdges (q :: outcomes) = q.record.toOption.toList ++ writtenEdges outcomes := by
  unfold writtenEdges
  rw [List.filterMap_cons]
  cases q.record <;> rfl

/-- The failures of the edges that were not written. -/
def failedEdges (outcomes : List (Pending (Except RecordError Edge))) : List RecordFailure :=
  outcomes.filterMap fun p =>
    match p.record with
    | .ok _ => none
    | .error error => some (p.failure error)

theorem writtenEdges_append (p : Pending Edge) (results : List (Except RecordError Edge))
    (outcomes : List (Pending (Except RecordError Edge))) :
    writtenEdges (results.map p.replace ++ outcomes) =
      results.filterMap Except.toOption ++ writtenEdges outcomes := by
  simp [writtenEdges, List.filterMap_map, Function.comp_def, Pending.replace]

theorem failedEdges_append (p : Pending Edge) (results : List (Except RecordError Edge))
    (outcomes : List (Pending (Except RecordError Edge))) :
    failedEdges (results.map p.replace ++ outcomes) =
      (results.filterMap fun
        | .ok _ => none
        | .error error => some (p.failure error)) ++ failedEdges outcomes := by
  simp [failedEdges, List.filterMap_map, Function.comp_def, Pending.replace, Pending.failure]

variable [PatternEngine]

/-- What is planned for an edge in one run is planned for it in every run. -/
theorem serves_planEdge {memo : EdgeMemo} (hmemo : memo.IsSound s.ontology.store) (edge : Edge)
    {t : Transaction} (ht : HasNodes nodes t) :
    Serves s.IsOut IngestError.Tells (planEdge s memo edge) t fun r t' =>
      (∃ ans, r = .ok ans ∧ t'.content = t.content ∧
        ans.1.IsFor s.ontology.store nodes edge ∧ ans.2.IsSound s.ontology.store ∧
        ∀ t, HasNodes nodes t → ((planEdge s memo edge).run.run t).1 = .ok ans ∧
          HasNodes nodes ((planEdge s memo edge).run.run t).2) ∨
        ∃ e, r = .error e ∧ False := by
  refine (answers_planEdge hmemo edge).with_runs.serves ht fun r t' hr hg hd => ?_
  obtain ⟨⟨ans, rfl, hplan, hmemo'⟩, hruns⟩ := hr
  exact .inl ⟨ans, rfl, Transaction.content_congr hg hd, hplan.isFor, hmemo', hruns⟩

variable [Supply]

/-- Writing edges makes the attempts that are planned for them. -/
theorem serves_writeEdges {memo : EdgeMemo} (hmemo : memo.IsSound s.ontology.store)
    (ps : List (Pending Edge)) {t : Transaction} (ht : HasNodes nodes t) :
    Serves s.IsOut IngestError.Tells (writeEdges s memo ps) t fun r t' =>
      (∃ ended, r = .ok ended ∧ ∃ plan outcomes,
        ended = (writtenEdges outcomes, failedEdges outcomes) ∧
        Planned s nodes memo ps plan ∧ Made s plan t.content outcomes t'.content) ∨
        ∃ e, r = .error e ∧ ¬ t.graph.IsSound := by
  induction ps generalizing memo t with
  | nil => exact .pure (.inl ⟨_, rfl, [], [], rfl, planned_nil memo, .nil⟩)
  | cons p ps ih =>
    unfold writeEdges
    rw [writeEdge_eq, bind_assoc]
    refine (serves_planEdge hmemo p.record ht).bind_cases (fun (plan, memo') t₁ h => ?_)
      fun _ _ => False.elim
    obtain ⟨h₁, hplan, hmemo', hruns⟩ := h
    have hgraph := Transaction.graph_eq h₁
    have ht₁ : HasNodes nodes t₁ := by
      rw [HasNodes, hgraph]
      exact ht
    dsimp only
    rw [bind_assoc]
    refine (serves_attempts hplan (fun _ h => h) p ht₁).bind_cases
      (fun results t₂ hfirst => ?_) fun e _ hunsound => .inr ⟨e, rfl, ?_⟩
    · rw [h₁] at hfirst
      have ht₂ : HasNodes nodes t₂ := hfirst.nodes.trans ht
      refine (ih hmemo' ht₂).bind_cases (fun rest t₃ h => ?_)
        fun e _ hunsound => .inr ⟨e, rfl, fun h => hunsound (hfirst.isSound h)⟩
      obtain ⟨plan', outcomes, rfl, hplan', hrest⟩ := h
      refine .pure (.inl ⟨_, rfl, _, _, ?_, .cons hruns hplan hplan', hfirst.append hrest⟩)
      have hwritten := writtenEdges_append p results outcomes
      have hfailed := failedEdges_append p results outcomes
      exact Prod.ext hwritten.symm hfailed.symm
    · rwa [hgraph] at hunsound

end Ingest

end TypedGraph
