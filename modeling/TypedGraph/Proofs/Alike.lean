import TypedGraph.Proofs.Ingests

/-!
# Computations that are alike

Two computations are alike if, from states that agree but for the calls recorded, they end in
matching results and in states that agree again. Steps that are alike make up computations
that are alike (`Access.Alike.bind`). No computation on a transaction looks at the calls
recorded, so that those which write edges are like themselves (`Ingest.alike_connect`).
-/
namespace TypedGraph

namespace Access

variable {σ ε ε' α β γ δ : Type}

/-- Whether two results are values that match, or the same error. -/
inductive Matches (R : α → β → Prop) : Except ε α → Except ε β → Prop
  | ok {a : α} {b : β} (h : R a b) : Matches R (.ok a) (.ok b)
  | error (e : ε) : Matches R (.error e) (.error e)

theorem Matches.eq {r r' : Except ε α} (h : Matches Eq r r') : r = r' := by
  cases h with
  | ok h => rw [h]
  | error e => rfl

theorem matches_refl (r : Except ε α) : Matches Eq r r := by
  cases r with
  | ok a => exact .ok rfl
  | error e => exact .error e

/-- Whether two computations end in results that match, and in states that agree. -/
def Alike (E : σ → σ → Prop) (R : α → β → Prop) (x : Access σ ε α) (y : Access σ ε β) : Prop :=
  ∀ t t', E t t' →
    Matches R (x.run.run t).1 (y.run.run t').1 ∧ E (x.run.run t).2 (y.run.run t').2

namespace Alike

variable {E : σ → σ → Prop} {R : α → β → Prop} {S : γ → δ → Prop} {x : Access σ ε α}
  {y : Access σ ε β}

theorem pure {a : α} {b : β} (h : R a b) :
    Alike E R (pure a : Access σ ε α) (pure b : Access σ ε β) :=
  fun _ _ ht => ⟨.ok h, ht⟩

theorem throw (e : ε) : Alike E R (throw e : Access σ ε α) (throw e : Access σ ε β) :=
  fun _ _ ht => ⟨.error e, ht⟩

theorem bind {f : α → Access σ ε γ} {g : β → Access σ ε δ} (h : Alike E R x y)
    (hf : ∀ a b, R a b → Alike E S (f a) (g b)) : Alike E S (x >>= f) (y >>= g) := by
  intro t t' ht
  have hxy := h t t' ht
  rcases hx : x.run.run t with ⟨r, u⟩
  rcases hy : y.run.run t' with ⟨r', u'⟩
  rw [hx, hy] at hxy
  obtain ⟨hmatch, hu⟩ := hxy
  cases hmatch with
  | ok hab =>
    rw [run_bind_of_ok hx, run_bind_of_ok hy]
    exact hf _ _ hab u u' hu
  | error e =>
    rw [run_bind_of_error hx, run_bind_of_error hy]
    exact ⟨.error e, hu⟩

/-- Computations that go on in the same way with results that are equal. -/
theorem bind_eq {x y : Access σ ε α} {f : α → Access σ ε γ} {g : α → Access σ ε δ}
    (h : Alike E Eq x y) (hf : ∀ a, Alike E S (f a) (g a)) : Alike E S (x >>= f) (y >>= g) :=
  h.bind fun a _ hab => hab ▸ hf a

/-- What is like a value returns it. -/
theorem of_returns {x : Access σ ε α} {a : α} {Q : α → Prop} (h : Alike E Eq x (Pure.pure a))
    (hx : Returns x Q) {t t' : σ} (ht : E t t') : Q a :=
  hx.of_result (h t t' ht).1.eq

/-- A computation that begins with a step that is like a value. -/
theorem bind_left {x : Access σ ε α} {a : α} {f : α → Access σ ε γ} {y : Access σ ε δ}
    (h : Alike E Eq x (Pure.pure a)) (hf : Alike E S (f a) y) : Alike E S (x >>= f) y := by
  intro t t' ht
  obtain ⟨hmatch, hu⟩ := h t t' ht
  rcases hx : x.run.run t with ⟨r, u⟩
  rw [hx] at hmatch hu
  cases hmatch.eq
  rw [run_bind_of_ok hx]
  exact hf u t' hu

theorem outcome {x y : Access σ ε α} (h : Alike E Eq x y) :
    Alike E Eq (outcome x : Access σ ε' (Except ε α)) (Access.outcome y) := by
  intro t t' ht
  rw [run_outcome, run_outcome]
  exact ⟨.ok (h t t' ht).1.eq, (h t t' ht).2⟩

theorem ofResult (asError : ε' → ε) (r : Except ε' α) :
    Alike E Eq (ofResult asError r : Access σ ε α) (Access.ofResult asError r) := by
  cases r with
  | ok a => exact .pure rfl
  | error e => exact .throw _

theorem mapM {f : α → Access σ ε γ} (h : ∀ a, Alike E Eq (f a) (f a)) (as : List α) :
    Alike E Eq (as.mapM f) (as.mapM f) := by
  induction as with
  | nil => exact .pure rfl
  | cons a as ih =>
    rw [List.mapM_cons]
    exact (h a).bind_eq fun c => ih.bind_eq fun cs => .pure rfl

end Alike

/-! ## Calls -/

variable [KeepsCalls σ]

/-- Whether the calls recorded do not matter for the agreement of states. -/
structure IgnoresCalls (E : σ → σ → Prop) : Prop where
  left {m : Method} {t t' : σ} : E t t' → E (KeepsCalls.record m t) t'
  right {m : Method} {t t' : σ} : E t t' → E t (KeepsCalls.record m t')

theorem IgnoresCalls.recordAll {E : σ → σ → Prop} (hE : IgnoresCalls E) (calls calls' : List Method)
    {t t' : σ} (h : E t t') : E (recordAll calls t) (recordAll calls' t') := by
  have hleft : E (Access.recordAll calls t) t' := by
    induction calls with
    | nil => exact h
    | cons m calls ih => exact hE.left ih
  induction calls' with
  | nil => exact hleft
  | cons m calls' ih => exact hE.right ih

variable {E : σ → σ → Prop} {out : Method → Prop} {tells : Method → ε → Prop}

theorem Alike.call {x : Access σ ε α} {y : Access σ ε β} {R : α → β → Prop} (hE : IgnoresCalls E)
    {outage : Outage} {m : Method} {failure : String → ε} (h : Alike E R x y) :
    Alike E R (call outage m failure x) (Access.call outage m failure y) := by
  intro t t' ht
  have ht' := hE.left (m := m) (hE.right (m := m) ht)
  by_cases hm : m ∈ outage.methods
  · rw [run_call_of_mem hm, run_call_of_mem hm]
    exact ⟨.error _, ht'⟩
  · rw [run_call_of_notMem hm, run_call_of_notMem hm]
    exact h _ _ ht'

/-- What answers from states that agree is like itself. -/
theorem alike_of_answers {x : Access σ ε α} (hE : IgnoresCalls E)
    (h : ∀ t t', E t t' → ∃ P Q, P t ∧ P t' ∧ Answers P out tells x Q) : Alike E Eq x x := by
  intro t t' ht
  obtain ⟨P, Q, hP, hP', r, calls, hrun, -⟩ := h t t' ht
  rw [(hrun t hP).1, (hrun t' hP').1]
  exact ⟨matches_refl r, hE.recordAll calls calls ht⟩

/-- A question that answers in the same way from all states is like itself, and like the
answer that it returns. -/
theorem alike_of_question {x : Access σ ε α} {Q : Except ε α → Prop} (hE : IgnoresCalls E)
    (h : Answers (fun _ => True) out tells x Q) :
    Alike E (fun a b => a = b ∧ Q (.ok a) ∧ Alike E Eq x (pure a : Access σ ε α)) x x := by
  intro t t' ht
  have hok {a : α} := h.of_ok (t := t) trivial (a := a)
  obtain ⟨r, calls, hrun, -⟩ := h
  rw [(hrun t trivial).1] at hok ⊢
  rw [(hrun t' trivial).1]
  refine ⟨?_, hE.recordAll calls calls ht⟩
  cases r with
  | error e => exact .error e
  | ok a =>
    refine .ok ⟨rfl, hok rfl, fun u u' hu => ?_⟩
    rw [(hrun u trivial).1]
    exact ⟨.ok rfl, hE.recordAll calls [] hu⟩

end Access

open Access

/-! ## Transactions -/

namespace Transaction

/-- Whether two transactions differ in the calls recorded at most. -/
def Agrees (t t' : Transaction) : Prop := t.content = t'.content

theorem ignoresCalls_agrees : IgnoresCalls Agrees := ⟨fun h => h, fun h => h⟩

theorem Agrees.graph_eq {t t' : Transaction} (h : Agrees t t') : t.graph = t'.graph := by
  have hcontent : t.content.graph = t'.content.graph := congrArg graph h
  exact hcontent

theorem Agrees.eq_with {t t' : Transaction} (h : Agrees t t') :
    t' = { t with calls := t'.calls } := by
  have hdrawn : t.content.drawn = t'.content.drawn := congrArg drawn h
  change t.drawn = t'.drawn at hdrawn
  rw [h.graph_eq, hdrawn]

variable [Supply]

theorem alike_putNodes (outage : Outage) (nodes : List Node) :
    Alike Agrees Eq (putNodes outage nodes) (putNodes outage nodes) := by
  refine Alike.call ignoresCalls_agrees fun t t' ht => ?_
  rw [run_mapM_putNode, run_mapM_putNode]
  have hstored : t.storedNodes nodes = t'.storedNodes nodes := by
    rw [← storedNodes_content, ← storedNodes_content nodes t', ht]
  refine ⟨.ok hstored, ?_⟩
  rw [Agrees, ← withNodes_content, ← withNodes_content, ht]

theorem alike_putEdge (x : Edge) : Alike Agrees Eq (putEdge x) (putEdge x) := by
  intro t t' ht
  rw [ht.eq_with]
  cases hjoined : joinedNodes t.graph x with
  | error cause =>
    rw [run_putEdge_of_unusable hjoined, run_putEdge_of_unusable (by exact hjoined)]
    exact ⟨.error cause, rfl⟩
  | ok ids =>
    cases hy : t.obstacle? x with
    | some y =>
      rw [run_putEdge_of_obstacle hjoined hy,
        run_putEdge_of_obstacle (by exact hjoined) (by exact hy)]
      exact ⟨.error _, rfl⟩
    | none =>
      rw [run_putEdge_of_free hjoined hy, run_putEdge_of_free (by exact hjoined) (by exact hy)]
      exact ⟨.ok rfl, rfl⟩

theorem alike_putEdges (outage : Outage) (edges : List Edge) :
    Alike Agrees Eq (putEdges outage edges) (putEdges outage edges) := by
  refine Alike.call ignoresCalls_agrees ?_
  split
  · exact .pure rfl
  · exact Alike.mapM alike_putEdge edges

end Transaction

namespace Ingest

open Transaction

variable {s : IngestSetting}

theorem alike_findEnd (edge : Edge) (pair : RelationshipPair) (which : End) :
    Alike Agrees Eq (findEnd s.ontology s.outage edge pair which)
      (findEnd s.ontology s.outage edge pair which) :=
  alike_of_answers ignoresCalls_agrees fun t _ ht =>
    ⟨HasNodes t.graph.nodes, _, rfl, congrArg Graph.nodes ht.graph_eq.symm,
      answers_findEnd (s := s) edge pair which⟩

theorem alike_replacedId (edge : Edge) :
    Alike Agrees Eq (replacedId s edge) (replacedId s edge) :=
  alike_of_answers ignoresCalls_agrees fun t _ ht =>
    ⟨fun u => u.graph = t.graph, _, rfl, ht.graph_eq.symm,
      answers_replacedId (s := s) t.graph edge⟩

theorem alike_check (pair : RelationshipPair) (origin destination : Node)
    (replaced : Option String) :
    Alike Agrees Eq (Connection.check s.outage pair origin destination replaced)
      (Connection.check s.outage pair origin destination replaced) :=
  alike_of_answers ignoresCalls_agrees fun t _ ht =>
    ⟨fun u => u.graph = t.graph, _, rfl, ht.graph_eq.symm,
      Connection.answers_check (s := s) t.graph pair origin destination replaced⟩

variable [Supply]

/-- The calls recorded do not matter for writing an edge between two nodes. -/
theorem alike_connect (pair : RelationshipPair) (edge : Edge) (origin destination : Node) :
    Alike Agrees Eq (connect s pair edge origin destination)
      (connect s pair edge origin destination) := by
  refine (alike_replacedId _).outcome.bind_eq fun r => ?_
  refine (Alike.ofResult _ _).bind_eq fun replaced => ?_
  refine (alike_check pair origin destination replaced).outcome.bind_eq fun r => ?_
  split
  · exact .throw _
  · exact .pure rfl
  · refine (alike_putEdges s.outage _).outcome.bind_eq fun r => ?_
    split
    · split
      · exact .pure rfl
      · exact .pure rfl
    · exact .pure rfl
    · exact .throw _

theorem alike_connectAll (pair : RelationshipPair) (edge : Edge)
    (origins destinations : EndNodes) :
    Alike Agrees Eq (connectAll s pair edge origins destinations)
      (connectAll s pair edge origins destinations) :=
  Alike.mapM (fun _ => alike_connect pair _ _ _) _

end Ingest

end TypedGraph
