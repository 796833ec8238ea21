import TypedGraph.Ingest.Basic
import TypedGraph.Proofs.Calls

/-!
# Outages

What errors tell of an outage: the error of a layer tells of a method if it carries what
the store of that method answers while the method is out.
-/
namespace TypedGraph

/-- Whether a method is one of the ontology, and not of the graph. -/
def Method.isOntology : Method → Bool
  | metatype | metatypeByName | metatypeKeys | metatypeKey | relationshipPair
  | relationshipKeys | relationshipKey => true
  | _ => false

/-- Whether the store of a method does not serve it. -/
def IngestSetting.IsOut (s : IngestSetting) (m : Method) : Prop :=
  m ∈ if m.isOntology then s.ontology.outage.methods else s.outage.methods

def OntologyError.Tells (m : Method) (e : OntologyError) : Prop :=
  m.isOntology = true ∧ e = .backend m.unavailable

def TransformError.Tells (m : Method) (e : TransformError) : Prop :=
  m.isOntology = true ∧ e = .ontology (.backend m.unavailable)

def StorageError.Tells (m : Method) (e : StorageError) : Prop :=
  m.isOntology = false ∧ e = .backend m.unavailable

def ConnectionError.Tells (m : Method) (e : ConnectionError) : Prop :=
  m.isOntology = false ∧ e = .lookup (.backend m.unavailable)

/-- The error of an ingest that a method ends which is out. -/
def IngestError.ofOutage (m : Method) : IngestError :=
  if m.isOntology then .ontology (.backend m.unavailable) else .storage (.backend m.unavailable)

def IngestError.Tells (m : Method) (e : IngestError) : Prop := e = .ofOutage m

theorem IngestError.Tells.ofStorage {m : Method} {e : StorageError} (h : e.Tells m) :
    IngestError.Tells m (.storage e) := by
  obtain ⟨hm, rfl⟩ := h
  simp [IngestError.Tells, IngestError.ofOutage, hm]

theorem IngestError.Tells.ofOntology {m : Method} {e : OntologyError} (h : e.Tells m) :
    IngestError.Tells m (.ontology e) := by
  obtain ⟨hm, rfl⟩ := h
  simp [IngestError.Tells, IngestError.ofOutage, hm]

namespace RecordError

/-- Whether an error of a record is one of its own, and comes from no store of the graph
and from no outage. -/
def IsOwn : RecordError → Prop
  | transform (.ontology (.backend _)) => False
  | ontology (.backend _) => False
  | connection (.lookup _) => False
  | storage _ => False
  | _ => True

/-- Whether an error of a record hides that an ontology failed, that the edges could not be
looked up, or that a method was out. -/
def IsOutage : RecordError → Prop
  | transform (.ontology (.backend _)) => True
  | ontology (.backend _) => True
  | connection (.lookup _) => True
  | storage (.backend reason) => ∃ m : Method, reason = m.unavailable
  | _ => False

/-- Whether an error of a record says that no node was found for one of the ends. -/
def IsUnresolved (which : End) : RecordError → Prop
  | unresolvedEnd end' _ => end' = which
  | noMatchingNodes end' => end' = which
  | _ => False

theorem IsUnresolved.isOwn {e : RecordError} {which : End} (h : e.IsUnresolved which) :
    e.IsOwn := by
  unfold IsUnresolved at h
  split at h <;> trivial

theorem IsUnresolved.eq {e : RecordError} {which which' : End} (h : e.IsUnresolved which)
    (h' : e.IsUnresolved which') : which = which' := by
  unfold IsUnresolved at h h'
  split at h
  · exact h.symm.trans h'
  · exact h.symm.trans h'
  · contradiction

theorem IsOwn.not_isOutage {e : RecordError} (h : e.IsOwn) : ¬ e.IsOutage := by
  unfold IsOwn at h
  unfold IsOutage
  split at h
  all_goals simp_all

end RecordError

/-! ## Calls that read -/

namespace Transaction

open Access

variable {s : IngestSetting} {m : Method} {P : Transaction → Prop} {α : Type}

/-- A method that reads the graph answers what it reads. -/
theorem answers_read (hm : m.isOntology = false) (hP : ∀ t, P t → P (KeepsCalls.record m t))
    {f : Graph → α} {a : α} (ha : ∀ t, P t → f t.graph = a) :
    Answers P s.IsOut StorageError.Tells (read s.outage m f) (· = .ok a) := by
  refine Answers.call ?_ hP ⟨hm, rfl⟩ ?_
  · simp [IngestSetting.IsOut, hm]
  · refine Answers.of_run (r := .ok a) (fun t ht => ?_) rfl
    rw [← ha t ht]
    rfl

end Transaction

namespace Ontology

open Access

variable {s : IngestSetting} {m : Method} {σ α : Type} [KeepsCalls σ] {P : σ → Prop}

/-- A lookup answers the record that the tables have, or that there is none. -/
theorem answers_lookUp (hm : m.isOntology) (hP : ∀ t, P t → P (KeepsCalls.record m t))
    {kind : OntologyRecord} {id : String} {found : Option α} :
    Answers P s.IsOut OntologyError.Tells (s.ontology.lookUp m kind id found)
      (fun r => (∃ a, found = some a ∧ r = .ok a) ∨
        found = none ∧ r = .error (.notFound kind id)) := by
  refine Answers.call ?_ hP ⟨hm, rfl⟩ ?_
  · simp [IngestSetting.IsOut, hm]
  · cases found with
    | none => exact .throw (.inr ⟨rfl, rfl⟩)
    | some a => exact .pure (.inl ⟨a, rfl, rfl⟩)

end Ontology

end TypedGraph
