import TypedGraph.Graph.Transaction

/-!
# Graph stores

A store keeps the committed graph and admits one transaction at a time. A transaction
works on a copy, which takes the place of the committed graph when it is committed and
is forgotten when it is rolled back (`rollback_begin`). No transaction outlives its
commit, be it served or not (`working_commit`). The count of what was drawn outlives
both.
-/
namespace TypedGraph

/-- A graph with the copy that an open transaction works on. -/
structure GraphStore where
  committed : Graph := {}
  drawn : Drawn := {}
  working : Option Graph := none
deriving DecidableEq, Repr, Inhabited

/-- Why a transaction is not begun or ended. -/
inductive SessionError where
  | locked
  | noTransaction
  | storage (cause : StorageError)
deriving DecidableEq, Repr

namespace GraphStore

/-- Begins a transaction. -/
def begin (s : GraphStore) (outage : Outage) : Except SessionError GraphStore :=
  if s.working.isSome then .error .locked
  else if outage.methods.contains .begin then
    .error (.storage (.backend Method.begin.unavailable))
  else .ok { s with working := some s.committed }

theorem begin_ok {s t : GraphStore} {outage : Outage} (h : s.begin outage = .ok t) :
    s.working = none ∧ t = { s with working := some s.committed } := by
  unfold begin at h
  split at h
  · contradiction
  · rename_i closed
    split at h
    · contradiction
    · cases h
      exact ⟨by simpa using closed, rfl⟩

/-- Commits the open transaction. It is closed even if the commit fails. -/
def commit (s : GraphStore) (outage : Outage) : Except SessionError Unit × GraphStore :=
  match s.working with
  | none => (.error .noTransaction, s)
  | some graph =>
    if outage.methods.contains .commit then
      (.error (.storage (.backend Method.commit.unavailable)), { s with working := none })
    else (.ok (), { s with committed := graph, working := none })

theorem working_commit (s : GraphStore) (outage : Outage) : (s.commit outage).2.working = none := by
  unfold commit
  split
  · assumption
  · split <;> rfl

/-- Rolls the open transaction back. -/
def rollback (s : GraphStore) : Except SessionError GraphStore :=
  match s.working with
  | none => .error .noTransaction
  | some _ => .ok { s with working := none }

theorem working_rollback {s t : GraphStore} (h : s.rollback = .ok t) : t.working = none := by
  unfold rollback at h
  split at h
  · contradiction
  · cases h
    rfl

/-- A transaction that is rolled back leaves no trace. -/
theorem rollback_begin {s t : GraphStore} {outage : Outage} (h : s.begin outage = .ok t) :
    t.rollback = .ok s := by
  obtain ⟨hidle, rfl⟩ := begin_ok h
  simp [rollback, ← hidle]

variable {ε α : Type}

/-- Runs calls in the open transaction, which keeps what they wrote even if they fail. -/
def runOpen (s : GraphStore) (graph : Graph) (calls : Access Transaction ε α) :
    Except ε α × GraphStore :=
  let (result, t) := calls.run.run { graph, drawn := s.drawn }
  (result, { s with drawn := t.drawn, working := some t.graph })

/-- Runs calls in the open transaction, or else in one of their own, which is committed
if they succeed and rolled back if they fail. -/
def perform (s : GraphStore) (outage : Outage) (asError : StorageError → ε)
    (calls : Access Transaction ε α) : Except ε α × GraphStore :=
  match s.working with
  | some graph => s.runOpen graph calls
  | none =>
    if outage.methods.contains .begin then
      (.error (asError (.backend Method.begin.unavailable)), s)
    else
      match s.runOpen s.committed calls with
      | (.error e, s) => (.error e, { s with working := none })
      | (.ok a, s) =>
        match s.commit outage with
        | (.error (.storage cause), s) => (.error (asError cause), s)
        | (_, s) => (.ok a, s)

/-- Calls leave a transaction open only if it was open before. -/
theorem working_perform_of_idle {s : GraphStore} (hidle : s.working = none) (outage : Outage)
    (asError : StorageError → ε) (calls : Access Transaction ε α) :
    (s.perform outage asError calls).2.working = none := by
  unfold perform
  rw [hidle]
  dsimp only
  split
  · exact hidle
  rcases s.runOpen s.committed calls with ⟨e | a, t⟩
  · rfl
  · have hclosed := working_commit t outage
    dsimp only
    split
    all_goals
      rename_i heq
      rwa [heq] at hclosed

end GraphStore

end TypedGraph
