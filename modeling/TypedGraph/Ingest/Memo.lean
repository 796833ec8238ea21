import TypedGraph.Access

/-!
# Answers kept during an ingest

An ingest asks the ontology once for each metatype, relationship and pair, and keeps
the answers in memos until it ends.
-/
namespace TypedGraph

/-- Answers by the ids that were asked for. -/
structure Memo (α : Type) where
  answers : List (String × α) := []

namespace Memo

variable {σ ε α : Type}

/-- Keeps an answer. -/
def keep (memo : Memo α) (id : String) (a : α) : Memo α :=
  { memo with answers := (id, a) :: memo.answers }

/-- The answer that is kept for an id, or else the answer to the question. -/
def answer (memo : Memo α) (id : String) (question : Access σ ε α) : Access σ ε (α × Memo α) :=
  match memo.answers.lookup id with
  | some a => return (a, memo)
  | none => do
    let a ← question
    return (a, memo.keep id a)

end Memo

end TypedGraph
