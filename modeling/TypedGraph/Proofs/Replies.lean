import TypedGraph.Proofs.Memos

/-!
# Replies of memos

A memo replies to a question with what it keeps for the id of the question, or else with the
answer of the ontology. So it replies to every question what was answered to the first one with
its id (`Memo.replies_eq`), while the records that are not found afresh are those that their own
containers do not have. How often a record is missing therefore tells whether records with one
id ask alike (`Asking.isSome_eq_of_missed`).
-/
namespace TypedGraph

open Access Ingest

/-! ## Replies to questions one after the other -/

namespace Memo

variable {α : Type} {memo : Memo α}

/-- The reply to a question with an id and an answer, and the memo after it. -/
def reply (memo : Memo α) (question : String × α) : α × Memo α :=
  match memo.answers.lookup question.1 with
  | some kept => (kept, memo)
  | none => (question.2, memo.keep question.1 question.2)

/-- The replies to questions one after the other. -/
def replies (memo : Memo α) : List (String × α) → List α
  | [] => []
  | question :: rest => (memo.reply question).1 :: (memo.reply question).2.replies rest

theorem returns_answer_eq {σ ε : Type} {question : Access σ ε α} {id : String} {a : α}
    (h : Returns question (· = a)) :
    Returns (memo.answer id question) (· = memo.reply (id, a)) := by
  unfold answer reply
  dsimp only
  cases memo.answers.lookup id with
  | some kept => exact .pure rfl
  | none => exact h.bind fun b hb => .pure (by rw [hb])

/-- A memo replies to all questions with one id the same: what it keeps for the id, or else what
is answered to the first of them. -/
theorem replies_eq (memo : Memo α) (questions : List (String × α)) :
    memo.replies questions =
      questions.map fun q => ((memo.answers ++ questions).lookup q.1).getD q.2 := by
  induction questions generalizing memo with
  | nil => rfl
  | cons question rest ih =>
    obtain ⟨id, a⟩ := question
    rw [replies, reply, List.map_cons, List.lookup_append, List.lookup_cons_self]
    cases hkept : memo.answers.lookup id with
    | some kept =>
      dsimp only
      rw [ih]
      refine congrArg (kept :: ·) (List.map_congr_left fun q _ => ?_)
      rw [List.lookup_append, List.lookup_append, List.lookup_cons]
      by_cases heq : q.1 = id
      · rw [heq, hkept]
        rfl
      · rw [beq_false_of_ne heq]
    | none =>
      dsimp only
      rw [ih, keep]
      refine congrArg (a :: ·) (List.map_congr_left fun q _ => ?_)
      rw [List.lookup_append, List.lookup_append, List.lookup_cons, List.lookup_cons]
      by_cases heq : q.1 = id
      · rw [heq, hkept, beq_self_eq_true]
        rfl
      · rw [beq_false_of_ne heq]

end Memo

namespace Asking

variable {α : Type}

/-- The replies to questions with ids and answers. -/
def replies : Asking → List (String × α) → List α
  | once, questions => questions.map fun q => (questions.lookup q.1).getD q.2
  | afresh, questions => questions.map Prod.snd

/-- A memo that is empty at first replies to a question what is answered to the first one with
its id. -/
theorem replies_once (questions : List (String × α)) :
    once.replies questions = Memo.replies {} questions := (Memo.replies_eq {} questions).symm

/-- It does not matter for a single question whether answers are kept. -/
theorem replies_of_length_le {questions : List (String × α)} (h : questions.length ≤ 1) :
    once.replies questions = afresh.replies questions := by
  rw [replies_once]
  match questions, h with
  | [], _ => rfl
  | [_], _ => rfl

/-- What is replied has been answered to some question. -/
theorem exists_of_mem_replies {asking : Asking} {questions : List (String × α)} {a : α}
    (h : a ∈ asking.replies questions) : ∃ question ∈ questions, question.2 = a := by
  cases asking with
  | afresh => exact List.mem_map.1 h
  | once =>
    obtain ⟨question, hquestion, rfl⟩ := List.mem_map.1 h
    cases hfirst : questions.lookup question.1 with
    | none => exact ⟨question, hquestion, rfl⟩
    | some a =>
      obtain ⟨before, after, heq, -⟩ := List.lookup_eq_some_iff.1 hfirst
      exact ⟨(question.1, a), by simp [heq], rfl⟩

end Asking

/-! ## Records that are missing -/

/-- Whether a result is an error. -/
def failsWith {α : Type} (e : RecordError) : Except RecordError α → Bool
  | .ok _ => false
  | .error e' => e' = e

/-- How many questions a memo replies to with an error. -/
def Memo.missed {α : Type} (e : RecordError) (memo : Memo (Except RecordError α))
    (questions : List (String × Except RecordError α)) : Nat :=
  (memo.replies questions).countP (failsWith e)

theorem Memo.missed_nil {α : Type} (e : RecordError) (memo : Memo (Except RecordError α)) :
    memo.missed e [] = 0 := rfl

theorem Memo.missed_cons {α : Type} (e : RecordError) (memo : Memo (Except RecordError α))
    (question : String × Except RecordError α) (rest : List (String × Except RecordError α)) :
    memo.missed e (question :: rest) =
      (failsWith e (memo.reply question).1).toNat + (memo.reply question).2.missed e rest := by
  rw [missed, missed, replies, List.countP_cons, Nat.add_comm]
  cases failsWith e (memo.reply question).1 <;> rfl

/-- How many questions are replied to with an error. -/
def Asking.missed {α : Type} (asking : Asking) (e : RecordError)
    (questions : List (String × Except RecordError α)) : Nat :=
  (asking.replies questions).countP (failsWith e)

theorem Asking.missed_once {α : Type} (e : RecordError)
    (questions : List (String × Except RecordError α)) :
    once.missed e questions = Memo.missed e {} questions := by
  rw [missed, replies_once, Memo.missed]

theorem Asking.missed_append {α : Type} (e : RecordError)
    (questions questions' : List (String × Except RecordError α)) :
    afresh.missed e (questions ++ questions') =
      afresh.missed e questions + afresh.missed e questions' := by
  rw [missed, missed, missed, replies, replies, replies, List.map_append, List.countP_append]

section Missing

variable {α β : Type} {kind : OntologyRecord} {read : β → Except RecordError α}

/-- The questions with their answers. -/
def questionsFor (kind : OntologyRecord) (read : β → Except RecordError α)
    (asked : List (String × Option β)) : List (String × Except RecordError α) :=
  asked.map fun q => (q.1, answerFor kind read q)

theorem questionsFor_append (asked asked' : List (String × Option β)) :
    questionsFor kind read (asked ++ asked') =
      questionsFor kind read asked ++ questionsFor kind read asked' :=
  List.map_append

/-- Only an id for which nothing is found is missing. -/
theorem failsWith_answerFor_iff (hread : ∀ b cause, failsWith (.ontology cause) (read b) = false)
    {kind' : OntologyRecord} {id : String} {asked : String × Option β} :
    failsWith (.missing kind' id) (answerFor kind read asked) = true ↔
      kind = kind' ∧ asked = (id, none) := by
  obtain ⟨id', found⟩ := asked
  cases found with
  | some b => simp [answerFor, RecordError.missing, hread]
  | none => simp [answerFor, failsWith, RecordError.missing]

theorem forall_of_countP_eq {α : Type} {l : List α} {p q : α → Bool}
    (hpq : ∀ a ∈ l, p a = true → q a = true) (h : l.countP p = l.countP q) :
    ∀ a ∈ l, q a = true → p a = true := by
  have hfilter : (l.filter q).countP p = (l.filter q).length := by
    rw [← List.countP_eq_length_filter, ← h, List.countP_filter]
    refine List.countP_congr fun a ha => ?_
    simpa using hpq a ha
  intro a ha hqa
  exact List.countP_eq_length.1 hfilter a (List.mem_filter.2 ⟨ha, hqa⟩)

namespace Asking

/-- What is of another kind is not missing. -/
theorem missed_of_ne (hread : ∀ b cause, failsWith (.ontology cause) (read b) = false)
    {kind' : OntologyRecord} (hkind : kind ≠ kind') (asking : Asking)
    (asked : List (String × Option β)) (id : String) :
    asking.missed (.missing kind' id) (questionsFor kind read asked) = 0 := by
  refine List.countP_eq_zero.2 fun a ha hfails => ?_
  obtain ⟨_, hmem, rfl⟩ := exists_of_mem_replies ha
  obtain ⟨q, -, rfl⟩ := List.mem_map.1 hmem
  exact hkind ((failsWith_answerFor_iff hread).1 hfails).1

/-- If answers are kept it is as if the ontology had for every id what it had for the first
question with this id. -/
theorem replies_questionsFor (asked : List (String × Option β)) :
    once.replies (questionsFor kind read asked) =
      asked.map fun q => answerFor kind read (q.1, (asked.lookup q.1).getD q.2) := by
  have hlookup (id : String) : (questionsFor kind read asked).lookup id =
      (asked.lookup id).map fun found => answerFor kind read (id, found) := by
    induction asked with
    | nil => rfl
    | cons q asked ih =>
      rw [questionsFor, List.map_cons, List.lookup_cons, List.lookup_cons]
      by_cases heq : id = q.1
      · rw [heq, beq_self_eq_true]
        rfl
      · rw [beq_false_of_ne heq]
        exact ih
  rw [replies]
  simp only [hlookup]
  rw [questionsFor, List.map_map]
  refine List.map_congr_left fun q _ => ?_
  simp only [Function.comp_apply]
  cases asked.lookup q.1 <;> rfl

/-- Where the ontology has the same for all questions with one id, it does not matter that
answers are kept. -/
theorem replies_of_agree {asked : List (String × Option β)}
    (h : ∀ q ∈ asked, ∀ q' ∈ asked, q.1 = q'.1 → q.2 = q'.2) :
    once.replies (questionsFor kind read asked) = asked.map (answerFor kind read) := by
  rw [replies_questionsFor]
  refine List.map_congr_left fun q hq => ?_
  cases hfirst : asked.lookup q.1 with
  | none => rfl
  | some found =>
    obtain ⟨before, after, heq, -⟩ := List.lookup_eq_some_iff.1 hfirst
    have hsame : found = q.2 := h (q.1, found) (by simp [heq]) q hq rfl
    rw [Option.getD_some, hsame]

theorem replies_afresh (asked : List (String × Option β)) :
    afresh.replies (questionsFor kind read asked) = asked.map (answerFor kind read) := by
  rw [replies, questionsFor, List.map_map]
  rfl

/-- If an id is missing as often where answers are kept as where it is asked for afresh, then
the ontology has something for all questions with this id, or for none. -/
theorem isSome_eq_of_missed (hread : ∀ b cause, failsWith (.ontology cause) (read b) = false)
    {asked : List (String × Option β)} {id : String}
    (h : afresh.missed (.missing kind id) (questionsFor kind read asked) =
      once.missed (.missing kind id) (questionsFor kind read asked))
    {q q' : String × Option β} (hq : q ∈ asked) (hq' : q' ∈ asked) (hid : q.1 = id)
    (hid' : q'.1 = id) : q.2.isSome = q'.2.isSome := by
  rw [missed, missed, replies_afresh, replies_questionsFor, List.countP_map, List.countP_map] at h
  cases hfirst : asked.lookup id with
  | none => simpa [hid] using List.lookup_eq_none_iff.1 hfirst q hq
  | some found =>
    have hkept (r : String × Option β) (hr : r.1 = id) :
        (asked.lookup r.1).getD r.2 = found := by rw [hr, hfirst, Option.getD_some]
    cases found with
    | none =>
      -- every question is refused, so that none may be answered when it is asked afresh
      have hall : ∀ r ∈ asked, r.1 = id → r.2 = none := by
        intro r hr hrid
        have hfails := forall_of_countP_eq (fun a _ ha => ?_) h r hr ?_
        · exact congrArg Prod.snd ((failsWith_answerFor_iff hread).1 hfails).2
        · obtain ⟨-, rfl⟩ := (failsWith_answerFor_iff hread).1 ha
          exact (failsWith_answerFor_iff hread).2 ⟨rfl, by rw [hkept _ rfl]⟩
        · exact (failsWith_answerFor_iff hread).2 ⟨rfl, by rw [hkept r hrid, hrid]⟩
      rw [hall q hq hid, hall q' hq' hid']
    | some b =>
      -- no question is refused, so that none may be refused when it is asked afresh
      have hzero : asked.countP (failsWith (.missing kind id) ∘ fun q =>
          answerFor kind read (q.1, (asked.lookup q.1).getD q.2)) = 0 := by
        refine List.countP_eq_zero.2 fun r _ hr => ?_
        have heq := ((failsWith_answerFor_iff hread).1 hr).2
        have hrid : r.1 = id := congrArg Prod.fst heq
        rw [hkept r hrid] at heq
        cases heq
      rw [hzero] at h
      have hnone : ∀ r ∈ asked, r.1 = id → r.2.isSome := by
        intro r hr hrid
        have hanswered := List.countP_eq_zero.1 h r hr
        rw [Option.isSome_iff_ne_none]
        intro hmissing
        exact hanswered ((failsWith_answerFor_iff hread).2 ⟨rfl, Prod.ext hrid hmissing⟩)
      rw [hnone q hq hid, hnone q' hq' hid']

end Asking

end Missing

/-! ## Failures of an ingest -/

theorem Memo.returns_answer_missed {σ ε α : Type} {memo : Memo (Except RecordError α)}
    {id : String} {question : Access σ ε (Except RecordError α)} {a : Except RecordError α}
    (h : Returns question (· = a)) :
    Returns (memo.answer id question) fun ans => ∀ e rest,
      (failsWith e ans.1).toNat + ans.2.missed e rest = memo.missed e ((id, a) :: rest) := by
  intro t ans t' hrun
  have hreply : ans = memo.reply (id, a) := returns_answer_eq h t ans t' hrun
  intro e rest
  rw [hreply, missed_cons]

/-- How many failures have an error of the ontology. -/
def countOf (cause : OntologyError) (failures : List RecordFailure) : Nat :=
  failures.countP fun f => f.error = .ontology cause

theorem countOf_cons {α : Type} (cause : OntologyError) (p : Pending α) (e : RecordError)
    (failures : List RecordFailure) :
    countOf cause (p.failure e :: failures) =
      (decide (e = .ontology cause)).toNat + countOf cause failures := by
  rw [countOf, List.countP_cons, Nat.add_comm]
  cases h : decide (e = .ontology cause) <;> simp_all [Pending.failure, countOf]

theorem countOf_append (cause : OntologyError) (failures failures' : List RecordFailure) :
    countOf cause (failures ++ failures') = countOf cause failures + countOf cause failures' :=
  List.countP_append

namespace Ingest

variable {s : IngestSetting} {cause : OntologyError}

theorem failsWith_readSchema [PatternEngine] (keys : List PropertyKey) (cause : OntologyError) :
    failsWith (.ontology cause) (readSchema keys) = false := by
  unfold readSchema
  cases CompiledSchema.compile keys <;> rfl

/-- A schema does not refuse a record with an error of the ontology, unless it is none. -/
theorem failsWith_checkProperties {α : Type} (put : RecordBase → α)
    (schema : Except RecordError CompiledSchema) (r : RecordBase) :
    failsWith (.ontology cause) ((checkProperties schema r).map put) =
      failsWith (.ontology cause) schema := by
  have hchecked := checked_checkProperties put schema r
  generalize (checkProperties schema r).map put = result at hchecked
  cases hchecked with
  | failed => rfl
  | refused => simp [failsWith]
  | admitted => rfl

/-- A record misses what the memo replies with an error to the question for its schema. -/
theorem returns_checked_missed {σ α : Type} {put : RecordBase → α} {r : RecordBase}
    {memo : SchemaMemo} {id : String} {a : Except RecordError CompiledSchema}
    {question : Access σ IngestError (Except RecordError CompiledSchema)}
    (h : Returns question (· = a)) :
    Returns (do
        let (schema, memo) ← memo.answer id question
        return ((checkProperties schema r).map put, memo)) fun ans => ∀ cause rest,
      (failsWith (.ontology cause) ans.1).toNat + ans.2.missed (.ontology cause) rest =
        memo.missed (.ontology cause) ((id, a) :: rest) := by
  refine (Memo.returns_answer_missed h).bind fun (schema, memo') hmissed => ?_
  refine .pure fun cause rest => ?_
  rw [failsWith_checkProperties]
  exact hmissed _ rest

/-! ### Nodes -/

section Nodes

variable {σ : Type} [KeepsCalls σ]

variable [PatternEngine]

theorem returns_askSchema_eq {m : Method} (hm : m.isOntology = true) {kind : OntologyRecord}
    {id : String} {found : Option (List PropertyKey)} :
    Returns (askSchema (s.ontology.lookUp m kind id found) : Access σ IngestError _)
      (· = answerFor kind readSchema (id, found)) :=
  fun t a t' hrun => Except.ok.inj ((answers_askSchema_eq (P := fun _ : σ => True) (s := s)
    (Ontology.answers_lookUp hm (fun _ _ => trivial))).returns t a t' hrun)

/-- What is asked for nodes that are validated. -/
def nodesAsked (s : IngestSetting) (ps : List (Pending Node)) :
    List (String × Option (List PropertyKey)) :=
  if s.config.validateProperties then
    ps.map fun p => (p.record.metatypeId,
      s.ontology.store.metatypeKeys? p.record.containerId p.record.metatypeId)
  else []

omit [PatternEngine] in
theorem nodesAsked_cons (p : Pending Node) (ps : List (Pending Node)) :
    nodesAsked s (p :: ps) = nodesAsked s [p] ++ nodesAsked s ps := by
  unfold nodesAsked
  split <;> rfl

theorem returns_validateNode_missed (memo : SchemaMemo) (p : Pending Node) :
    Returns (validateNode s memo p.record : Access σ IngestError _) fun ans => ∀ cause rest,
      (failsWith (.ontology cause) ans.1).toNat + ans.2.missed (.ontology cause) rest =
        memo.missed (.ontology cause)
          (questionsFor .metatype readSchema (nodesAsked s [p]) ++ rest) := by
  unfold validateNode nodesAsked
  split
  · have hnot : s.config.validateProperties = false := by simp_all
    rw [hnot]
    exact .pure fun cause rest => by simp [failsWith, questionsFor]
  · have hvalidated : s.config.validateProperties = true := by simp_all
    rw [hvalidated]
    exact returns_checked_missed (returns_askSchema_eq rfl)

/-- The nodes that fail for want of a record in the ontology are those for which the memo
replies so. -/
theorem returns_validateNodes_missed (memo : SchemaMemo) (ps : List (Pending Node)) :
    Returns (validateNodes s memo ps : Access σ IngestError _) fun ans => ∀ cause,
      countOf cause ans.2 = memo.missed (.ontology cause)
        (questionsFor .metatype readSchema (nodesAsked s ps)) := by
  induction ps generalizing memo with
  | nil => exact .pure fun cause => by simp [nodesAsked, questionsFor, Memo.missed_nil, countOf]
  | cons p ps ih =>
    refine (returns_validateNode_missed memo p).bind fun (result, memo') hfirst => ?_
    refine (ih memo').bind fun (nodes, failures) hrest => ?_
    have hcount (cause : OntologyError) :
        (failsWith (.ontology cause) result).toNat + countOf cause failures =
          memo.missed (.ontology cause)
            (questionsFor .metatype readSchema (nodesAsked s (p :: ps))) := by
      rw [nodesAsked_cons, questionsFor_append]
      dsimp only at hrest
      rw [hrest]
      exact hfirst cause _
    cases result with
    | ok n => exact .pure fun cause => by simpa [failsWith] using hcount cause
    | error e =>
      refine .pure fun cause => ?_
      rw [← hcount cause, countOf_cons]
      rfl

omit [PatternEngine] in
theorem length_nodesAsked_le (p : Pending Node) : (nodesAsked s [p]).length ≤ 1 := by
  unfold nodesAsked
  split <;> simp

/-- The nodes that fail for want of a record in the ontology are those for which it is replied
so. -/
theorem returns_validateNodesBy_missed (asking : Asking) (ps : List (Pending Node)) :
    Returns (validateNodesBy s asking ps : Access σ IngestError _) fun ans => ∀ cause,
      countOf cause ans.2 = asking.missed (.ontology cause)
        (questionsFor .metatype readSchema (nodesAsked s ps)) := by
  cases asking with
  | once =>
    intro t ans t' hrun cause
    rw [Asking.missed_once]
    exact returns_validateNodes_missed {} ps t ans t' hrun cause
  | afresh =>
    induction ps with
    | nil => exact .pure fun cause => by simp [nodesAsked, questionsFor, Asking.missed,
        Asking.replies, countOf]
    | cons p ps ih =>
      refine (returns_validateNodes_missed {} [p]).bind fun (nodes, failures) hfirst => ?_
      refine ih.bind fun (nodes', failures') hrest => .pure fun cause => ?_
      have hone : (questionsFor .metatype readSchema (nodesAsked s [p])).length ≤ 1 := by
        rw [questionsFor, List.length_map]
        exact length_nodesAsked_le p
      rw [countOf_append, hfirst cause, hrest cause, ← Asking.missed_once, Asking.missed,
        Asking.replies_of_length_le hone, ← Asking.missed, nodesAsked_cons p ps,
        questionsFor_append, Asking.missed_append]

end Nodes

/-! ### Edges -/

theorem returns_askOntology_eq {σ α : Type} [KeepsCalls σ] {m : Method} (hm : m.isOntology = true)
    {kind : OntologyRecord} {id : String} {found : Option α} :
    Returns (askOntology (s.ontology.lookUp m kind id found) : Access σ IngestError _)
      (· = answerFor kind .ok (id, found)) :=
  fun t a t' hrun => Except.ok.inj ((answers_askOntology_eq (P := fun _ : σ => True) (s := s)
    (Ontology.answers_lookUp hm (fun _ _ => trivial))).returns t a t' hrun)

/-- What is asked for the pairs of edges. -/
def pairsAsked (s : IngestSetting) (ps : List (Pending Edge)) :
    List (String × Option RelationshipPair) :=
  ps.map fun p => (p.record.pairId, s.ontology.store.pair? p.record.containerId p.record.pairId)

/-- What is asked for an edge with what was replied for its pair. -/
def keysAsked (s : IngestSetting) (x : Edge) (pair : Except RecordError RelationshipPair) :
    List (String × Option (List PropertyKey)) :=
  match pair with
  | .error _ => []
  | .ok p =>
    if s.config.validateProperties then
      [(p.relationshipId, s.ontology.store.relationshipKeys? x.containerId p.relationshipId)]
    else []

variable [PatternEngine]

theorem returns_validateEdge_missed (memo : SchemaMemo) (pair : RelationshipPair) (x : Edge) :
    Returns (validateEdge s memo pair x) fun ans => ∀ cause rest,
      (failsWith (.ontology cause) ans.1).toNat + ans.2.missed (.ontology cause) rest =
        memo.missed (.ontology cause)
          (questionsFor .relationship readSchema (keysAsked s x (.ok pair)) ++ rest) := by
  unfold validateEdge keysAsked
  dsimp only
  split
  · have hnot : s.config.validateProperties = false := by simp_all
    rw [hnot]
    exact .pure fun cause rest => by simp [failsWith, questionsFor]
  · have hvalidated : s.config.validateProperties = true := by simp_all
    rw [hvalidated]
    exact returns_checked_missed (returns_askSchema_eq rfl)

omit [PatternEngine] in
theorem returns_findEnd_failsWith (o : Ontology) (outage : Outage) (x : Edge)
    (pair : RelationshipPair) (which : End) :
    Returns (findEnd o outage x pair which) fun r =>
      ∀ cause, failsWith (.ontology cause) r = false := by
  unfold findEnd
  dsimp only
  split
  · refine Returns.after fun r => ?_
    split
    · exact .throw
    · exact .pure fun _ => rfl
    · exact .pure fun _ => by simp [failsWith]
  · refine Returns.after fun nodes => ?_
    split
    · exact .pure fun _ => by simp [failsWith]
    · exact .pure fun _ => rfl

variable [Supply]

omit [PatternEngine] in
theorem returns_connect_failsWith (pair : RelationshipPair) (x : Edge)
    (origin destination : Node) :
    Returns (connect s pair x origin destination) fun r =>
      ∀ cause, failsWith (.ontology cause) r = false := by
  unfold connect
  refine Returns.after fun r => Returns.after fun replaced => Returns.after fun r => ?_
  split
  · exact .throw
  · exact .pure fun _ => by simp [failsWith]
  · refine Returns.after fun r => ?_
    split
    · split
      · exact .pure fun _ => rfl
      · exact .pure fun _ => by simp [failsWith]
    · exact .pure fun _ => by simp [failsWith]
    · exact .throw

/-- What is asked for edges with what was replied for their pairs. -/
def allKeysAsked (s : IngestSetting) (ps : List (Pending Edge))
    (pairs : List (Except RecordError RelationshipPair)) :
    List (String × Option (List PropertyKey)) :=
  (ps.zip pairs).flatMap fun entry => keysAsked s entry.1.record entry.2

/-- Whether the results for an edge fail for want of a record in the ontology if a memo replies
so, either for its pair or for the relationship of its pair. -/
structure EdgeMisses (s : IngestSetting) (memo : EdgeMemo) (x : Edge)
    (pair : Except RecordError RelationshipPair × Memo (Except RecordError RelationshipPair))
    (ans : List (Except RecordError Edge) × EdgeMemo) : Prop where
  pairs : ans.2.pairs = pair.2
  results : ∀ cause rest, ans.1.countP (failsWith (.ontology cause)) +
      ans.2.schemas.missed (.ontology cause) rest =
    (failsWith (.ontology cause) pair.1).toNat + memo.schemas.missed (.ontology cause)
      (questionsFor .relationship readSchema (keysAsked s x pair.1) ++ rest)

omit [PatternEngine] [Supply] in
theorem countP_singleton {α : Type} (e : RecordError) (r : Except RecordError α) :
    [r].countP (failsWith e) = (failsWith e r).toNat := by
  cases h : failsWith e r <;> simp [h]

theorem returns_writeEdge_misses (memo : EdgeMemo) (x : Edge) :
    Returns (writeEdge s memo x) (EdgeMisses s memo x (memo.pairs.reply
      (x.pairId, answerFor .relationshipPair .ok
        (x.pairId, s.ontology.store.pair? x.containerId x.pairId)))) := by
  refine (Memo.returns_answer_eq (returns_askOntology_eq rfl)).bind fun (pair, pairs) h => ?_
  rw [← h]
  cases pair with
  | error e =>
    refine .pure ⟨rfl, fun cause rest => ?_⟩
    rw [countP_singleton]
    rfl
  | ok pair =>
    refine (returns_validateEdge_missed memo.schemas pair x).bind fun (edge, schemas) hedge => ?_
    -- from here on no failure is for want of a record in the ontology
    have hfinal (results : List (Except RecordError Edge))
        (hresults : ∀ cause, results.countP (failsWith (.ontology cause)) =
          (failsWith (.ontology cause) edge).toNat) :
        EdgeMisses s memo x (.ok pair, pairs) (results, ⟨pairs, schemas⟩) := by
      refine ⟨rfl, fun cause rest => ?_⟩
      dsimp only
      rw [hresults, hedge cause rest, failsWith, Bool.toNat_false, Nat.zero_add]
    cases edge with
    | error e => exact .pure (hfinal _ fun cause => countP_singleton _ _)
    | ok edge =>
      refine (returns_findEnd_failsWith _ _ _ _ _).bind fun origins horigins => ?_
      cases origins with
      | error e =>
        refine .pure (hfinal _ fun cause => ?_)
        have hown := horigins cause
        rw [countP_singleton]
        exact congrArg Bool.toNat hown
      | ok origins =>
        refine (returns_findEnd_failsWith _ _ _ _ _).bind fun destinations hdestinations => ?_
        cases destinations with
        | error e =>
          refine .pure (hfinal _ fun cause => ?_)
          have hown := hdestinations cause
          rw [countP_singleton]
          exact congrArg Bool.toNat hown
        | ok destinations =>
          refine (Returns.mapM (fun _ => returns_connect_failsWith pair _ _ _) _).bind
            fun results hresults => .pure (hfinal _ fun cause => ?_)
          exact List.countP_eq_zero.2 fun r hr => by simp [hresults r hr cause]

omit [PatternEngine] [Supply] in
theorem countOf_filterMap (cause : OntologyError) (p : Pending Edge)
    (results : List (Except RecordError Edge)) :
    countOf cause (results.filterMap fun
      | .ok _ => none
      | .error error => some (p.failure error)) = results.countP (failsWith (.ontology cause)) := by
  induction results with
  | nil => rfl
  | cons r results ih =>
    cases r with
    | ok x => simpa [failsWith] using ih
    | error e =>
      rw [List.filterMap_cons, countOf_cons, ih, List.countP_cons, Nat.add_comm]
      cases h : decide (e = .ontology cause) <;> simp_all [failsWith]

/-- The edges that fail for want of a record in the ontology are those for which the memos
reply so. -/
theorem returns_writeEdges_missed (memo : EdgeMemo) (ps : List (Pending Edge)) :
    Returns (writeEdges s memo ps) fun ans => ∀ cause,
      countOf cause ans.2 =
        memo.pairs.missed (.ontology cause)
            (questionsFor .relationshipPair .ok (pairsAsked s ps)) +
          memo.schemas.missed (.ontology cause) (questionsFor .relationship readSchema
            (allKeysAsked s ps (memo.pairs.replies
              (questionsFor .relationshipPair .ok (pairsAsked s ps))))) := by
  induction ps generalizing memo with
  | nil => exact .pure fun cause => rfl
  | cons p ps ih =>
    refine (returns_writeEdge_misses memo p.record).bind fun (results, memo') hfirst => ?_
    refine (ih memo').bind fun (edges, failures) hrest => ?_
    refine .pure fun cause => ?_
    rw [hfirst.pairs] at hrest
    generalize hquestion : (p.record.pairId, answerFor .relationshipPair .ok (p.record.pairId,
      s.ontology.store.pair? p.record.containerId p.record.pairId)) = question at hfirst hrest
    generalize hrestAsked : questionsFor .relationshipPair .ok (pairsAsked s ps) = rest at hrest
    have hasked :
        questionsFor .relationshipPair .ok (pairsAsked s (p :: ps)) = question :: rest := by
      rw [← hquestion, ← hrestAsked]
      rfl
    have hkeys (replies : List (Except RecordError RelationshipPair)) :
        questionsFor .relationship readSchema (allKeysAsked s (p :: ps)
            ((memo.pairs.reply question).1 :: replies)) =
          questionsFor .relationship readSchema
              (keysAsked s p.record (memo.pairs.reply question).1) ++
            questionsFor .relationship readSchema (allKeysAsked s ps replies) := by
      rw [← questionsFor_append]
      rfl
    have hcount := hfirst.results cause (questionsFor .relationship readSchema (allKeysAsked s ps
      ((memo.pairs.reply question).2.replies rest)))
    rw [hasked, Memo.missed_cons, Memo.replies, hkeys, countOf_append]
    refine (congr (congrArg HAdd.hAdd (countOf_filterMap cause p results)) (hrest cause)).trans ?_
    dsimp only at hcount ⊢
    omega

omit [PatternEngine] [Supply] in
theorem length_keysAsked_le (x : Edge) (pair : Except RecordError RelationshipPair) :
    (keysAsked s x pair).length ≤ 1 := by
  unfold keysAsked
  cases pair with
  | error e => simp
  | ok p =>
    dsimp only
    split <;> simp

/-- What is asked for edges that each have the pair of their own container. -/
def ownKeysAsked (s : IngestSetting) (ps : List (Pending Edge)) :
    List (String × Option (List PropertyKey)) :=
  ps.flatMap fun p => keysAsked s p.record (answerFor .relationshipPair .ok
    (p.record.pairId, s.ontology.store.pair? p.record.containerId p.record.pairId))

omit [PatternEngine] [Supply] in
theorem allKeysAsked_eq (ps : List (Pending Edge)) :
    allKeysAsked s ps ((pairsAsked s ps).map (answerFor .relationshipPair .ok)) =
      ownKeysAsked s ps := by
  induction ps with
  | nil => rfl
  | cons p ps ih => exact congrArg (keysAsked s p.record _ ++ ·) ih

/-- How often edges miss a record of the ontology. -/
def edgesMissed (s : IngestSetting) (asking : Asking) (ps : List (Pending Edge))
    (cause : OntologyError) : Nat :=
  let pairs := questionsFor .relationshipPair .ok (pairsAsked s ps)
  asking.missed (.ontology cause) pairs +
    asking.missed (.ontology cause) (questionsFor .relationship readSchema
      (allKeysAsked s ps (asking.replies pairs)))

omit [Supply] in
theorem edgesMissed_afresh (ps : List (Pending Edge)) (cause : OntologyError) :
    edgesMissed s .afresh ps cause =
      Asking.afresh.missed (.ontology cause)
          (questionsFor .relationshipPair .ok (pairsAsked s ps)) +
        Asking.afresh.missed (.ontology cause)
          (questionsFor .relationship readSchema (ownKeysAsked s ps)) := by
  rw [edgesMissed, Asking.replies_afresh, allKeysAsked_eq]

omit [Supply] in
theorem edgesMissed_cons (p : Pending Edge) (ps : List (Pending Edge)) (cause : OntologyError) :
    edgesMissed s .afresh (p :: ps) cause =
      edgesMissed s .afresh [p] cause + edgesMissed s .afresh ps cause := by
  have hpairs : pairsAsked s (p :: ps) = pairsAsked s [p] ++ pairsAsked s ps := rfl
  have hkeys : ownKeysAsked s (p :: ps) = ownKeysAsked s [p] ++ ownKeysAsked s ps := by
    simp [ownKeysAsked]
  rw [edgesMissed_afresh, edgesMissed_afresh, edgesMissed_afresh, hpairs, hkeys,
    questionsFor_append, questionsFor_append, Asking.missed_append, Asking.missed_append]
  omega

omit [Supply] in
/-- It does not matter for a single edge whether answers are kept. -/
theorem edgesMissed_singleton (p : Pending Edge) (cause : OntologyError) :
    edgesMissed s .once [p] cause = edgesMissed s .afresh [p] cause := by
  have hpairs : (questionsFor .relationshipPair .ok (pairsAsked s [p])).length ≤ 1 := Nat.le_refl 1
  have hkeys : (questionsFor .relationship readSchema (ownKeysAsked s [p])).length ≤ 1 := by
    rw [questionsFor, List.length_map, ownKeysAsked, List.flatMap_singleton]
    exact length_keysAsked_le _ _
  rw [edgesMissed_afresh, edgesMissed, Asking.missed, Asking.missed,
    Asking.replies_of_length_le hpairs, Asking.replies_afresh, allKeysAsked_eq,
    Asking.replies_of_length_le hkeys, ← Asking.replies_afresh]
  rfl

theorem returns_writeEdges_edgesMissed (ps : List (Pending Edge)) :
    Returns (writeEdges s {} ps) fun ans => ∀ cause,
      countOf cause ans.2 = edgesMissed s .once ps cause := by
  intro t ans t' hrun cause
  rw [edgesMissed, Asking.missed_once, Asking.missed_once, Asking.replies_once]
  exact returns_writeEdges_missed {} ps t ans t' hrun cause

/-- The edges that fail for want of a record in the ontology are those for which it is replied
so. -/
theorem returns_writeEdgesBy_missed (asking : Asking) (ps : List (Pending Edge)) :
    Returns (writeEdgesBy s asking ps) fun ans => ∀ cause,
      countOf cause ans.2 = edgesMissed s asking ps cause := by
  cases asking with
  | once => exact returns_writeEdges_edgesMissed ps
  | afresh =>
    induction ps with
    | nil => exact .pure fun cause => rfl
    | cons p ps ih =>
      refine (returns_writeEdges_edgesMissed [p]).bind fun (edges, failures) hfirst => ?_
      refine ih.bind fun (edges', failures') hrest => .pure fun cause => ?_
      rw [countOf_append, hfirst cause, hrest cause, edgesMissed_cons, edgesMissed_singleton]

/-! ### Whole ingests -/

/-- How often an ingest finds out that the ontology does not have a record that is needed. -/
def missedBy (s : IngestSetting) (asking : Asking) (produced : Produced)
    (cause : OntologyError) : Nat :=
  asking.missed (.ontology cause)
      (questionsFor .metatype readSchema (nodesAsked s produced.nodes)) +
    edgesMissed s asking produced.edges cause

/-- The failures in a report for want of a record in the ontology are those of the
transformations and those of the records for which it is replied so. -/
theorem returns_runBy_missed (asking : Asking) (s : IngestSetting) (mapping : TypeMapping)
    (staged : StagedData) :
    Returns (runBy asking s mapping staged) fun report => ∀ cause,
      countOf cause report.failures =
        countOf cause (mapping.produced s.ontology.store staged).failures +
          missedBy s asking (mapping.produced s.ontology.store staged) cause := by
  generalize hproduced : mapping.produced s.ontology.store staged = produced
  have hprepare : Returns (prepareBy asking s mapping staged : Access Transaction IngestError _)
      fun prepared => prepared.edges = produced.edges ∧ ∀ cause,
        countOf cause prepared.failures = countOf cause produced.failures +
          asking.missed (.ontology cause)
            (questionsFor .metatype readSchema (nodesAsked s produced.nodes)) := by
    refine Returns.after fun _ => (returns_produce_eq s mapping staged).bind fun _ heq => ?_
    rw [hproduced] at heq
    subst heq
    refine (returns_validateNodesBy_missed _ _).bind fun (nodes, failures) hfailures => ?_
    exact .pure ⟨rfl, fun cause => by rw [countOf_append, hfailures cause]⟩
  refine (hprepare.bind fun prepared h => Returns.call (.pure h)).bind fun prepared h => ?_
  obtain ⟨hedges, hprepared⟩ := h
  have hwrite : Returns (writeBy asking s prepared) fun report => ∀ cause,
      countOf cause report.failures =
        countOf cause produced.failures + missedBy s asking produced cause := by
    refine Returns.after fun r => Returns.after fun nodes => ?_
    refine (returns_writeEdgesBy_missed _ _).bind fun (edges, failures) hfailures => ?_
    refine .pure fun cause => ?_
    rw [countOf_append, hprepared cause, hfailures cause, hedges, Nat.add_assoc]
    rfl
  exact hwrite.bind fun report h => Returns.call (.pure h)

end Ingest

end TypedGraph
