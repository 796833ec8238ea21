import TypedGraph.Proofs.Siblings

/-!
# What becomes of key mappings

A key mapping of a branch has one of four outcomes: it finds no value, or the property gets the
value as it is or converted, or the value cannot be converted. The error policies only say at
which outcomes the branch fails (`KeyOutcome.refusal?`). The draft of a branch that does not
fail is told by the outcomes: a property, and each of its two log entries, is what the last
outcome says that tells of it (`Transformation.draft_eq`, `KeyOutcome.get?_enterAll`).
-/
namespace TypedGraph

/-- What becomes of what a key mapping takes from a branch. -/
inductive KeyOutcome where
  /-- There is no value. -/
  | missing
  /-- The property gets the value as it is. -/
  | kept (value : Json)
  /-- The property gets the value to which another one was converted. -/
  | converted (conversion : Conversion) (value : Json)
  /-- The value cannot be converted, and the property does not get it. -/
  | failed (conversion : Conversion)
deriving DecidableEq, Repr

namespace KeyOutcome

/-- The outcome for a key of a data type. -/
def ofExtracted (convertsValues : Bool) (type : DataType) : Option Json → KeyOutcome
  | none => missing
  | some value =>
    if convertsValues then
      match Conversion.convert type (some value) with
      | none => kept value
      | some conversion =>
        match conversion.converted with
        | some value => converted conversion value
        | none => failed conversion
    else kept value

/-- Why a branch fails at an outcome, if it does. -/
def refusal? (config : TransformationConfig) (key : PropertyKey) :
    KeyOutcome → Option TransformError
  | missing =>
    if config.onMissing.failsFor key.required then
      some (.missingRequiredKey key.propertyName)
    else none
  | failed conversion =>
    if config.onConversionError.failsFor key.required then
      some (.conversionFailed key.propertyName (conversion.error.getD ""))
    else none
  | kept _ | converted _ _ => none

/-- A draft after an outcome for a property. -/
def enter (name : String) (draft : PropertyDraft) : KeyOutcome → PropertyDraft
  | missing => draft
  | kept value => { draft with properties := draft.properties.insert name value }
  | converted conversion value => {
      properties := draft.properties.insert name value
      log := { draft.log with done := draft.log.done.insert name conversion } }
  | failed conversion =>
    { draft with log := { draft.log with failed := draft.log.failed.insert name conversion } }

/-- The value that the property gets. -/
def value? : KeyOutcome → Option Json
  | kept value | converted _ value => some value
  | missing | failed _ => none

/-- The conversion that succeeded. -/
def conversion? : KeyOutcome → Option Conversion
  | converted conversion _ => some conversion
  | missing | kept _ | failed _ => none

/-- The conversion that failed. -/
def failure? : KeyOutcome → Option Conversion
  | failed conversion => some conversion
  | missing | kept _ | converted _ _ => none

/-- A draft after outcomes, each with the name of its property. -/
def enterAll (draft : PropertyDraft) (outcomes : List (String × KeyOutcome)) : PropertyDraft :=
  outcomes.foldl (fun draft x => x.2.enter x.1 draft) draft

/-- What the last of the outcomes for a property says that tells of a part of it. -/
def last? {β : Type} (part : KeyOutcome → Option β) (outcomes : List (String × KeyOutcome))
    (name : String) : Option β :=
  outcomes.reverse.findSome? fun x => if x.1 = name then part x.2 else none

variable {β : Type} {part : KeyOutcome → Option β} {outcomes : List (String × KeyOutcome)}
  {name : String}

theorem last?_cons (part : KeyOutcome → Option β) (x : String × KeyOutcome)
    (outcomes : List (String × KeyOutcome)) (name : String) :
    last? part (x :: outcomes) name =
      (last? part outcomes name).or (if x.1 = name then part x.2 else none) := by
  simp only [last?, List.reverse_cons, List.findSome?_append, List.findSome?_singleton]

theorem last?_append (part : KeyOutcome → Option β) (front back : List (String × KeyOutcome))
    (name : String) :
    last? part (front ++ back) name = (last? part back name).or (last? part front name) := by
  simp only [last?, List.reverse_append, List.findSome?_append]

theorem last?_eq_none_iff :
    last? part outcomes name = none ↔ ∀ x, (name, x) ∈ outcomes → part x = none := by
  simp only [last?, List.findSome?_eq_none_iff, List.mem_reverse, Prod.forall,
    ite_eq_right_iff]
  constructor
  · intro h x hx
    exact h name x hx rfl
  · rintro h _ x hx rfl
    exact h x hx

/-- The last outcome that tells of a part is followed by none that does. -/
theorem last?_eq_some_iff {b : β} :
    last? part outcomes name = some b ↔
      ∃ front x back, outcomes = front ++ (name, x) :: back ∧ part x = some b ∧
        last? part back name = none := by
  induction outcomes with
  | nil => simp [last?]
  | cons y outcomes ih =>
    rw [last?_cons]
    constructor
    · intro h
      cases hlast : last? part outcomes name with
      | some c =>
        rw [hlast, Option.some_or, Option.some.injEq] at h
        rw [hlast, h] at ih
        obtain ⟨front, x, back, rfl, hx, hback⟩ := ih.1 rfl
        exact ⟨y :: front, x, back, rfl, hx, hback⟩
      | none =>
        rw [hlast, Option.none_or, Option.ite_none_right_eq_some] at h
        obtain ⟨rfl, hy⟩ := h
        exact ⟨[], y.2, outcomes, rfl, hy, hlast⟩
    · rintro ⟨front, x, back, hsplit, hx, hback⟩
      cases front with
      | nil =>
        cases hsplit
        rw [hback, Option.none_or, if_pos rfl, hx]
      | cons z front =>
        cases hsplit
        rw [ih.2 ⟨front, x, back, rfl, hx, hback⟩, Option.some_or]

/-- A table that every outcome changes in one part only has what the last outcome says. -/
theorem get?_enterAll (table : PropertyDraft → Table β) (part : KeyOutcome → Option β)
    (h : ∀ name draft (x : KeyOutcome), table (x.enter name draft) =
      match part x with
      | some b => (table draft).insert name b
      | none => table draft)
    (draft : PropertyDraft) (outcomes : List (String × KeyOutcome)) (name : String) :
    (table (enterAll draft outcomes)).get? name =
      (last? part outcomes name).or ((table draft).get? name) := by
  induction outcomes generalizing draft with
  | nil => rfl
  | cons x outcomes ih =>
    have hrest : enterAll draft (x :: outcomes) = enterAll (x.2.enter x.1 draft) outcomes := rfl
    rw [hrest, ih, last?_cons, Option.or_assoc, h]
    cases part x.2 with
    | none => simp
    | some b =>
      by_cases hname : x.1 = name
      · simp [hname, Table.get?_insert]
      · simp [hname, Ne.symm hname, Table.get?_insert]

theorem get?_properties (outcomes : List (String × KeyOutcome)) (name : String) :
    (enterAll {} outcomes).properties.get? name = last? value? outcomes name := by
  rw [get?_enterAll PropertyDraft.properties value? fun _ _ x => by cases x <;> rfl]
  exact Option.or_none

theorem get?_done (outcomes : List (String × KeyOutcome)) (name : String) :
    (enterAll {} outcomes).log.done.get? name = last? conversion? outcomes name := by
  rw [get?_enterAll (fun draft => draft.log.done) conversion? fun _ _ x => by cases x <;> rfl]
  exact Option.or_none

theorem get?_failed (outcomes : List (String × KeyOutcome)) (name : String) :
    (enterAll {} outcomes).log.failed.get? name = last? failure? outcomes name := by
  rw [get?_enterAll (fun draft => draft.log.failed) failure? fun _ _ x => by cases x <;> rfl]
  exact Option.or_none

end KeyOutcome

namespace Transformation

variable {t : Transformation} {target : Target} {keys : List (String × PropertyKey)}
  {payload : Json} {index : List Nat} {mappings : List KeyMapping}

/-- The policies decide of an outcome whether the branch fails, and nothing else. -/
theorem setProperty_eq (config : TransformationConfig) (key : PropertyKey)
    (extracted : Option Json) (draft : PropertyDraft) :
    setProperty config key extracted draft =
      let x := KeyOutcome.ofExtracted config.convertValues key.dataType extracted
      match x.refusal? config key with
      | some e => .error e
      | none => .ok (x.enter key.propertyName draft) := by
  cases extracted with
  | none =>
    simp only [setProperty, KeyOutcome.ofExtracted, KeyOutcome.refusal?]
    split <;> rfl
  | some value =>
    simp only [setProperty, KeyOutcome.ofExtracted]
    by_cases hconverts : config.convertValues = true
    · simp only [if_pos hconverts, setConverted]
      cases Conversion.convert key.dataType (some value) with
      | none => rfl
      | some conversion =>
        dsimp only
        cases hvalue : conversion.converted with
        | some value => rfl
        | none =>
          simp only [KeyOutcome.refusal?]
          split <;> rfl
    · simp only [if_neg hconverts]
      rfl

/-- The key that a mapping fills in records of a target, if it is known. -/
def relevantKey? (target : Target) (keys : List (String × PropertyKey)) (m : KeyMapping) :
    Option PropertyKey :=
  (relevantKeyId target m).bind fun id => keys.lookup id

/-- The outcomes of key mappings in a branch, each with the name of its property. -/
def outcomes (t : Transformation) (target : Target) (keys : List (String × PropertyKey))
    (payload : Json) (index : List Nat) (mappings : List KeyMapping) :
    List (String × KeyOutcome) :=
  mappings.filterMap fun m => (relevantKey? target keys m).map fun key =>
    (key.propertyName,
      .ofExtracted t.config.convertValues key.dataType (extract payload index m))

/-- Key mappings go on from one that is of no concern as if it were not there, and from one whose
outcome is not refused with what it has entered. -/
theorem draftProperties_cons_eq_ok_iff {m : KeyMapping} {draft draft' : PropertyDraft} :
    t.draftProperties target keys payload index (m :: mappings) draft = .ok draft' ↔
      relevantKeyId target m = none ∧
        t.draftProperties target keys payload index mappings draft = .ok draft' ∨
      ∃ id key, relevantKeyId target m = some id ∧ keys.lookup id = some key ∧
        let x := KeyOutcome.ofExtracted t.config.convertValues key.dataType
          (extract payload index m)
        x.refusal? t.config key = none ∧
          t.draftProperties target keys payload index mappings
            (x.enter key.propertyName draft) = .ok draft' := by
  rw [draftProperties]
  cases hid : relevantKeyId target m with
  | none => simp
  | some id =>
    cases hkey : keys.lookup id with
    | none => simp [hkey]
    | some key =>
      simp only [hkey, setProperty_eq, reduceCtorEq, false_and, Option.some.injEq, false_or,
        exists_and_left, exists_eq_left']
      cases hrefusal : (KeyOutcome.ofExtracted t.config.convertValues key.dataType
          (extract payload index m)).refusal? t.config key with
      | some e =>
        constructor
        · intro h
          cases h
        · rintro ⟨hpasses, -⟩
          cases hpasses
      | none => exact (and_iff_right rfl).symm

/-- A branch that does not fail has entered all outcomes. -/
theorem draft_eq {draft draft' : PropertyDraft}
    (h : t.draftProperties target keys payload index mappings draft = .ok draft') :
    draft' = KeyOutcome.enterAll draft (t.outcomes target keys payload index mappings) := by
  induction mappings generalizing draft with
  | nil =>
    cases h
    rfl
  | cons m mappings ih =>
    rw [outcomes, List.filterMap_cons, relevantKey?]
    rcases draftProperties_cons_eq_ok_iff.1 h with ⟨hid, hrest⟩ | ⟨id, key, hid, hkey, -, hrest⟩
    · rw [hid]
      exact ih hrest
    · simp only [hid, hkey, Option.bind_some, Option.map_some]
      exact ih hrest

/-! ## Records -/

variable {o : OntologyStore} {staged : StagedData}

/-- The outcomes of the key mappings of a branch with the keys that an ontology has. -/
def branchOutcomes (t : Transformation) (o : OntologyStore) (target : Target)
    (staged : StagedData) (index : List Nat) : List (String × KeyOutcome) :=
  t.outcomes target (t.knownKeys o target (t.keyIds target)) staged.data index t.keys

/-- The outcomes of a branch make up the properties and the log of its record. -/
theorem base_of_generate {record : GraphRecord}
    (h : t.generate o target staged index = .ok record) :
    record.base = t.recordBase staged index
      (KeyOutcome.enterAll {} (t.branchOutcomes o target staged index)) := by
  unfold generate produce at h
  cases hdraft : t.draftProperties target (t.knownKeys o target (t.keyIds target)) staged.data
      index t.keys {} with
  | error e =>
    rw [hdraft] at h
    contradiction
  | ok draft =>
    rw [hdraft] at h
    have hentered : draft = KeyOutcome.enterAll {} (t.branchOutcomes o target staged index) :=
      draft_eq hdraft
    rw [← hentered]
    cases target <;> cases h <;> rfl

/-- The records of an application are those that the branches generate. -/
theorem generate_of_mem_records {σ : Type} [KeepsCalls σ] {o : Ontology} {calls left : σ}
    {output : TransformOutput} (hrun : (t.apply o staged).run.run calls = (.ok output, left))
    {r : BranchRecord} (hr : r ∈ output.records) :
    ∃ target, t.checkedTarget = .ok target ∧
      t.generate o.store target staged r.index = .ok r.record := by
  obtain ⟨target, htarget, rfl⟩ := returns_outputFor t o staged calls output left hrun
  exact ⟨target, htarget, produce_of_mem_records hr⟩

/-- An outcome of a branch is that of a key which the ontology has for the target. -/
theorem key?_of_mem_branchOutcomes {name : String} {x : KeyOutcome}
    (h : (name, x) ∈ t.branchOutcomes o target staged index) :
    ∃ id key, t.key? o target id = some key ∧ key.propertyName = name := by
  obtain ⟨m, -, hm⟩ := List.mem_filterMap.1 h
  obtain ⟨key, hkey, heq⟩ := Option.map_eq_some_iff.1 hm
  obtain ⟨id, -, hlookup⟩ := Option.bind_eq_some_iff.1 hkey
  have hknown : (id, key) ∈ t.knownKeys o target (t.keyIds target) := Table.mem_of_get? hlookup
  obtain ⟨id', -, hid'⟩ := List.mem_filterMap.1 hknown
  obtain ⟨key', hkey', heq'⟩ := Option.map_eq_some_iff.1 hid'
  cases heq
  cases heq'
  exact ⟨id, key, hkey', rfl⟩

/-- Every property of a record is that of a key which the ontology has for the target. -/
theorem key?_of_generate {record : GraphRecord} {name : String}
    (h : t.generate o target staged index = .ok record)
    (hname : (record.base.properties.get? name).isSome) :
    ∃ id key, t.key? o target id = some key ∧ key.propertyName = name := by
  rw [base_of_generate h] at hname
  obtain ⟨value, hvalue⟩ := Option.isSome_iff_exists.1 hname
  have hlast := (KeyOutcome.get?_properties _ name).symm.trans hvalue
  obtain ⟨front, x, back, hsplit, -, -⟩ := KeyOutcome.last?_eq_some_iff.1 hlast
  have hmem : (name, x) ∈ t.branchOutcomes o target staged index := by simp [hsplit]
  exact key?_of_mem_branchOutcomes hmem

end Transformation

end TypedGraph
