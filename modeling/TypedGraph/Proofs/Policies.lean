import Mathlib.Data.List.Nodup
import TypedGraph.Proofs.Alike
import TypedGraph.Proofs.Expansions
import TypedGraph.Proofs.Outcomes

/-!
# Stricter policies

The error policies of a transformation say when a branch fails for a key. A stricter policy fails
where a laxer one does, so that a branch which does not fail gives the same record under both
(`Transformation.produce_of_le`). An application under stricter policies therefore keeps some
of the records, and has one error for each of the others in its place
(`Transformation.tightens_withConfig`).
-/
namespace TypedGraph

namespace ErrorAction

/-- The place of an action in the order of strictness. -/
def strictness : ErrorAction → Nat
  | ignore => 0
  | failOnRequired => 1
  | fail => 2

/-- An action is below another one that is at least as strict. -/
instance : LE ErrorAction := ⟨fun a b => a.strictness ≤ b.strictness⟩

instance (a b : ErrorAction) : Decidable (a ≤ b) :=
  inferInstanceAs (Decidable (a.strictness ≤ b.strictness))

/-- The stricter of two actions is the one that fails wherever the other one does. -/
theorem le_iff {a b : ErrorAction} :
    a ≤ b ↔ ∀ required, a.failsFor required → b.failsFor required := by
  cases a <;> cases b <;> decide

end ErrorAction

/-- The order of configurations that convert values alike: both actions are at least as strict. -/
structure TransformationConfig.IsBelow (c c' : TransformationConfig) : Prop where
  convertValues : c'.convertValues = c.convertValues
  onMissing : c.onMissing ≤ c'.onMissing
  onConversionError : c.onConversionError ≤ c'.onConversionError

/-- An outcome that a stricter policy lets pass is let pass by a laxer one. -/
theorem KeyOutcome.refusal?_eq_none_of_le {c c' : TransformationConfig} (h : c.IsBelow c')
    {key : PropertyKey} {x : KeyOutcome} (hx : x.refusal? c' key = none) :
    x.refusal? c key = none := by
  cases x with
  | missing =>
    have hmissing := ErrorAction.le_iff.1 h.onMissing key.required
    simp only [refusal?, ite_eq_right_iff, reduceCtorEq, imp_false] at hx ⊢
    exact fun hfails => hx (hmissing hfails)
  | failed conversion =>
    have hfailed := ErrorAction.le_iff.1 h.onConversionError key.required
    simp only [refusal?, ite_eq_right_iff, reduceCtorEq, imp_false] at hx ⊢
    exact fun hfails => hx (hfailed hfails)
  | kept _ | converted _ _ => rfl

/-- Whether an output differs from another one by having an error in place of some records only:
it keeps the others as they are, and has one error at every branch that had an error or lost
its record, and none at other branches. -/
structure TransformOutput.Tightens (strict lax : TransformOutput) : Prop where
  records : strict.records.Sublist lax.records
  failed : ∀ e ∈ lax.errors, (strict.errors.map BranchError.index).count e.index = 1
  dropped : ∀ r ∈ lax.records, r ∉ strict.records →
    (strict.errors.map BranchError.index).count r.index = 1
  onlyThese : ∀ e ∈ strict.errors, e.index ∈ lax.errors.map BranchError.index ∨
    ∃ r ∈ lax.records, r ∉ strict.records ∧ r.index = e.index

namespace TransformOutput

variable {strict lax : TransformOutput}

/-- An output with at most one record or error at an index has one record there at most. -/
theorem eq_of_index_eq {o : TransformOutput} (hone : ∀ index, o.accountsOf index ≤ 1)
    {r r' : BranchRecord} (hr : r ∈ o.records) (hr' : r' ∈ o.records) (h : r.index = r'.index) :
    r = r' := by
  have hnodup : (o.records.map BranchRecord.index).Nodup := by
    rw [List.nodup_iff_count_le_one]
    intro index
    have hcount := hone index
    rw [accountsOf] at hcount
    omega
  exact List.inj_on_of_nodup_map hnodup hr hr' h

/-- An output that has lost records tightens another one if both give account of the same
indices, and of each of them once at most. -/
theorem Tightens.of_accountsOf (hrecords : strict.records.Sublist lax.records)
    (hsame : ∀ index, strict.accountsOf index = lax.accountsOf index)
    (hone : ∀ index, lax.accountsOf index ≤ 1) : strict.Tightens lax := by
  have hfewer (index : List Nat) : (strict.records.map BranchRecord.index).count index ≤
      (lax.records.map BranchRecord.index).count index := (hrecords.map _).count_le index
  simp only [accountsOf] at hsame
  constructor
  case records => exact hrecords
  case failed =>
    intro e he
    have herror := List.count_pos_iff.2 (List.mem_map_of_mem (f := BranchError.index) he)
    have hlax := hone e.index
    rw [accountsOf] at hlax
    have hstrict := hsame e.index
    have hrecord := hfewer e.index
    omega
  case dropped =>
    intro r hr hdropped
    have hrecord := List.count_pos_iff.2 (List.mem_map_of_mem (f := BranchRecord.index) hr)
    have hlost : (strict.records.map BranchRecord.index).count r.index = 0 := by
      rw [List.count_eq_zero]
      intro hmem
      obtain ⟨r', hr', hindex⟩ := List.mem_map.1 hmem
      rw [eq_of_index_eq hone (hrecords.subset hr') hr hindex] at hr'
      exact hdropped hr'
    have hlax := hone r.index
    rw [accountsOf] at hlax
    have hstrict := hsame r.index
    omega
  case onlyThese =>
    intro e he
    have herror := List.count_pos_iff.2 (List.mem_map_of_mem (f := BranchError.index) he)
    have hstrict := hsame e.index
    have hlax := hone e.index
    rw [accountsOf] at hlax
    by_cases hfailed : e.index ∈ lax.errors.map BranchError.index
    · exact .inl hfailed
    · rw [← List.count_eq_zero] at hfailed
      have hrecord : 0 < (lax.records.map BranchRecord.index).count e.index := by omega
      obtain ⟨r, hr, hindex⟩ := List.mem_map.1 (List.count_pos_iff.1 hrecord)
      have hlost : (strict.records.map BranchRecord.index).count e.index = 0 := by omega
      refine .inr ⟨r, hr, fun hkept => ?_, hindex⟩
      exact List.count_eq_zero.1 hlost (hindex ▸ List.mem_map_of_mem hkept)

/-- What an output has at an index, if it gives account of an expansion. -/
theorem AccountsFor.accountsOf_eq {o : TransformOutput} {t : Transformation} {staged : StagedData}
    {x : Expansion} (h : o.AccountsFor t staged x) (index : List Nat) :
    o.accountsOf index =
      if index ∈ x.branches then
        if Condition.anyHolds t.conditions staged.data index then 1 else 0
      else (x.errors.map BranchError.index).count index := by
  by_cases hindex : index ∈ x.branches
  · rw [if_pos hindex, h.accounts index hindex]
  · obtain ⟨errors, herrors, hsublist⟩ := h.errors_sublist
    have hrecords : (o.records.map BranchRecord.index).count index = 0 :=
      List.count_eq_zero.2 fun hmem => hindex (h.records_sublist.subset hmem)
    have hown : (errors.map BranchError.index).count index = 0 :=
      List.count_eq_zero.2 fun hmem => hindex (hsublist.subset hmem)
    rw [if_neg hindex, accountsOf, herrors, List.map_append, List.count_append, hrecords, hown]
    omega

theorem AccountsFor.accountsOf_le_one {o : TransformOutput} {t : Transformation}
    {staged : StagedData} {x : Expansion} {levels : List String} (h : o.AccountsFor t staged x)
    (hx : x.IsExact staged.data levels) (index : List Nat) : o.accountsOf index ≤ 1 := by
  rw [h.accountsOf_eq]
  split
  · split <;> omega
  · exact List.nodup_iff_count_le_one.1 hx.errors_increasing.nodup index

end TransformOutput

namespace Transformation

/-- A transformation with other policies. -/
def withConfig (t : Transformation) (c : TransformationConfig) : Transformation :=
  { t with config := c }

variable {t : Transformation} {c : TransformationConfig} {target : Target}
  {keys : List (String × PropertyKey)} {staged : StagedData}

/-- Key mappings that a stricter policy lets pass give the same draft under a laxer one. -/
theorem draftProperties_of_le (h : t.config.IsBelow c) {payload : Json} {index : List Nat}
    {mappings : List KeyMapping} {draft draft' : PropertyDraft}
    (hstrict : (t.withConfig c).draftProperties target keys payload index mappings draft =
      .ok draft') :
    t.draftProperties target keys payload index mappings draft = .ok draft' := by
  induction mappings generalizing draft with
  | nil => exact hstrict
  | cons m mappings ih =>
    rw [draftProperties_cons_eq_ok_iff] at hstrict ⊢
    rcases hstrict with ⟨hid, hrest⟩ | ⟨id, key, hid, hkey, hpasses, hrest⟩
    · exact .inl ⟨hid, ih hrest⟩
    · have hconfig : (t.withConfig c).config.convertValues = t.config.convertValues :=
        h.convertValues
      rw [hconfig] at hpasses hrest
      exact .inr ⟨id, key, hid, hkey, KeyOutcome.refusal?_eq_none_of_le h hpasses, ih hrest⟩

/-- A branch that does not fail under a stricter policy gives the same record under a laxer
one. -/
theorem produce_of_le (h : t.config.IsBelow c) {index : List Nat} {record : GraphRecord}
    (hstrict : (t.withConfig c).produce target keys staged index = .ok record) :
    t.produce target keys staged index = .ok record := by
  unfold produce at hstrict ⊢
  cases hdraft : (t.withConfig c).draftProperties target keys staged.data index
      (t.withConfig c).keys {} with
  | error e =>
    rw [hdraft] at hstrict
    contradiction
  | ok draft =>
    rw [hdraft] at hstrict
    have hlax : t.draftProperties target keys staged.data index t.keys {} = .ok draft :=
      draftProperties_of_le h hdraft
    rw [hlax]
    exact hstrict

/-- The branches that give records under a stricter policy are among those that do so under a
laxer one. -/
theorem records_produceAll_of_le (h : t.config.IsBelow c) (branches : List (List Nat)) :
    ((t.withConfig c).produceAll target keys staged branches).records.Sublist
      (t.produceAll target keys staged branches).records := by
  induction branches with
  | nil => exact List.Sublist.slnil
  | cons index branches ih =>
    rw [produceAll_cons, produceAll_cons]
    cases hstrict : (t.withConfig c).produce target keys staged index with
    | ok record =>
      rw [produce_of_le h hstrict]
      exact ih.cons_cons _
    | error e =>
      cases t.produce target keys staged index with
      | ok record => exact ih.cons _
      | error e' => exact ih

theorem tightens_outputFor (h : t.config.IsBelow c) (o : OntologyStore) (target : Target) :
    ((t.withConfig c).outputFor o target staged).Tightens (t.outputFor o target staged) := by
  have hexact := Expansion.isExact_ofLevels staged.data t.rootLevels
  have hlax : (t.outputFor o target staged).AccountsFor t staged
      (Expansion.ofLevels staged.data t.rootLevels) := accountsFor_outputFor o target
  have hstrict : ((t.withConfig c).outputFor o target staged).AccountsFor (t.withConfig c) staged
      (Expansion.ofLevels staged.data t.rootLevels) := accountsFor_outputFor o target
  apply TransformOutput.Tightens.of_accountsOf
  · exact records_produceAll_of_le h _
  · intro index
    rw [hstrict.accountsOf_eq, hlax.accountsOf_eq]
    rfl
  · exact hlax.accountsOf_le_one hexact

section Runs

variable {σ : Type} [KeepsCalls σ]

theorem fetchKeys_withConfig (t : Transformation) (c : TransformationConfig) (o : Ontology)
    (target : Target) (ids : List String) :
    (fetchKeys o (t.withConfig c) target ids : Access σ TransformError _) =
      fetchKeys o t target ids := by
  induction ids with
  | nil => rfl
  | cons id ids ih =>
    simp only [fetchKeys, ih]
    rfl

/-- The policies have no part in what is looked up, and in whether that succeeds. -/
theorem alike_apply_withConfig (t : Transformation) (c : TransformationConfig) (o : Ontology)
    (staged : StagedData) :
    Access.Alike Eq (fun _ _ => True) (t.apply o staged : Access σ TransformError _)
      ((t.withConfig c).apply o staged) := by
  have hsame {α : Type} (x : Access σ TransformError α) : Access.Alike Eq Eq x x := by
    rintro calls _ rfl
    exact ⟨Access.matches_refl _, rfl⟩
  have hlevels : (t.withConfig c).rootLevels = t.rootLevels := rfl
  have haccepted : (t.withConfig c).accepted staged = t.accepted staged := rfl
  simp only [apply, fetchKeys_withConfig, hlevels, haccepted]
  refine (hsame _).bind_eq fun target => ?_
  split
  · exact .pure trivial
  · exact (hsame _).bind_eq fun keys => .pure trivial

/-- Under policies that are at least as strict, an application that succeeds does so with the
same calls. It keeps some of its records as they are, and has one error for each of the
others and for each branch that had one. -/
theorem tightens_withConfig (t : Transformation) (c : TransformationConfig)
    (h : t.config.IsBelow c) (o : Ontology) (staged : StagedData) (calls left : σ)
    (output : TransformOutput) (hrun : (t.apply o staged).run.run calls = (.ok output, left)) :
    ∃ output', ((t.withConfig c).apply o staged).run.run calls = (.ok output', left) ∧
      output'.Tightens output := by
  obtain ⟨hmatch, hleft⟩ := alike_apply_withConfig t c o staged calls calls rfl
  rcases hstrict : ((t.withConfig c).apply o staged).run.run calls with ⟨result, left'⟩
  rw [hrun, hstrict] at hmatch hleft
  cases hleft
  cases hmatch with
  | @ok _ output' _ =>
    obtain ⟨target, htarget, rfl⟩ := returns_outputFor t o staged calls output left hrun
    obtain ⟨target', htarget', rfl⟩ :=
      returns_outputFor (t.withConfig c) o staged calls output' left hstrict
    have hsame : Except.ok target = Except.ok target' := htarget.symm.trans htarget'
    cases hsame
    exact ⟨_, rfl, tightens_outputFor h o.store target⟩

end Runs

namespace Sample

/-- An ontology with stops that must have a number. -/
def requiredOntology : Ontology where
  store := OntologyStore.insertMetatype {}
    { id := some "stop", name := "Stop",
      keys := [{ id := some "k", name := "rank", propertyName := "rank", dataType := .number,
                 required := true }] }

/-- A rule that takes the ranks of stops. -/
def rankRule : Transformation :=
  { Transformation.toNode "" "stop" with
    rootArray := some "stops"
    keys := [.toMetatype "stops.[].rank" "k"]
    config := { convertValues := true } }

/-- Policies under which a branch fails without the number. -/
def strictConfig : TransformationConfig where
  onMissing := .failOnRequired
  onConversionError := .fail
  convertValues := true

/-- A stop with a rank, one with a word in place of it, and one without. -/
def rankedStops : StagedData where
  dataSourceId := "d"
  data := .object [("stops", .array [.object [("rank", .int 5)],
    .object [("rank", .string "x")], .object []])]

end Sample

theorem tightens_withConfig_rankRule :
    Sample.rankRule.config.IsBelow Sample.strictConfig ∧
      ∃ output output' left,
        (Sample.rankRule.apply Sample.requiredOntology Sample.rankedStops).run.run
            ([] : List Method) = (.ok output, left) ∧
          ((Sample.rankRule.withConfig Sample.strictConfig).apply Sample.requiredOntology
            Sample.rankedStops).run.run ([] : List Method) = (.ok output', left) ∧
          output.records.map BranchRecord.index = [[0], [1], [2]] ∧
          output'.records.map BranchRecord.index = [[0]] ∧ output'.Tightens output := by
  have hbelow : Sample.rankRule.config.IsBelow Sample.strictConfig :=
    ⟨rfl, by decide, by decide⟩
  obtain ⟨output, left, hrun, hrecords⟩ : ∃ output left,
      (Sample.rankRule.apply Sample.requiredOntology Sample.rankedStops).run.run
          ([] : List Method) = (.ok output, left) ∧
        output.records.map BranchRecord.index = [[0], [1], [2]] := ⟨_, _, rfl, rfl⟩
  obtain ⟨output', hrun', htightens⟩ := tightens_withConfig _ _ hbelow _ _ _ _ _ hrun
  have hrecords' : ∃ output' left,
      ((Sample.rankRule.withConfig Sample.strictConfig).apply Sample.requiredOntology
        Sample.rankedStops).run.run ([] : List Method) = (.ok output', left) ∧
          output'.records.map BranchRecord.index = [[0]] := ⟨_, _, rfl, rfl⟩
  obtain ⟨found, left', hfound, hindices⟩ := hrecords'
  rw [hrun'] at hfound
  cases hfound
  exact ⟨hbelow, output, output', left, hrun, hrun', hrecords, hindices, htightens⟩

end Transformation

end TypedGraph
