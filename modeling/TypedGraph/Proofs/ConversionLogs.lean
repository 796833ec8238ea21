import Mathlib.Data.List.Nodup
import TypedGraph.Proofs.Outcomes

/-!
# Conversion logs

A record has a log of the conversions that were made for its properties. The log agrees with the
properties if every conversion that succeeded gave the property its value, and a property whose
conversion failed has no value. But an entry stays in the log when another key mapping goes on
to give its property a value. The log therefore agrees with the properties exactly if the
outcomes of the key mappings for one property do not contradict each other
(`Transformation.logAgrees_iff`), as when there is one for each property.
-/
namespace TypedGraph

/-- Whether the conversion log of a record agrees with its properties. -/
structure RecordBase.LogAgrees (b : RecordBase) : Prop where
  done : ∀ name conversion, b.log.done.get? name = some conversion →
    ∃ value, conversion.converted = some value ∧ b.properties.get? name = some value
  failed : ∀ name conversion, b.log.failed.get? name = some conversion →
    b.properties.get? name = none

namespace KeyOutcome

/-- Whether the outcomes for one property do not contradict each other: where a conversion
fails, the property gets no value, and where one succeeds, the property does not get another
value later without a conversion. -/
structure AreConsistent (outcomes : List (String × KeyOutcome)) : Prop where
  failed : ∀ name conversion x, (name, .failed conversion) ∈ outcomes → (name, x) ∈ outcomes →
    x.value? = none
  converted : ∀ front name conversion value back value',
    outcomes = front ++ (name, .converted conversion value) :: back →
    last? conversion? back name = none → last? value? back name = some value' → value' = value

/-- A property gets the converted value that the entry tells. -/
theorem converted_of_ofExtracted {convertsValues : Bool} {type : DataType}
    {extracted : Option Json} {conversion : Conversion} {value : Json}
    (h : ofExtracted convertsValues type extracted = converted conversion value) :
    conversion.converted = some value := by
  revert h
  fun_cases ofExtracted convertsValues type extracted with
  | case3 _ _ _ _ _ hvalue =>
    intro h
    cases h
    exact hvalue
  | case1 | case2 | case4 | case5 => exact nofun

variable {outcomes : List (String × KeyOutcome)}

/-- No outcomes for one property contradict each other if there is one for each property. -/
theorem areConsistent_of_nodup (h : (outcomes.map (·.1)).Nodup) : AreConsistent outcomes := by
  constructor
  · intro name conversion x hfailed hx
    have hsame := List.inj_on_of_nodup_map h hfailed hx rfl
    cases hsame
    rfl
  · intro front name conversion value back value' hsplit _ hvalue
    rw [hsplit, List.map_append, List.map_cons] at h
    have hback : name ∉ back.map (·.1) := (List.nodup_cons.1 (List.nodup_append.1 h).2.1).1
    obtain ⟨front', x, back', rfl, -, -⟩ := last?_eq_some_iff.1 hvalue
    simp at hback

/-- The entries of the failed conversions agree with the properties if no property has both a
failed conversion and a value. -/
theorem failed_agrees_iff (outcomes : List (String × KeyOutcome)) :
    (∀ name conversion, (enterAll {} outcomes).log.failed.get? name = some conversion →
        (enterAll {} outcomes).properties.get? name = none) ↔
      ∀ name conversion x, (name, .failed conversion) ∈ outcomes → (name, x) ∈ outcomes →
        x.value? = none := by
  simp only [get?_failed, get?_properties]
  constructor
  · intro hagrees name conversion x hfailed hx
    have hsome : last? failure? outcomes name ≠ none := fun hnone =>
      Option.some_ne_none _ (last?_eq_none_iff.1 hnone _ hfailed)
    obtain ⟨conversion', hlast⟩ := Option.ne_none_iff_exists'.1 hsome
    exact last?_eq_none_iff.1 (hagrees name conversion' hlast) x hx
  · intro hconsistent name conversion hlast
    obtain ⟨front, x, back, rfl, hx, -⟩ := last?_eq_some_iff.1 hlast
    cases x <;> cases hx
    exact last?_eq_none_iff.2 fun x hx => hconsistent name conversion x (by simp) hx

/-- The entries of the conversions that succeeded agree with the properties if none is followed
by another value that is kept. -/
theorem done_agrees_iff (outcomes : List (String × KeyOutcome))
    (hsound : ∀ name conversion value, (name, .converted conversion value) ∈ outcomes →
      conversion.converted = some value) :
    (∀ name conversion, (enterAll {} outcomes).log.done.get? name = some conversion →
        ∃ value, conversion.converted = some value ∧
          (enterAll {} outcomes).properties.get? name = some value) ↔
      ∀ front name conversion value back value',
        outcomes = front ++ (name, .converted conversion value) :: back →
        last? conversion? back name = none → last? value? back name = some value' →
        value' = value := by
  simp only [get?_done, get?_properties]
  constructor
  · intro hagrees front name conversion value back value' hsplit hlast hvalue
    have hentry : last? conversion? outcomes name = some conversion :=
      last?_eq_some_iff.2 ⟨front, _, back, hsplit, rfl, hlast⟩
    obtain ⟨value'', hconverted, hproperty⟩ := hagrees name conversion hentry
    have hvalue'' : some value'' = some value := by
      rw [← hconverted]
      exact hsound name conversion value (by simp [hsplit])
    rw [hsplit, last?_append, last?_cons, hvalue] at hproperty
    simp only [Option.some_or, Option.some.injEq] at hproperty
    rw [hproperty]
    exact Option.some.inj hvalue''
  · intro hconsistent name conversion hlast
    obtain ⟨front, x, back, hsplit, hx, hback⟩ := last?_eq_some_iff.1 hlast
    cases x with
    | converted conversion' value =>
      cases hx
      refine ⟨value, hsound name conversion value (by simp [hsplit]), ?_⟩
      rw [hsplit, last?_append, last?_cons]
      cases hvalue : last? value? back name with
      | none => simp [value?]
      | some value' =>
        rw [hconsistent front name conversion value back value' hsplit hback hvalue]
        rfl
    | missing | kept _ | failed _ => cases hx

end KeyOutcome

namespace Transformation

open KeyOutcome

variable {t : Transformation} {o : OntologyStore} {target : Target} {staged : StagedData}
  {index : List Nat}

/-- A branch gives properties the converted values that the entries tell. -/
theorem converted_of_mem_branchOutcomes {name : String} {conversion : Conversion} {value : Json}
    (h : (name, .converted conversion value) ∈ t.branchOutcomes o target staged index) :
    conversion.converted = some value := by
  obtain ⟨m, -, hm⟩ := List.mem_filterMap.1 h
  obtain ⟨key, -, heq⟩ := Option.map_eq_some_iff.1 hm
  exact converted_of_ofExtracted (congrArg Prod.snd heq)

/-- The log of a record agrees with its properties exactly if the outcomes of its branch are
consistent. -/
theorem logAgrees_of_generate {record : GraphRecord}
    (h : t.generate o target staged index = .ok record) :
    record.base.LogAgrees ↔ AreConsistent (t.branchOutcomes o target staged index) := by
  have hdone := done_agrees_iff (t.branchOutcomes o target staged index)
    fun _ _ _ hmem => converted_of_mem_branchOutcomes hmem
  have hfailed := failed_agrees_iff (t.branchOutcomes o target staged index)
  rw [base_of_generate h]
  constructor
  · intro hagrees
    exact ⟨hfailed.1 hagrees.failed, hdone.1 hagrees.done⟩
  · intro hconsistent
    exact ⟨hdone.2 hconsistent.converted, hfailed.2 hconsistent.failed⟩

/-- The log of a record agrees with its properties exactly if the key mappings that fill one
property have outcomes that do not contradict each other, as when each of them fills another
property. -/
theorem logAgrees_iff {σ : Type} [KeepsCalls σ] (t : Transformation) (o : Ontology)
    (staged : StagedData) (calls left : σ) (output : TransformOutput)
    (hrun : (t.apply o staged).run.run calls = (.ok output, left)) :
    ∃ target, t.checkedTarget = .ok target ∧ ∀ r ∈ output.records,
      (r.record.base.LogAgrees ↔
        AreConsistent (t.branchOutcomes o.store target staged r.index)) ∧
      (((t.branchOutcomes o.store target staged r.index).map (·.1)).Nodup →
        r.record.base.LogAgrees) := by
  obtain ⟨target, htarget, rfl⟩ := returns_outputFor t o staged calls output left hrun
  refine ⟨target, htarget, fun r hr => ?_⟩
  have hagrees := logAgrees_of_generate (produce_of_mem_records hr)
  exact ⟨hagrees, fun hnodup => hagrees.2 (areConsistent_of_nodup hnodup)⟩

namespace Sample

/-- An ontology with stops that have two numbers. -/
def numbersOntology : Ontology where
  store := OntologyStore.insertMetatype {}
    { id := some "stop", name := "Stop",
      keys := [{ id := some "k", name := "note", propertyName := "note", dataType := .number },
        { id := some "l", name := "rank", propertyName := "rank", dataType := .number }] }

/-- A rule that takes the values at two paths to keys of a stop. -/
def numbersRule (firstKey secondKey : String) : Transformation :=
  { Transformation.toNode "" "stop" with
    keys := [.toMetatype "a" firstKey, .toMetatype "b" secondKey]
    config := { convertValues := true } }

/-- A number and a word. -/
def numbersPayload : StagedData where
  dataSourceId := "d"
  data := .object [("a", .string "x"), ("b", .int 5)]

end Sample

theorem logAgrees_iff_numbersRule :
    ∃ output left,
      ((Sample.numbersRule "k" "l").apply Sample.numbersOntology Sample.numbersPayload).run.run
          ([] : List Method) = (.ok output, left) ∧
        (output.records.map fun r => (r.record.base.log.failed.get? "note").isSome) = [true] ∧
        ∀ r ∈ output.records, r.record.base.LogAgrees := by
  obtain ⟨output, left, hrun, hindices, hfailed⟩ : ∃ output left,
      ((Sample.numbersRule "k" "l").apply Sample.numbersOntology Sample.numbersPayload).run.run
          ([] : List Method) = (.ok output, left) ∧
        output.records.map BranchRecord.index = [[]] ∧
        (output.records.map fun r => (r.record.base.log.failed.get? "note").isSome) = [true] :=
    ⟨_, _, rfl, rfl, rfl⟩
  refine ⟨output, left, hrun, hfailed, fun r hr => ?_⟩
  obtain ⟨target, htarget, hagrees⟩ := logAgrees_iff _ _ _ _ _ _ hrun
  cases htarget
  have hindex : r.index = [] := by
    have hmem := List.mem_map_of_mem (f := BranchRecord.index) hr
    simpa [hindices] using hmem
  apply (hagrees r hr).2
  rw [hindex]
  decide

/-- A failed conversion stays in the log if another value is taken to the property. -/
theorem not_logAgrees :
    ¬ ∀ (t : Transformation) (o : Ontology) (staged : StagedData) (calls left : List Method)
      (output : TransformOutput), t.config.convertValues = true →
      (t.apply o staged).run.run calls = (.ok output, left) →
      ∀ r ∈ output.records, r.record.base.LogAgrees := by
  intro hclaim
  obtain ⟨output, left, hrun, r, hr, hfailed, hproperty⟩ : ∃ output left,
      ((Sample.numbersRule "k" "k").apply Sample.numbersOntology Sample.numbersPayload).run.run
          ([] : List Method) = (.ok output, left) ∧
        ∃ r ∈ output.records, (r.record.base.log.failed.get? "note").isSome ∧
          r.record.base.properties.get? "note" = some (.int 5) :=
    ⟨_, _, rfl, _, List.mem_singleton_self _, rfl, rfl⟩
  obtain ⟨conversion, hconversion⟩ := Option.isSome_iff_exists.1 hfailed
  have hnone := (hclaim _ _ _ _ _ _ rfl hrun r hr).failed "note" conversion hconversion
  rw [hproperty] at hnone
  cases hnone

end Transformation

end TypedGraph
