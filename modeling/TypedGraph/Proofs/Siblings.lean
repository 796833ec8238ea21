import TypedGraph.Proofs.BranchPaths
import TypedGraph.Proofs.Replacement

/-!
# Siblings

The branches of the elements of a list are siblings. If all paths of a transformation go on
from the list of the first level of its root array to the current element, then replacing an
element changes nothing for the branches of the other elements (`siblings_apart`). The levels
below the first one may also pass by the list, unless they could meet the list again by its
number (`not_siblings_apart`).
-/
namespace TypedGraph

/-- Whether an index vector leads outside of an element of the outermost list. -/
def isOutside (i : Nat) (index : List Nat) : Bool := index.head? != some i

theorem isOutside_cons {i j : Nat} (index : List Nat) :
    isOutside i (j :: index) = true ↔ j ≠ i := by
  simp [isOutside]

/-! ## Branches -/

namespace Expansion

variable {payload payload' element : Json} {levels : List String} {index branch : List Nat}

/-- Branches and errors below an index vector go on from it. -/
theorem prefix_of_mem_branches (h : branch ∈ (below payload levels index).branches) :
    index <+: branch := by
  induction levels generalizing index with
  | nil =>
    rw [below, List.mem_singleton] at h
    simp [h]
  | cons path levels ih =>
    rw [below] at h
    split at h
    · simp only [List.mem_flatMap, List.mem_map] at h
      obtain ⟨part, ⟨k, -, rfl⟩, hbranch⟩ := h
      exact (List.prefix_append index [k]).trans (ih hbranch)
    · simp at h

theorem prefix_of_mem_errors {e : BranchError} (h : e ∈ (below payload levels index).errors) :
    index <+: e.index := by
  induction levels generalizing index with
  | nil => simp [below] at h
  | cons path levels ih =>
    rw [below] at h
    split at h
    · simp only [List.mem_flatMap, List.mem_map] at h
      obtain ⟨part, ⟨k, -, rfl⟩, herror⟩ := h
      exact (List.prefix_append index [k]).trans (ih herror)
    · rw [List.mem_singleton] at h
      simp [h]

/-- The branches below an index vector are told by what the levels reach with those that go on
from it. -/
theorem below_congr
    (h : ∀ more, Path.ReadAlike levels payload payload' (index ++ more)) :
    below payload levels index = below payload' levels index := by
  induction levels generalizing index with
  | nil => rfl
  | cons path levels ih =>
    have hpath : Path.resolve payload path index = Path.resolve payload' path index := by
      simpa using h [] path List.mem_cons_self
    have hparts (k : Nat) :
        below payload levels (index ++ [k]) = below payload' levels (index ++ [k]) := by
      apply ih
      intro more level hlevel
      have hread := h (k :: more) level (List.mem_cons_of_mem path hlevel)
      simpa using hread
    simp only [below, hpath, hparts]

/-- The branches and the errors outside of an element of the outermost list. -/
def outside (i : Nat) (x : Expansion) : Expansion where
  branches := x.branches.filter (isOutside i)
  errors := x.errors.filter fun e => isOutside i e.index

theorem outside_below_self (payload : Json) (levels : List String) (i : Nat) (index : List Nat) :
    (below payload levels (i :: index)).outside i = {} := by
  have hinside {found : List Nat} (hfound : i :: index <+: found) : isOutside i found = false := by
    obtain ⟨more, rfl⟩ := hfound
    simp [isOutside]
  have hbranches : (below payload levels (i :: index)).branches.filter (isOutside i) = [] := by
    rw [List.filter_eq_nil_iff]
    intro branch hbranch
    simp [hinside (prefix_of_mem_branches hbranch)]
  have herrors :
      (below payload levels (i :: index)).errors.filter (fun e => isOutside i e.index) = [] := by
    rw [List.filter_eq_nil_iff]
    intro e he
    simp [hinside (prefix_of_mem_errors he)]
  rw [outside, hbranches, herrors]

/-- Replacing an element of the outermost list keeps what is outside of it. -/
theorem outside_ofLevels_replaceElement {root : String} {i : Nat}
    (h : ∀ j more, j ≠ i → Path.ReadAlike levels
      (Path.replaceElement root i element payload) payload (j :: more)) :
    (ofLevels (Path.replaceElement root i element payload) (root :: levels)).outside i =
      (ofLevels payload (root :: levels)).outside i := by
  rcases Path.resolve_replaceElement_root root i element payload with hroot | hsame
  · rw [ofLevels, ofLevels, below, below, hroot]
    cases hreached : Path.resolve payload root [] with
    | none => rfl
    | some value =>
      cases value with
      | array items =>
        have hparts (k : Nat) :
            (below (Path.replaceElement root i element payload) levels [k]).outside i =
              (below payload levels [k]).outside i := by
          by_cases hk : k = i
          · rw [hk, outside_below_self, outside_below_self]
          · rw [below_congr fun more => h k more hk]
        have hbranches (k : Nat) := congrArg Expansion.branches (hparts k)
        have herrors (k : Nat) := congrArg Expansion.errors (hparts k)
        simp only [outside] at hbranches herrors
        simp [Path.setElement, outside, List.flatMap_map, List.filter_flatMap, hbranches, herrors]
      | _ => rfl
  · rw [hsame]

/-- A branch outside of an element lies in another element. -/
theorem exists_of_mem_outside {root : String} {i : Nat}
    (h : branch ∈ ((ofLevels payload (root :: levels)).outside i).branches) :
    ∃ j more, branch = j :: more ∧ j ≠ i := by
  obtain ⟨hmem, houtside⟩ := List.mem_filter.1 h
  have hlength := length_of_mem_branches hmem
  cases branch with
  | nil => simp at hlength
  | cons j more => exact ⟨j, more, rfl, (isOutside_cons more).1 houtside⟩

end Expansion

/-! ## Output -/

/-- The records and the errors outside of an element of the outermost list. -/
def TransformOutput.outside (i : Nat) (o : TransformOutput) : TransformOutput where
  records := o.records.filter fun r => isOutside i r.index
  errors := o.errors.filter fun e => isOutside i e.index

theorem TransformOutput.outside_withErrors (i : Nat) (errors : List BranchError)
    (o : TransformOutput) :
    ({ o with errors := errors ++ o.errors } : TransformOutput).outside i =
      { o.outside i with
        errors := errors.filter (fun e => isOutside i e.index) ++ (o.outside i).errors } := by
  simp [outside]

namespace Transformation

variable {t : Transformation} {root : String} {staged : StagedData}

theorem outside_produceAll (target : Target) (keys : List (String × PropertyKey))
    (staged : StagedData) (i : Nat) (branches : List (List Nat)) :
    (t.produceAll target keys staged branches).outside i =
      t.produceAll target keys staged (branches.filter (isOutside i)) := by
  induction branches with
  | nil => rfl
  | cons index branches ih =>
    have hrecords := congrArg TransformOutput.records ih
    have herrors := congrArg TransformOutput.errors ih
    simp only [TransformOutput.outside] at hrecords herrors
    by_cases hindex : isOutside i index
    · rw [List.filter_cons_of_pos hindex, produceAll_cons, produceAll_cons]
      cases t.produce target keys staged index <;>
        simp [TransformOutput.outside, hindex, hrecords, herrors]
    · rw [List.filter_cons_of_neg hindex, produceAll_cons]
      cases t.produce target keys staged index <;>
        simp [TransformOutput.outside, hindex, hrecords, herrors]

theorem produceAll_congr {target : Target} {keys : List (String × PropertyKey)}
    {staged' : StagedData} {branches : List (List Nat)}
    (h : ∀ index ∈ branches,
      t.produce target keys staged' index = t.produce target keys staged index) :
    t.produceAll target keys staged' branches = t.produceAll target keys staged branches := by
  have hresults : (branches.map fun index => (index, t.produce target keys staged' index)) =
      branches.map fun index => (index, t.produce target keys staged index) := by
    apply List.map_congr_left
    intro index hindex
    rw [h index hindex]
  simp only [produceAll, hresults]

theorem outside_outputFor (o : OntologyStore) (target : Target) (i : Nat) :
    (t.outputFor o target staged).outside i =
      let expansion := (Expansion.ofLevels staged.data t.rootLevels).outside i
      let output := t.produceAll target (t.knownKeys o target (t.keyIds target)) staged
        (t.accepted staged expansion.branches)
      { output with errors := expansion.errors ++ output.errors } := by
  have hbranches : (t.accepted staged (Expansion.ofLevels staged.data t.rootLevels).branches).filter
      (isOutside i) =
      t.accepted staged ((Expansion.ofLevels staged.data t.rootLevels).outside i).branches := by
    simp only [accepted, Expansion.outside, List.filter_filter, Bool.and_comm]
  simp only [outputFor, TransformOutput.outside_withErrors, outside_produceAll, hbranches]
  rfl

/-- The output outside of an element does not depend on it, if no path leads to it from another
element. -/
theorem outside_outputFor_replaceElement {i : Nat} {element : Json}
    (hroot : t.rootLevels.head? = some root)
    (hlevels : ∀ j more, j ≠ i → Path.ReadAlike t.rootLevels.tail
      (Path.replaceElement root i element staged.data) staged.data (j :: more))
    (hbranches : ∀ j more, j ≠ i → Path.ReadAlike t.branchPaths
      (Path.replaceElement root i element staged.data) staged.data (j :: more))
    (o : OntologyStore) (target : Target) :
    (t.outputFor o target
      { staged with data := Path.replaceElement root i element staged.data }).outside i =
      (t.outputFor o target staged).outside i := by
  have hcons : t.rootLevels = root :: t.rootLevels.tail := (List.cons_head?_tail hroot).symm
  have hexpansion := Expansion.outside_ofLevels_replaceElement hlevels
  rw [← hcons] at hexpansion
  rw [outside_outputFor, outside_outputFor]
  simp only [hexpansion]
  have houtside : ∀ branch ∈ ((Expansion.ofLevels staged.data t.rootLevels).outside i).branches,
      Path.ReadAlike t.branchPaths
        (Path.replaceElement root i element staged.data) staged.data branch := by
    intro branch hbranch
    rw [hcons] at hbranch
    obtain ⟨j, more, rfl, hj⟩ := Expansion.exists_of_mem_outside hbranch
    exact hbranches j more hj
  have haccepted : t.accepted
      { staged with data := Path.replaceElement root i element staged.data }
        ((Expansion.ofLevels staged.data t.rootLevels).outside i).branches =
      t.accepted staged ((Expansion.ofLevels staged.data t.rootLevels).outside i).branches := by
    apply List.filter_congr
    intro branch hbranch
    exact anyHolds_congr (houtside branch hbranch)
  rw [haccepted, produceAll_congr]
  intro branch hbranch
  exact produce_congr (houtside branch (List.mem_filter.1 hbranch).1)

/-- A successful application returns the output for the one target. -/
theorem returns_outputFor {σ : Type} [KeepsCalls σ] (t : Transformation) (o : Ontology)
    (staged : StagedData) :
    Access.Returns (t.apply o staged : Access σ TransformError TransformOutput) fun output =>
      ∃ target, t.checkedTarget = .ok target ∧ output = t.outputFor o.store target staged := by
  intro calls output left hrun
  have houtput := (answers_apply_eq (P := fun _ : σ => True) (s := { ontology := o }) (t := t)
    fun _ _ _ => trivial).returns calls output left hrun
  cases htarget : t.checkedTarget with
  | error cause =>
    rw [htarget] at houtput
    cases houtput
  | ok target =>
    rw [htarget] at houtput
    cases houtput
    exact ⟨target, rfl, rfl⟩

/-- All paths that are read in a branch go on from the list of the first level, whose path has no
bracket in it, to the current element. -/
structure ReadsElements (t : Transformation) (root : String) : Prop where
  first : t.rootLevels.head? = some root
  plain : '[' ∉ root.toList
  below : ∀ path ∈ t.branchPaths, Path.IsBelow root path

/-- Whether replacing an element of the list at a path changes nothing outside of it. -/
def KeepsSiblingsApart (t : Transformation) (root : String) : Prop :=
  ∀ {σ : Type} [KeepsCalls σ] (o : Ontology) (staged : StagedData) (i : Nat) (element : Json)
    (calls calls' left left' : σ) (output output' : TransformOutput),
    (t.apply o staged).run.run calls = (.ok output, left) →
    (t.apply o { staged with data := Path.replaceElement root i element staged.data }).run.run
      calls' = (.ok output', left') →
    output'.outside i = output.outside i

/-- Replacing an element changes nothing for the branches of the other elements, if the levels
below go on to the current element wherever the list may be met by its number. -/
theorem siblings_apart {root : String} (h : t.ReadsElements root)
    (hlevels : Path.EndsInPlace root → ∀ level ∈ t.rootLevels.tail, Path.Enters root level) :
    t.KeepsSiblingsApart root := by
  intro σ _ o staged i element calls calls' left left' output output' hrun hrun'
  obtain ⟨target, htarget, rfl⟩ := returns_outputFor t o staged calls output left hrun
  obtain ⟨target', htarget', rfl⟩ := returns_outputFor t o _ calls' output' left' hrun'
  rw [htarget] at htarget'
  cases htarget'
  have hlevel : ∀ j more, j ≠ i → Path.ReadAlike t.rootLevels.tail
      (Path.replaceElement root i element staged.data) staged.data (j :: more) := by
    intro j more hj level hmem
    rcases enters_or_passesBy h.first h.plain hmem with henters | hpasses
    · exact Path.resolve_replaceElement_of_enters henters hj more
    · by_cases hplace : Path.EndsInPlace root
      · exact Path.resolve_replaceElement_of_enters (hlevels hplace level hmem) hj more
      · apply Path.resolve_replaceElement_of_passesBy hpasses
        intro hop hhop
        by_contra hnumber
        exact hplace ⟨hop, hhop, by simpa using hnumber⟩
  have hbranch : ∀ j more, j ≠ i → Path.ReadAlike t.branchPaths
      (Path.replaceElement root i element staged.data) staged.data (j :: more) := by
    intro j more hj path hmem
    exact Path.resolve_replaceElement_of_enters ((h.below path hmem).enters h.plain) hj more
  exact outside_outputFor_replaceElement h.first hlevel hbranch o.store target

namespace Sample

/-- A rule that turns the visits to the stops of the first table into nodes. -/
def visitRule : Transformation where
  metatypeId := some "visit"
  rootArray := some "0[].visits[]"
  uniqueKey := some "0[].visits[].id"
  conditions := [.simple "0[].open" .present .null]
  keys := [.toMetatype "0.[].name" "k"]

/-- An ontology with the key of the rule. -/
def ontology : Ontology where
  store := OntologyStore.insertMetatype {}
    { id := some "visit", name := "Visit",
      keys := [{ id := some "k", name := "stop", propertyName := "stop", dataType := .string }] }

/-- A table with two stops, and one without any. -/
def tables : Json :=
  .array [.array [
    .object [("name", .string "a"), ("open", .bool true),
      ("visits", .array [.object [("id", .int 1)]])],
    .object [("name", .string "b"), ("open", .bool true),
      ("visits", .array [.object [("id", .int 2)], .object [("id", .int 3)]])]], .array []]

/-- What a rule produces from a payload. -/
def applied (t : Transformation) (payload : Json) :
    Except TransformError TransformOutput × List Method :=
  (t.apply ontology { dataSourceId := "d", data := payload }).run.run []

end Sample

theorem siblings_apart_visitRule :
    Sample.visitRule.ReadsElements "0" ∧
      (∀ level ∈ Sample.visitRule.rootLevels.tail, Path.Enters "0" level) ∧
      ∃ output output' left left',
        Sample.applied Sample.visitRule Sample.tables = (.ok output, left) ∧
        Sample.applied Sample.visitRule
          (Path.replaceElement "0" 0 (.string "closed") Sample.tables) = (.ok output', left') ∧
        output' ≠ output ∧ output'.outside 0 = output.outside 0 := by
  have hlevels : Sample.visitRule.rootLevels = ["0", "0[].visits"] := by decide +kernel
  have hpaths : Sample.visitRule.branchPaths = ["0[].open", "0.[].name", "0[].visits[].id"] := by
    decide +kernel
  have hreads : Sample.visitRule.ReadsElements "0" := by
    constructor
    · rw [hlevels]
      rfl
    · decide
    · rw [hpaths]
      simp only [List.forall_mem_cons, List.not_mem_nil, false_implies, implies_true, and_true]
      exact ⟨⟨".open", .inl rfl, .inr ⟨"open", rfl⟩⟩, ⟨".name", .inr rfl, .inr ⟨"name", rfl⟩⟩,
        ⟨".visits[].id", .inl rfl, .inr ⟨"visits[].id", rfl⟩⟩⟩
  have henters : ∀ level ∈ Sample.visitRule.rootLevels.tail, Path.Enters "0" level := by
    rw [hlevels]
    simp only [List.tail_cons, List.mem_singleton, forall_eq]
    exact ⟨.each, [.key "visits"], by decide +kernel, rfl⟩
  obtain ⟨output, left, hrun, hlength⟩ : ∃ output left,
      Sample.applied Sample.visitRule Sample.tables = (.ok output, left) ∧
        output.records.length = 3 := ⟨_, _, rfl, rfl⟩
  obtain ⟨output', left', hrun', hlength'⟩ : ∃ output left,
      Sample.applied Sample.visitRule
        (Path.replaceElement "0" 0 (.string "closed") Sample.tables) = (.ok output, left) ∧
        output.records.length = 2 := ⟨_, _, rfl, rfl⟩
  refine ⟨hreads, henters, output, output', left, left', hrun, hrun', ?_, ?_⟩
  · intro heq
    rw [heq, hlength] at hlength'
    cases hlength'
  · exact siblings_apart hreads (fun _ => henters) Sample.ontology _ 0 (.string "closed") [] []
      left left' output output' hrun hrun'

namespace Sample

/-- A rule whose second level passes by the first list and meets it by its number. -/
def crossingRule : Transformation where
  metatypeId := some "stop"
  rootArray := some "0[]x[].c[]"

def crossed (items : List Json) : Json :=
  .array [.array [.object [], .object [("c", .array items)]]]

end Sample

/-- If the path of the first list ends in a number, another level may lead from one element to
another one: the level `0[]x` takes the first list of the payload for the element `0`. -/
theorem not_siblings_apart :
    ¬ ∀ (t : Transformation) (root : String), t.ReadsElements root →
      t.KeepsSiblingsApart root := by
  intro h
  have hreads : Sample.crossingRule.ReadsElements "0" := by
    constructor
    · decide +kernel
    · decide
    · have hpaths : Sample.crossingRule.branchPaths = [] := rfl
      simp [hpaths]
  obtain ⟨output, left, hrun, hlength⟩ : ∃ output left,
      Sample.applied Sample.crossingRule (Sample.crossed []) = (.ok output, left) ∧
        (output.outside 1).records.length = 0 := ⟨_, _, rfl, rfl⟩
  obtain ⟨output', left', hrun', hlength'⟩ : ∃ output left,
      Sample.applied Sample.crossingRule
        (Path.replaceElement "0" 1 (.object [("c", .array [.object []])]) (Sample.crossed [])) =
          (.ok output, left) ∧
        (output.outside 1).records.length = 1 := ⟨_, _, rfl, rfl⟩
  have hsame := h _ _ hreads Sample.ontology _ 1 _ [] [] left left' output output' hrun hrun'
  rw [hsame, hlength] at hlength'
  cases hlength'

end Transformation

end TypedGraph
