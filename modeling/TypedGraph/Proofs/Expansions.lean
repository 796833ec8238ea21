import Mathlib.Data.List.Nodup
import TypedGraph.Proofs.Siblings

/-!
# Expansions

An index vector is reachable if each of its places lies in the list to which the level there
leads with the places before. The branches of a payload are the reachable index vectors with a
place for every level, and the errors are at the reachable ones where the next level leads to
no list (`Expansion.isExact_ofLevels`). Of its branches a transformation gives each account
once: the ones that meet its conditions by a record or an error, the others by nothing
(`branches_exact`).
-/
namespace TypedGraph

namespace Expansion

/-- Whether each place of an index vector is one of the list to which the level of that place
leads with the places before it. -/
def IsReachable (payload : Json) (levels : List String) (index : List Nat) : Prop :=
  ∀ j i, index[j]? = some i → ∃ level items, levels[j]? = some level ∧
    Path.resolve payload level (index.take j) = some (.array items) ∧ i < items.length

/-- Whether the level that follows an index vector leads to a list with it. -/
def IsListed (payload : Json) (level : String) (index : List Nat) : Prop :=
  ∃ items, Path.resolve payload level index = some (.array items)

/-- The branches are the reachable index vectors with a place for every level, and the errors
tell of the reachable ones at which the next level is no list. Both stand in lexicographic
order, and each of them once. -/
structure IsExact (payload : Json) (levels : List String) (x : Expansion) : Prop where
  branches_increasing : x.branches.Pairwise (· < ·)
  mem_branches : ∀ index, index ∈ x.branches ↔
    IsReachable payload levels index ∧ index.length = levels.length
  errors_increasing : (x.errors.map BranchError.index).Pairwise (· < ·)
  mem_errors : ∀ e, e ∈ x.errors ↔ IsReachable payload levels e.index ∧
    ∃ level, levels[e.index.length]? = some level ∧ ¬ IsListed payload level e.index ∧
      e.error = .malformedRootArray level e.index

section Reachable

variable {payload : Json} {levels : List String} {index : List Nat} {i : Nat}

theorem not_isListed {level : String}
    (h : ∀ items, Path.resolve payload level index = some (.array items) → False) :
    ¬ IsListed payload level index := by
  rintro ⟨items, hitems⟩
  exact h items hitems

theorem isReachable_nil (payload : Json) (levels : List String) :
    IsReachable payload levels [] := by
  intro j i h
  simp at h

theorem isReachable_append_singleton :
    IsReachable payload levels (index ++ [i]) ↔ IsReachable payload levels index ∧
      ∃ level items, levels[index.length]? = some level ∧
        Path.resolve payload level index = some (.array items) ∧ i < items.length := by
  have hfront {j : Nat} (hj : j < index.length) :
      (index ++ [i])[j]? = index[j]? ∧ (index ++ [i]).take j = index.take j :=
    ⟨List.getElem?_append_left hj, List.take_append_of_le_length (Nat.le_of_lt hj)⟩
  constructor
  · intro h
    constructor
    · intro j k hk
      obtain ⟨hj, -⟩ := List.getElem?_eq_some_iff.1 hk
      obtain ⟨hget, htake⟩ := hfront hj
      have hfound := h j k (hget.trans hk)
      rwa [htake] at hfound
    · have hfound := h index.length i (by simp)
      rwa [List.take_left] at hfound
  · rintro ⟨hindex, hlast⟩ j k hk
    rcases Nat.lt_trichotomy j index.length with hj | rfl | hj
    · obtain ⟨hget, htake⟩ := hfront hj
      rw [htake]
      exact hindex j k (hget.symm.trans hk)
    · rw [List.getElem?_append_right (Nat.le_refl _)] at hk
      have hik : i = k := by simpa using hk
      rw [List.take_left, ← hik]
      exact hlast
    · have hnone : (index ++ [i])[j]? = none := by
        rw [List.getElem?_eq_none_iff, List.length_append, List.length_singleton]
        exact hj
      rw [hnone] at hk
      cases hk

/-- A reachable index vector has no more places than there are levels. -/
theorem IsReachable.length_le (h : IsReachable payload levels index) :
    index.length ≤ levels.length := by
  by_contra hlt
  have hlast : levels.length < index.length := by omega
  obtain ⟨level, items, hlevel, -⟩ := h levels.length _ (List.getElem?_eq_getElem hlast)
  simp at hlevel

/-- What is found below an index vector at a list is found below one of its elements. -/
theorem exists_child_iff {level : String} {items : List Json} {found : List Nat}
    {Found : Prop} {InChild : Nat → Prop} (hlevel : levels[index.length]? = some level)
    (hitems : Path.resolve payload level index = some (.array items))
    (hbeyond : Found → IsReachable payload levels found ∧ found ≠ index)
    (hchild : ∀ i, i < items.length → (InChild i ↔ index ++ [i] <+: found ∧ Found)) :
    (∃ i, i < items.length ∧ InChild i) ↔ index <+: found ∧ Found := by
  constructor
  · rintro ⟨i, hi, hin⟩
    obtain ⟨hinner, hfound⟩ := (hchild i hi).1 hin
    exact ⟨(List.prefix_append index [i]).trans hinner, hfound⟩
  · rintro ⟨⟨back, rfl⟩, hfound⟩
    obtain ⟨hreachable, hne⟩ := hbeyond hfound
    obtain ⟨i, more, rfl⟩ := List.exists_cons_of_ne_nil (l := back) (by simpa using hne)
    obtain ⟨level', items', hlevel', hitems', hi⟩ := hreachable index.length i (by simp)
    rw [List.take_left] at hitems'
    rw [hlevel, Option.some.injEq] at hlevel'
    rw [← hlevel', hitems, Option.some.injEq, Json.array.injEq] at hitems'
    rw [← hitems'] at hi
    exact ⟨i, hi, (hchild i hi).2 ⟨⟨more, by simp⟩, hfound⟩⟩

/-- Nothing is reachable beyond an index vector at something else than a list. -/
theorem eq_of_not_isListed {level : String} {found : List Nat}
    (hlevel : levels[index.length]? = some level) (hunlisted : ¬ IsListed payload level index)
    (hfound : IsReachable payload levels found) (hfront : index <+: found) : found = index := by
  obtain ⟨back, rfl⟩ := hfront
  cases back with
  | nil => exact List.append_nil index
  | cons i more =>
    obtain ⟨level', items, hlevel', hitems, -⟩ := hfound index.length i (by simp)
    rw [List.take_left] at hitems
    rw [hlevel, Option.some.injEq] at hlevel'
    rw [← hlevel'] at hitems
    exact absurd ⟨items, hitems⟩ hunlisted

end Reachable

/-! ## Expansion below an index vector -/

section Below

variable {payload : Json} {all levels : List String} {path : String} {index : List Nat}

/-- The levels below an index vector begin with the one that follows it. -/
theorem getElem?_of_drop_eq_cons (h : all.drop index.length = path :: levels) :
    all[index.length]? = some path ∧ ∀ i, all.drop (index ++ [i]).length = levels := by
  constructor
  · rw [← List.head?_drop, h]
    rfl
  · intro i
    rw [List.length_append, List.length_singleton, ← List.drop_drop, h]
    rfl

theorem mem_branches_below (hindex : IsReachable payload all index)
    (hlevels : all.drop index.length = levels) (branch : List Nat) :
    branch ∈ (below payload levels index).branches ↔
      index <+: branch ∧ IsReachable payload all branch ∧ branch.length = all.length := by
  induction levels generalizing index with
  | nil =>
    have hlength : index.length = all.length :=
      Nat.le_antisymm hindex.length_le (List.drop_eq_nil_iff.1 hlevels)
    rw [below, List.mem_singleton]
    constructor
    · rintro rfl
      exact ⟨List.prefix_rfl, hindex, hlength⟩
    · rintro ⟨hfront, -, hbranch⟩
      exact (hfront.eq_of_length (by omega)).symm
  | cons path levels ih =>
    obtain ⟨hpath, hbelow⟩ := getElem?_of_drop_eq_cons hlevels
    have hbeyond : IsReachable payload all branch ∧ branch.length = all.length →
        IsReachable payload all branch ∧ branch ≠ index := by
      rintro ⟨hreachable, hlength⟩
      refine ⟨hreachable, ?_⟩
      rintro rfl
      obtain ⟨hlt, -⟩ := List.getElem?_eq_some_iff.1 hpath
      omega
    rw [below]
    split
    · rename_i items hitems
      simp only [List.flatMap_map, List.mem_flatMap, List.mem_range]
      apply exists_child_iff hpath hitems hbeyond
      intro i hi
      exact ih (isReachable_append_singleton.2 ⟨hindex, path, items, hpath, hitems, hi⟩) (hbelow i)
    · rename_i hcases
      simp only [List.not_mem_nil, false_iff]
      rintro ⟨hfront, hfound⟩
      obtain ⟨hreachable, hne⟩ := hbeyond hfound
      exact hne (eq_of_not_isListed hpath (not_isListed hcases) hreachable hfront)

theorem mem_errors_below (hindex : IsReachable payload all index)
    (hlevels : all.drop index.length = levels) (e : BranchError) :
    e ∈ (below payload levels index).errors ↔
      index <+: e.index ∧ IsReachable payload all e.index ∧
        ∃ level, all[e.index.length]? = some level ∧ ¬ IsListed payload level e.index ∧
          e.error = .malformedRootArray level e.index := by
  induction levels generalizing index with
  | nil =>
    rw [below]
    simp only [List.not_mem_nil, false_iff]
    rintro ⟨hfront, -, level, hlevel, -⟩
    obtain ⟨hlt, -⟩ := List.getElem?_eq_some_iff.1 hlevel
    have hle := hfront.length_le
    have hall := List.drop_eq_nil_iff.1 hlevels
    omega
  | cons path levels ih =>
    obtain ⟨hpath, hbelow⟩ := getElem?_of_drop_eq_cons hlevels
    rw [below]
    split
    · rename_i items hitems
      simp only [List.flatMap_map, List.mem_flatMap, List.mem_range]
      apply exists_child_iff hpath hitems
      · rintro ⟨hreachable, level, hlevel, hunlisted, -⟩
        refine ⟨hreachable, ?_⟩
        intro heq
        rw [heq] at hlevel hunlisted
        rw [hpath, Option.some.injEq] at hlevel
        rw [← hlevel] at hunlisted
        exact hunlisted ⟨items, hitems⟩
      · intro i hi
        exact ih (isReachable_append_singleton.2 ⟨hindex, path, items, hpath, hitems, hi⟩)
          (hbelow i)
    · rename_i hcases
      have hunlisted := not_isListed hcases
      rw [List.mem_singleton]
      constructor
      · rintro rfl
        exact ⟨List.prefix_rfl, hindex, path, hpath, hunlisted, rfl⟩
      · rintro ⟨hfront, hreachable, level, hlevel, -, herror⟩
        have heq := eq_of_not_isListed hpath hunlisted hreachable hfront
        rw [heq, hpath, Option.some.injEq] at hlevel
        obtain ⟨found, error⟩ := e
        rw [heq, ← hlevel] at herror
        exact congrArg₂ BranchError.mk heq herror

/-! ## Order -/

/-- Index vectors in an earlier element of a list stand before those in a later one. -/
theorem lt_of_prefix {i j : Nat} {front back : List Nat} (hij : i < j)
    (hfront : index ++ [i] <+: front) (hback : index ++ [j] <+: back) : front < back := by
  obtain ⟨more, rfl⟩ := hfront
  obtain ⟨more', rfl⟩ := hback
  rw [List.append_assoc, List.append_assoc]
  exact List.append_left_lt (List.cons_lt_cons_iff.2 (.inl hij))

theorem branches_below_increasing (payload : Json) (levels : List String) (index : List Nat) :
    (below payload levels index).branches.Pairwise (· < ·) := by
  induction levels generalizing index with
  | nil => exact List.pairwise_singleton _ _
  | cons path levels ih =>
    rw [below]
    split
    · simp only [List.flatMap_map, List.pairwise_flatMap]
      refine ⟨fun i _ => ih (index ++ [i]), List.pairwise_lt_range.imp ?_⟩
      intro i j hij front hfront back hback
      exact lt_of_prefix hij (prefix_of_mem_branches hfront) (prefix_of_mem_branches hback)
    · exact List.Pairwise.nil

theorem errors_below_increasing (payload : Json) (levels : List String) (index : List Nat) :
    ((below payload levels index).errors.map BranchError.index).Pairwise (· < ·) := by
  rw [List.pairwise_map]
  induction levels generalizing index with
  | nil => exact List.Pairwise.nil
  | cons path levels ih =>
    rw [below]
    split
    · simp only [List.flatMap_map, List.pairwise_flatMap]
      refine ⟨fun i _ => ih (index ++ [i]), List.pairwise_lt_range.imp ?_⟩
      intro i j hij e he e' he'
      exact lt_of_prefix hij (prefix_of_mem_errors he) (prefix_of_mem_errors he')
    · exact List.pairwise_singleton _ _

end Below

/-- The expansion of a payload is exact, whatever the levels lead to. -/
theorem isExact_ofLevels (payload : Json) (levels : List String) :
    (ofLevels payload levels).IsExact payload levels where
  branches_increasing := branches_below_increasing payload levels []
  mem_branches index := by
    simpa [ofLevels] using mem_branches_below (isReachable_nil payload levels) rfl index
  errors_increasing := errors_below_increasing payload levels []
  mem_errors e := by
    simpa [ofLevels] using mem_errors_below (isReachable_nil payload levels) rfl e

end Expansion

/-! ## Output -/

/-- How many records and errors an output has for a branch. -/
def TransformOutput.accountsOf (o : TransformOutput) (index : List Nat) : Nat :=
  (o.records.map BranchRecord.index).count index + (o.errors.map BranchError.index).count index

/-- Whether an output gives account of an expansion: one of every branch that meets the
conditions and none of the others, the records in the order of the branches, and the errors
behind those of the expansion. -/
structure TransformOutput.AccountsFor (o : TransformOutput) (t : Transformation)
    (staged : StagedData) (x : Expansion) : Prop where
  accounts : ∀ index ∈ x.branches,
    o.accountsOf index = if Condition.anyHolds t.conditions staged.data index then 1 else 0
  records_sublist : (o.records.map BranchRecord.index).Sublist x.branches
  errors_sublist : ∃ errors, o.errors = x.errors ++ errors ∧
    (errors.map BranchError.index).Sublist x.branches

namespace Transformation

variable {t : Transformation} {target : Target} {keys : List (String × PropertyKey)}
  {staged : StagedData}

/-- Every branch gives a record or an error. -/
theorem accountsOf_produceAll (t : Transformation) (target : Target)
    (keys : List (String × PropertyKey)) (staged : StagedData) (branches : List (List Nat))
    (index : List Nat) :
    (t.produceAll target keys staged branches).accountsOf index = branches.count index := by
  induction branches with
  | nil => rfl
  | cons branch branches ih =>
    rw [produceAll_cons, List.count_cons, ← ih]
    cases t.produce target keys staged branch <;>
      simp only [TransformOutput.accountsOf, List.map_cons, List.count_cons] <;> omega

theorem records_produceAll_sublist (branches : List (List Nat)) :
    ((t.produceAll target keys staged branches).records.map BranchRecord.index).Sublist
      branches := by
  induction branches with
  | nil => exact List.Sublist.slnil
  | cons branch branches ih =>
    rw [produceAll_cons]
    cases t.produce target keys staged branch with
    | ok record => exact ih.cons_cons branch
    | error e => exact ih.cons branch

theorem errors_produceAll_sublist (branches : List (List Nat)) :
    ((t.produceAll target keys staged branches).errors.map BranchError.index).Sublist
      branches := by
  induction branches with
  | nil => exact List.Sublist.slnil
  | cons branch branches ih =>
    rw [produceAll_cons]
    cases t.produce target keys staged branch with
    | ok record => exact ih.cons branch
    | error e => exact ih.cons_cons branch

/-- Branches are met once each, and no error of the expansion is at a branch. -/
theorem accountsFor_outputFor (o : OntologyStore) (target : Target) :
    (t.outputFor o target staged).AccountsFor t staged
      (Expansion.ofLevels staged.data t.rootLevels) := by
  have hexact := Expansion.isExact_ofLevels staged.data t.rootLevels
  generalize hx : Expansion.ofLevels staged.data t.rootLevels = x at hexact ⊢
  have hsublist : (t.accepted staged x.branches).Sublist x.branches := List.filter_sublist
  rw [outputFor, hx]
  constructor
  · intro index hindex
    have herrors : (x.errors.map BranchError.index).count index = 0 := by
      rw [List.count_eq_zero]
      intro hmem
      obtain ⟨e, he, rfl⟩ := List.mem_map.1 hmem
      obtain ⟨-, level, hlevel, -⟩ := (hexact.mem_errors e).1 he
      obtain ⟨hlt, -⟩ := List.getElem?_eq_some_iff.1 hlevel
      have hlength := ((hexact.mem_branches e.index).1 hindex).2
      omega
    have hown := accountsOf_produceAll t target (t.knownKeys o target (t.keyIds target)) staged
      (t.accepted staged x.branches) index
    have haccepted : (t.accepted staged x.branches).count index =
        if Condition.anyHolds t.conditions staged.data index then 1 else 0 := by
      split
      · rename_i hholds
        rw [accepted, List.count_filter hholds]
        exact List.count_eq_one_of_mem hexact.branches_increasing.nodup hindex
      · rename_i hholds
        rw [List.count_eq_zero]
        intro hmem
        exact hholds (List.mem_filter.1 hmem).2
    rw [← haccepted, ← hown]
    simp only [TransformOutput.accountsOf, List.map_append, List.count_append, herrors]
    omega
  · exact (records_produceAll_sublist _).trans hsublist
  · exact ⟨_, rfl, (errors_produceAll_sublist _).trans hsublist⟩

/-- Without a branch that meets the conditions nothing is looked up. -/
theorem run_apply_of_rejected {σ : Type} [KeepsCalls σ] {o : Ontology} {calls : σ}
    (h : ∀ index ∈ (Expansion.ofLevels staged.data t.rootLevels).branches,
      Condition.anyHolds t.conditions staged.data index = false) :
    ((t.apply o staged).run.run calls).2 = calls := by
  have haccepted :
      t.accepted staged (Expansion.ofLevels staged.data t.rootLevels).branches = [] := by
    rw [accepted, List.filter_eq_nil_iff]
    intro index hindex
    simp [h index hindex]
  rw [apply]
  cases t.checkedTarget with
  | error cause => rfl
  | ok target =>
    simp only [haccepted]
    rfl

/-- The levels of a root array expand to exactly the reachable branches and errors. An
application that succeeds gives account of them, and none looks up a key if no branch meets
the conditions. -/
theorem branches_exact {σ : Type} [KeepsCalls σ] (t : Transformation) (o : Ontology)
    (staged : StagedData) (calls : σ) :
    let x := Expansion.ofLevels staged.data t.rootLevels
    x.IsExact staged.data t.rootLevels ∧
    (∀ output left, (t.apply o staged).run.run calls = (.ok output, left) →
      output.AccountsFor t staged x) ∧
    ((∀ index ∈ x.branches, Condition.anyHolds t.conditions staged.data index = false) →
      ((t.apply o staged).run.run calls).2 = calls) := by
  refine ⟨Expansion.isExact_ofLevels staged.data t.rootLevels, fun output left hrun => ?_,
    run_apply_of_rejected⟩
  obtain ⟨target, -, rfl⟩ := returns_outputFor t o staged calls output left hrun
  exact accountsFor_outputFor o.store target

namespace Sample

/-- The tables with a note in place of the first stop, so that its visits are no list. -/
def raggedTables : Json := Path.replaceElement "0" 0 (.string "closed") tables

/-- What is expanded of the ragged tables by the levels of the rule for visits. -/
def raggedExpansion : Expansion := Expansion.ofLevels raggedTables visitRule.rootLevels

/-- The rule for visits with a condition that no branch meets. -/
def shutRule : Transformation :=
  { visitRule with conditions := [.simple "0[].shut" .present .null] }

end Sample

theorem branches_exact_visitRule :
    Sample.raggedExpansion.branches = [[1, 0], [1, 1]] ∧
    Sample.raggedExpansion.errors = [⟨[0], .malformedRootArray "0[].visits" [0]⟩] ∧
    Sample.raggedExpansion.IsExact Sample.raggedTables Sample.visitRule.rootLevels ∧
    (∃ output left, Sample.applied Sample.visitRule Sample.raggedTables = (.ok output, left) ∧
      output.records.length = 2 ∧
      output.AccountsFor Sample.visitRule { dataSourceId := "d", data := Sample.raggedTables }
        Sample.raggedExpansion) ∧
    (Sample.applied Sample.shutRule Sample.raggedTables).2 = [] := by
  have hlevels : Sample.visitRule.rootLevels = ["0", "0[].visits"] := by decide +kernel
  have hexpansion : Sample.raggedExpansion =
      ⟨[[1, 0], [1, 1]], [⟨[0], .malformedRootArray "0[].visits" [0]⟩]⟩ := by
    rw [Sample.raggedExpansion, hlevels]
    decide +kernel
  obtain ⟨output, left, hrun, hlength⟩ : ∃ output left,
      Sample.applied Sample.visitRule Sample.raggedTables = (.ok output, left) ∧
        output.records.length = 2 := ⟨_, _, rfl, rfl⟩
  have hshut : ∀ index ∈ Sample.raggedExpansion.branches,
      Condition.anyHolds Sample.shutRule.conditions Sample.raggedTables index = false := by
    rw [hexpansion]
    decide +kernel
  obtain ⟨hexact, haccounts, -⟩ := branches_exact Sample.visitRule Sample.ontology
    { dataSourceId := "d", data := Sample.raggedTables } ([] : List Method)
  obtain ⟨-, -, hcalls⟩ := branches_exact Sample.shutRule Sample.ontology
    { dataSourceId := "d", data := Sample.raggedTables } ([] : List Method)
  exact ⟨by rw [hexpansion], by rw [hexpansion], hexact,
    ⟨output, left, hrun, hlength, haccounts output left hrun⟩, hcalls hshut⟩

end Transformation

end TypedGraph
