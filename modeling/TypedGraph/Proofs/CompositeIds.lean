import TypedGraph.Proofs.Preparation

/-!
# What composite identities tell apart

A composite identity is the text of a container, a data source, a path and a value, with signs
`+` between them that the parts may contain themselves. Two records of one data source with one
identity have the same value at the same path in the same container where the texts before the
values keep them apart (`AreApart`), and two rules that these do not keep apart have values
that make their records one (`compositeIds_separate`).
-/
namespace TypedGraph

/-- A separator that occurs equally often in two front parts tells where they end. -/
theorem append_cons_inj_of_count {α : Type} [DecidableEq α] {s : α} {xs ys back back' : List α}
    (h : xs ++ s :: back = ys ++ s :: back') (hcount : xs.count s = ys.count s) :
    xs = ys ∧ back = back' := by
  induction xs generalizing ys with
  | nil =>
    cases ys with
    | nil => simpa using h
    | cons y ys =>
      have hy : s = y := by
        simp only [List.nil_append, List.cons_append, List.cons.injEq] at h
        exact h.1
      simp [hy] at hcount
  | cons x xs ih =>
    cases ys with
    | nil =>
      have hx : x = s := by
        simp only [List.nil_append, List.cons_append, List.cons.injEq] at h
        exact h.1
      simp [hx] at hcount
    | cons y ys =>
      simp only [List.cons_append, List.cons.injEq] at h
      obtain ⟨rfl, h⟩ := h
      have hothers : xs.count s = ys.count s := by
        simp only [List.count_cons] at hcount
        omega
      obtain ⟨rfl, rfl⟩ := ih h hothers
      exact ⟨rfl, rfl⟩

namespace Transformation

variable {dataSourceId containerId containerId' path path' : String}

/-- The text of a composite identity before the value. -/
def identityHead (containerId dataSourceId path : String) : List Char :=
  containerId.toList ++ '+' :: (dataSourceId.toList ++ '+' :: (path.toList ++ ['+']))

theorem toList_compositeId (containerId dataSourceId path value : String) :
    (compositeId containerId dataSourceId path value).toList =
      identityHead containerId dataSourceId path ++ value.toList := by
  simp [compositeId, identityHead]

/-- Whether containers and paths are the same, or neither begins all identities of the other. -/
def AreApart (dataSourceId containerId path containerId' path' : String) : Prop :=
  containerId = containerId' ∧ path = path' ∨
    ¬ identityHead containerId dataSourceId path <+:
      identityHead containerId' dataSourceId path' ∧
    ¬ identityHead containerId' dataSourceId path' <+:
      identityHead containerId dataSourceId path

/-- Containers and paths are apart exactly if all identities tell them apart, and the values
too. -/
theorem areApart_iff :
    AreApart dataSourceId containerId path containerId' path' ↔
      ∀ value value', compositeId containerId dataSourceId path value =
          compositeId containerId' dataSourceId path' value' →
        containerId = containerId' ∧ path = path' ∧ value = value' := by
  constructor
  · intro hapart value value' h
    have htexts : identityHead containerId dataSourceId path ++ value.toList =
        identityHead containerId' dataSourceId path' ++ value'.toList := by
      rw [← toList_compositeId, ← toList_compositeId, h]
    rcases hapart with ⟨rfl, rfl⟩ | ⟨hfront, hfront'⟩
    · exact ⟨rfl, rfl, String.toList_injective (List.append_cancel_left htexts)⟩
    · have hbegin : identityHead containerId dataSourceId path <+:
          identityHead containerId' dataSourceId path' ++ value'.toList :=
        htexts ▸ List.prefix_append _ _
      rcases List.prefix_or_prefix_of_prefix hbegin (List.prefix_append _ _) with h | h
      · exact absurd h hfront
      · exact absurd h hfront'
  · intro h
    by_cases hsame : containerId = containerId' ∧ path = path'
    · exact .inl hsame
    -- What the longer head has more is a value behind the shorter one.
    refine .inr ⟨fun ⟨more, hmore⟩ => hsame ?_, fun ⟨more, hmore⟩ => hsame ?_⟩
    · have hvalues := h (String.ofList more) "" (String.toList_injective (by
        simp [toList_compositeId, hmore]))
      exact ⟨hvalues.1, hvalues.2.1⟩
    · have hvalues := h "" (String.ofList more) (String.toList_injective (by
        simp [toList_compositeId, hmore]))
      exact ⟨hvalues.1, hvalues.2.1⟩

/-- Containers with equally many signs `+`, and paths with equally many, are apart. -/
theorem areApart_of_count_eq
    (hcontainers : containerId.toList.count '+' = containerId'.toList.count '+')
    (hpaths : path.toList.count '+' = path'.toList.count '+') :
    AreApart dataSourceId containerId path containerId' path' := by
  refine areApart_iff.2 fun value value' h => ?_
  have htexts := congrArg String.toList h
  simp only [toList_compositeId, identityHead, List.append_assoc, List.cons_append,
    List.nil_append] at htexts
  obtain ⟨hcontainer, hrest⟩ := append_cons_inj_of_count htexts hcontainers
  have hback := List.cons.inj (List.append_cancel_left hrest)
  obtain ⟨hpath, hvalue⟩ := append_cons_inj_of_count hback.2 hpaths
  exact ⟨String.toList_injective hcontainer, String.toList_injective hpath,
    String.toList_injective hvalue⟩

/-! ## Records -/

variable {σ : Type} [KeepsCalls σ] {t : Transformation} {o : Ontology} {staged : StagedData}

/-- What a record of a transformation has in common with all records of its branch. -/
theorem returns_apply_recordBase :
    Access.Returns (t.apply o staged : Access σ TransformError TransformOutput) fun output =>
      ∀ r ∈ output.records, ∃ draft, r.record.base = t.recordBase staged r.index draft := by
  refine .after fun target => ?_
  dsimp only
  split
  · exact .pure (by simp)
  · refine .after fun keys => .pure fun r hr => ?_
    obtain ⟨draft, hrecord⟩ := eq_of_produce (produce_of_mem_records hr)
    refine ⟨draft, ?_⟩
    rw [hrecord]
    cases target <;> rfl

/-- A composite identity is made of the path of the rule, and of the value there. -/
theorem eq_compositeId_of_recordBase {index : List Nat} {draft : PropertyDraft} {id : String}
    (h : (t.recordBase staged index draft).compositeId = some id) :
    ∃ path value, t.uniqueKey = some path ∧
      (t.recordBase staged index draft).externalId = some value ∧
      id = compositeId t.containerId (t.effectiveDataSource staged) path value := by
  cases hpath : t.uniqueKey with
  | none => simp [recordBase, identityAt, hpath] at h
  | some path =>
    cases hidentity : identityAt staged.data index (some path) with
    | none => simp [recordBase, hpath, hidentity] at h
    | some named =>
      have hnamed : named.1 = path := by
        simp only [identityAt, Option.bind_eq_bind, Option.bind_some] at hidentity
        obtain ⟨value, -, hvalue⟩ := Option.bind_eq_some_iff.1 hidentity
        split at hvalue
        · contradiction
        · cases hvalue
          rfl
      simp only [recordBase, hpath, hidentity, Option.map_some, hnamed] at h ⊢
      exact ⟨path, named.2, rfl, rfl, (Option.some.inj h).symm⟩

variable {τ : Type} [KeepsCalls τ] {u : Transformation} {p : Ontology} {staged' : StagedData}

/-- Two records of one data source that have composite identities have the same one if they
have the same container, path and value, and where the containers and paths are apart only
then. They are apart if signs `+` occur equally often in the containers and in the paths. Where
they are not apart there are values that give two of their records one identity. -/
theorem compositeIds_separate {s s₁ : σ} {v v₁ : τ} {output output' : TransformOutput}
    (hrun : (t.apply o staged).run.run s = (.ok output, s₁))
    (hrun' : (u.apply p staged').run.run v = (.ok output', v₁))
    {r r' : BranchRecord} (hr : r ∈ output.records) (hr' : r' ∈ output'.records)
    (hsource : t.effectiveDataSource staged = u.effectiveDataSource staged') {id id' : String}
    (hid : r.record.base.compositeId = some id) (hid' : r'.record.base.compositeId = some id') :
    ∃ path path', t.uniqueKey = some path ∧ u.uniqueKey = some path' ∧
      let isApart := AreApart (t.effectiveDataSource staged) t.containerId path u.containerId path'
      (isApart → (id = id' ↔ t.containerId = u.containerId ∧ t.uniqueKey = u.uniqueKey ∧
        r.record.base.externalId = r'.record.base.externalId)) ∧
      (t.containerId.toList.count '+' = u.containerId.toList.count '+' →
        path.toList.count '+' = path'.toList.count '+' → isApart) ∧
      (¬ isApart → ∃ value value',
        compositeId t.containerId (t.effectiveDataSource staged) path value =
          compositeId u.containerId (u.effectiveDataSource staged') path' value') := by
  obtain ⟨draft, hbase⟩ := returns_apply_recordBase s output s₁ hrun r hr
  obtain ⟨draft', hbase'⟩ := returns_apply_recordBase v output' v₁ hrun' r' hr'
  rw [hbase] at hid ⊢
  rw [hbase'] at hid' ⊢
  obtain ⟨path, value, hpath, hvalue, rfl⟩ := eq_compositeId_of_recordBase hid
  obtain ⟨path', value', hpath', hvalue', rfl⟩ := eq_compositeId_of_recordBase hid'
  refine ⟨path, path', hpath, hpath', fun hapart => ?_, areApart_of_count_eq, fun hnot => ?_⟩
  · rw [hpath, hpath', hvalue, hvalue', ← hsource, Option.some_inj, Option.some_inj]
    constructor
    · exact areApart_iff.1 hapart value value'
    · rintro ⟨hcontainer, rfl, rfl⟩
      rw [hcontainer]
  · refine Classical.byContradiction fun hnone => hnot (areApart_iff.2 fun value value' h => ?_)
    exact absurd ⟨value, value', by rwa [← hsource]⟩ hnone

end Transformation

namespace Sample

/-- Every payload is a stop with the identity at a path. -/
def stopBy (path : String) : Transformation :=
  { Transformation.toNode "c" "stop" with uniqueKey := some path }

/-- A payload with values at two paths, one of which goes on with a sign `+`. -/
def codes (code number : String) : StagedData :=
  .ofPayload "d" (.object [("k", .string code), ("k+x", .string number)])

/-- The stop of a payload. -/
def stopOf (path externalId : String) : BranchRecord :=
  ⟨[], .node {
    containerId := "c", metatypeId := "stop", dataSourceId := some "d"
    externalId := some externalId, compositeId := some ("c+d+" ++ path ++ "+" ++ externalId) }⟩

end Sample

namespace Transformation

/-- Values that go on alike are told apart, signs `+` in them or not. -/
theorem compositeIds_separate_sample :
    ((Sample.stopBy "k").apply {} (Sample.codes "x+v" "v")).run.run ([] : List Method) =
        (.ok { records := [Sample.stopOf "k" "x+v"] }, []) ∧
      ((Sample.stopBy "k").apply {} (Sample.codes "x+w" "v")).run.run ([] : List Method) =
        (.ok { records := [Sample.stopOf "k" "x+w"] }, []) ∧
      ("c+d+k+x+v" = "c+d+k+x+w" ↔ "c" = "c" ∧ some "k" = some "k" ∧ some "x+v" = some "x+w") := by
  have hrun : ((Sample.stopBy "k").apply {} (Sample.codes "x+v" "v")).run.run ([] : List Method) =
      (.ok { records := [Sample.stopOf "k" "x+v"] }, []) := rfl
  have hrun' : ((Sample.stopBy "k").apply {} (Sample.codes "x+w" "v")).run.run
      ([] : List Method) = (.ok { records := [Sample.stopOf "k" "x+w"] }, []) := rfl
  have hid : (Sample.stopOf "k" "x+v").record.base.compositeId = some "c+d+k+x+v" := rfl
  have hid' : (Sample.stopOf "k" "x+w").record.base.compositeId = some "c+d+k+x+w" := rfl
  obtain ⟨path, path', hpath, hpath', hids, hcount, -⟩ :=
    compositeIds_separate hrun hrun' (.head _) (.head _) rfl hid hid'
  cases hpath
  cases hpath'
  exact ⟨hrun, hrun', hids (hcount rfl rfl)⟩

/-- The value at one path may begin as another path goes on: two rules make two records of one
payload that have one identity, but not the same path and value. -/
theorem not_eq_of_compositeId_eq :
    ¬ ∀ (t u : Transformation) (o p : Ontology) (staged staged' : StagedData)
        (s s₁ v v₁ : List Method) (output output' : TransformOutput) (r r' : BranchRecord)
        (id : String),
      (t.apply o staged).run.run s = (.ok output, s₁) →
      (u.apply p staged').run.run v = (.ok output', v₁) →
      r ∈ output.records → r' ∈ output'.records →
      t.effectiveDataSource staged = u.effectiveDataSource staged' →
      r.record.base.compositeId = some id → r'.record.base.compositeId = some id →
      t.containerId = u.containerId ∧ t.uniqueKey = u.uniqueKey ∧
        r.record.base.externalId = r'.record.base.externalId := by
  intro h
  have hsame := h (Sample.stopBy "k") (Sample.stopBy "k+x") {} {} (Sample.codes "x+v" "v")
    (Sample.codes "x+v" "v") [] [] [] [] _ _ (Sample.stopOf "k" "x+v") (Sample.stopOf "k+x" "v")
    "c+d+k+x+v" rfl rfl (.head _) (.head _) rfl rfl rfl
  exact absurd hsame.2.1 (by decide)

end Transformation

end TypedGraph
