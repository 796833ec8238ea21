import TypedGraph.CommandLine.Run

/-!
# Edits of a mapping

The transformations of a mapping are added and removed one by one, or replaced all at once. One
that is added names a mapping from then on, since it takes the id of the mapping if it names none;
one that comes with a replacement stays as it is. So all transformations of a saved mapping name a
mapping all along exactly if those of every replacement do, and one without a name is always one of
the last replacement (`TypeMapping.namesAll_iff`).
-/
namespace TypedGraph

/-- Whether the transformation tells of which mapping it is. -/
def Transformation.IsNamed (t : Transformation) : Prop := t.mappingId.isSome = true

instance (t : Transformation) : Decidable t.IsNamed := inferInstanceAs (Decidable (_ = true))

/-- A transformation names a mapping once it has taken an id for the one that it lacks. -/
theorem Transformation.isNamed_of_isSome {id : Option String} (h : id.isSome = true)
    (t : Transformation) :
    ({ t with mappingId := t.mappingId <|> id } : Transformation).IsNamed := by
  rw [Transformation.IsNamed]
  cases t.mappingId with
  | none => exact h
  | some id => rfl

namespace TypeMapping

/-- A change of the transformations of a mapping. -/
inductive Edit where
  | add (t : Transformation)
  | remove (id : String)
  | replace (ts : List Transformation)

/-- The mapping after an edit. -/
def edited (m : TypeMapping) : Edit → TypeMapping
  | .add t => m.addTransformation t
  | .remove id => (m.removeTransformation id).2
  | .replace ts => (m.replaceTransformations ts).2

/-- The mapping after edits, one after the other. -/
def afterEdits (m : TypeMapping) (edits : List Edit) : TypeMapping := edits.foldl edited m

/-- Whether all transformations of a mapping tell of which mapping they are. -/
def NamesAll (m : TypeMapping) : Prop := ∀ t ∈ m.transformations, t.IsNamed

/-- The transformations that do not tell of which mapping they are. -/
def unnamed (m : TypeMapping) : List Transformation := m.transformations.filter fun t => ¬ t.IsNamed

/-- Whether an edit is no replacement, or brings only transformations that name a mapping. -/
def Edit.BringsNamed (e : Edit) : Prop := ∀ ts, e = .replace ts → ∀ t ∈ ts, t.IsNamed

/-- The transformations of the last replacement, which those of `e` succeed if it is one. -/
def Edit.succeed (last : List Transformation) (e : Edit) : List Transformation :=
  match e with
  | .replace ts => ts
  | .add _ | .remove _ => last

/-- The transformations of the last replacement, none if there is none. -/
def lastReplacement (edits : List Edit) : List Transformation := edits.foldl Edit.succeed []

variable {m : TypeMapping} {e : Edit} {edits : List Edit}

/-! ## One edit -/

theorem transformations_removeTransformation (m : TypeMapping) (id : String) :
    (m.removeTransformation id).2.transformations =
      m.transformations.eraseP fun t => t.id == some id := by
  unfold removeTransformation
  split
  · rfl
  · next hnone => rw [List.eraseP_of_forall_not (by simpa using hnone)]

theorem id_edited (m : TypeMapping) (e : Edit) : (m.edited e).id = m.id := by
  cases e with
  | add t => rfl
  | remove id =>
    simp only [edited, removeTransformation]
    split <;> rfl
  | replace ts => rfl

theorem namesAll_iff_unnamed : m.NamesAll ↔ m.unnamed = [] := by
  simp [NamesAll, unnamed, List.filter_eq_nil_iff]

/-- What is added takes the name of the mapping. -/
theorem unnamed_add (hid : m.id.isSome = true) (t : Transformation) :
    (m.edited (.add t)).unnamed = m.unnamed := by
  have hnamed := Transformation.isNamed_of_isSome hid t
  simpa [unnamed, edited, addTransformation, List.filter_append] using hnamed

theorem unnamed_remove_sublist (m : TypeMapping) (id : String) :
    (m.edited (.remove id)).unnamed.Sublist m.unnamed := by
  rw [unnamed, edited, transformations_removeTransformation]
  exact (List.eraseP_sublist).filter _

theorem unnamed_replace (m : TypeMapping) (ts : List Transformation) :
    (m.edited (.replace ts)).unnamed = ts.filter fun t => ¬ t.IsNamed := rfl

/-- An edit of a saved mapping keeps all transformations named, unless it is a replacement with
one that is not. -/
theorem namesAll_edited_iff (hid : m.id.isSome = true) (h : m.NamesAll) :
    (m.edited e).NamesAll ↔ e.BringsNamed := by
  cases e with
  | add t =>
    rw [namesAll_iff_unnamed, unnamed_add hid, ← namesAll_iff_unnamed]
    exact iff_of_true h nofun
  | remove id =>
    rw [namesAll_iff_unnamed] at h ⊢
    have hsublist := unnamed_remove_sublist m id
    rw [h, List.sublist_nil] at hsublist
    exact iff_of_true hsublist nofun
  | replace ts =>
    refine ⟨?_, fun hbrings => hbrings ts rfl⟩
    rintro hnamed ts' ⟨⟩
    exact hnamed

/-! ## A run of edits -/

theorem unnamed_edited_sublist {last : List Transformation} (hid : m.id.isSome = true)
    (h : m.unnamed.Sublist last) : (m.edited e).unnamed.Sublist (e.succeed last) := by
  cases e with
  | add t =>
    rw [unnamed_add hid]
    exact h
  | remove id => exact (unnamed_remove_sublist m id).trans h
  | replace ts =>
    rw [unnamed_replace]
    exact List.filter_sublist

theorem unnamed_afterEdits_sublist {last : List Transformation} (hid : m.id.isSome = true)
    (h : m.unnamed.Sublist last) :
    (m.afterEdits edits).unnamed.Sublist (edits.foldl Edit.succeed last) := by
  induction edits generalizing m last with
  | nil => exact h
  | cons e edits ih =>
    have hid' : (m.edited e).id.isSome = true := by rw [id_edited, hid]
    exact ih hid' (unnamed_edited_sublist hid h)

/-- The transformations of a saved mapping are named all along exactly if every replacement brings
named ones. -/
theorem namesAll_prefixes_iff (hid : m.id.isSome = true) (h : m.NamesAll) :
    (∀ front, front <+: edits → (m.afterEdits front).NamesAll) ↔ ∀ e ∈ edits, e.BringsNamed := by
  induction edits generalizing m with
  | nil =>
    refine iff_of_true (fun front hfront => ?_) (List.forall_mem_nil _)
    rw [List.prefix_nil.1 hfront]
    exact h
  | cons e edits ih =>
    have hid' : (m.edited e).id.isSome = true := by rw [id_edited, hid]
    rw [List.forall_mem_cons, ← namesAll_edited_iff hid h]
    constructor
    · intro hall
      have hone : (m.edited e).NamesAll := hall [e] (by simp)
      refine ⟨hone, (ih hid' hone).1 fun front hfront => ?_⟩
      exact hall (e :: front) (List.cons_prefix_cons.2 ⟨rfl, hfront⟩)
    · rintro ⟨hone, hbrings⟩ front hfront
      cases front with
      | nil => exact h
      | cons e' front =>
        obtain ⟨rfl, hrest⟩ := List.cons_prefix_cons.1 hfront
        exact (ih hid' hone).2 hbrings front hrest

/-- The transformations of a saved mapping name a mapping all along exactly if those of every
replacement do. At any time those without a name, live ones or not, are among the transformations of
the last replacement. -/
theorem namesAll_iff (hid : m.id.isSome = true) (h : m.NamesAll) (edits : List Edit) :
    ((∀ front, front <+: edits → (m.afterEdits front).NamesAll) ↔
        ∀ e ∈ edits, e.BringsNamed) ∧
      (m.afterEdits edits).unnamed.Sublist (lastReplacement edits) ∧
      ∀ t ∈ (m.afterEdits edits).liveTransformations, t.IsNamed ∨ t ∈ lastReplacement edits := by
  have hsublist : (m.afterEdits edits).unnamed.Sublist (lastReplacement edits) := by
    rw [namesAll_iff_unnamed] at h
    exact unnamed_afterEdits_sublist hid (h ▸ List.nil_sublist [])
  refine ⟨namesAll_prefixes_iff hid h, hsublist, fun t ht => ?_⟩
  by_cases hnamed : t.IsNamed
  · exact .inl hnamed
  · refine .inr (hsublist.subset (List.mem_filter.2 ⟨(List.mem_filter.1 ht).1, ?_⟩))
    exact decide_eq_true hnamed

/-- A rule for stops, which does not tell of which mapping it is. -/
def stopRule : Transformation := { id := some "a", containerId := "c", metatypeId := some "stop" }

/-- A saved mapping without transformations. -/
def stopMapping : TypeMapping := { id := some "stops", containerId := "c", dataSourceId := "d" }

theorem namesAll_iff_stopMapping :
    stopMapping.id.isSome = true ∧ stopMapping.NamesAll ∧
      (∀ front, front <+: [.add stopRule, .replace [{ stopRule with mappingId := some "stops" }],
          .remove "a", .add stopRule] → (stopMapping.afterEdits front).NamesAll) ∧
      (stopMapping.afterEdits [.replace [stopRule], .add stopRule]).unnamed.Sublist [stopRule] := by
  have hid : stopMapping.id.isSome = true := rfl
  have hnamed : stopMapping.NamesAll := by
    rintro t ⟨⟩
  refine ⟨hid, hnamed, (namesAll_iff hid hnamed _).1.2 ?_, (namesAll_iff hid hnamed _).2.1⟩
  rintro e he ts rfl t ht
  obtain rfl : ts = [{ stopRule with mappingId := some "stops" }] := by simpa using he
  rw [List.mem_singleton.1 ht]
  decide

/-- A transformation that comes with a replacement may be without a name for good. -/
theorem not_namesAll :
    ¬ ∀ (m : TypeMapping) (edits : List Edit), m.id.isSome = true → m.NamesAll →
      (m.afterEdits edits).NamesAll := by
  intro h
  have hnamed : stopMapping.NamesAll := by
    rintro t ⟨⟩
  have hafter := h stopMapping [.replace [stopRule]] rfl hnamed
  exact absurd (hafter stopRule (List.mem_singleton.2 rfl)) (by decide)

end TypeMapping

/-! ## Mapping files -/

namespace CommandLine

theorem isNamed_adoptTransformation {m : TypeMapping} (hid : m.id.isSome = true)
    (t : Transformation) : (adoptTransformation m t).IsNamed :=
  Transformation.isNamed_of_isSome hid t

/-- The transformations of a saved mapping that is read from a file name a mapping. -/
theorem namesAll_of_readMapping {files : Files} {path : String} {m : TypeMapping}
    (h : readMapping files path = .ok m) (hid : m.id.isSome = true) : m.NamesAll := by
  unfold readMapping at h
  cases hread : readFile files TypeMapping.codec "mapping" path with
  | error f =>
    rw [hread] at h
    cases h
  | ok file =>
    rw [hread] at h
    cases h
    intro t ht
    obtain ⟨t', -, rfl⟩ := List.mem_map.1 ht
    exact isNamed_adoptTransformation hid t'

end CommandLine

end TypedGraph
