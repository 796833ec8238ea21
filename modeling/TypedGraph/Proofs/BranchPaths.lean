import TypedGraph.Proofs.Production

/-!
# What a branch is produced from

A transformation reads a payload through paths: those of its conditions, its keys and the ends
of its edges. Two payloads in which these paths reach the same values with an index vector
produce the same for this branch (`produce_congr`), and the conditions hold of it in both or in
none (`anyHolds_congr`).
-/
namespace TypedGraph

/-- Whether some paths reach the same values in two payloads. -/
def Path.ReadAlike (paths : List String) (payload payload' : Json) (index : List Nat) : Prop :=
  ∀ path ∈ paths, resolve payload path index = resolve payload' path index

theorem Path.readAlike_append {front back : List String} {payload payload' : Json}
    {index : List Nat} :
    ReadAlike (front ++ back) payload payload' index ↔
      ReadAlike front payload payload' index ∧ ReadAlike back payload payload' index :=
  List.forall_mem_append

/-! ## Conditions -/

namespace Condition

mutual

/-- The keys of a condition and of its parts. -/
def keysRead : Condition → List String
  | ⟨_, key, _, _, parts⟩ => key :: keysReadByParts parts

def keysReadByParts : List Condition → List String
  | [] => []
  | part :: rest => keysRead part ++ keysReadByParts rest

end

variable {payload payload' : Json} {index : List Nat}

mutual

theorem evaluatePart_congr (c : Condition)
    (h : Path.ReadAlike c.keysRead payload payload' index) :
    evaluatePart payload index c = evaluatePart payload' index c := by
  obtain ⟨connective, key, operator, value, parts⟩ := c
  rw [keysRead, Path.ReadAlike, List.forall_mem_cons] at h
  simp only [evaluatePart, h.1]
  exact joinParts_congr parts _ h.2

theorem joinParts_congr (parts : List Condition) (result : Bool)
    (h : Path.ReadAlike (keysReadByParts parts) payload payload' index) :
    joinParts payload index parts result = joinParts payload' index parts result := by
  cases parts with
  | nil => rfl
  | cons part rest =>
    rw [keysReadByParts, Path.readAlike_append] at h
    simp only [joinParts, evaluatePart_congr part h.1]
    exact joinParts_congr rest _ h.2

end

theorem evaluate_congr {c : Condition} (h : Path.ReadAlike c.keysRead payload payload' index) :
    c.evaluate payload index = c.evaluate payload' index := by
  have hkey : Path.resolve payload c.key index = Path.resolve payload' c.key index := by
    apply h
    cases c
    simp [keysRead]
  rw [evaluate, evaluate, hkey, evaluatePart_congr c h]

theorem anyHolds_congr {conditions : List Condition}
    (h : ∀ c ∈ conditions, Path.ReadAlike c.keysRead payload payload' index) :
    anyHolds conditions payload index = anyHolds conditions payload' index := by
  have hany : (conditions.any fun c => c.evaluate payload index) =
      conditions.any fun c => c.evaluate payload' index := by
    rw [Bool.eq_iff_iff, List.any_eq_true, List.any_eq_true]
    constructor
    · rintro ⟨c, hc, hholds⟩
      exact ⟨c, hc, by rwa [evaluate_congr (h c hc)] at hholds⟩
    · rintro ⟨c, hc, hholds⟩
      exact ⟨c, hc, by rwa [evaluate_congr (h c hc)]⟩
  rw [anyHolds, anyHolds, hany]

end Condition

/-! ## Records -/

namespace Transformation

variable {t : Transformation} {staged : StagedData} {payload payload' : Json} {index : List Nat}

/-- The paths that a transformation reads in a branch. -/
def branchPaths (t : Transformation) : List String :=
  t.conditions.flatMap Condition.keysRead ++ t.keys.filterMap KeyMapping.path ++
    t.uniqueKey.toList ++ t.origin.path.toList ++ t.destination.path.toList ++
    (t.origin.parameters ++ t.destination.parameters).filterMap ConnectionParameter.key

theorem identityAt_congr {path : Option String}
    (h : Path.ReadAlike path.toList payload payload' index) :
    identityAt payload index path = identityAt payload' index path := by
  cases path with
  | none => rfl
  | some path =>
    have hpath := h path (by simp)
    simp [identityAt, hpath]

theorem fillParameters_congr {parameters : List ConnectionParameter}
    (h : Path.ReadAlike (parameters.filterMap ConnectionParameter.key) payload payload' index) :
    fillParameters payload index parameters = fillParameters payload' index parameters := by
  apply List.map_congr_left
  intro p hp
  cases hkey : p.key with
  | none => rfl
  | some path =>
    have hpath := h path (List.mem_filterMap.2 ⟨p, hp, hkey⟩)
    simp only [hpath]

theorem draftProperties_congr {target : Target} {keys : List (String × PropertyKey)}
    {mappings : List KeyMapping} (draft : PropertyDraft)
    (h : Path.ReadAlike (mappings.filterMap KeyMapping.path) payload payload' index) :
    t.draftProperties target keys payload index mappings draft =
      t.draftProperties target keys payload' index mappings draft := by
  induction mappings generalizing draft with
  | nil => rfl
  | cons m mappings ih =>
    have hextract : extract payload index m = extract payload' index m := by
      unfold extract
      cases hpath : m.path with
      | none => rfl
      | some path => exact h path (List.mem_filterMap.2 ⟨m, List.mem_cons_self, hpath⟩)
    have hrest : Path.ReadAlike (mappings.filterMap KeyMapping.path) payload payload' index := by
      intro path hpath
      obtain ⟨m', hm', hkey⟩ := List.mem_filterMap.1 hpath
      exact h path (List.mem_filterMap.2 ⟨m', List.mem_cons_of_mem m hm', hkey⟩)
    have hdrafts := fun draft => ih draft hrest
    simp only [draftProperties, hextract, hdrafts]

/-- A branch is produced from what the paths reach. -/
theorem produce_congr {target : Target} {keys : List (String × PropertyKey)}
    (h : Path.ReadAlike t.branchPaths payload payload' index) :
    t.produce target keys { staged with data := payload } index =
      t.produce target keys { staged with data := payload' } index := by
  simp only [branchPaths, List.filterMap_append, Path.readAlike_append] at h
  obtain ⟨⟨⟨⟨⟨-, hkeys⟩, hunique⟩, horigin⟩, hdestination⟩, horigins, hdestinations⟩ := h
  simp only [produce, recordBase, edgeEnd, side, effectiveDataSource, draftProperties_congr _ hkeys,
    identityAt_congr hunique, identityAt_congr horigin, identityAt_congr hdestination,
    fillParameters_congr horigins, fillParameters_congr hdestinations]

theorem anyHolds_congr (h : Path.ReadAlike t.branchPaths payload payload' index) :
    Condition.anyHolds t.conditions payload index =
      Condition.anyHolds t.conditions payload' index := by
  apply Condition.anyHolds_congr
  intro c hc key hkey
  apply h
  simp only [branchPaths, List.mem_append, List.mem_flatMap]
  exact .inl (.inl (.inl (.inl (.inl ⟨c, hc, hkey⟩))))

end Transformation

end TypedGraph
