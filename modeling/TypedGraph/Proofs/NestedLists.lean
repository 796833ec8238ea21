import Mathlib.Data.List.Induction
import TypedGraph.Proofs.Expansions
import TypedGraph.Proofs.Spellings

/-!
# Nested lists

The markers of a root array lead into lists in lists. Levels that lead to the elements of
nested lists expand them down to the innermost elements (`Expansion.ofLevels_of_elementAt`). The
levels of a root array do so at any depth if its markers are separated, but only to the second
depth if they are glued (`spellings_agree_iff`).
-/
namespace TypedGraph

namespace Json

/-- Whether a value consists of lists in lists, `n` deep. -/
def IsNested : Nat → Json → Prop
  | 0, _ => True
  | n + 1, .array items => ∀ item ∈ items, IsNested n item
  | _ + 1, _ => False

/-- The element at the given places of lists in lists. -/
def elementAt? : Json → List Nat → Option Json
  | value, [] => some value
  | .array items, i :: index => items[i]?.bind fun item => elementAt? item index
  | _, _ :: _ => none

variable {value element : Json} {n : Nat} {index : List Nat} {i : Nat}

theorem elementAt?_append_singleton_isSome (value : Json) (index : List Nat) (i : Nat) :
    (value.elementAt? (index ++ [i])).isSome ↔
      ∃ items, value.elementAt? index = some (.array items) ∧ i < items.length := by
  induction index generalizing value with
  | nil => cases value <;> simp [elementAt?]
  | cons j index ih =>
    cases value with
    | array items => cases hj : items[j]? <;> simp [elementAt?, hj, ih]
    | _ => simp [elementAt?]

/-- An element above the innermost lists is a list. -/
theorem IsNested.exists_array (h : value.IsNested n) (hindex : index.length < n)
    (helement : value.elementAt? index = some element) : ∃ items, element = .array items := by
  induction index generalizing value n with
  | nil =>
    rw [elementAt?, Option.some.injEq] at helement
    cases n with
    | zero => cases hindex
    | succ n =>
      cases value with
      | array items => exact ⟨items, helement.symm⟩
      | _ => exact absurd h (by simp [IsNested])
  | cons j index ih =>
    cases n with
    | zero => cases hindex
    | succ n =>
      cases value with
      | array items =>
        obtain ⟨item, hitem, hinner⟩ := Option.bind_eq_some_iff.1 helement
        exact ih (h item (List.mem_of_getElem? hitem)) (by simpa using hindex) hinner
      | _ => exact absurd h (by simp [IsNested])

end Json

namespace Expansion

variable {payload value : Json} {levels : List String}

/-- Where levels lead to the elements of nested lists, an index vector is reachable if it has an
element. -/
theorem isReachable_iff_elementAt?
    (hlevels : ∀ index level, levels[index.length]? = some level →
      Path.resolve payload level index = value.elementAt? index) (index : List Nat) :
    IsReachable payload levels index ↔
      index.length ≤ levels.length ∧ (value.elementAt? index).isSome := by
  induction index using List.reverseRecOn with
  | nil => simp [isReachable_nil, Json.elementAt?]
  | append_singleton index i ih =>
    rw [isReachable_append_singleton, ih, Json.elementAt?_append_singleton_isSome,
      List.length_append, List.length_singleton]
    constructor
    · rintro ⟨-, level, items, hlevel, hitems, hi⟩
      obtain ⟨hlt, -⟩ := List.getElem?_eq_some_iff.1 hlevel
      rw [hlevels index level hlevel] at hitems
      exact ⟨hlt, items, hitems, hi⟩
    · rintro ⟨hlt, items, hitems, hi⟩
      have hlevel : levels[index.length]? = some levels[index.length] :=
        List.getElem?_eq_getElem hlt
      have hreached := (hlevels index _ hlevel).trans hitems
      exact ⟨⟨by omega, by simp [hitems]⟩, _, items, hlevel, hreached, hi⟩

/-- Levels that lead to the elements of nested lists, each with the places above it, expand
the lists down to their elements. -/
theorem ofLevels_of_elementAt (hvalue : value.IsNested levels.length)
    (hlevels : ∀ index level, levels[index.length]? = some level →
      Path.resolve payload level index = value.elementAt? index) :
    (ofLevels payload levels).errors = [] ∧
      ∀ index, index ∈ (ofLevels payload levels).branches ↔
        index.length = levels.length ∧ (value.elementAt? index).isSome := by
  have hexact := isExact_ofLevels payload levels
  have hreachable := isReachable_iff_elementAt? hlevels
  constructor
  · rw [List.eq_nil_iff_forall_not_mem]
    intro e he
    obtain ⟨hfound, level, hlevel, hunlisted, -⟩ := (hexact.mem_errors e).1 he
    obtain ⟨hlt, -⟩ := List.getElem?_eq_some_iff.1 hlevel
    obtain ⟨element, helement⟩ := Option.isSome_iff_exists.1 ((hreachable e.index).1 hfound).2
    obtain ⟨items, rfl⟩ := hvalue.exists_array hlt helement
    exact hunlisted ⟨items, (hlevels e.index level hlevel).trans helement⟩
  · intro index
    rw [hexact.mem_branches, hreachable]
    constructor
    · rintro ⟨⟨-, helement⟩, hlength⟩
      exact ⟨hlength, helement⟩
    · rintro ⟨hlength, helement⟩
      exact ⟨⟨Nat.le_of_eq hlength, helement⟩, hlength⟩

end Expansion

/-! ## Levels of a root array -/

namespace Transformation

theorem splitMarkers_append_marker {front : List Char} (h : '[' ∉ front) (rest : List Char) :
    splitMarkers (front ++ '[' :: ']' :: rest) = front :: splitMarkers rest := by
  induction front with
  | nil => rfl
  | cons c front ih =>
    rw [List.mem_cons, not_or] at h
    rw [List.cons_append, splitMarkers, ih h.2]
    intro tail hc
    exact absurd hc.symm h.1

theorem splitMarkers_flatMap {parts : List (List Char)} (h : ∀ part ∈ parts, '[' ∉ part) :
    splitMarkers (parts.flatMap (· ++ ['[', ']'])) = parts ++ [[]] := by
  induction parts with
  | nil => rfl
  | cons part parts ih =>
    rw [List.forall_mem_cons] at h
    rw [List.flatMap_cons, List.append_assoc, List.cons_append, List.singleton_append,
      splitMarkers_append_marker h.1, ih h.2, List.cons_append]

/-- The levels of a root array that ends with a marker are its parts between the markers, each
joined to those before it. -/
theorem map_hops_rootLevels {t : Transformation} {first : List Char} {parts : List (List Char)}
    (hroot : t.rootArray = some (String.ofList ((first :: parts).flatMap (· ++ ['[', ']']))))
    (h : ∀ part ∈ first :: parts, '[' ∉ part) :
    t.rootLevels.map Path.hops = (joinedParts (first :: parts)).map Path.hopsOfChars := by
  have hblank : (Text.trim ((first :: parts).flatMap (· ++ ['[', ']']))).isEmpty = false := by
    rw [List.isEmpty_eq_false_iff]
    exact List.ne_nil_of_mem (Text.mem_trim (c := '[') (by simp) (by decide))
  have hparts : dropBlankEnd (first :: parts ++ [[]]) = first :: parts := by
    simp [dropBlankEnd]
  have htrimmed : Path.hops ∘ String.ofList ∘ trimDots = Path.hopsOfChars := by
    funext cs
    simp [Path.hops]
  simp only [rootLevels, hroot, String.toList_ofList, hblank, splitMarkers_flatMap h, hparts,
    Bool.false_eq_true, if_false, List.map_map, htrimmed]

theorem intercalate_cons (separator first : List Char) (parts : List (List Char)) :
    separator.intercalate (first :: parts) =
      first ++ parts.flatMap fun part => separator ++ part := by
  induction parts generalizing first with
  | nil => simp
  | cons part parts ih =>
    rw [List.intercalate_cons_cons, ih, List.flatMap_cons]
    simp only [List.append_assoc]

theorem joinedParts_replicate (first part : List Char) (n : Nat) :
    joinedParts (first :: List.replicate n part) = (List.range (n + 1)).map fun d =>
      first ++ (List.replicate d part).flatMap fun part => ['[', ']'] ++ part := by
  rw [joinedParts, List.length_cons, List.length_replicate]
  apply List.map_congr_left
  intro d hd
  have hle : d ≤ n := Nat.le_of_lt_succ (List.mem_range.1 hd)
  rw [List.take_succ_cons, List.take_replicate, Nat.min_eq_left hle, intercalate_cons]

variable {t : Transformation} {key : String} {n : Nat}

/-- Every level of a root array with glued markers is the key with the markers above it. -/
theorem rootLevels_glued (hkey : Path.IsPlainKey key)
    (hroot : t.rootArray = some (Path.glued key (List.replicate (n + 1) .current))) :
    t.rootLevels.map Path.hops = (List.range (n + 1)).map fun d =>
      Path.hops (Path.glued key (List.replicate d .current)) := by
  have htext : Path.glued key (List.replicate (n + 1) .current) =
      String.ofList ((key.toList :: List.replicate n []).flatMap (· ++ ['[', ']'])) := by
    simp [Path.glued, List.replicate_succ, List.flatMap_replicate]
  rw [htext] at hroot
  rw [map_hops_rootLevels hroot, joinedParts_replicate, List.map_map]
  · apply List.map_congr_left
    intro d _
    simp [Path.hops, Path.glued, List.flatMap_replicate]
  · intro part hpart
    rcases List.mem_cons.1 hpart with rfl | hpart
    · exact hkey.opening
    · rw [List.eq_of_mem_replicate hpart]
      exact List.not_mem_nil

theorem exists_level_glued (hkey : Path.IsPlainKey key)
    (hroot : t.rootArray = some (Path.glued key (List.replicate (n + 1) .current))) {d : Nat}
    (hd : d ≤ n) : ∃ level, t.rootLevels[d]? = some level ∧
      Path.hops level = Path.hops (Path.glued key (List.replicate d .current)) := by
  have hget := congrArg (·[d]?) (rootLevels_glued hkey hroot)
  simp only [List.getElem?_map] at hget
  rw [List.getElem?_range (by omega), Option.map_some, Option.map_eq_some_iff] at hget
  exact hget

/-- Markers between dots take one current element each. -/
theorem hopsOfChars_markers (d : Nat) (cs : List Char) :
    Path.hopsOfChars (cs ++ '.' :: (List.replicate d ['.']).flatMap fun part =>
      ['[', ']'] ++ part) = Path.hopsOfChars cs ++ List.replicate d .each := by
  induction d generalizing cs with
  | zero => exact (Path.hopsOfChars_append_dots (by simp) cs).trans (List.append_nil _).symm
  | succ d ih =>
    have hmarker : Path.hopsOfChars ['[', ']'] = [.each] := by decide
    have hfront : Path.hopsOfChars (cs ++ '.' :: ['[', ']']) =
        Path.hopsOfChars cs ++ [.each] := by
      rw [Path.hopsOfChars_append_dot, hmarker]
    have hnext := ih (cs ++ '.' :: ['[', ']'])
    rw [hfront] at hnext
    simpa [List.replicate_succ] using hnext

/-- Every level of a root array with separated markers takes as many current elements as there
are levels above it. -/
theorem rootLevels_separated (hkey : Path.IsPlainKey key)
    (hroot : t.rootArray = some (Path.separated key (List.replicate (n + 1) .current))) :
    t.rootLevels.map Path.hops = (List.range (n + 1)).map fun d =>
      .key key :: List.replicate d .each := by
  have htext : Path.separated key (List.replicate (n + 1) .current) =
      String.ofList (((key.toList ++ ['.']) :: List.replicate n ['.']).flatMap
        (· ++ ['[', ']'])) := by
    simp [Path.separated, List.replicate_succ, List.flatMap_replicate]
  rw [htext] at hroot
  rw [map_hops_rootLevels hroot, joinedParts_replicate, List.map_map]
  · apply List.map_congr_left
    intro d _
    have hlevel := hopsOfChars_markers d key.toList
    rw [← Path.hops, hkey.hops_eq] at hlevel
    simpa using hlevel
  · intro part hpart
    rcases List.mem_cons.1 hpart with rfl | hpart
    · simp [hkey.opening]
    · rw [List.eq_of_mem_replicate hpart]
      decide

end Transformation

/-- Whether a root array expands all lists that are nested `n` deep at a key down to their
elements. -/
def ExpandsNested (root key : String) (n : Nat) : Prop :=
  ∀ (t : Transformation) (payload value : Json), t.rootArray = some root →
    Path.resolve payload key [] = some value → value.IsNested n →
    let x := Expansion.ofLevels payload t.rootLevels
    x.errors = [] ∧ ∀ index, index ∈ x.branches ↔
      index.length = n ∧ (value.elementAt? index).isSome

namespace Path

variable {key level : String} {payload value : Json} {index : List Nat}

theorem follow_replicate_each (value : Json) (index : List Nat) :
    follow (List.replicate index.length .each) value index =
      (value.elementAt? index).map (·, []) := by
  induction index generalizing value with
  | nil => rfl
  | cons i index ih =>
    rw [List.length_cons, List.replicate_succ, follow]
    cases value with
    | array items =>
      cases hi : items[i]? <;> simp [step, placeOf?, current?, Json.elementAt?, hi, ih]
    | _ => rfl

/-- Markers behind the key of nested lists take their elements. -/
theorem resolve_eq_elementAt? (hkey : IsPlainKey key) (hvalue : resolve payload key [] = some value)
    (hlevel : hops level = .key key :: List.replicate index.length .each) :
    resolve payload level index = value.elementAt? index := by
  obtain ⟨n, hfinds⟩ := resolve_eq_some_iff.1 hvalue
  have hn : n = 0 := Nat.le_zero.1 (Leads.le_length hfinds)
  rw [Finds, hkey.hops_eq, hn] at hfinds
  have hleads : Leads [.key key] payload index value 0 := Leads.congr hfinds rfl
  have hfollow := follow_of_leads hleads
  rw [resolve, hlevel, ← List.singleton_append, follow_append, hfollow]
  simp [follow_replicate_each, Option.map_map, Function.comp_def]

end Path

theorem expandsNested_of_hops {root key : String} {n : Nat} (hkey : Path.IsPlainKey key)
    (h : ∀ t : Transformation, t.rootArray = some root →
      t.rootLevels.map Path.hops = (List.range n).map fun d =>
        .key key :: List.replicate d .each) : ExpandsNested root key n := by
  intro t payload value hroot hvalue hnested
  have hlevels := h t hroot
  have hlength : t.rootLevels.length = n := by simpa using congrArg List.length hlevels
  rw [← hlength] at hnested ⊢
  apply Expansion.ofLevels_of_elementAt hnested
  intro index level hlevel
  apply Path.resolve_eq_elementAt? hkey hvalue
  have hget := congrArg (·[index.length]?) hlevels
  simp only [List.getElem?_map, hlevel, Option.map_some] at hget
  obtain ⟨hlt, -⟩ := List.getElem?_eq_some_iff.1 hlevel
  rw [List.getElem?_range (by omega), Option.map_some, Option.some.injEq] at hget
  exact hget

/-! ## Spellings of a root array -/

theorem isNested_opened (n : Nat) :
    (Path.opened (List.replicate n .current)).IsNested n := by
  induction n with
  | zero => trivial
  | succ n ih =>
    intro item hitem
    rwa [List.mem_singleton.1 hitem]

/-- One marker behind the key takes the elements of the outermost list also if it is glued. -/
theorem hops_glued_replicate {key : String} (hkey : Path.IsPlainKey key) {d : Nat} (hd : d ≤ 1) :
    Path.hops (Path.glued key (List.replicate d .current)) =
      .key key :: List.replicate d .each := by
  obtain rfl | rfl : d = 0 ∨ d = 1 := by omega
  · rw [List.replicate_zero, Path.glued_nil, hkey.hops_eq]
    rfl
  · have hone := Path.hops_glued_append hkey [] .current
    rwa [Path.glued_nil] at hone

/-- The third level of a root array with glued markers looks up another key than that of the
lists. -/
theorem not_expandsNested_glued {key : String} (hkey : Path.IsPlainKey key) (n : Nat) :
    ¬ ExpandsNested (Path.glued key (List.replicate (n + 3) .current)) key (n + 3) := by
  intro h
  let t : Transformation :=
    { rootArray := some (Path.glued key (List.replicate (n + 3) .current)) }
  let value : Json := Path.opened (List.replicate (n + 3) .current)
  let payload : Json := .object [(key, value)]
  have hvalue : Path.resolve payload key [] = some value := by
    simp [payload, Path.resolve, hkey.hops_eq, Path.follow, Path.step, Table.get?_cons]
  obtain ⟨first, hfirst, hfirstHops⟩ :=
    Transformation.exists_level_glued (t := t) hkey rfl (Nat.zero_le (n + 2))
  obtain ⟨second, hsecond, hsecondHops⟩ :=
    Transformation.exists_level_glued (t := t) hkey rfl (Nat.le_add_left 1 (n + 1))
  obtain ⟨third, hthird, hthirdHops⟩ :=
    Transformation.exists_level_glued (t := t) hkey rfl (Nat.le_add_left 2 n)
  have houter : Path.resolve payload first [] = value.elementAt? [] :=
    Path.resolve_eq_elementAt? hkey hvalue
      (hfirstHops.trans (hops_glued_replicate hkey (Nat.zero_le 1)))
  have hinner : Path.resolve payload second [0] = value.elementAt? [0] :=
    Path.resolve_eq_elementAt? hkey hvalue
      (hsecondHops.trans (hops_glued_replicate hkey (Nat.le_refl 1)))
  have hpath : Path.hops third = Path.hops (Path.glued key ([.current] ++ [.current])) :=
    hthirdHops
  have hnone : Path.resolve payload third [0, 0] = none :=
    Path.resolve_glued_eq_none hkey hpath (List.cons_ne_nil _ _) value [0, 0]
  have hreachable : Expansion.IsReachable payload t.rootLevels ([0] ++ [0]) := by
    have hone : Expansion.IsReachable payload t.rootLevels ([] ++ [0]) :=
      Expansion.isReachable_append_singleton.2
        ⟨Expansion.isReachable_nil _ _, first, _, hfirst, houter, Nat.zero_lt_one⟩
    exact Expansion.isReachable_append_singleton.2
      ⟨hone, second, _, hsecond, hinner, Nat.zero_lt_one⟩
  have hunlisted : ¬ Expansion.IsListed payload third [0, 0] := by
    rintro ⟨items, hitems⟩
    rw [hnone] at hitems
    cases hitems
  have herror := ((Expansion.isExact_ofLevels payload t.rootLevels).mem_errors
    ⟨[0, 0], .malformedRootArray third [0, 0]⟩).2
      ⟨hreachable, third, hthird, hunlisted, rfl⟩
  rw [(h t payload value rfl hvalue (isNested_opened (n + 3))).1] at herror
  cases herror

theorem expandsNested_glued_iff {key : String} (hkey : Path.IsPlainKey key) (n : Nat) :
    ExpandsNested (Path.glued key (List.replicate (n + 1) .current)) key (n + 1) ↔ n + 1 ≤ 2 := by
  constructor
  · intro h
    by_contra hn
    obtain ⟨m, rfl⟩ : ∃ m, n = m + 2 := ⟨n - 2, by omega⟩
    exact not_expandsNested_glued hkey m h
  · intro hn
    apply expandsNested_of_hops hkey
    intro t hroot
    rw [Transformation.rootLevels_glued hkey hroot]
    apply List.map_congr_left
    intro d hd
    have hlt := List.mem_range.1 hd
    exact hops_glued_replicate hkey (by omega)

/-- The two spellings of a path agree for at most one hop. A root array with separated markers
expands nested lists to every depth, one with glued markers to the second depth and no
further. -/
theorem spellings_agree_iff {key : String} (hkey : Path.IsPlainKey key) :
    (∀ brackets, Path.SpelledAlike key brackets ↔ brackets.length ≤ 1) ∧
    (∀ n, ExpandsNested (Path.separated key (List.replicate (n + 1) .current)) key (n + 1)) ∧
    (∀ n, ExpandsNested (Path.glued key (List.replicate (n + 1) .current)) key (n + 1) ↔
      n + 1 ≤ 2) :=
  ⟨Path.spelledAlike_iff hkey,
    fun _ => expandsNested_of_hops hkey fun _ => Transformation.rootLevels_separated hkey,
    expandsNested_glued_iff hkey⟩

theorem spellings_agree_grid :
    Path.IsPlainKey "grid" ∧
    Path.SpelledAlike "grid" [.element ['2'] 2 rfl] ∧
    ¬ Path.SpelledAlike "grid" [.element ['2'] 2 rfl, .current] ∧
    ExpandsNested "grid.[].[].[]" "grid" 3 ∧
    ExpandsNested "grid[][]" "grid" 2 ∧ ¬ ExpandsNested "grid[][][]" "grid" 3 := by
  have hkey : Path.IsPlainKey "grid" := ⟨by decide, by decide, by decide, by decide⟩
  obtain ⟨hspelled, hseparated, hglued⟩ := spellings_agree_iff hkey
  exact ⟨hkey, (hspelled _).2 (by decide), fun h => absurd ((hspelled _).1 h) (by decide),
    hseparated 2, (hglued 1).2 (by decide), fun h => absurd ((hglued 2).1 h) (by decide)⟩

end TypedGraph
