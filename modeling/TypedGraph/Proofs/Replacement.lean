import TypedGraph.Proofs.Markers

/-!
# Replacing an element of a list

An element of the list at a path is replaced by changing the value at the path. Paths that
go on from the list to another element reach what they reached before
(`resolve_replaceElement_of_enters`), and so do paths that pass by the list
(`resolve_replaceElement_of_passesBy`).
-/
namespace TypedGraph

namespace Table

variable {α : Type}

/-- Changes the value of a key, at its first row. -/
def modify (t : Table α) (key : String) (f : α → α) : Table α :=
  match t with
  | [] => []
  | (k, v) :: rest => if key = k then (k, f v) :: rest else (k, v) :: modify rest key f

theorem get?_modify (t : Table α) (key other : String) (f : α → α) :
    (t.modify key f).get? other = if other = key then (t.get? key).map f else t.get? other := by
  induction t with
  | nil => simp [modify]
  | cons row t ih =>
    obtain ⟨k, v⟩ := row
    by_cases hk : key = k
    · rw [← hk]
      by_cases hother : other = key <;> simp [modify, get?_cons, hother]
    · by_cases hother : other = key
      · simpa [modify, get?_cons, hk, hother] using ih
      · simp [modify, get?_cons, hk, hother, ih]

theorem modify_eq_self {t : Table α} {key : String} {f : α → α}
    (h : ∀ v, t.get? key = some v → f v = v) : t.modify key f = t := by
  induction t with
  | nil => rfl
  | cons row t ih =>
    obtain ⟨k, v⟩ := row
    by_cases hk : key = k
    · have hv := h v (by simp [get?_cons, hk])
      simp [modify, hk, hv]
    · have hrest := ih fun v hv => h v (by simpa [get?_cons, hk] using hv)
      simp [modify, hk, hrest]

end Table

namespace Path

variable {hop : Hop} {front back : List Hop} {f : Json → Json} {value : Json}

/-- Changes the value that hops reach without an index vector. -/
def change (f : Json → Json) : List Hop → Json → Json
  | [], value => f value
  | hop :: hops, .array items =>
    match placeOf? [] hop with
    | some (i, _) => .array (items.modify i (change f hops))
    | none => .array items
  | .key name :: hops, .object entries => .object (Table.modify entries name (change f hops))
  | _ :: _, value => value

theorem change_append (f : Json → Json) (front back : List Hop) (value : Json) :
    change f (front ++ back) value = change (change f back) front value := by
  have hfun : ∀ front : List Hop, change f (front ++ back) = change (change f back) front := by
    intro front
    induction front with
    | nil => rfl
    | cons hop front ih =>
      funext value
      cases value with
      | array items => simp only [List.cons_append, change, ih]
      | object entries => cases hop <;> simp only [List.cons_append, change, ih]
      | _ => cases hop <;> rfl
  rw [hfun front]

/-- A hop that finds its place without an index vector takes the same place with any. -/
theorem placeOf?_of_nil {i : Nat} {left : List Nat} (h : placeOf? [] hop = some (i, left))
    (index : List Nat) : placeOf? index hop = some (i, index) := by
  have hleft : left = [] := by
    cases hop with
    | element j => simp_all [placeOf?]
    | each => simp [placeOf?, current?] at h
    | key name =>
      cases hj : place? name.toList <;> simp_all [placeOf?, current?]
  have happend := placeOf?_append h index
  rwa [hleft] at happend

/-- Either hops lead nowhere without an index vector, and nothing is changed, or they lead to
one value whatever the index vector, and it is changed there. -/
theorem change_cases (f : Json → Json) (hops : List Hop) (value : Json) :
    change f hops value = value ∨
      ∃ reached, ∀ index, follow hops value index = some (reached, index) ∧
        follow hops (change f hops value) index = some (f reached, index) := by
  induction hops generalizing value with
  | nil => exact .inr ⟨value, fun index => ⟨rfl, rfl⟩⟩
  | cons hop hops ih =>
    cases value with
    | array items =>
      cases hplace : placeOf? [] hop with
      | none => exact .inl (by simp [change, hplace])
      | some found =>
        obtain ⟨i, left⟩ := found
        have hany := placeOf?_of_nil hplace
        cases hitem : items[i]? with
        | none =>
          left
          have hlength := List.getElem?_eq_none_iff.1 hitem
          simp [change, hplace, List.modify_eq_self hlength]
        | some item =>
          rcases ih item with hsame | ⟨reached, hreached⟩
          · left
            have hself : items.modify i (change f hops) = items := by
              apply List.ext_getElem?
              intro j
              rw [List.getElem?_modify]
              by_cases hj : i = j
              · rw [← hj, hitem]
                simp [hsame]
              · simp [hj]
            simp only [change, hplace, hself]
          · right
            refine ⟨reached, fun index => ?_⟩
            simp [follow, step, change, hplace, hany, hitem, hreached]
    | object entries =>
      cases hop with
      | key name =>
        cases hentry : Table.get? entries name with
        | none =>
          left
          have hself : Table.modify entries name (change f hops) = entries := by
            apply Table.modify_eq_self
            simp [hentry]
          simp only [change, hself]
        | some entry =>
          rcases ih entry with hsame | ⟨reached, hreached⟩
          · left
            have hself : Table.modify entries name (change f hops) = entries := by
              apply Table.modify_eq_self
              intro v hv
              rw [hentry] at hv
              cases hv
              exact hsame
            simp only [change, hself]
          · right
            refine ⟨reached, fun index => ?_⟩
            simp [follow, step, change, Table.get?_modify, hentry, hreached]
      | _ => exact .inl rfl
    | _ => exact .inl (by cases hop <;> rfl)

/-! ## Elements of a list -/

/-- Replaces an element of a list. -/
def setElement (i : Nat) (element : Json) : Json → Json
  | .array items => .array (items.set i element)
  | value => value

/-- Replaces an element of the list that a path reaches without an index vector. -/
def replaceElement (root : String) (i : Nat) (element payload : Json) : Json :=
  change (setElement i element) (hops root) payload

section Reading

variable {root path : String} {payload element : Json} {i j : Nat}

/-- A hop to the current element does not reach the one that is replaced, if it is another. -/
theorem step_setElement (hhop : hop.takesCurrent) (hj : j ≠ i) (value : Json) (index : List Nat) :
    step hop (setElement i element value) (j :: index) = step hop value (j :: index) := by
  cases value with
  | array items =>
    have hother : (items.set i element)[j]? = items[j]? := List.getElem?_set_ne (Ne.symm hj)
    simp [setElement, step, placeOf?_of_takesCurrent hhop, current?, hother]
  | _ => rfl

/-- Paths to another element of the list reach what they reached before. -/
theorem resolve_replaceElement_of_enters (h : Enters root path) (hj : j ≠ i) (index : List Nat) :
    resolve (replaceElement root i element payload) path (j :: index) =
      resolve payload path (j :: index) := by
  obtain ⟨hop, back, hpath, hhop⟩ := h
  rcases change_cases (setElement i element) (hops root) payload with hsame | ⟨list, hlist⟩
  · rw [replaceElement, hsame]
  · obtain ⟨hbefore, hafter⟩ := hlist (j :: index)
    rw [resolve, resolve, hpath, follow_append, follow_append, replaceElement, hbefore, hafter]
    simp only [Option.bind_some, follow, step_setElement hhop hj]

/-- A hop to another key does not reach what is changed, if the key of it is no number. -/
theorem step_change_key {key other : String} (hkey : (Hop.key key).takesCurrent)
    (hne : key ≠ other) (value : Json) (index : List Nat) :
    step (.key other) (change f [.key key] value) index = step (.key other) value index := by
  cases value with
  | array items =>
    have hplace : placeOf? [] (.key key) = none := placeOf?_of_takesCurrent hkey []
    simp [change, hplace]
  | object entries => simp [change, step, Table.get?_modify, Ne.symm hne]
  | _ => rfl

/-- Paths that pass by the list reach what they reached before, if its key is no number. -/
theorem resolve_replaceElement_of_passesBy (h : PassesBy root path)
    (hkey : ∀ hop ∈ (hops root).getLast?, hop.takesCurrent) (index : List Nat) :
    resolve (replaceElement root i element payload) path index = resolve payload path index := by
  obtain ⟨front, key, other, back, hroot, hpath, hne⟩ := h
  have hlast : (Hop.key key).takesCurrent := hkey _ (by simp [hroot])
  rw [replaceElement, hroot, change_append, resolve, resolve, hpath, follow_append, follow_append]
  rcases change_cases (change (setElement i element) [.key key]) front payload with
    hsame | ⟨parent, hparent⟩
  · rw [hsame]
  · obtain ⟨hbefore, hafter⟩ := hparent index
    rw [hbefore, hafter]
    simp only [Option.bind_some, follow, step_change_key hlast hne]

/-- The list keeps its place and its length. -/
theorem resolve_replaceElement_root (root : String) (i : Nat) (element payload : Json) :
    resolve (replaceElement root i element payload) root [] =
      (resolve payload root []).map (setElement i element) ∨
    replaceElement root i element payload = payload := by
  rcases change_cases (setElement i element) (hops root) payload with hsame | ⟨list, hlist⟩
  · exact .inr hsame
  · obtain ⟨hbefore, hafter⟩ := hlist []
    left
    rw [resolve, resolve, hbefore, replaceElement, hafter]
    rfl

end Reading

end Path

end TypedGraph
