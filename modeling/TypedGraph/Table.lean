/-!
# Tables

A table holds a value for each of its keys, as a list in the order of the keys. The
order is that of the code points of the keys. The operations keep it
(`isOrdered_insert`, `isOrdered_erase`, `isOrdered_ofList`), and ordered tables that
give every key the same value are equal (`IsOrdered.ext`).
-/
namespace TypedGraph

/-- Values by their keys, in the order of the keys. -/
abbrev Table (α : Type) := List (String × α)

namespace Table

variable {α : Type}

/-- The value of a key. -/
def get? (t : Table α) (key : String) : Option α := t.lookup key

@[simp] theorem get?_nil (key : String) : get? ([] : Table α) key = none := rfl

theorem get?_cons (row : String × α) (t : Table α) (key : String) :
    get? (row :: t) key = if key = row.1 then some row.2 else get? t key := by
  obtain ⟨k, v⟩ := row
  by_cases h : key = k
  · simp [get?, h]
  · simp [get?, List.lookup_cons, h, beq_false_of_ne h]

def contains (t : Table α) (key : String) : Bool := (t.get? key).isSome

/-- The keys in their order. -/
def keys (t : Table α) : List String := t.map (·.1)

theorem get?_eq_none_iff {t : Table α} {key : String} : t.get? key = none ↔ key ∉ t.keys := by
  induction t with
  | nil => simp [keys]
  | cons row t ih =>
    simp only [keys] at ih
    rw [get?_cons]
    split <;> simp_all [keys]

/-- The values in the order of their keys. -/
def values (t : Table α) : List α := t.map (·.2)

/-- The keys stand in their order, each of them once. -/
def IsOrdered (t : Table α) : Prop := t.keys.Pairwise (· < ·)

/-- Ordered tables that give every key the same value are the same list. -/
theorem IsOrdered.ext {t u : Table α} (ht : t.IsOrdered) (hu : u.IsOrdered)
    (h : ∀ key, t.get? key = u.get? key) : t = u := by
  induction t generalizing u with
  | nil =>
    cases u with
    | nil => rfl
    | cons row u => simpa [get?_cons] using h row.1
  | cons row t ih =>
    cases u with
    | nil => simpa [get?_cons] using h row.1
    | cons row' u =>
      obtain ⟨ht₀, ht⟩ := List.pairwise_cons.1 ht
      obtain ⟨hu₀, hu⟩ := List.pairwise_cons.1 hu
      have least (k : String) : k ∈ keys (row :: t) ↔ k ∈ keys (row' :: u) := by
        have left : get? (row :: t) k = none ↔ k ∉ keys (row :: t) := get?_eq_none_iff
        have right : get? (row' :: u) k = none ↔ k ∉ keys (row' :: u) := get?_eq_none_iff
        grind
      have same : row.1 = row'.1 := by
        have := (least row.1).1 (by simp [keys])
        have := (least row'.1).2 (by simp [keys])
        grind [keys, String.lt_asymm]
      have value : row.2 = row'.2 := by simpa [get?_cons, same] using h row.1
      rw [Prod.ext same value, ih ht hu fun key => ?_]
      have := h key
      simp only [get?_cons, same] at this
      split at this
      · have := ht₀ key
        have := hu₀ key
        rw [get?_eq_none_iff.2 (by grind [keys, String.lt_irrefl]),
          get?_eq_none_iff.2 (by grind [keys, String.lt_irrefl])]
      · exact this

/-- Sets the value of a key. -/
def insert (t : Table α) (key : String) (value : α) : Table α :=
  match t with
  | [] => [(key, value)]
  | (k, v) :: rest =>
    if key < k then (key, value) :: (k, v) :: rest
    else if k = key then (key, value) :: rest
    else (k, v) :: insert rest key value

/-- A key has the value that was set last, and the other keys keep theirs. -/
theorem get?_insert (t : Table α) (key other : String) (value : α) :
    (t.insert key value).get? other = if other = key then some value else t.get? other := by
  induction t with
  | nil => simp [insert, get?_cons]
  | cons row t ih =>
    obtain ⟨k, v⟩ := row
    simp only [insert]
    split
    · simp only [get?_cons]
    · split
      · rename_i h
        simp only [get?_cons, h]
        split <;> rfl
      · simp only [get?_cons, ih]
        grind

theorem mem_keys_insert {t : Table α} {key k : String} {value : α} :
    k ∈ (t.insert key value).keys ↔ k = key ∨ k ∈ t.keys := by
  induction t with
  | nil => simp [insert, keys]
  | cons row t ih =>
    simp only [keys] at ih
    simp only [insert]
    split
    · simp [keys]
    · split
      · simp_all [keys]
      · simp only [keys, List.map_cons, List.mem_cons, ih]
        grind

theorem isOrdered_insert {t : Table α} (h : t.IsOrdered) (key : String) (value : α) :
    (t.insert key value).IsOrdered := by
  induction t with
  | nil => simp [insert, IsOrdered, keys]
  | cons row t ih =>
    obtain ⟨k, v⟩ := row
    obtain ⟨hk, ht⟩ := List.pairwise_cons.1 h
    simp only [insert]
    split
    · rename_i lt
      refine List.pairwise_cons.2 ⟨fun k' hk' => ?_, h⟩
      rcases List.mem_cons.1 hk' with rfl | hk'
      · exact lt
      · exact String.lt_trans lt (hk k' hk')
    · split
      · rename_i eq
        subst eq
        exact h
      · rename_i nlt ne
        refine List.pairwise_cons.2 ⟨fun k' hk' => ?_, ih ht⟩
        rcases mem_keys_insert.1 hk' with rfl | hk'
        · exact Std.lt_of_le_of_ne (String.not_lt.1 nlt) ne
        · exact hk k' hk'

/-- Removes a key. -/
def erase (t : Table α) (key : String) : Table α := t.filter fun row => row.1 != key

theorem get?_erase (t : Table α) (key other : String) :
    (t.erase key).get? other = if other = key then none else t.get? other := by
  induction t with
  | nil => simp [erase]
  | cons row t ih =>
    simp only [erase] at ih
    simp only [erase, List.filter_cons]
    split <;> simp_all only [get?_cons] <;> grind

theorem isOrdered_erase {t : Table α} (h : t.IsOrdered) (key : String) :
    (t.erase key).IsOrdered :=
  h.sublist (List.filter_sublist.map _)

/-- The table of a list of settings, the last one of each key winning. -/
def ofList (settings : List (String × α)) : Table α :=
  settings.foldl (fun t (key, value) => t.insert key value) []

theorem isOrdered_ofList (settings : List (String × α)) : (ofList settings).IsOrdered := by
  suffices ∀ t : Table α, t.IsOrdered →
      (settings.foldl (fun t (key, value) => t.insert key value) t).IsOrdered from this [] .nil
  induction settings with
  | nil => exact fun _ h => h
  | cons row settings ih => exact fun t h => ih _ (isOrdered_insert h _ _)

end Table

end TypedGraph
