import Mathlib.Data.List.Induction
import TypedGraph.Json.Codec
import TypedGraph.Proofs.Registers

/-!
# Canonical documents

A document is canonical if bringing it into canonical form changes nothing: the entries of
its objects stand in the order of their keys. The canonical form is canonical
(`Json.isCanonical_canonical`), and so is an object that is made of settings with canonical
values (`Json.isCanonical_ofFields`).
-/
namespace TypedGraph

namespace Table

variable {α : Type} {t : Table α} {key n : String} {a v : α} {settings : List (String × α)}
  {row : String × α}

theorem insert_of_lt (h : ∀ k ∈ t.keys, k < key) : t.insert key a = t ++ [(key, a)] := by
  induction t with
  | nil => rfl
  | cons row t ih =>
    have hlt : row.1 < key := h row.1 (by simp [keys])
    have hnot : ¬ key < row.1 := fun hgt => String.lt_asymm hlt hgt
    have hne : row.1 ≠ key := fun heq => String.lt_irrefl key (by rwa [heq] at hlt)
    have hrest : insert t key a = t ++ [(key, a)] := ih fun k hk => h k (by simp_all [keys])
    simp [insert, hnot, hne, hrest]

theorem mem_insert (h : row ∈ t.insert key a) : row = (key, a) ∨ row ∈ t := by
  induction t with
  | nil => simpa [insert] using h
  | cons first t ih =>
    simp only [insert] at h
    split at h
    · simpa using h
    · split at h
      · simp at h ⊢
        tauto
      · rcases List.mem_cons.1 h with rfl | h
        · simp
        · rcases ih h with h | h
          · exact .inl h
          · simp [h]

theorem ofList_append_singleton (settings : List (String × α)) (row : String × α) :
    ofList (settings ++ [row]) = (ofList settings).insert row.1 row.2 := by
  simp [ofList]

/-- The settings of an ordered table make the table. -/
theorem IsOrdered.ofList_eq (h : t.IsOrdered) : ofList t = t := by
  induction t using List.reverseRecOn with
  | nil => rfl
  | append_singleton t row ih =>
    have hkeys : keys (t ++ [row]) = keys t ++ [row.1] := List.map_append
    rw [IsOrdered, hkeys, List.pairwise_append] at h
    have hlt : ∀ k ∈ keys t, k < row.1 := fun k hk => h.2.2 k hk row.1 (List.mem_singleton_self _)
    rw [ofList_append_singleton, ih h.1, insert_of_lt hlt]

theorem mem_of_mem_ofList (h : row ∈ ofList settings) : row ∈ settings := by
  induction settings using List.reverseRecOn with
  | nil => exact h
  | append_singleton settings last ih =>
    rw [ofList_append_singleton] at h
    rcases mem_insert h with rfl | h
    · simp
    · simp [ih h]

/-- Of settings with different keys each one stands. -/
theorem get?_ofList_of_mem (hkeys : (settings.map (·.1)).Nodup) (h : (n, v) ∈ settings) :
    (ofList settings).get? n = some v := by
  induction settings using List.reverseRecOn with
  | nil => simp at h
  | append_singleton settings last ih =>
    rw [ofList_append_singleton, get?_insert]
    simp only [List.map_append, List.map_cons, List.map_nil] at hkeys
    obtain ⟨hfront, -, hne⟩ := List.nodup_append.1 hkeys
    rcases List.mem_append.1 h with h | h
    · have hmem : n ∈ settings.map (·.1) := List.mem_map_of_mem (f := (·.1)) h
      rw [if_neg (hne n hmem last.1 (by simp))]
      exact ih hfront h
    · obtain rfl : (n, v) = last := by simpa using h
      simp

theorem get?_ofList_eq_none (h : n ∉ settings.map (·.1)) : (ofList settings).get? n = none := by
  rw [get?_eq_none_iff]
  intro hmem
  obtain ⟨row, hrow, rfl⟩ := List.mem_map.1 hmem
  exact h (List.mem_map_of_mem (f := (·.1)) (mem_of_mem_ofList hrow))

end Table

namespace Json

/-- Whether the canonical form of a document is the document itself. -/
def IsCanonical (j : Json) : Prop := j.canonical = j

theorem canonicalItems_eq_map (items : List Json) : canonicalItems items = items.map canonical := by
  induction items with
  | nil => rfl
  | cons item items ih => simp [canonicalItems, ih]

theorem canonicalEntries_eq_map (entries : List (String × Json)) :
    canonicalEntries entries = entries.map fun row => (row.1, row.2.canonical) := by
  induction entries with
  | nil => rfl
  | cons row entries ih => simp [canonicalEntries, ih]

theorem isCanonical_array {items : List Json} (h : ∀ item ∈ items, item.IsCanonical) :
    (array items).IsCanonical := by
  simp only [IsCanonical, canonical, canonicalItems_eq_map, array.injEq]
  exact (List.map_congr_left h).trans (List.map_id' items)

theorem isCanonical_object {entries : Entries} (hordered : entries.IsOrdered)
    (h : ∀ row ∈ entries, row.2.IsCanonical) : (object entries).IsCanonical := by
  have hsame : canonicalEntries entries = entries := by
    rw [canonicalEntries_eq_map]
    refine (List.map_congr_left fun row hrow => ?_).trans (List.map_id' entries)
    exact Prod.ext rfl (h row hrow)
  simp only [IsCanonical, canonical, hsame, hordered.ofList_eq]

theorem isCanonical_ofFields {settings : List (String × Json)}
    (h : ∀ row ∈ settings, row.2.IsCanonical) : (ofFields settings).IsCanonical :=
  isCanonical_object (Table.isOrdered_ofList settings) fun row hrow =>
    h row (Table.mem_of_mem_ofList hrow)

mutual

/-- The canonical form of a document is canonical. -/
theorem isCanonical_canonical : (j : Json) → j.canonical.IsCanonical
  | .null | .bool _ | .number _ | .string _ => rfl
  | .array items => isCanonical_array (isCanonical_of_mem_items items)
  | .object entries => isCanonical_ofFields (isCanonical_of_mem_entries entries)

theorem isCanonical_of_mem_items :
    (items : List Json) → ∀ item ∈ canonicalItems items, item.IsCanonical
  | [], _, h => by simp [canonicalItems] at h
  | first :: items, item, h => by
    rcases List.mem_cons.1 h with rfl | h
    · exact isCanonical_canonical first
    · exact isCanonical_of_mem_items items item h

theorem isCanonical_of_mem_entries :
    (entries : List (String × Json)) → ∀ row ∈ canonicalEntries entries, row.2.IsCanonical
  | [], _, h => by simp [canonicalEntries] at h
  | (_, v) :: entries, row, h => by
    rcases List.mem_cons.1 h with rfl | h
    · exact isCanonical_canonical v
    · exact isCanonical_of_mem_entries entries row h

end

theorem IsCanonical.isOrdered {entries : Entries} (h : (object entries).IsCanonical) :
    entries.IsOrdered := by
  have hsame : Table.ofList (canonicalEntries entries) = entries := object.inj h
  rw [← hsame]
  exact Table.isOrdered_ofList _

theorem IsCanonical.of_mem_entries {entries : Entries} (h : (object entries).IsCanonical)
    {row : String × Json} (hrow : row ∈ entries) : row.2.IsCanonical := by
  have hsame : Table.ofList (canonicalEntries entries) = entries := object.inj h
  rw [← hsame] at hrow
  exact isCanonical_of_mem_entries entries row (Table.mem_of_mem_ofList hrow)

theorem canonical_eq_null {j : Json} (h : j.canonical = null) : j = null := by
  cases j <;> simp_all [canonical]

end Json

end TypedGraph
