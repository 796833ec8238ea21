import TypedGraph.Proofs.Routes

/-!
# Spellings of hops

A hop in a list is written in brackets, as the marker or as a number. It stands in a part of
its own (`hops_separated`) or is glued to the key before it. Of several glued hops only the
last one is a hop; the others belong to the key (`hops_glued_append`). So the two spellings of
a path agree for at most one hop (`spelledAlike_iff`).
-/
namespace TypedGraph

theorem Path.notMem_of_place? {digits : List Char} {i : Nat} (h : place? digits = some i)
    {c : Char} (hdigit : Decimal.isDigit c = false) (hplus : c ≠ '+') : c ∉ digits := by
  intro hmem
  rw [place?_eq_none hmem hdigit hplus] at h
  cases h

/-- A hop in a list as it is written in brackets: the marker, or a text that reads as a
place. -/
inductive Bracket where
  | current
  | element (digits : List Char) (i : Nat) (reads : Path.place? digits = some i)

namespace Bracket

def text : Bracket → List Char
  | current => ['[', ']']
  | element digits _ _ => '[' :: (digits ++ [']'])

def hop : Bracket → Hop
  | current => .each
  | element _ i _ => .element i

@[simp] theorem text_current : current.text = ['[', ']'] := rfl

@[simp] theorem hop_current : current.hop = .each := rfl

theorem dot_notMem_text (b : Bracket) : '.' ∉ b.text := by
  cases b with
  | current => decide
  | element digits i reads =>
    have hdigits : '.' ∉ digits := Path.notMem_of_place? reads (by decide) (by decide)
    simp [text, hdigits]

end Bracket

namespace Path

/-- A key that is not empty and has neither dots nor brackets. -/
structure IsPlainKey (key : String) : Prop where
  nonempty : key ≠ ""
  dot : '.' ∉ key.toList
  opening : '[' ∉ key.toList
  closing : ']' ∉ key.toList

/-- The path of a key with hops glued to it. -/
def glued (key : String) (brackets : List Bracket) : String :=
  String.ofList (key.toList ++ brackets.flatMap Bracket.text)

/-- The path of a key with hops behind it, each in a part of its own. -/
def separated (key : String) (brackets : List Bracket) : String :=
  String.ofList (key.toList ++ brackets.flatMap fun b => '.' :: b.text)

/-- Whether the two spellings of a path lead to the same everywhere. -/
def SpelledAlike (key : String) (brackets : List Bracket) : Prop :=
  ∀ payload index,
    resolve payload (glued key brackets) index = resolve payload (separated key brackets) index

/-! ## Hops -/

theorem beforeMarker?_number {front digits : List Char} {i : Nat} (h : place? digits = some i) :
    beforeMarker? (front ++ '[' :: (digits ++ [']'])) = none := by
  cases hbefore : beforeMarker? (front ++ '[' :: (digits ++ [']'])) with
  | none => rfl
  | some name =>
    -- The bracket of a marker would be the last of the digits.
    have hreverse := congrArg List.reverse (beforeMarker?_eq_some.1 hbefore)
    have hopening : '[' ∉ digits := notMem_of_place? h (by decide) (by decide)
    cases hdigits : digits.reverse with
    | nil =>
      rw [List.reverse_eq_nil_iff.1 hdigits] at h
      cases h
    | cons c more =>
      simp only [List.reverse_append, List.reverse_cons, List.reverse_nil, List.nil_append,
        List.cons_append, List.append_assoc, List.cons.injEq, hdigits] at hreverse
      rw [← List.mem_reverse, hdigits, hreverse.2.1] at hopening
      exact absurd List.mem_cons_self hopening

theorem beforeNumber?_number {front digits : List Char} {i : Nat} (h : place? digits = some i) :
    beforeNumber? (front ++ '[' :: (digits ++ [']'])) = some (front, i) := by
  have hopening : ∀ c ∈ digits.reverse, (c != '[') = true := by
    intro c hc
    have hne : c ≠ '[' := by
      rintro rfl
      exact notMem_of_place? h (by decide) (by decide) (List.mem_reverse.1 hc)
    simpa using hne
  have hreverse : (front ++ '[' :: (digits ++ [']'])).reverse =
      ']' :: (digits.reverse ++ '[' :: front.reverse) := by simp
  have htake : (digits.reverse ++ '[' :: front.reverse).takeWhile (· != '[') =
      digits.reverse := by
    rw [List.takeWhile_append_of_pos hopening]
    simp
  have hdrop : (digits.reverse ++ '[' :: front.reverse).dropWhile (· != '[') =
      '[' :: front.reverse := by
    rw [List.dropWhile_append_of_pos hopening]
    simp
  simp [beforeNumber?, hreverse, htake, hdrop, h]

/-- A hop in brackets at the end of a part leaves the text before it as a key. -/
theorem hopsOfPart_bracket (front : List Char) (b : Bracket) :
    hopsOfPart (front ++ b.text) = keyHop front ++ [b.hop] := by
  cases b with
  | current => exact hopsOfPart_marker front
  | element digits i reads =>
    rw [hopsOfPart, Bracket.text, beforeMarker?_number reads]
    simp [beforeNumber?_number reads, Bracket.hop]

variable {key : String}

theorem IsPlainKey.hops_eq (h : IsPlainKey key) : hops key = [.key key] := by
  have hne : key.toList ≠ [] := fun hnil => h.nonempty (String.toList_eq_nil_iff.1 hnil)
  rw [hops, hopsOfChars_of_notMem h.dot, hopsOfPart_of_notMem h.opening]
  simp [keyHop, hne]

/-- Of glued hops only the last one is a hop. -/
theorem hops_glued_append (h : IsPlainKey key) (brackets : List Bracket) (last : Bracket) :
    hops (glued key (brackets ++ [last])) = [.key (glued key brackets), last.hop] := by
  have hne : key.toList ≠ [] := fun hnil => h.nonempty (String.toList_eq_nil_iff.1 hnil)
  have htext : (glued key (brackets ++ [last])).toList =
      (key.toList ++ brackets.flatMap Bracket.text) ++ last.text := by
    simp [glued]
  have hdot : '.' ∉ (key.toList ++ brackets.flatMap Bracket.text) ++ last.text := by
    simp [h.dot, Bracket.dot_notMem_text]
  rw [hops, htext, hopsOfChars_of_notMem hdot, hopsOfPart_bracket]
  simp [keyHop, hne, glued]

/-- Separated hops are all hops. -/
theorem hops_separated (h : IsPlainKey key) (brackets : List Bracket) :
    hops (separated key brackets) = .key key :: brackets.map Bracket.hop := by
  have hpart (b : Bracket) : hopsOfChars b.text = [b.hop] := by
    rw [hopsOfChars_of_notMem b.dot_notMem_text]
    exact hopsOfPart_bracket [] b
  have hall (cs : List Char) :
      hopsOfChars (cs ++ brackets.flatMap fun b => '.' :: b.text) =
        hopsOfChars cs ++ brackets.map Bracket.hop := by
    induction brackets generalizing cs with
    | nil => simp
    | cons b brackets ih =>
      have hcons := ih (cs ++ '.' :: b.text)
      rw [hopsOfChars_append_dot, hpart] at hcons
      simpa using hcons
  have hkey := hall key.toList
  rw [← hops, h.hops_eq] at hkey
  rw [hops, separated, String.toList_ofList, hkey]
  rfl

end Path

/-! ## Agreement -/

namespace Path

variable {key : String}

/-- Lists in lists around `null`, into which hops lead. -/
def opened : List Bracket → Json
  | [] => .null
  | .current :: brackets => .array [opened brackets]
  | .element _ i _ :: brackets => .array (List.replicate (i + 1) (opened brackets))

theorem exists_leads_opened (brackets : List Bracket) {m : Nat} (h : brackets.length ≤ m) :
    ∃ n, Leads (brackets.map Bracket.hop) (opened brackets) (List.replicate m 0) .null n := by
  induction brackets generalizing m with
  | nil => exact ⟨0, .here⟩
  | cons b brackets ih =>
    cases b with
    | current =>
      cases m with
      | zero => cases h
      | succ m =>
        obtain ⟨n, hrest⟩ := ih (Nat.le_of_succ_le_succ h)
        exact ⟨1 + n, .further (.current rfl rfl) hrest⟩
    | element digits i reads =>
      obtain ⟨n, hrest⟩ := ih (Nat.le_of_succ_le h)
      exact ⟨0 + n, .further (.element (by simp)) hrest⟩

theorem glued_nil (key : String) : glued key [] = key := by
  simp [glued]

theorem glued_ne {brackets : List Bracket} (h : brackets ≠ []) : glued key brackets ≠ key := by
  intro heq
  have hlists := congrArg String.toList heq
  obtain ⟨b, more, rfl⟩ := List.exists_cons_of_ne_nil h
  cases b <;> simp [glued, Bracket.text] at hlists

/-- More than one glued hop leads nowhere from an object that has the key alone. -/
theorem resolve_glued_eq_none (hkey : IsPlainKey key) {path : String} {brackets : List Bracket}
    {last : Bracket} (hpath : hops path = hops (glued key (brackets ++ [last])))
    (h : brackets ≠ []) (value : Json) (index : List Nat) :
    resolve (.object [(key, value)]) path index = none := by
  rw [resolve, hpath, hops_glued_append hkey]
  simp [follow, step, Table.get?_cons, glued_ne h]

theorem spelledAlike_iff (hkey : IsPlainKey key) (brackets : List Bracket) :
    SpelledAlike key brackets ↔ brackets.length ≤ 1 := by
  rcases List.eq_nil_or_concat brackets with rfl | ⟨front, last, rfl⟩
  · simp [SpelledAlike, glued, separated]
  · rw [List.concat_eq_append, List.length_append, List.length_singleton]
    constructor
    · intro hsame
      by_contra hlength
      have hfront : front ≠ [] := by
        rintro rfl
        exact hlength (Nat.le_refl _)
      obtain ⟨n, hleads⟩ := exists_leads_opened (front ++ [last]) (Nat.le_refl _)
      have hseparated : resolve (.object [(key, opened (front ++ [last]))])
          (separated key (front ++ [last])) (List.replicate (front ++ [last]).length 0) =
            some .null := by
        rw [resolve_eq_some_iff]
        refine ⟨0 + n, ?_⟩
        rw [Finds, hops_separated hkey]
        exact .further (.entry (by simp [Table.get?_cons])) hleads
      rw [← hsame, resolve_glued_eq_none hkey rfl hfront] at hseparated
      cases hseparated
    · intro hlength payload index
      have hfront : front = [] := List.length_eq_zero_iff.1 (by omega)
      rw [hfront, resolve, resolve, hops_glued_append hkey, hops_separated hkey, glued_nil]
      rfl

end Path

/-- Two glued markers do not lead to the elements of a table. -/
theorem not_spelledAlike :
    ¬ ∀ (key : String) (brackets : List Bracket), Path.IsPlainKey key →
      Path.SpelledAlike key brackets := by
  intro h
  have hkey : Path.IsPlainKey "k" := ⟨by decide, by decide, by decide, by decide⟩
  have hsame := h "k" [.current, .current] hkey
    (.object [("k", .array [.array [.int 1, .int 2]])]) [0, 1]
  have hglued : Path.resolve (.object [("k", .array [.array [.int 1, .int 2]])])
      (Path.glued "k" [.current, .current]) [0, 1] = none := by decide +kernel
  have hseparated : Path.resolve (.object [("k", .array [.array [.int 1, .int 2]])])
      (Path.separated "k" [.current, .current]) [0, 1] = some (.int 2) := by decide +kernel
  rw [hglued, hseparated] at hsame
  cases hsame

end TypedGraph
