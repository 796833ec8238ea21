import TypedGraph.Json.Display

/-!
# Values with one text

In running text objects are all alike, and a list is its items with commas between them. So the
text of a value has pieces between commas: those of the items of nested lists, one after the
other (`Json.splitOn_display`). Values with one text are equal, or are scalars that are written
alike, or are blurred by the text (`Json.display_eq_iff`).
-/
namespace TypedGraph

/-! ## Numbers -/

namespace Decimal

/-- A digit, or another character of a number: of its sign, its point or the names of what is no
finite number. -/
def isNumeric (c : Char) : Bool := c.isDigit || ['-', '.', 'N', 'a', 'i', 'n', 'f'].contains c

theorem isNumeric_of_mem_toDigits {n : Nat} : ∀ c ∈ Nat.toDigits 10 n, isNumeric c = true := by
  intro c hc
  rw [isNumeric, Nat.isDigit_of_mem_toDigits (by omega) (by omega) hc, Bool.true_or]

theorem isNumeric_of_mem_replicate {n : Nat} : ∀ c ∈ List.replicate n '0', isNumeric c = true := by
  intro c hc
  rw [List.eq_of_mem_replicate hc]
  rfl

namespace Style

theorem isNumeric_positionalText {digits : List Char} (h : ∀ c ∈ digits, isNumeric c = true)
    (point : Int) : ∀ c ∈ plain.positionalText digits point, isNumeric c = true := by
  unfold positionalText
  dsimp only
  split
  · rw [List.forall_mem_cons, List.forall_mem_cons, List.forall_mem_append]
    exact ⟨rfl, rfl, isNumeric_of_mem_replicate, h⟩
  · split
    · simp only [plain, Bool.false_eq_true, if_false, List.append_nil]
      rw [List.forall_mem_append]
      exact ⟨h, isNumeric_of_mem_replicate⟩
    · rw [List.forall_mem_append, List.forall_mem_cons]
      exact ⟨fun c hc => h c (List.mem_of_mem_take hc), rfl,
        fun c hc => h c (List.mem_of_mem_drop hc)⟩

theorem isNumeric_decimalText (d : Numeral) : ∀ c ∈ plain.decimalText d, isNumeric c = true :=
  isNumeric_positionalText isNumeric_of_mem_toDigits _

theorem isNumeric_render (x : Binary64) : ∀ c ∈ (plain.render x).toList, isNumeric c = true := by
  cases x with
  | nan => exact List.all_eq_true.1 rfl
  | infinity negative => cases negative <;> exact List.all_eq_true.1 rfl
  | finite negative units =>
    have htext : ∀ c ∈ if units = 0 then (if plain.pointZero then ['0', '.', '0'] else ['0'])
        else plain.decimalText (.shortest plain.tie units), isNumeric c = true := by
      split
      · exact List.all_eq_true.1 rfl
      · exact isNumeric_decimalText _
    rw [render, String.toList_ofList]
    split
    · exact List.forall_mem_cons.2 ⟨rfl, htext⟩
    · exact htext

end Style

end Decimal

namespace Json

open Decimal (isNumeric isNumeric_of_mem_toDigits)

theorem isNumeric_displayNumber (n : JsonNumber) :
    ∀ c ∈ (displayNumber n).toList, isNumeric c = true := by
  cases n with
  | float x => exact Decimal.Style.isNumeric_render x
  | int n =>
    cases n with
    | ofNat n =>
      change ∀ c ∈ n.repr.toList, isNumeric c = true
      rw [Nat.toList_repr]
      exact isNumeric_of_mem_toDigits
    | negSucc n =>
      change ∀ c ∈ ("-" ++ n.succ.repr).toList, isNumeric c = true
      rw [String.toList_append, Nat.toList_repr]
      exact List.forall_mem_cons.2 ⟨rfl, isNumeric_of_mem_toDigits⟩

/-! ## Pieces -/

mutual

/-- The pieces of the text of a value, between commas. The items of a list that are `null` are
empty, and so is the empty list. -/
def pieces : Json → List (List Char)
  | array [] => [[]]
  | array items => piecesOfItems items
  | value => value.display.toList.splitOn ','

def piecesOfItems : List Json → List (List Char)
  | [] => []
  | null :: rest => [] :: piecesOfItems rest
  | item :: rest => pieces item ++ piecesOfItems rest

end

variable {v w : Json} {s : String}

theorem splitOn_intercalate_cons (text : String) (texts : List String) :
    (",".intercalate (text :: texts)).toList.splitOn ',' =
      (text :: texts).flatMap fun text => text.toList.splitOn ',' := by
  induction texts generalizing text with
  | nil => simp
  | cons next texts ih =>
    rw [String.intercalate_cons_cons, List.flatMap_cons, ← ih]
    simp only [String.toList_append, List.append_assoc]
    exact List.splitOn_append_cons_self _ _

theorem displayItems_ne_nil (item : Json) (rest : List Json) :
    displayItems (item :: rest) ≠ [] := by
  cases item <;> simp [displayItems]

mutual

/-- The pieces of a value are those of its text. -/
theorem splitOn_display : ∀ v : Json, v.display.toList.splitOn ',' = v.pieces
  | array [] => by simp [display, displayItems, pieces]
  | array (item :: rest) => by
    rw [display, pieces, ← flatMap_displayItems (item :: rest)]
    cases hitems : displayItems (item :: rest) with
    | nil => exact absurd hitems (displayItems_ne_nil item rest)
    | cons text texts => exact splitOn_intercalate_cons text texts
    · simp
  | null | bool _ | number _ | string _ | object _ => by simp only [pieces]

theorem flatMap_displayItems : ∀ items : List Json,
    (displayItems items).flatMap (fun text => text.toList.splitOn ',') = piecesOfItems items
  | [] => rfl
  | item :: rest => by
    by_cases hnull : item = null
    · rw [hnull, displayItems, piecesOfItems, List.flatMap_cons, flatMap_displayItems rest]
      simp
    · rw [displayItems, piecesOfItems, List.flatMap_cons, splitOn_display item,
        flatMap_displayItems rest]
      all_goals exact hnull

end

/-- Values with the same pieces have one text, and the other way round. -/
theorem display_eq_iff_pieces : v.display = w.display ↔ v.pieces = w.pieces := by
  have hjoin (v : Json) : [','].intercalate (v.display.toList.splitOn ',') = v.display.toList :=
    List.intercalate_splitOn ','
  rw [← splitOn_display, ← splitOn_display]
  refine ⟨fun h => by rw [h], fun h => String.toList_inj.1 ?_⟩
  rw [← hjoin v, h, hjoin w]

/-! ## Equal texts -/

/-- A text, a number or a truth value. -/
inductive IsScalar : Json → Prop
  | bool (b : Bool) : IsScalar (.bool b)
  | number (n : JsonNumber) : IsScalar (.number n)
  | string (s : String) : IsScalar (.string s)

/-- Whether running text hides that a value is not another one: `null` is taken for the text
`null`, an object for every object and for the text of an object, and a list for whatever has its
pieces. -/
inductive Blurs : Json → Json → Prop
  | null : Blurs .null (.string "null")
  | object (entries : Entries) : Blurs (.object entries) (.string "[object Object]")
  | objects (entries entries' : Entries) : Blurs (.object entries) (.object entries')
  | array (items : List Json) (w : Json) (h : (Json.array items).pieces = w.pieces) :
    Blurs (.array items) w

/-- Whether a value is taken for another one in running text. -/
inductive ReadsAs (v w : Json) : Prop
  | same (h : v = w)
  | scalars (hv : v.IsScalar) (hw : w.IsScalar) (h : v.display = w.display)
  | blurred (h : v.Blurs w ∨ w.Blurs v)

theorem displayNumber_ne {n : JsonNumber} {c : Char} (hc : c ∈ s.toList)
    (hnumeric : isNumeric c = false) : displayNumber n ≠ s := by
  rintro rfl
  exact Bool.false_ne_true (hnumeric ▸ isNumeric_displayNumber n c hc)

theorem eq_of_display_eq_null (h : v.display = "null") :
    v = .null ∨ v = .string "null" ∨ ∃ items, v = .array items := by
  cases v with
  | null => exact .inl rfl
  | string s => exact .inr (.inl (congrArg _ h))
  | array items => exact .inr (.inr ⟨items, rfl⟩)
  | bool b => cases b <;> simp [display] at h
  | number n =>
    have hl : 'l' ∈ "null".toList := by decide
    exact absurd h (displayNumber_ne hl rfl)
  | object entries => simp [display] at h

theorem eq_of_display_eq_object (h : v.display = "[object Object]") :
    (∃ entries, v = .object entries) ∨ v = .string "[object Object]" ∨
      ∃ items, v = .array items := by
  cases v with
  | object entries => exact .inl ⟨entries, rfl⟩
  | string s => exact .inr (.inl (congrArg _ h))
  | array items => exact .inr (.inr ⟨items, rfl⟩)
  | bool b => cases b <;> simp [display] at h
  | number n =>
    have hbracket : '[' ∈ "[object Object]".toList := by decide
    exact absurd h (displayNumber_ne hbracket rfl)
  | null => simp [display] at h

theorem Blurs.display_eq (h : v.Blurs w) : v.display = w.display := by
  cases h with
  | null | object | objects => simp only [display]
  | array items w h => exact display_eq_iff_pieces.2 h

/-- The text tells of two values exactly that one may be taken for the other. -/
theorem display_eq_iff : v.display = w.display ↔ v.ReadsAs w := by
  constructor
  · intro h
    have hpieces := display_eq_iff_pieces.1 h
    cases v with
    | array items => exact .blurred (.inl (.array items w hpieces))
    | null =>
      rcases eq_of_display_eq_null h.symm with rfl | rfl | ⟨items, rfl⟩
      · exact .same rfl
      · exact .blurred (.inl .null)
      · exact .blurred (.inr (.array items _ hpieces.symm))
    | object entries =>
      rcases eq_of_display_eq_object h.symm with ⟨entries', rfl⟩ | rfl | ⟨items, rfl⟩
      · exact .blurred (.inl (.objects entries entries'))
      · exact .blurred (.inl (.object entries))
      · exact .blurred (.inr (.array items _ hpieces.symm))
    | bool | number | string =>
      cases w with
      | array items => exact .blurred (.inr (.array items _ hpieces.symm))
      | null =>
        rcases eq_of_display_eq_null h with hv | hv | ⟨items, hv⟩
        · cases hv
        · exact hv ▸ .blurred (.inr .null)
        · cases hv
      | object entries =>
        rcases eq_of_display_eq_object h with ⟨entries', hv⟩ | hv | ⟨items, hv⟩
        · cases hv
        · exact hv ▸ .blurred (.inr (.object entries))
        · cases hv
      | bool | number | string => exact .scalars (by constructor) (by constructor) h
  · rintro (rfl | ⟨-, -, h⟩ | h | h)
    · rfl
    · exact h
    · exact h.display_eq
    · exact h.display_eq.symm

instance (v w : Json) : Decidable (v.ReadsAs w) := decidable_of_iff _ display_eq_iff

example : (array [string "a", array [string "b", null]]).ReadsAs (string "a,b,") := by decide

end Json

end TypedGraph
