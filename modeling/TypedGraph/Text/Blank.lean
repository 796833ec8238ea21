/-!
# White space

The characters with the Unicode property White_Space, and trimming by them.
-/
namespace TypedGraph.Text

/-- The characters with the property White_Space, as inclusive ranges. -/
def blankRanges : List (Nat × Nat) :=
  [(0x9, 0xD), (0x20, 0x20), (0x85, 0x85), (0xA0, 0xA0), (0x1680, 0x1680), (0x2000, 0x200A),
    (0x2028, 0x2029), (0x202F, 0x202F), (0x205F, 0x205F), (0x3000, 0x3000)]

def isBlank (c : Char) : Bool :=
  blankRanges.any fun (low, high) => low ≤ c.toNat && c.toNat ≤ high

theorem isBlank_of_isWhitespace {c : Char} (h : c.isWhitespace) : isBlank c := by
  simp only [Char.isWhitespace, Bool.or_eq_true, decide_eq_true_eq] at h
  rcases h with ((rfl | rfl) | rfl) | rfl <;> decide

/-- Drops white space at both ends. -/
def trim (cs : List Char) : List Char :=
  ((cs.dropWhile isBlank).reverse.dropWhile isBlank).reverse

/-- Trimming keeps what is not blank. -/
theorem mem_trim {cs : List Char} {c : Char} (hmem : c ∈ cs) (hc : isBlank c = false) :
    c ∈ trim cs := by
  have hdrop (cs : List Char) (hmem : c ∈ cs) : c ∈ cs.dropWhile isBlank := by
    rw [← List.takeWhile_append_dropWhile (p := isBlank) (l := cs), List.mem_append] at hmem
    rcases hmem with htake | hdrop
    · have hblank := List.all_eq_true.1 List.all_takeWhile c htake
      rw [hc] at hblank
      cases hblank
    · exact hdrop
  rw [trim, List.mem_reverse]
  apply hdrop
  rw [List.mem_reverse]
  exact hdrop cs hmem

/-- Trimming leaves alone what has no white space. -/
theorem trim_eq_self {cs : List Char} (h : ∀ c ∈ cs, isBlank c = false) : trim cs = cs := by
  have hdrop (cs : List Char) (h : ∀ c ∈ cs, isBlank c = false) : cs.dropWhile isBlank = cs := by
    cases cs with
    | nil => rfl
    | cons c cs => simp [h c (List.mem_cons_self ..)]
  rw [trim, hdrop cs h, hdrop _ fun c hc => h c (List.mem_reverse.1 hc), List.reverse_reverse]

end TypedGraph.Text
