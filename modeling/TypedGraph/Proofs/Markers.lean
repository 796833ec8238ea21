import Mathlib.Data.List.Basic
import TypedGraph.Mapping.Transformation

/-!
# Markers in paths

The levels below the first one of a root array go on with a marker `[]` right behind the
first list. If the marker ends its part of the path, or stands alone in it, the level takes
the current element of the list. If more of the part follows, as in `cars[]x`, there is no
marker but a key with another name than the list has (`hopsOfChars_marker_cases`).
-/
namespace TypedGraph

/-- Whether a hop takes the current element of every list. -/
def Hop.takesCurrent : Hop → Bool
  | .each => true
  | .element _ => false
  | .key name => (Path.place? name.toList).isNone

namespace Path

open Decimal

theorem placeOf?_of_takesCurrent {hop : Hop} (h : hop.takesCurrent) (index : List Nat) :
    placeOf? index hop = current? index := by
  cases hop with
  | each => rfl
  | element i => cases h
  | key name =>
    have hnone : place? name.toList = none := by simpa [Hop.takesCurrent] using h
    simp [placeOf?, hnone]

variable {cs part name more : List Char}

/-! ## Numbers -/

theorem isDigit_of_natural? {n : Nat} (h : natural? cs = some n) : ∀ c ∈ cs, isDigit c := by
  simp only [natural?] at h
  split at h
  · cases h
  · simp_all

theorem natural?_of_boundedNatural? {bound n : Nat} (h : boundedNatural? bound cs = some n) :
    natural? cs = some n ∨ ∃ rest, cs = '+' :: rest ∧ natural? rest = some n := by
  obtain ⟨m, hm, hn⟩ := Option.bind_eq_some_iff.1 h
  have heq : m = n := by
    by_cases hlt : m < bound
    · simpa [hlt] using hn
    · simp [hlt] at hn
  rw [heq] at hm
  split at hm
  · exact .inr ⟨_, rfl, hm⟩
  · exact .inl hm

/-- A text with a character that is neither a digit nor a plus sign is no number. -/
theorem place?_eq_none {c : Char} (hmem : c ∈ cs) (hdigit : isDigit c = false) (hplus : c ≠ '+') :
    place? cs = none := by
  cases h : place? cs with
  | none => rfl
  | some n =>
    rcases natural?_of_boundedNatural? h with hcs | ⟨rest, rfl, hrest⟩
    · rw [isDigit_of_natural? hcs c hmem] at hdigit
      cases hdigit
    · rcases List.mem_cons.1 hmem with rfl | hmem
      · exact absurd rfl hplus
      · rw [isDigit_of_natural? hrest c hmem] at hdigit
        cases hdigit

/-! ## Parts of a path -/

theorem beforeMarker?_eq_some : beforeMarker? part = some name ↔ part = name ++ ['[', ']'] := by
  unfold beforeMarker?
  constructor
  · intro h
    split at h
    · rename_i front hreverse
      cases h
      rw [← List.reverse_inj, hreverse]
      simp
    · cases h
  · rintro rfl
    simp

theorem beforeNumber?_eq_some {n : Nat} (h : beforeNumber? part = some (name, n)) :
    ∃ digits, part = name ++ '[' :: (digits ++ [']']) ∧ place? digits = some n := by
  unfold beforeNumber? at h
  split at h
  · rename_i body hreverse
    split at h
    · rename_i front hfront
      obtain ⟨i, hi, heq⟩ := Option.map_eq_some_iff.1 h
      cases heq
      refine ⟨(body.takeWhile (· != '[')).reverse, ?_, hi⟩
      have hbody := List.takeWhile_append_dropWhile (p := (· != '[')) (l := body)
      rw [hfront] at hbody
      rw [← List.reverse_inj, hreverse]
      simp [hbody]
    · cases h
  · cases h

theorem hopsOfPart_of_notMem (h : '[' ∉ part) : hopsOfPart part = keyHop part := by
  have hmarker : beforeMarker? part = none := by
    cases hbefore : beforeMarker? part with
    | none => rfl
    | some name =>
      rw [beforeMarker?_eq_some.1 hbefore] at h
      simp at h
  have hnumber : beforeNumber? part = none := by
    cases hbefore : beforeNumber? part with
    | none => rfl
    | some found =>
      obtain ⟨digits, hpart, -⟩ := beforeNumber?_eq_some hbefore
      rw [hpart] at h
      simp at h
  simp [hopsOfPart, hmarker, hnumber]

@[simp] theorem hopsOfPart_marker (name : List Char) :
    hopsOfPart (name ++ ['[', ']']) = keyHop name ++ [.each] := by
  simp [hopsOfPart, beforeMarker?_eq_some.2 rfl]

/-- A text with a bracket stands in front of the bracket of another text, or goes on with it. -/
theorem exists_of_append_bracket {other tail : List Char} (h : '[' ∉ name)
    (heq : name ++ '[' :: more = other ++ '[' :: tail) :
    other = name ∧ more = tail ∨ ∃ rest, other = name ++ '[' :: rest := by
  rcases List.append_eq_append_iff.1 heq with ⟨mid, hother, hmid⟩ | ⟨mid, hname, hmid⟩
  · cases mid with
    | nil => simp_all
    | cons c mid =>
      obtain ⟨hc, -⟩ := List.cons_eq_cons.1 hmid
      rw [← hc] at hother
      exact .inr ⟨mid, hother⟩
  · cases mid with
    | nil => simp_all
    | cons c mid => simp_all

/-- What follows a marker in its part makes it belong to a key. -/
theorem hopsOfPart_of_append (hname : '[' ∉ name) (hmore : more ≠ []) :
    ∃ rest back, hopsOfPart (name ++ '[' :: ']' :: more) =
      .key (String.ofList (name ++ '[' :: rest)) :: back := by
  unfold hopsOfPart
  cases hmarker : beforeMarker? (name ++ '[' :: ']' :: more) with
  | some front =>
    have hpart := beforeMarker?_eq_some.1 hmarker
    rcases exists_of_append_bracket hname hpart with ⟨-, htail⟩ | ⟨rest, rfl⟩
    · simp [hmore] at htail
    · exact ⟨rest, [.each], by simp [keyHop]⟩
  | none =>
    cases hnumber : beforeNumber? (name ++ '[' :: ']' :: more) with
    | some found =>
      obtain ⟨front, n⟩ := found
      obtain ⟨digits, hpart, hdigits⟩ := beforeNumber?_eq_some hnumber
      rcases exists_of_append_bracket hname hpart with ⟨-, htail⟩ | ⟨rest, rfl⟩
      · -- The bracket of the marker would be the end of a number, or in it.
        cases digits with
        | nil => simp [hmore] at htail
        | cons c digits =>
          obtain ⟨hc, -⟩ := List.cons_eq_cons.1 htail
          rw [← hc, place?_eq_none List.mem_cons_self (by decide) (by decide)] at hdigits
          cases hdigits
      · exact ⟨rest, [.element n], by simp [keyHop]⟩
    | none => exact ⟨']' :: more, [], by simp [keyHop]⟩

/-! ## Cutting a path -/

@[simp] theorem hopsOfChars_append_dot (front back : List Char) :
    hopsOfChars (front ++ '.' :: back) = hopsOfChars front ++ hopsOfChars back := by
  simp [hopsOfChars]

theorem splitDots_of_notMem (h : '.' ∉ cs) : splitDots cs = [cs] := by
  induction cs with
  | nil => rfl
  | cons c cs ih =>
    simp only [List.mem_cons, not_or] at h
    rw [splitDots, if_neg (Ne.symm h.1), ih h.2]

theorem hopsOfChars_of_notMem (h : '.' ∉ part) : hopsOfChars part = hopsOfPart part := by
  simp [hopsOfChars, splitDots_of_notMem h]

/-- The last part of a path is cut off. -/
theorem exists_last_part (cs : List Char) :
    ∃ front last, '.' ∉ last ∧ last ⊆ cs ∧
      ∀ tail, hopsOfChars (cs ++ tail) = front ++ hopsOfChars (last ++ tail) := by
  by_cases h : '.' ∈ cs
  · obtain ⟨back, front, hreverse, hback⟩ := List.eq_append_cons_of_mem (List.mem_reverse.2 h)
    have hcs : cs = front.reverse ++ '.' :: back.reverse := by
      rw [← List.reverse_inj, hreverse]
      simp
    refine ⟨hopsOfChars front.reverse, back.reverse, by simpa using hback, ?_, ?_⟩
    · rw [hcs]
      simp
    · intro tail
      rw [hcs, List.append_assoc, List.cons_append, hopsOfChars_append_dot]
  · exact ⟨[], cs, h, List.Subset.refl cs, by simp⟩

/-- The first part of a path is cut off. -/
theorem exists_first_part (cs : List Char) :
    ∃ first back, ∀ head, '.' ∉ head →
      hopsOfChars (head ++ cs) = hopsOfPart (head ++ first) ++ back := by
  by_cases h : '.' ∈ cs
  · obtain ⟨first, rest, rfl, hfirst⟩ := List.eq_append_cons_of_mem h
    refine ⟨first, hopsOfChars rest, ?_⟩
    intro head hhead
    rw [← List.append_assoc, hopsOfChars_append_dot, hopsOfChars_of_notMem (by simp_all)]
  · refine ⟨cs, [], ?_⟩
    intro head hhead
    rw [hopsOfChars_of_notMem (by simp_all), List.append_nil]

theorem hopsOfChars_append_marker (h : '[' ∉ cs) :
    hopsOfChars (cs ++ ['[', ']']) = hopsOfChars cs ++ [.each] := by
  obtain ⟨front, last, hlast, hsubset, hcs⟩ := exists_last_part cs
  have hbracket : '[' ∉ last := fun hmem => h (hsubset hmem)
  have hend := hcs []
  rw [List.append_nil, List.append_nil, hopsOfChars_of_notMem hlast,
    hopsOfPart_of_notMem hbracket] at hend
  have hdot : '.' ∉ last ++ ['[', ']'] := by simp [hlast]
  rw [hcs, hopsOfChars_of_notMem hdot, hopsOfPart_marker, hend, List.append_assoc]

/-- A marker behind a path takes the current element, or belongs to another key than the path
ends with. -/
theorem hopsOfChars_marker_cases (h : '[' ∉ cs) (more : List Char) :
    (∃ hop back, hopsOfChars (cs ++ '[' :: ']' :: more) = hopsOfChars cs ++ hop :: back ∧
      hop.takesCurrent) ∨
    ∃ front key other back, hopsOfChars cs = front ++ [.key key] ∧
      hopsOfChars (cs ++ '[' :: ']' :: more) = front ++ .key other :: back ∧ key ≠ other := by
  obtain ⟨front, last, hlast, hsubset, hcs⟩ := exists_last_part cs
  obtain ⟨first, back, hmore⟩ := exists_first_part more
  have hbracket : '[' ∉ last := fun hmem => h (hsubset hmem)
  have hhops : hopsOfChars cs = front ++ keyHop last := by
    have hend := hcs []
    simpa [hopsOfChars_of_notMem hlast, hopsOfPart_of_notMem hbracket] using hend
  have hlevel : hopsOfChars (cs ++ '[' :: ']' :: more) =
      front ++ hopsOfPart (last ++ '[' :: ']' :: first) ++ back := by
    have hhead := hmore (last ++ ['[', ']']) (by simp [hlast])
    rw [hcs, List.append_assoc]
    simpa using hhead
  rw [hhops, hlevel]
  cases first with
  | nil =>
    left
    exact ⟨.each, back, by simp, rfl⟩
  | cons c first =>
    obtain ⟨rest, further, hpart⟩ := hopsOfPart_of_append hbracket (List.cons_ne_nil c first)
    rw [hpart]
    cases last with
    | nil =>
      left
      refine ⟨_, further ++ back, by simp [keyHop]; rfl, ?_⟩
      simp [Hop.takesCurrent, place?_eq_none (c := '[') List.mem_cons_self (by decide) (by decide)]
    | cons d last =>
      right
      refine ⟨front, _, _, further ++ back, by simp [keyHop]; rfl, by simp; rfl, ?_⟩
      intro heq
      have hlists := congrArg String.toList heq
      simp at hlists

example : hopsOfChars "cars[]x".toList = [.key "cars[]x"] := by decide +kernel

/-! ## Paths below a list -/

/-- A path that goes on from `root` to the current element there. -/
def Enters (root path : String) : Prop :=
  ∃ hop back, hops path = hops root ++ hop :: back ∧ hop.takesCurrent

/-- A path that goes the way of `root` but takes another key in the end. -/
def PassesBy (root path : String) : Prop :=
  ∃ front key other back, hops root = front ++ [.key key] ∧
    hops path = front ++ .key other :: back ∧ key ≠ other

/-- A path whose last key is a number, so that it may be the place of an element. -/
def EndsInPlace (root : String) : Prop :=
  ∃ hop ∈ (hops root).getLast?, hop.takesCurrent = false

/-- The path `root` with a marker, and with nothing or a path behind a dot after it. -/
def IsBelow (root path : String) : Prop :=
  ∃ rest, (path = root ++ "[]" ++ rest ∨ path = root ++ ".[]" ++ rest) ∧
    (rest = "" ∨ ∃ inner, rest = "." ++ inner)

theorem IsBelow.enters {root path : String} (hplain : '[' ∉ root.toList)
    (h : IsBelow root path) : Enters root path := by
  obtain ⟨rest, hpath, hrest⟩ := h
  have hmarked : ∃ marked : List Char, path.toList = marked ++ rest.toList ∧
      hopsOfChars marked = hops root ++ [.each] := by
    rcases hpath with rfl | rfl
    · exact ⟨root.toList ++ ['[', ']'], by simp, hopsOfChars_append_marker hplain⟩
    · have hmarker : hopsOfChars ['[', ']'] = [.each] := by decide
      refine ⟨root.toList ++ '.' :: ['[', ']'], by simp, ?_⟩
      rw [hopsOfChars_append_dot, hmarker, hops]
  obtain ⟨marked, hchars, hhops⟩ := hmarked
  rcases hrest with rfl | ⟨inner, rfl⟩
  · refine ⟨.each, [], ?_, rfl⟩
    rw [hops, hchars]
    simpa using hhops
  · refine ⟨.each, hops inner, ?_, rfl⟩
    have hinner : path.toList = marked ++ '.' :: inner.toList := by simpa using hchars
    rw [hops, hinner, hopsOfChars_append_dot, hhops, hops]
    simp [hops]

/-! ## Levels of a root array -/

theorem hopsOfChars_append_dots {dots : List Char} (h : ∀ c ∈ dots, c = '.') (cs : List Char) :
    hopsOfChars (cs ++ dots) = hopsOfChars cs := by
  induction dots generalizing cs with
  | nil => simp
  | cons c dots ih =>
    obtain ⟨rfl, hdots⟩ := List.forall_mem_cons.1 h
    have hrest := ih hdots []
    rw [hopsOfChars_append_dot]
    simpa [hopsOfChars, splitDots, hopsOfPart, beforeMarker?, beforeNumber?, keyHop] using hrest

end Path

namespace Transformation

theorem exists_trimDots_append (cs : List Char) :
    ∃ dots : List Char, cs = trimDots cs ++ dots ∧ ∀ c ∈ dots, c = '.' := by
  refine ⟨(cs.reverse.takeWhile (· = '.')).reverse, ?_, ?_⟩
  · rw [trimDots, ← List.reverse_append, List.takeWhile_append_dropWhile, List.reverse_reverse]
  · intro c hc
    have hdot := List.all_eq_true.1 List.all_takeWhile c (List.mem_reverse.1 hc)
    simpa using hdot

@[simp] theorem hopsOfChars_trimDots (cs : List Char) :
    Path.hopsOfChars (trimDots cs) = Path.hopsOfChars cs := by
  obtain ⟨dots, hcs, hdots⟩ := exists_trimDots_append cs
  have htrimmed := Path.hopsOfChars_append_dots hdots (trimDots cs)
  rw [← hcs] at htrimmed
  exact htrimmed.symm

theorem joinedParts_cons (first : List Char) (parts : List (List Char)) :
    joinedParts (first :: parts) =
      first :: (joinedParts parts).map fun joined => first ++ '[' :: ']' :: joined := by
  cases parts with
  | nil => simp [joinedParts]
  | cons second parts =>
    rw [joinedParts, List.length_cons, List.range_succ_eq_map]
    simp [joinedParts, List.intercalate, Function.comp_def]

/-- The levels below the first one take the current element of the first list, or pass by it. -/
theorem enters_or_passesBy {t : Transformation} {root level : String}
    (hroot : t.rootLevels.head? = some root) (hplain : '[' ∉ root.toList)
    (hlevel : level ∈ t.rootLevels.tail) :
    Path.Enters root level ∨ Path.PassesBy root level := by
  unfold rootLevels at hroot hlevel
  split at hroot
  · cases hroot
  · rename_i text htext
    simp only [htext] at hlevel
    split at hroot
    · cases hroot
    · rename_i hblank
      rw [if_neg hblank] at hlevel
      cases hparts : dropBlankEnd (splitMarkers text.toList) with
      | nil => simp [hparts, joinedParts] at hroot
      | cons first parts =>
        rw [hparts, joinedParts_cons] at hroot hlevel
        simp only [List.map_cons, List.head?_cons, Option.some.injEq, Function.comp_apply] at hroot
        simp only [List.map_cons, List.tail_cons, List.map_map, List.mem_map, Function.comp_apply]
          at hlevel
        obtain ⟨more, -, hmore⟩ := hlevel
        have hhops : Path.hops root = Path.hopsOfChars first := by
          rw [← hroot, Path.hops, String.toList_ofList, hopsOfChars_trimDots]
        have hhopsLevel : Path.hops level = Path.hopsOfChars (first ++ '[' :: ']' :: more) := by
          rw [← hmore, Path.hops, String.toList_ofList, hopsOfChars_trimDots]
        have hbracket : '[' ∉ first := by
          obtain ⟨dots, hfirst, hdots⟩ := exists_trimDots_append first
          rw [← hroot, String.toList_ofList] at hplain
          intro hmem
          rw [hfirst] at hmem
          rcases List.mem_append.1 hmem with hmem | hmem
          · exact hplain hmem
          · cases hdots _ hmem
        unfold Path.Enters Path.PassesBy
        rw [hhops, hhopsLevel]
        exact Path.hopsOfChars_marker_cases hbracket more

end Transformation

end TypedGraph
