import TypedGraph.Proofs.Markers

/-!
# Routes

A path leads from a value to another one, hop by hop. Over a list, the marker and a key that
is no number take the next place of the index vector; no other hop takes one. So the number
of places that a path takes hangs on the value as well, and `Path.Finds` counts them. Only
the places that a path takes decide what it finds, and a path behind a dot goes on from there
with the places that are left (`resolve_joined`).
-/
namespace TypedGraph

namespace Hop

/-- The hop leads from a value to another one, and takes the first `n` places of an index
vector for it. -/
inductive Leads : Hop → Json → List Nat → Json → Nat → Prop where
  | entry {name : String} {entries : Entries} {index : List Nat} {reached : Json}
      (hentry : Table.get? entries name = some reached) :
      Leads (.key name) (.object entries) index reached 0
  | element {i : Nat} {items : List Json} {index : List Nat} {reached : Json}
      (hitem : items[i]? = some reached) : Leads (.element i) (.array items) index reached 0
  | place {name : String} {i : Nat} {items : List Json} {index : List Nat} {reached : Json}
      (hplace : Path.place? name.toList = some i) (hitem : items[i]? = some reached) :
      Leads (.key name) (.array items) index reached 0
  | current {hop : Hop} {i : Nat} {items : List Json} {index : List Nat} {reached : Json}
      (hcurrent : hop.takesCurrent) (hitem : items[i]? = some reached) :
      Leads hop (.array items) (i :: index) reached 1

variable {hop : Hop} {value reached : Json} {index index' left : List Nat} {n : Nat}

theorem Leads.le_length (h : hop.Leads value index reached n) : n ≤ index.length := by
  cases h <;> simp

/-- A hop takes the same way with any index vector that has the places it takes. -/
theorem Leads.congr (h : hop.Leads value index reached n) (hsame : index'.take n = index.take n) :
    hop.Leads value index' reached n := by
  cases h with
  | entry hentry => exact .entry hentry
  | element hitem => exact .element hitem
  | place hplace hitem => exact .place hplace hitem
  | current hcurrent hitem =>
    cases index' with
    | nil => simp at hsame
    | cons j index' =>
      simp only [List.take_succ_cons, List.take_zero, List.cons.injEq, and_true] at hsame
      rw [hsame]
      exact .current hcurrent hitem

theorem step_of_leads (h : hop.Leads value index reached n) :
    Path.step hop value index = some (reached, index.drop n) := by
  cases h with
  | entry hentry => simp [Path.step, hentry]
  | element hitem => simp [Path.step, Path.placeOf?, hitem]
  | place hplace hitem => simp [Path.step, Path.placeOf?, hplace, hitem]
  | current hcurrent hitem =>
    simp [Path.step, Path.placeOf?_of_takesCurrent hcurrent, Path.current?, hitem]

theorem exists_leads_of_step (h : Path.step hop value index = some (reached, left)) :
    ∃ n, hop.Leads value index reached n ∧ left = index.drop n := by
  cases value with
  | object entries =>
    cases hop with
    | key name =>
      simp only [Path.step, Option.map_eq_some_iff, Prod.mk.injEq] at h
      obtain ⟨_, hentry, rfl, rfl⟩ := h
      exact ⟨0, .entry hentry, rfl⟩
    | element i => cases h
    | each => cases h
  | array items =>
    simp only [Path.step, Option.bind_eq_some_iff, Option.map_eq_some_iff, Prod.mk.injEq] at h
    obtain ⟨⟨i, rest⟩, hplace, _, hitem, rfl, rfl⟩ := h
    by_cases hcurrent : hop.takesCurrent
    · rw [Path.placeOf?_of_takesCurrent hcurrent] at hplace
      cases index with
      | nil => cases hplace
      | cons j index =>
        cases hplace
        exact ⟨1, .current hcurrent hitem, rfl⟩
    · cases hop with
      | each => exact absurd rfl hcurrent
      | element j =>
        cases hplace
        exact ⟨0, .element hitem, rfl⟩
      | key name =>
        cases hj : Path.place? name.toList with
        | none => simp [takesCurrent, hj] at hcurrent
        | some j =>
          simp only [Path.placeOf?, hj, Option.map_some, Option.some_or, Option.some.injEq,
            Prod.mk.injEq] at hplace
          obtain ⟨rfl, rfl⟩ := hplace
          exact ⟨0, .place hj hitem, rfl⟩
  | _ => cases h

end Hop

namespace Path

/-- The hops lead from a value to another one, and take the first `n` places of an index
vector for it. -/
inductive Leads : List Hop → Json → List Nat → Json → Nat → Prop where
  | here {value : Json} {index : List Nat} : Leads [] value index value 0
  | further {hop : Hop} {hops : List Hop} {value next reached : Json} {index : List Nat}
      {n m : Nat} (hfirst : hop.Leads value index next n)
      (hrest : Leads hops next (index.drop n) reached m) :
      Leads (hop :: hops) value index reached (n + m)

section Hops

variable {hops : List Hop} {value reached reached' : Json} {index index' left : List Nat}
  {n m : Nat}

theorem Leads.le_length (h : Leads hops value index reached n) : n ≤ index.length := by
  induction h with
  | here => exact Nat.zero_le _
  | further hfirst _ ih =>
    have hle := hfirst.le_length
    rw [List.length_drop] at ih
    omega

theorem Leads.congr (h : Leads hops value index reached n)
    (hsame : index'.take n = index.take n) : Leads hops value index' reached n := by
  induction h generalizing index' with
  | here => exact .here
  | @further hop hops value next reached index n m hfirst _ ih =>
    have hfront : index'.take n = index.take n := by
      have htake := congrArg (List.take n) hsame
      simpa [List.take_take] using htake
    have hback : (index'.drop n).take m = (index.drop n).take m := by
      have hdrop := congrArg (List.drop n) hsame
      simpa [List.drop_take] using hdrop
    exact .further (hfirst.congr hfront) (ih hback)

theorem follow_of_leads (h : Leads hops value index reached n) :
    follow hops value index = some (reached, index.drop n) := by
  induction h with
  | here => rfl
  | further hfirst _ ih =>
    simp only [follow, Hop.step_of_leads hfirst, ih, Option.bind_eq_bind, Option.bind_some,
      List.drop_drop]

theorem exists_leads_of_follow (h : follow hops value index = some (reached, left)) :
    ∃ n, Leads hops value index reached n ∧ left = index.drop n := by
  induction hops generalizing value index with
  | nil =>
    cases h
    exact ⟨0, .here, rfl⟩
  | cons hop hops ih =>
    obtain ⟨⟨next, rest⟩, hstep, hfollow⟩ := Option.bind_eq_some_iff.1 h
    obtain ⟨n, hfirst, rfl⟩ := Hop.exists_leads_of_step hstep
    obtain ⟨m, hrest, rfl⟩ := ih hfollow
    exact ⟨n + m, .further hfirst hrest, List.drop_drop⟩

/-- Hops lead to one value, and take one number of places for it. -/
theorem Leads.unique (h : Leads hops value index reached n)
    (h' : Leads hops value index reached' m) : reached = reached' ∧ n = m := by
  have hfollow := follow_of_leads h
  rw [follow_of_leads h', Option.some.injEq, Prod.mk.injEq] at hfollow
  have hlength := congrArg List.length hfollow.2
  have hn := h.le_length
  have hm := h'.le_length
  rw [List.length_drop, List.length_drop] at hlength
  exact ⟨hfollow.1.symm, by omega⟩

end Hops

/-! ## Paths -/

section Paths

variable {payload value : Json} {path : String} {index : List Nat} {n : Nat}

/-- The path finds a value in a payload, and takes the first `n` places of an index vector
for it. -/
def Finds (payload : Json) (path : String) (index : List Nat) (value : Json) (n : Nat) : Prop :=
  Leads (hops path) payload index value n

theorem resolve_eq_some_iff :
    resolve payload path index = some value ↔ ∃ n, Finds payload path index value n := by
  rw [resolve, Option.map_eq_some_iff]
  constructor
  · rintro ⟨⟨reached, left⟩, hfollow, rfl⟩
    obtain ⟨n, hleads, -⟩ := exists_leads_of_follow hfollow
    exact ⟨n, hleads⟩
  · rintro ⟨n, hleads⟩
    exact ⟨_, follow_of_leads hleads, rfl⟩

/-- A path finds its value as soon as the index vector has the places that it takes. -/
theorem Finds.resolve_take (h : Finds payload path index value n) (j : Nat) :
    resolve payload path (index.take j) = if n ≤ j then some value else none := by
  by_cases hj : n ≤ j
  · rw [if_pos hj, resolve_eq_some_iff]
    refine ⟨n, Leads.congr h ?_⟩
    rw [List.take_take, Nat.min_eq_left hj]
  · rw [if_neg hj, Option.eq_none_iff_forall_ne_some]
    intro other hother
    obtain ⟨m, hleads⟩ := resolve_eq_some_iff.1 hother
    -- The fewer places would be all that the path takes, also with the whole index vector.
    have hm : m ≤ j := by
      have hle := Leads.le_length hleads
      rw [List.length_take] at hle
      omega
    have hwhole : Leads (hops path) payload index other m := by
      apply Leads.congr hleads
      rw [List.take_take, Nat.min_eq_left hm]
    have hnm := (Leads.unique h hwhole).2
    omega

theorem resolve_append_dot (payload : Json) (p q : String) (index : List Nat) :
    resolve payload (p ++ "." ++ q) index =
      (follow (hops p) payload index).bind fun (value, left) => resolve value q left := by
  rw [resolve, hops_append_dot, follow_append]
  cases follow (hops p) payload index <;> rfl

end Paths

/-- A path `p` resolves to what it finds, and the number of places that it takes is the least
one with which it resolves. With `q` behind a dot it leads where `q` leads from there with the
other places, and nowhere if `p` leads nowhere. More places change nothing. -/
theorem resolve_joined (payload : Json) (p q : String) (index : List Nat) :
    (∀ value, resolve payload p index = some value ↔ ∃ n, Finds payload p index value n) ∧
    (∀ value n, Finds payload p index value n →
      n ≤ index.length ∧
      (∀ j, resolve payload p (index.take j) = if n ≤ j then some value else none) ∧
      resolve payload (p ++ "." ++ q) index = resolve value q (index.drop n)) ∧
    (resolve payload p index = none → resolve payload (p ++ "." ++ q) index = none) ∧
    ∀ value more, resolve payload p index = some value →
      resolve payload p (index ++ more) = some value := by
  refine ⟨fun value => resolve_eq_some_iff, fun value n hfinds => ?_, fun hnone => ?_,
    fun value more hsome => ?_⟩
  · refine ⟨Leads.le_length hfinds, hfinds.resolve_take, ?_⟩
    rw [resolve_append_dot, follow_of_leads hfinds]
    rfl
  · rw [resolve, Option.map_eq_none_iff] at hnone
    rw [resolve_append_dot, hnone]
    rfl
  · obtain ⟨n, hleads⟩ := resolve_eq_some_iff.1 hsome
    rw [resolve_eq_some_iff]
    refine ⟨n, Leads.congr hleads ?_⟩
    rw [List.take_append_of_le_length (Leads.le_length hleads)]

namespace Sample

/-- A van with one repair. -/
def van : Json :=
  .object [("id", .string "c2"), ("repairs", .array [.object [("kind", .string "brakes")]])]

/-- A fleet whose first car has no repairs. -/
def fleet : Json := .object [("cars", .array [.object [("id", .string "c1")], van])]

end Sample

theorem resolve_joined_fleet :
    (Finds Sample.fleet "cars[]" [1, 0] Sample.van 1 ∧
      resolve Sample.fleet "cars[].repairs[].kind" [1, 0] =
        resolve Sample.van "repairs[].kind" [0]) ∧
    (resolve Sample.fleet "cars[].repairs[]" [0, 0] = none ∧
      resolve Sample.fleet "cars[].repairs[].kind" [0, 0] = none) ∧
    (resolve Sample.fleet "cars[].id" [1] = some (.string "c2") ∧
      resolve Sample.fleet "cars[].id" [1, 0] = some (.string "c2")) := by
  have hhops : hops "cars[]" = [.key "cars", .each] := by decide +kernel
  have hfinds : Finds Sample.fleet "cars[]" [1, 0] Sample.van 1 := by
    rw [Finds, hhops]
    exact .further (.entry rfl) (.further (.current rfl rfl) .here)
  have hnone : resolve Sample.fleet "cars[].repairs[]" [0, 0] = none := by decide +kernel
  have hid : resolve Sample.fleet "cars[].id" [1] = some (.string "c2") := by decide +kernel
  obtain ⟨-, hfound, -, -⟩ := resolve_joined Sample.fleet "cars[]" "repairs[].kind" [1, 0]
  obtain ⟨-, -, hlost, -⟩ := resolve_joined Sample.fleet "cars[].repairs[]" "kind" [0, 0]
  obtain ⟨-, -, -, hmore⟩ := resolve_joined Sample.fleet "cars[].id" "" [1]
  exact ⟨⟨hfinds, (hfound Sample.van 1 hfinds).2.2⟩, ⟨hnone, hlost hnone⟩, hid,
    hmore _ [0] hid⟩

end Path

end TypedGraph
