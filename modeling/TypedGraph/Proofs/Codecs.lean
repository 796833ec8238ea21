import Mathlib.Data.List.Forall2
import Mathlib.Data.List.Nodup
import TypedGraph.Proofs.Documents

/-!
# Writing and reading again

A codec saves a value as another one if the second is read from the document that is
written for the first. A codec is faithful if it saves every value that it reads as itself.
A record is saved field by field: each field reads what stands under its name, and the
names are different (`Codec.saves_record`).
-/
namespace TypedGraph

/-- What a reading in steps reads: its first step, and then the others. -/
theorem bind_eq_some_iff {α β : Type} {o : Option α} {k : α → Option β} {b : β} :
    (o >>= k) = some b ↔ ∃ a, o = some a ∧ k a = some b := Option.bind_eq_some_iff

/-- The results of a partial function along a list. -/
theorem mapM_eq_some_iff {α β : Type} {f : α → Option β} {as : List α} {bs : List β} :
    as.mapM f = some bs ↔ List.Forall₂ (fun a b => f a = some b) as bs := by
  induction as generalizing bs with
  | nil =>
    simp only [List.mapM_nil, List.forall₂_nil_left_iff]
    exact ⟨fun h => (Option.some.inj h).symm, fun h => congrArg some h.symm⟩
  | cons a as ih =>
    simp only [List.mapM_cons, Option.bind_eq_bind, Option.bind_eq_some_iff, Option.pure_def,
      Option.some.injEq, List.forall₂_cons_left_iff, ih]
    constructor
    · rintro ⟨b, hb, bs', hbs, rfl⟩
      exact ⟨b, bs', hb, hbs, rfl⟩
    · rintro ⟨b, bs', hb, hbs, rfl⟩
      exact ⟨b, hb, bs', hbs, rfl⟩

theorem exists_of_mem_of_mapM {α β : Type} {f : α → Option β} {as : List α} {bs : List β}
    (h : as.mapM f = some bs) {b : β} (hb : b ∈ bs) : ∃ a ∈ as, f a = some b := by
  rw [mapM_eq_some_iff] at h
  induction h with
  | nil => simp at hb
  | cons hab _ ih =>
    rcases List.mem_cons.1 hb with rfl | hb
    · exact ⟨_, List.mem_cons_self .., hab⟩
    · obtain ⟨a, ha, hread⟩ := ih hb
      exact ⟨a, List.mem_cons_of_mem _ ha, hread⟩

/-! ## Codecs -/

namespace Codec

variable {α : Type}

/-- Whether `b` is read from the document that is written for `a`, which is canonical. -/
structure Saves (c : Codec α) (a b : α) : Prop where
  canonical : (c.write a).IsCanonical
  read?_write : c.read? (c.write a) = some b

/-- Whether every value that is read is saved as itself, and not as `null` if it is read from
something else. -/
structure IsFaithful (c : Codec α) : Prop where
  saves : ∀ {j a}, c.read? j = some a → c.Saves a a
  eq_null : ∀ {j a}, c.read? j = some a → c.write a = .null → j = .null

/-! ### Scalars -/

theorem saves_document {j : Json} (h : j.IsCanonical) : document.Saves j j where
  canonical := h
  read?_write := congrArg some h

theorem isFaithful_document : document.IsFaithful where
  saves h := by
    cases h
    exact saves_document (Json.isCanonical_canonical _)
  eq_null h hnull := by
    cases h
    exact Json.canonical_eq_null hnull

theorem saves_text (s : String) : text.Saves s s := ⟨rfl, rfl⟩

theorem isFaithful_text : text.IsFaithful := ⟨fun _ => saves_text _, nofun⟩

theorem saves_bool (b : Bool) : bool.Saves b b := ⟨rfl, rfl⟩

/-- A number is read as the nearest binary number, and that one is read as itself. -/
theorem isFaithful_binary : binary.IsFaithful := ⟨fun _ => ⟨rfl, rfl⟩, nofun⟩

theorem lt_of_word_read? {j : Json} {n : Nat} (h : word.read? j = some n) :
    n < Nat.pow 2 64 := by
  simp only [word] at h
  split at h
  · split at h
    · rename_i m hm
      obtain rfl : m.toNat = n := by simpa using h
      omega
    · simp at h
  · simp at h

theorem isFaithful_word : word.IsFaithful where
  saves {_ n} h := by
    have hlt := lt_of_word_read? h
    have hrange : (0 : Int) ≤ n ∧ (n : Int) < Nat.pow 2 64 := by omega
    exact ⟨rfl, by simp only [word, Json.nat, Json.int, if_pos hrange, Int.toNat_natCast]⟩
  eq_null _ h := by simp [word, Json.nat, Json.int] at h

/-! ### Words -/

section Words

variable {table : List (String × α)} {n : String} {a : α}

theorem lookup_of_mem (hkeys : (table.map (·.1)).Nodup) (h : (n, a) ∈ table) :
    table.lookup n = some a := by
  induction table with
  | nil => simp at h
  | cons row table ih =>
    rw [List.map_cons, List.nodup_cons] at hkeys
    rcases List.mem_cons.1 h with rfl | h
    · simp
    · have hne : n ≠ row.1 := by
        rintro rfl
        exact hkeys.1 (List.mem_map_of_mem (f := (·.1)) h)
      rw [List.lookup_cons, beq_false_of_ne hne]
      exact ih hkeys.2 h

variable [DecidableEq α]

theorem saves_words (hkeys : (table.map (·.1)).Nodup) (h : (n, a) ∈ table) :
    (words table).Saves a a where
  canonical := rfl
  read?_write := by
    obtain ⟨row, hfind⟩ : ∃ row, (table.find? fun row => row.2 = a) = some row := by
      rw [← Option.isSome_iff_exists, List.find?_isSome]
      exact ⟨(n, a), h, by simp⟩
    have hrow : row.2 = a := by simpa using List.find?_some hfind
    have hmem : (row.1, a) ∈ table := by
      rw [← hrow]
      exact List.mem_of_find?_eq_some hfind
    simp [words, hfind, Json.string?, lookup_of_mem hkeys hmem]

theorem isFaithful_words (hkeys : (table.map (·.1)).Nodup) : (words table).IsFaithful where
  saves h := by
    obtain ⟨n, -, hn⟩ := Option.bind_eq_some_iff.1 h
    exact saves_words hkeys (Table.mem_of_get? hn)
  eq_null _ h := by simp [words] at h

end Words

/-! ### Lists and tables -/

theorem saves_list {item : Codec α} {as bs : List α} (h : List.Forall₂ item.Saves as bs) :
    (list item).Saves as bs where
  canonical := by
    refine Json.isCanonical_array ?_
    rw [List.forall_mem_map]
    induction h with
    | nil => simp
    | cons hab _ ih => exact List.forall_mem_cons.2 ⟨hab.canonical, ih⟩
  read?_write := by
    simp only [list, mapM_eq_some_iff]
    induction h with
    | nil => exact .nil
    | cons hab _ ih => exact .cons hab.read?_write ih

theorem isFaithful_list {item : Codec α} (hitem : item.IsFaithful) : (list item).IsFaithful where
  saves {j as} h := by
    simp only [list] at h
    split at h
    · rw [mapM_eq_some_iff] at h
      refine saves_list ?_
      induction h with
      | nil => exact .nil
      | cons hread _ ih => exact .cons (hitem.saves hread) ih
    · simp at h
  eq_null _ h := by simp [list] at h

theorem isFaithful_entries : entries.IsFaithful where
  saves {j es} h := by
    have hcanonical : (Json.object es).IsCanonical := by
      simp only [entries] at h
      split at h
      · rename_i hobject
        obtain rfl := Option.some.inj h
        rw [← hobject]
        exact Json.isCanonical_canonical j
      · simp at h
    have hread : (Json.object es).canonical = .object es := hcanonical
    exact ⟨hcanonical, by simp [entries, hread]⟩
  eq_null _ h := by simp [entries] at h

theorem saves_table {item : Codec α} {rows : Table α} (hordered : rows.IsOrdered)
    (h : ∀ row ∈ rows, item.Saves row.2 row.2) : (table item).Saves rows rows := by
  have hcanonical : ((table item).write rows).IsCanonical := by
    refine Json.isCanonical_object (hordered.map item.write) ?_
    rw [List.forall_mem_map]
    exact fun row hrow => (h row hrow).canonical
  refine ⟨hcanonical, ?_⟩
  have hread : ((table item).write rows).canonical = (table item).write rows := hcanonical
  simp only [table] at hread ⊢
  rw [hread]
  simp only [mapM_eq_some_iff, List.forall₂_map_left_iff, List.forall₂_same]
  intro row hrow
  rw [(h row hrow).read?_write]
  rfl

theorem isFaithful_table {item : Codec α} (hitem : item.IsFaithful) :
    (table item).IsFaithful where
  saves {j rows} h := by
    simp only [table] at h
    split at h
    · rename_i es hobject
      have hordered : Table.IsOrdered es :=
        (hobject ▸ Json.isCanonical_canonical j : (Json.object es).IsCanonical).isOrdered
      rw [mapM_eq_some_iff] at h
      have hkeys : Table.keys rows = Table.keys es ∧ ∀ row ∈ rows, item.Saves row.2 row.2 := by
        clear hobject hordered
        induction h with
        | nil => simp [Table.keys]
        | cons hread _ ih =>
          obtain ⟨a, ha, rfl⟩ := Option.map_eq_some_iff.1 hread
          exact ⟨congrArg₂ _ rfl ih.1, List.forall_mem_cons.2 ⟨hitem.saves ha, ih.2⟩⟩
      refine saves_table ?_ hkeys.2
      rw [Table.IsOrdered, hkeys.1]
      exact hordered
    · simp at h
  eq_null _ h := by simp [table] at h

end Codec

/-! ## Fields -/

namespace Field

variable {α : Type} {f : Field α} {name : String} {c : Codec α} {a b default : α}
  {isVoid : α → Bool}

/-- Whether a field writes `a` as one canonical entry or leaves it out, and reads `b` from
entries with what it has written. -/
structure Saves (f : Field α) (a b : α) : Prop where
  rows : f.write a = [] ∨ ∃ j, j.IsCanonical ∧ f.write a = [(f.name, j)]
  reads : ∀ e : Entries, e.get? f.name = (f.write a).lookup f.name → f.read? e = some b

/-- Whether every value that a field reads is saved as itself. -/
def IsFaithful (f : Field α) : Prop := ∀ ⦃e a⦄, f.read? e = some a → f.Saves a a

theorem saves_required (h : c.Saves a b) : (required name c).Saves a b where
  rows := .inr ⟨_, h.canonical, rfl⟩
  reads e he := by
    have hget : e.get? name = some (c.write a) := by simpa [required] using he
    simp [required, hget, h.read?_write]

theorem isFaithful_required (h : c.IsFaithful) : (required name c).IsFaithful := by
  intro e a hread
  obtain ⟨j, -, hj⟩ := Option.bind_eq_some_iff.1 hread
  exact saves_required (h.saves hj)

theorem saves_defaulted (h : c.Saves a b) : (defaulted name c default).Saves a b where
  rows := .inr ⟨_, h.canonical, rfl⟩
  reads e he := by
    have hget : e.get? name = some (c.write a) := by simpa [defaulted] using he
    simp [defaulted, hget, h.read?_write]

theorem isFaithful_defaulted (h : c.IsFaithful) (hdefault : c.Saves default default) :
    (defaulted name c default).IsFaithful := by
  intro e a hread
  simp only [defaulted] at hread
  split at hread
  · obtain rfl := Option.some.inj hread
    exact saves_defaulted hdefault
  · exact saves_defaulted (h.saves hread)

theorem saves_optional_none : (optional name c).Saves none none where
  rows := .inl rfl
  reads e he := by
    have hget : e.get? name = none := by simpa [optional] using he
    simp [optional, hget]

theorem saves_optional_some (h : c.Saves a b) (hnull : c.write a ≠ .null) :
    (optional name c).Saves (some a) (some b) where
  rows := .inr ⟨_, h.canonical, rfl⟩
  reads e he := by
    have hget : e.get? name = some (c.write a) := by simpa [optional] using he
    simp only [optional, hget, h.read?_write, Option.map_some]

/-- A value that is written as `null` is not read again. -/
theorem saves_optional_null (hnull : c.write a = .null) :
    (optional name c).Saves (some a) none where
  rows := .inr ⟨.null, rfl, by simp [optional, hnull]⟩
  reads e he := by
    have hget : e.get? name = some .null := by simpa [optional, hnull] using he
    simp [optional, hget]

theorem isFaithful_optional (h : c.IsFaithful) : (optional name c).IsFaithful := by
  intro e a hread
  simp only [optional] at hread
  split at hread
  · obtain rfl := Option.some.inj hread
    exact saves_optional_none
  · obtain rfl := Option.some.inj hread
    exact saves_optional_none
  · rename_i j hj _
    obtain ⟨x, hx, rfl⟩ := Option.map_eq_some_iff.1 hread
    exact saves_optional_some (h.saves hx) fun hnull => by simp_all [h.eq_null hx hnull]

theorem isFaithful_nullable (h : c.IsFaithful) : (nullable name c).IsFaithful := by
  intro e a hread
  have hsaves : (optional name c).Saves a a := isFaithful_optional h hread
  cases a with
  | none =>
    refine ⟨.inr ⟨.null, rfl, rfl⟩, fun e he => ?_⟩
    have hget : e.get? name = some .null := by simpa [nullable] using he
    simp [nullable, optional, hget]
  | some x => exact ⟨hsaves.rows, hsaves.reads⟩

theorem saves_unlessVoid (h : c.Saves a a) (hvoid : isVoid a → a = default) :
    (unlessVoid name c default isVoid).Saves a a := by
  by_cases hempty : isVoid a = true
  · refine ⟨.inl (by simp [unlessVoid, hempty]), fun e he => ?_⟩
    have hget : e.get? name = none := by simpa [unlessVoid, hempty] using he
    simp [unlessVoid, hget, hvoid hempty]
  · have hwrite : (unlessVoid name c default isVoid).write a = [(name, c.write a)] := by
      simp [unlessVoid, hempty]
    refine ⟨.inr ⟨_, h.canonical, hwrite⟩, fun e he => ?_⟩
    rw [hwrite] at he
    have hget : e.get? name = some (c.write a) := by simpa [unlessVoid] using he
    simp [unlessVoid, hget, h.read?_write]

theorem isFaithful_unlessVoid (h : c.IsFaithful) (hdefault : c.Saves default default)
    (hvoid : ∀ a, isVoid a → a = default) :
    (unlessVoid name c default isVoid).IsFaithful := by
  intro e a hread
  simp only [unlessVoid] at hread
  split at hread
  · obtain rfl := Option.some.inj hread
    exact saves_unlessVoid hdefault (hvoid _)
  · exact saves_unlessVoid (h.saves hread) (hvoid _)

end Field

/-! ## Records -/

/-- The name of a field with the entries that it writes. -/
abbrev FieldRows := String × List (String × Json)

/-- Whether `b` is read from entries in which every field stands as it is written. -/
structure Restores {β : Type} (read? : Entries → Option β) (written : List FieldRows) (b : β) :
    Prop where
  rows : ∀ w ∈ written, w.2 = [] ∨ ∃ j, j.IsCanonical ∧ w.2 = [(w.1, j)]
  reads : ∀ e : Entries, (∀ w ∈ written, e.get? w.1 = w.2.lookup w.1) → read? e = some b

namespace Restores

variable {α β : Type} {b : β} {written : List FieldRows}

theorem pure : Restores (fun _ => some b) [] b := ⟨by simp, fun _ _ => rfl⟩

theorem bind {read? : Entries → Option α} {k : α → Entries → Option β} {a : α}
    {front : List FieldRows} (h : Restores read? front a) (hk : Restores (k a) written b) :
    Restores (fun e => read? e >>= fun x => k x e) (front ++ written) b where
  rows w hw := (List.mem_append.1 hw).elim (h.rows w) (hk.rows w)
  reads e he := by
    have hfront : read? e = some a := h.reads e fun w hw => he w (List.mem_append_left _ hw)
    have hback : k a e = some b := hk.reads e fun w hw => he w (List.mem_append_right _ hw)
    simp [hfront, hback]

theorem field {f : Field α} {k : α → Entries → Option β} {a a' : α} (h : f.Saves a a')
    (hk : Restores (k a') written b) :
    Restores (fun e => f.read? e >>= fun x => k x e) ((f.name, f.write a) :: written) b :=
  have hfront : Restores f.read? [(f.name, f.write a)] a' :=
    ⟨by simpa using h.rows, fun e he => h.reads e (by simpa using he)⟩
  hfront.bind hk

variable {read? : Entries → Option β}

/-- What is written is an entry of one of the fields. -/
theorem exists_of_mem_rows (h : Restores read? written b) {row : String × Json}
    (hrow : row ∈ written.flatMap (·.2)) :
    ∃ w ∈ written, row.1 = w.1 ∧ w.2 = [row] ∧ row.2.IsCanonical := by
  obtain ⟨w, hw, hrow⟩ := List.mem_flatMap.1 hrow
  rcases h.rows w hw with hnil | ⟨j, hj, hone⟩
  · simp [hnil] at hrow
  · obtain rfl : row = (w.1, j) := by simpa [hone] using hrow
    exact ⟨w, hw, rfl, hone, hj⟩

theorem nodup_rows (h : Restores read? written b) (hnames : (written.map (·.1)).Nodup) :
    ((written.flatMap (·.2)).map (·.1)).Nodup := by
  refine List.Nodup.sublist ?_ hnames
  have hrows := h.rows
  clear h hnames
  induction written with
  | nil => simp
  | cons w written ih =>
    rw [List.forall_mem_cons] at hrows
    rcases hrows.1 with hnil | ⟨j, -, hone⟩
    · simpa [hnil] using (ih hrows.2).cons _
    · simpa [hone] using ih hrows.2

/-- In the table of what is written every field stands as it is written. -/
theorem get?_ofList_rows (h : Restores read? written b) (hnames : (written.map (·.1)).Nodup)
    {w : FieldRows} (hw : w ∈ written) :
    (Table.ofList (written.flatMap (·.2))).get? w.1 = w.2.lookup w.1 := by
  rcases h.rows w hw with hnil | ⟨j, -, hone⟩
  · rw [hnil, List.lookup_nil, Table.get?_ofList_eq_none]
    intro hmem
    obtain ⟨row, hrow, hname⟩ := List.mem_map.1 hmem
    obtain ⟨v, hv, hvname, hvrow, -⟩ := h.exists_of_mem_rows hrow
    have hsame : v = w := List.inj_on_of_nodup_map hnames hv hw (hvname.symm.trans hname)
    simp [hsame, hnil] at hvrow
  · have hmem : (w.1, j) ∈ written.flatMap (·.2) :=
      List.mem_flatMap.2 ⟨w, hw, by simp [hone]⟩
    rw [hone, Table.get?_ofList_of_mem (h.nodup_rows hnames) hmem]
    simp

end Restores

namespace Codec

theorem namedOnce_of_isOrdered {t : Table Json} (h : t.IsOrdered) (names : List String) :
    namedOnce names t = true := by
  have hkeys : t.keys.Nodup := List.Pairwise.imp (fun hlt => Std.ne_of_lt hlt) h
  simp only [namedOnce, List.all_eq_true, decide_eq_true_eq]
  intro name _
  have hcount : (t.countP fun e => e.1 == name) = t.keys.count name := by
    rw [Table.keys, List.count, List.countP_map]
    rfl
  rw [hcount]
  exact List.nodup_iff_count_le_one.1 hkeys name

variable {α : Type} {names : List String} {read? : Entries → Option α}
  {write : α → List (String × Json)}

/-- What is written for a record are entries of its fields. -/
theorem mem_names_of_mem_rows {b : α} {written : List FieldRows}
    (hwritten : (written.map (·.1)).Perm names) (h : Restores read? written b)
    {row : String × Json} (hrow : row ∈ written.flatMap (·.2)) : row.1 ∈ names := by
  obtain ⟨w, hw, hname, -⟩ := h.exists_of_mem_rows hrow
  rw [hname]
  exact hwritten.mem_iff.1 (List.mem_map_of_mem (f := (·.1)) hw)

/-- A record whose fields have different names is saved if its fields are. -/
theorem saves_record {a b : α} {written : List FieldRows} (hnames : names.Nodup)
    (hwritten : (written.map (·.1)).Perm names) (hwrite : write a = written.flatMap (·.2))
    (h : Restores read? written b) : (record names read? write).Saves a b := by
  have hdifferent : (written.map (·.1)).Nodup := hwritten.nodup_iff.2 hnames
  refine ⟨Json.isCanonical_ofFields fun row hrow => ?_, ?_⟩
  · rw [hwrite] at hrow
    obtain ⟨w, -, -, -, hj⟩ := h.exists_of_mem_rows hrow
    exact hj
  · have hread : read? (Table.ofList (write a)) = some b := by
      rw [hwrite]
      exact h.reads _ fun w hw => h.get?_ofList_rows hdifferent hw
    have honce := namedOnce_of_isOrdered (Table.isOrdered_ofList (write a)) names
    simp [record, Json.ofFields, honce, hread]

theorem exists_of_record_read? {j : Json} {a : α}
    (h : (record names read? write).read? j = some a) :
    ∃ e, j = .object e ∧ read? e = some a := by
  simp only [record] at h
  split at h
  · split at h
    · exact ⟨_, rfl, h⟩
    · cases h
  · cases h

theorem isFaithful_record
    (h : ∀ e a, read? e = some a → (record names read? write).Saves a a) :
    (record names read? write).IsFaithful where
  saves hread := by
    obtain ⟨e, -, hfields⟩ := exists_of_record_read? hread
    exact h e _ hfields
  eq_null _ hnull := by simp [record, Json.ofFields] at hnull

end Codec

end TypedGraph
