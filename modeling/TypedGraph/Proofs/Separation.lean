import TypedGraph.Mapping.Basic
import TypedGraph.Proofs.Places
import Mathlib.Data.Set.Defs

/-!
# Telling shapes apart

The tokens of a payload are put into one text without anything between them. Read from its
beginning, this text gives back the tokens if no path has a colon and if no text that
describes a leaf begins another one, as none of the kinds of values does. Then the text
tells the tokens, and a mapping takes no payload of another shape for one of its own
(`separates_of_isPlain`).

Keys with colons, and values in the place of kinds, are texts of any form, and some of them
imitate the end of one token and the beginning of the next. So there are payloads that
differ in the one field that is described by its value and have one fingerprint
(`not_separates`).
-/
namespace TypedGraph.Shape

open Digest (Collide)

/-- The words for the kinds of values. -/
def kinds : List String := ["string", "number", "boolean", "list", "object"]

theorem kind_mem_kinds (value : Json) : kind value ∈ kinds := by
  cases value <;> simp [kind, kinds]

/-- Words of which none begins another one, the kinds of values among them. -/
structure IsPrefixCode (words : Set String) : Prop where
  kinds_subset : ∀ w ∈ kinds, w ∈ words
  eq_of_prefix : ∀ v ∈ words, ∀ w ∈ words, v.toList <+: w.toList → v = w

/-- The kinds of values are a prefix code, so leaves may be described by them. -/
theorem isPrefixCode_kinds : IsPrefixCode {w | w ∈ kinds} where
  kinds_subset _ h := h
  eq_of_prefix := by
    have h : ∀ v ∈ kinds, ∀ w ∈ kinds, v.toList <+: w.toList → v = w := by decide
    exact h

/-- Whether a token is a path without colons and a word. -/
def ReadsAs (words : Set String) (token : String) : Prop :=
  ∃ path word, ':' ∉ path.toList ∧ word ∈ words ∧ token = path ++ ":" ++ word

/-- Whether the paths of a payload have no colons, and the leaves that are described by their
texts have words for texts. -/
def IsPlain (options : ShapeOptions) (words : Set String) (payload : Json) : Prop :=
  ∀ p ∈ placesBelow options.stopNodes "" payload, ':' ∉ p.path.toList ∧
    (p.key ∈ options.valueNodes → IsLeaf p.value → p.value.display ∈ words)

variable {options : ShapeOptions} {words : Set String} {a b payload : Json}

theorem sortedTokens_ne_of_mem {t : String} (ha : t ∈ tokens options a)
    (hb : t ∉ tokens options b) : sortedTokens options a ≠ sortedTokens options b := by
  intro h
  rw [← (sortedTokens_perm options b).mem_iff, ← h, (sortedTokens_perm options a).mem_iff] at hb
  exact hb ha

theorem readsAs_leafToken (code : IsPrefixCode words) {path key : String} {leaf : Json}
    (hpath : ':' ∉ path.toList) (text : key ∈ options.valueNodes → leaf.display ∈ words) :
    ReadsAs words (leafToken options path key leaf) := by
  unfold leafToken
  by_cases h : key ∈ options.valueNodes
  · exact ⟨path, leaf.display, hpath, text h, by simp [h]⟩
  · exact ⟨path, kind leaf, hpath, code.kinds_subset _ (kind_mem_kinds leaf), by simp [h]⟩

theorem readsAs_of_mem_place (code : IsPrefixCode words) {p : Place}
    (hpath : ':' ∉ p.path.toList)
    (text : p.key ∈ options.valueNodes → IsLeaf p.value → p.value.display ∈ words) :
    ∀ token ∈ p.tokens options, ReadsAs words token := by
  obtain ⟨path, key, value⟩ := p
  intro token h
  cases value with
  | object entries =>
    cases entries with
    | cons entry rest => simp [Place.tokens] at h
    | nil =>
      rw [List.mem_singleton.1 h]
      exact readsAs_leafToken code hpath fun hkey => text hkey trivial
  | array items =>
    rw [List.mem_singleton.1 h]
    exact ⟨path, "list", hpath, code.kinds_subset _ (kind_mem_kinds (.array items)),
      by simp [String.append_assoc]⟩
  | _ =>
    rw [List.mem_singleton.1 h]
    exact readsAs_leafToken code hpath fun hkey => text hkey trivial

theorem readsAs_of_mem_headTokens (code : IsPrefixCode words) :
    ∀ token ∈ headTokens payload, ReadsAs words token := by
  intro token h
  have hhead : ReadsAs words (":" ++ kind payload) :=
    ⟨"", kind payload, by simp, code.kinds_subset _ (kind_mem_kinds payload), by simp⟩
  cases payload with
  | object entries => simp [headTokens] at h
  | _ =>
    rw [List.mem_singleton.1 h]
    exact hhead

/-- Every token of a plain payload is a path without colons and a word. -/
theorem readsAs_of_mem_sortedTokens (code : IsPrefixCode words)
    (plain : IsPlain options words payload) :
    ∀ token ∈ sortedTokens options payload, ReadsAs words token := by
  intro token h
  rw [(sortedTokens_perm options payload).mem_iff, tokens_eq, List.mem_append] at h
  rcases h with h | h
  · exact readsAs_of_mem_headTokens code token h
  · obtain ⟨p, hp, h⟩ := List.mem_flatMap.1 h
    obtain ⟨hpath, text⟩ := plain p hp
    exact readsAs_of_mem_place code hpath text token h

/-- The first colon of a text tells where a path without colons ends. -/
theorem append_colon_inj {p q x y : List Char} (hp : ':' ∉ p) (hq : ':' ∉ q)
    (h : p ++ ':' :: x = q ++ ':' :: y) : p = q ∧ x = y := by
  have front (r z : List Char) (hr : ':' ∉ r) : (r ++ ':' :: z).takeWhile (· ≠ ':') = r := by
    rw [List.takeWhile_append_of_pos fun c hc => by simpa using ne_of_mem_of_not_mem hc hr]
    simp
  have hpq : p = q := by rw [← front p x hp, ← front q y hq, h]
  subst hpq
  exact ⟨rfl, by simpa using h⟩

/-- A text begins with one token at most: the colon ends its path, and no other word begins
where its word does. -/
theorem ReadsAs.append_inj (code : IsPrefixCode words) {t u : String} (ht : ReadsAs words t)
    (hu : ReadsAs words u) {x y : List Char} (h : t.toList ++ x = u.toList ++ y) :
    t = u ∧ x = y := by
  obtain ⟨path, word, hpath, hword, rfl⟩ := ht
  obtain ⟨path', word', hpath', hword', rfl⟩ := hu
  have hcolon : path.toList ++ ':' :: (word.toList ++ x) =
      path'.toList ++ ':' :: (word'.toList ++ y) := by
    simpa using h
  obtain ⟨hpaths, hrest⟩ := append_colon_inj hpath hpath' hcolon
  have hwords : word = word' := by
    have hbegin : word.toList <+: word'.toList ++ y := hrest ▸ List.prefix_append _ _
    rcases List.prefix_or_prefix_of_prefix hbegin (List.prefix_append _ _) with h | h
    · exact code.eq_of_prefix word hword word' hword' h
    · exact (code.eq_of_prefix word' hword' word hword h).symm
  subst hwords
  exact ⟨by rw [String.toList_injective hpaths], List.append_cancel_left hrest⟩

theorem ReadsAs.toList_ne_nil {t : String} (ht : ReadsAs words t) : t.toList ≠ [] := by
  obtain ⟨path, word, -, -, rfl⟩ := ht
  simp

/-- Tokens are read back from the text that they make up. -/
theorem eq_of_join_eq (code : IsPrefixCode words) {ts us : List String}
    (ht : ∀ t ∈ ts, ReadsAs words t) (hu : ∀ u ∈ us, ReadsAs words u)
    (h : String.join ts = String.join us) : ts = us := by
  have hchars : ts.flatMap String.toList = us.flatMap String.toList := by
    rw [← String.toList_join, ← String.toList_join, h]
  clear h
  induction ts generalizing us with
  | nil =>
    cases us with
    | nil => rfl
    | cons u us =>
      have hne := (hu u (by simp)).toList_ne_nil
      simp_all
  | cons t ts ih =>
    cases us with
    | nil =>
      have hne := (ht t (by simp)).toList_ne_nil
      simp_all
    | cons u us =>
      simp only [List.flatMap_cons] at hchars
      obtain ⟨rfl, hrest⟩ := (ht t (by simp)).append_inj code (hu u (by simp)) hchars
      rw [ih (fun t h => ht t (by simp [h])) (fun u h => hu u (by simp [h])) hrest]

/-- The texts of plain payloads tell their tokens. -/
theorem digestText_eq_iff_of_isPlain (code : IsPrefixCode words) (ha : IsPlain options words a)
    (hb : IsPlain options words b) :
    digestText options a = digestText options b ↔
      sortedTokens options a = sortedTokens options b := by
  constructor
  · intro h
    exact eq_of_join_eq code (readsAs_of_mem_sortedTokens code ha)
      (readsAs_of_mem_sortedTokens code hb) h
  · intro h
    rw [digestText_eq, digestText_eq, h]

/-- If no leaf is described by its text, it is enough that the paths have no colons. -/
theorem digestText_eq_iff_of_noColons (hoptions : options.valueNodes = [])
    (ha : ∀ p ∈ placesBelow options.stopNodes "" a, ':' ∉ p.path.toList)
    (hb : ∀ p ∈ placesBelow options.stopNodes "" b, ':' ∉ p.path.toList) :
    digestText options a = digestText options b ↔
      sortedTokens options a = sortedTokens options b := by
  apply digestText_eq_iff_of_isPlain isPrefixCode_kinds
  · intro p hp
    exact ⟨ha p hp, by simp [hoptions]⟩
  · intro p hp
    exact ⟨hb p hp, by simp [hoptions]⟩

/-- The fingerprints of plain payloads tell their tokens, unless they collide, and a mapping for
the shape of the one fits the other only then. -/
theorem separates_of_isPlain (code : IsPrefixCode words) (ha : IsPlain options words a)
    (hb : IsPlain options words b) :
    (digestBytes options a = digestBytes options b ↔
      sortedTokens options a = sortedTokens options b) ∧
    (fingerprint options a = fingerprint options b ↔
      sortedTokens options a = sortedTokens options b ∨
        Collide (digestBytes options a) (digestBytes options b)) ∧
    ∀ m : TypeMapping, m.shapeOptions.getD {} = options → m.shapeHash = fingerprint options a →
      (m.fits b = true ↔ m.active = true ∧ (sortedTokens options a = sortedTokens options b ∨
        Collide (digestBytes options a) (digestBytes options b))) := by
  have htext := digestText_eq_iff_of_isPlain code ha hb
  have hprint : fingerprint options a = fingerprint options b ↔
      sortedTokens options a = sortedTokens options b ∨
        Collide (digestBytes options a) (digestBytes options b) := by
    rw [fingerprint_eq_iff, htext]
  refine ⟨digestBytes_eq_iff.trans htext, hprint, ?_⟩
  intro m hoptions hhash
  rw [TypeMapping.fits, TypeMapping.fingerprint, hoptions, hhash, Bool.and_eq_true, beq_iff_eq,
    ← hprint, eq_comm (a := fingerprint options b)]

namespace Sample

/-- The kinds of values and two types of documents. -/
def documentWords : List String :=
  ["string", "number", "boolean", "list", "object", "order", "invoice"]

theorem isPrefixCode_documentWords : IsPrefixCode {w | w ∈ documentWords} where
  kinds_subset := by
    have h : ∀ w ∈ kinds, w ∈ documentWords := by decide
    exact h
  eq_of_prefix := by
    have h : ∀ v ∈ documentWords, ∀ w ∈ documentWords, v.toList <+: w.toList → v = w := by decide
    exact h

/-- A document with the keys of an order. -/
def invoice : Json := .object
  [("id", .int 7), ("parts", .array [.object [("note", .null), ("sku", .string "c")]]),
    ("secret", .null), ("tags", .array []), ("type", .string "invoice")]

theorem isPlain_of_forall {payload : Json}
    (h : ∀ p ∈ placesBelow apart.stopNodes "" payload, ':' ∉ p.path.toList ∧
      (p.key ∈ apart.valueNodes → p.value.display ∈ documentWords)) :
    IsPlain apart {w | w ∈ documentWords} payload :=
  fun p hp => ⟨(h p hp).1, fun hkey _ => (h p hp).2 hkey⟩

end Sample

/-- An order and an invoice are told apart by their types. -/
theorem separates_of_isPlain_sample :
    IsPrefixCode {w | w ∈ Sample.documentWords} ∧
      IsPlain Sample.apart {w | w ∈ Sample.documentWords} Sample.order ∧
      IsPlain Sample.apart {w | w ∈ Sample.documentWords} Sample.invoice ∧
      digestBytes Sample.apart Sample.order ≠ digestBytes Sample.apart Sample.invoice := by
  have horder : IsPlain Sample.apart {w | w ∈ Sample.documentWords} Sample.order :=
    Sample.isPlain_of_forall (by decide +kernel)
  have hinvoice : IsPlain Sample.apart {w | w ∈ Sample.documentWords} Sample.invoice :=
    Sample.isPlain_of_forall (by decide +kernel)
  refine ⟨Sample.isPrefixCode_documentWords, horder, hinvoice, ?_⟩
  rw [ne_eq, (separates_of_isPlain Sample.isPrefixCode_documentWords horder hinvoice).1]
  exact sortedTokens_ne_of_mem (t := "type:order") (by decide +kernel) (by decide +kernel)

namespace Sample

/-- Options that describe one key by its text. -/
def byKey : ShapeOptions := { valueNodes := ["k"] }

/-- A payload with a text for which the key is described. -/
def imitating (text : String) : Json := .object [("k", .string text), ("k:numberk:zk", .int 1)]

end Sample

/-- Payloads of different shapes may make up one text: here `k:number` and `k:z` change places
around a key that is made of both. -/
theorem not_separates : ¬ ∀ options a b,
    sortedTokens options a ≠ sortedTokens options b →
      digestBytes options a ≠ digestBytes options b := by
  intro h
  refine h Sample.byKey (Sample.imitating "numberk:z") (Sample.imitating "zk:number")
    (sortedTokens_ne_of_mem (t := "k:numberk:z") (by decide +kernel) (by decide +kernel)) ?_
  have ha : ["k:numberk:z", "k:numberk:zk:number"] =
      sortedTokens Sample.byKey (Sample.imitating "numberk:z") :=
    eq_sortedTokens (by decide +kernel) (by decide +kernel)
  have hb : ["k:numberk:zk:number", "k:zk:number"] =
      sortedTokens Sample.byKey (Sample.imitating "zk:number") :=
    eq_sortedTokens (by decide +kernel) (by decide +kernel)
  rw [digestBytes_eq_iff, digestText_eq, digestText_eq, ← ha, ← hb]
  decide +kernel

end TypedGraph.Shape
