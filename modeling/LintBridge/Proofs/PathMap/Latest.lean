/-
# The last entry of a path

Entries that come one after the other may be about the same path, under one spelling or several.

* `about p l`: the entries of a path, in order.
* `latest p l`: the value of the last of them.
* `Distinct l`: no path has two entries.
* `latest_entries`: in a map, where the entries are distinct, the latest value is the one the map
  has.
* `PathMap.eq_of_find?`: maps whose keys have their plainest spelling are equal if the same is found
  in them.
-/
import LintBridge.PathMap
import LintBridge.Proofs.Path.Spelling
import Mathlib.Data.List.Sort
import Mathlib.Tactic.Common

namespace LintBridge

variable {α : Type} {p q : Path} {l l' : List (Path × α)} {e : Path × α}

/-- The entries of a path, under any spelling of it. -/
def about (p : Path) (l : List (Path × α)) : List (Path × α) := l.filter fun e => e.1.Same p

/-- The value of the last entry of a path. -/
def latest (p : Path) (l : List (Path × α)) : Option α := (about p l).getLast?.map Prod.snd

lemma mem_about : e ∈ about p l ↔ e ∈ l ∧ e.1.Same p := by
  simp [about]

@[simp] lemma about_append : about p (l ++ l') = about p l ++ about p l' :=
  List.filter_append ..

lemma about_eq_nil_iff : about p l = [] ↔ ∀ e ∈ l, ¬e.1.Same p := by
  simp [about, List.filter_eq_nil_iff]

/-- Later entries win. -/
lemma latest_append : latest p (l ++ l') = (latest p l').or (latest p l) := by
  rw [latest, latest, latest, about_append, List.getLast?_append, Option.map_or]

lemma latest_eq_none_iff : latest p l = none ↔ ∀ e ∈ l, ¬e.1.Same p := by
  rw [latest, Option.map_eq_none_iff, List.getLast?_eq_none_iff, about_eq_nil_iff]

lemma latest_append_of_about_eq_nil (h : about p l' = []) : latest p (l ++ l') = latest p l := by
  rw [latest, latest, about_append, h, List.append_nil]

/-- Whether one of the paths is a spelling of `p`. -/
def spelled (p : Path) (ps : List Path) : Bool := ps.any fun q => q.Same p

lemma spelled_iff {ps : List Path} : spelled p ps = true ↔ ∃ q ∈ ps, q.Same p := by
  simp [spelled]

lemma spelled_of_mem {ps : List Path} (h : p ∈ ps) : spelled p ps = true :=
  spelled_iff.2 ⟨p, h, .refl p⟩

/-- Choosing paths by what does not depend on their spelling. -/
lemma spelled_filter {f : Path → Bool} (hf : ∀ q, q.Same p → f q = f p) (ps : List Path) :
    spelled p (ps.filter f) = (spelled p ps && f p) := by
  rw [Bool.eq_iff_iff, Bool.and_eq_true, spelled_iff, spelled_iff]
  simp only [List.mem_filter]
  constructor
  · rintro ⟨q, ⟨hq, hfq⟩, hs⟩
    exact ⟨⟨q, hq, hs⟩, hf q hs ▸ hfq⟩
  · rintro ⟨⟨q, hq, hs⟩, hfp⟩
    exact ⟨q, ⟨hq, (hf q hs).trans hfp⟩, hs⟩

/-- Entries that all have the same value. -/
lemma latest_map_const {ps : List Path} {x : α} :
    latest p (ps.map fun q => (q, x)) = if spelled p ps = true then some x else none := by
  split
  next h =>
    obtain ⟨q, hq, hs⟩ := spelled_iff.1 h
    have hne : latest p (ps.map fun q => (q, x)) ≠ none := by
      rw [Ne, latest_eq_none_iff]
      exact fun hall => hall (q, x) (List.mem_map.2 ⟨q, hq, rfl⟩) hs
    obtain ⟨y, hy⟩ := Option.ne_none_iff_exists'.1 hne
    obtain ⟨e, he, rfl⟩ := Option.map_eq_some_iff.1 hy
    obtain ⟨r, -, rfl⟩ := List.mem_map.1 (mem_about.1 (List.mem_of_getLast? he)).1
    exact hy
  next h =>
    rw [latest_eq_none_iff]
    intro e he hs
    obtain ⟨q, hq, rfl⟩ := List.mem_map.1 he
    exact h (spelled_iff.2 ⟨q, hq, hs⟩)

/-- Lists in path order that have the same members are equal. -/
lemma eq_of_increasing {β : Type} (f : β → Path) {l l' : List β}
    (h : l.Pairwise fun a b => (f a).order (f b) = .lt)
    (h' : l'.Pairwise fun a b => (f a).order (f b) = .lt) (hmem : ∀ x, x ∈ l ↔ x ∈ l') :
    l = l' := by
  have : Std.Irrefl fun a b => (f a).order (f b) = .lt := ⟨fun a ha => by simp at ha⟩
  have : Std.Antisymm fun a b => (f a).order (f b) = .lt :=
    ⟨fun a b hab hba => absurd (Path.order_trans hab hba) (by simp)⟩
  exact h.eq_of_mem_iff h' hmem

/-! ## Distinct entries -/

/-- No path has two entries. -/
def Distinct (l : List (Path × α)) : Prop := l.Pairwise fun a b => ¬a.1.Same b.1

/-- Entries in path order are distinct. -/
lemma Ordered.distinct (h : Ordered l) : Distinct l := h.imp Path.not_same_of_order_lt

/-- Among distinct entries, one of a path is the only one. -/
lemma about_eq_singleton (h : Distinct l) (he : e ∈ l) (hs : e.1.Same p) : about p l = [e] := by
  induction l with
  | nil => exact absurd he List.not_mem_nil
  | cons x rest ih =>
    obtain ⟨hx, hrest⟩ := List.pairwise_cons.1 h
    rcases List.mem_cons.1 he with rfl | he
    · have hnil : about p rest = [] :=
        about_eq_nil_iff.2 fun y hy hy' => hx y hy (hs.trans hy'.symm)
      rw [about, List.filter_cons_of_pos (by simpa using hs)]
      exact congrArg _ hnil
    · have hne : ¬x.1.Same p := fun h' => hx e he (h'.trans hs.symm)
      rw [about, List.filter_cons_of_neg (by simpa using hne)]
      exact ih hrest he

lemma about_length_le_one (h : Distinct l) : (about p l).length ≤ 1 := by
  rcases hl : about p l with _ | ⟨e, rest⟩
  · simp
  · obtain ⟨he, hs⟩ := mem_about.1 (hl ▸ List.mem_cons_self : e ∈ about p l)
    rw [← hl, about_eq_singleton h he hs]
    simp

lemma latest_of_mem (h : Distinct l) (he : e ∈ l) (hs : e.1.Same p) : latest p l = some e.2 := by
  rw [latest, about_eq_singleton h he hs]
  rfl

/-- Among distinct entries, choosing some of them keeps the value of those and no other. -/
lemma latest_filter (h : Distinct l) (f : Path × α → Bool) (g : α → Bool)
    (hf : ∀ e ∈ l, e.1.Same p → f e = g e.2) :
    latest p (l.filter f) = (latest p l).filter g := by
  have hcomm : about p (l.filter f) = (about p l).filter f := by
    simp only [about, List.filter_filter, Bool.and_comm]
  rcases hl : about p l with _ | ⟨e, rest⟩
  · simp [latest, hcomm, hl]
  · obtain ⟨he, hs⟩ := mem_about.1 (hl ▸ List.mem_cons_self : e ∈ about p l)
    rw [latest, latest, hcomm, about_eq_singleton h he hs]
    have hfe := hf e he hs
    by_cases hg : g e.2 = true
    · simp [hfe, hg, Option.filter_some]
    · simp [hfe, hg, Option.filter_some]

namespace PathMap

/-- Looking up finds the first entry of a path. -/
lemma lookup_eq_head? (l : List (Path × α)) : lookup p l = (about p l).head?.map Prod.snd := by
  induction l with
  | nil => rfl
  | cons x rest ih =>
    obtain ⟨q, v⟩ := x
    by_cases h : q.Same p
    · rw [lookup, if_pos (Path.order_eq_iff.2 h.symm), about,
        List.filter_cons_of_pos (by simpa using h)]
      rfl
    · rw [lookup, if_neg fun h' => h (Path.order_eq_iff.1 h').symm, ih, about, about,
        List.filter_cons_of_neg (by simpa using h)]

/-- The value a map has at a path is that of the only entry of the path. -/
lemma latest_entries (m : PathMap α) : latest p m.entries = m.find? p := by
  rw [find?, lookup_eq_head?]
  rcases hl : about p m.entries with _ | ⟨e, rest⟩
  · simp [latest, hl]
  · obtain ⟨he, hs⟩ := mem_about.1 (hl ▸ List.mem_cons_self : e ∈ about p m.entries)
    have hsingle := about_eq_singleton m.ordered.distinct he hs
    rw [latest, ← hl, hsingle]
    rfl

lemma find?_of_mem {m : PathMap α} (he : e ∈ m.entries) (hs : e.1.Same p) :
    m.find? p = some e.2 := by
  rw [← latest_entries, latest_of_mem m.ordered.distinct he hs]

lemma mem_of_find? {m : PathMap α} {v : α} (h : m.find? p = some v) :
    ∃ q, (q, v) ∈ m.entries ∧ q.Same p := by
  rw [← latest_entries] at h
  obtain ⟨e, he, rfl⟩ := Option.map_eq_some_iff.1 h
  obtain ⟨hmem, hs⟩ := mem_about.1 (List.mem_of_getLast? he)
  exact ⟨e.1, hmem, hs⟩

/-- A map has a path if and only if one of its keys is a spelling of it. -/
lemma contains_eq_spelled (m : PathMap α) (p : Path) : m.contains p = spelled p m.keys := by
  rw [Bool.eq_iff_iff, spelled_iff]
  constructor
  · intro h
    obtain ⟨q, hq, hs⟩ := exists_key h
    exact ⟨q, hq, hs.symm⟩
  · rintro ⟨q, hq, hs⟩
    obtain ⟨e, he, rfl⟩ := List.mem_map.1 hq
    rw [contains, find?_of_mem he hs]
    rfl

lemma contains_of_mem {m : PathMap α} (he : e ∈ m.entries) : m.contains e.1 = true := by
  rw [contains_eq_spelled]
  exact spelled_of_mem (List.mem_map_of_mem he)

lemma contains_of_find? {m : PathMap α} {v : α} (h : m.find? p = some v) :
    m.contains p = true := by
  rw [contains, h]
  rfl

lemma contains_eq_false_iff {m : PathMap α} : m.contains p = false ↔ m.find? p = none := by
  rw [contains, Option.isSome_eq_false_iff, Option.isNone_iff_eq_none]

lemma contains_same {m : PathMap α} (h : p.Same q) : m.contains p = m.contains q := by
  rw [contains, contains, find?_same h]

lemma contains_of_mem_keys {m : PathMap α} (h : p ∈ m.keys) : m.contains p = true := by
  rw [contains_eq_spelled]
  exact spelled_of_mem h

lemma lookup_of_lt (h : ∀ e ∈ l, p.order e.1 = .lt) : lookup p l = none := by
  induction l with
  | nil => rfl
  | cons x rest ih =>
    obtain ⟨q, v⟩ := x
    have hlt : p.order q = .lt := h (q, v) List.mem_cons_self
    rw [lookup, hlt, if_neg (by decide)]
    exact ih fun e he => h e (List.mem_cons_of_mem _ he)

lemma mem_keys_upsertList (f : Option α → α) (h : Ordered l) :
    q ∈ (upsertList p f l).map Prod.fst ↔ q ∈ l.map Prod.fst ∨ (q = p ∧ lookup p l = none) := by
  induction l with
  | nil => simp [upsertList, lookup]
  | cons x rest ih =>
    obtain ⟨r, v⟩ := x
    obtain ⟨hr, hrest⟩ := List.pairwise_cons.1 h
    rw [upsertList, lookup]
    split
    next hlt =>
      have hnone : lookup p rest = none :=
        lookup_of_lt fun e he => Path.order_trans hlt (hr e he)
      simp [hlt, hnone, or_comm]
    next heq => simp [heq]
    next hgt => simp [hgt, ih hrest, or_assoc]

/-- A path that the map has not yet becomes a key as it is spelled; the other keys stay. -/
lemma mem_keys_insert {m : PathMap α} {v : α} :
    q ∈ (m.insert p v).keys ↔ q ∈ m.keys ∨ (q = p ∧ m.contains p = false) := by
  rw [contains_eq_false_iff]
  exact mem_keys_upsertList _ m.ordered

/-- The keys come in path order. -/
lemma increasing_keys (m : PathMap α) : m.keys.Pairwise fun p q => p.order q = .lt := by
  rw [keys, List.pairwise_map]
  exact m.ordered

/-! ### Keys in their plainest spelling -/

variable {m m' : PathMap α}

/-- What is found under the plainest spelling of a path is entered under it. -/
lemma mem_entries_of_find? {v : α} (h : ∀ e ∈ m.entries, e.1.Plain) (hp : p.Plain)
    (hfound : m.find? p = some v) : (p, v) ∈ m.entries := by
  obtain ⟨q, hq, hs⟩ := mem_of_find? hfound
  obtain rfl : q = p := (h (q, v) hq).eq_of_same hp hs
  exact hq

lemma mem_entries_of_eq_find? (h : ∀ e ∈ m.entries, e.1.Plain) (h' : ∀ e ∈ m'.entries, e.1.Plain)
    (hfind : ∀ p, m.find? p = m'.find? p) (he : e ∈ m.entries) : e ∈ m'.entries :=
  mem_entries_of_find? h' (h e he) ((hfind e.1).symm.trans (find?_of_mem he (.refl e.1)))

/-- Maps whose keys have their plainest spelling are equal if the same is found in them. -/
theorem eq_of_find? (h : ∀ e ∈ m.entries, e.1.Plain) (h' : ∀ e ∈ m'.entries, e.1.Plain)
    (hfind : ∀ p, m.find? p = m'.find? p) : m = m' := by
  have hentries : m.entries = m'.entries := by
    refine eq_of_increasing Prod.fst m.ordered m'.ordered fun e => ⟨?_, ?_⟩
    · exact mem_entries_of_eq_find? h h' hfind
    · exact mem_entries_of_eq_find? h' h fun p => (hfind p).symm
  cases m
  cases m'
  cases hentries
  rfl

end PathMap

end LintBridge
