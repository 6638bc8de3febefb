/-
# Maps keyed by paths

A finite map whose keys are paths, two spellings of one component list being one key.  The entries
are kept in path order, and a key keeps the spelling it was first entered with.

* `PathMap.find?`: look a path up under any spelling.
* `PathMap.upsert`: change the value at a path, entering the path if it is new.
* `PathMap.find?_upsert`: what is found afterwards.
-/
import LintBridge.Path.Order

namespace LintBridge

/-- Every entry comes before all entries that follow it. -/
def Ordered {α : Type} (entries : List (Path × α)) : Prop :=
  entries.Pairwise fun a b => a.1.order b.1 = .lt

/-- A finite map from paths, ordered by path. -/
structure PathMap (α : Type) where
  /-- The entries, in path order. -/
  entries : List (Path × α)
  /-- The keys are strictly increasing. -/
  ordered : Ordered entries := by exact List.Pairwise.nil

namespace PathMap

variable {α : Type}

instance [DecidableEq α] : DecidableEq (PathMap α) := fun a b =>
  if h : a.entries = b.entries then
    isTrue (by cases a; cases b; cases h; rfl)
  else isFalse fun e => h (e ▸ rfl)

/-- The map without entries. -/
def empty : PathMap α := { entries := [] }

instance : Inhabited (PathMap α) := ⟨empty⟩

/-- The number of keys. -/
def size (m : PathMap α) : Nat := m.entries.length

/-- The value of the first entry whose key has the components of `p`. -/
def lookup (p : Path) : List (Path × α) → Option α
  | [] => none
  | (q, v) :: rest => if p.order q = .eq then some v else lookup p rest

/-- The value at a path, under any spelling of it. -/
def find? (m : PathMap α) (p : Path) : Option α := lookup p m.entries

/-- Whether the map has a path, under any spelling of it. -/
def contains (m : PathMap α) (p : Path) : Bool := (m.find? p).isSome

/-- Change the value at `p` in a list of entries in path order. -/
def upsertList (p : Path) (f : Option α → α) : List (Path × α) → List (Path × α)
  | [] => [(p, f none)]
  | (q, v) :: rest =>
    match p.order q with
    | .lt => (p, f none) :: (q, v) :: rest
    | .eq => (q, f (some v)) :: rest
    | .gt => (q, v) :: upsertList p f rest

theorem mem_upsertList {p : Path} {f : Option α → α} {l : List (Path × α)} {e : Path × α}
    (h : e ∈ upsertList p f l) : e.1 = p ∨ ∃ e' ∈ l, e'.1 = e.1 := by
  induction l with
  | nil =>
    simp only [upsertList, List.mem_singleton] at h
    exact .inl (by rw [h])
  | cons x rest ih =>
    obtain ⟨q, v⟩ := x
    simp only [upsertList] at h
    split at h
    · simp only [List.mem_cons] at h
      rcases h with rfl | rfl | h
      · exact .inl rfl
      · exact .inr ⟨_, List.mem_cons_self, rfl⟩
      · exact .inr ⟨e, List.mem_cons_of_mem _ h, rfl⟩
    · simp only [List.mem_cons] at h
      rcases h with rfl | h
      · exact .inr ⟨_, List.mem_cons_self, rfl⟩
      · exact .inr ⟨e, List.mem_cons_of_mem _ h, rfl⟩
    · simp only [List.mem_cons] at h
      rcases h with rfl | h
      · exact .inr ⟨_, List.mem_cons_self, rfl⟩
      · rcases ih h with h | ⟨e', he, h⟩
        · exact .inl h
        · exact .inr ⟨e', List.mem_cons_of_mem _ he, h⟩

theorem ordered_upsertList {p : Path} {f : Option α → α} {l : List (Path × α)} (h : Ordered l) :
    Ordered (upsertList p f l) := by
  induction l with
  | nil => exact List.pairwise_singleton _ _
  | cons x rest ih =>
    obtain ⟨q, v⟩ := x
    obtain ⟨hq, hrest⟩ := List.pairwise_cons.1 h
    simp only [upsertList]
    split
    next hlt =>
      refine List.pairwise_cons.2 ⟨fun e he => ?_, h⟩
      rcases List.mem_cons.1 he with rfl | he
      · exact hlt
      · exact Path.order_trans hlt (hq e he)
    next => exact List.pairwise_cons.2 ⟨hq, hrest⟩
    next hgt =>
      refine List.pairwise_cons.2 ⟨fun e he => ?_, ih hrest⟩
      rcases mem_upsertList he with h' | ⟨e', he', h'⟩
      · exact h' ▸ Path.order_gt_iff.1 hgt
      · exact h' ▸ hq e' he'

/-- Change the value at `p`, entering `p` as it is spelled if it is new. -/
def upsert (m : PathMap α) (p : Path) (f : Option α → α) : PathMap α where
  entries := upsertList p f m.entries
  ordered := ordered_upsertList m.ordered

/-- Set the value at `p`; an earlier spelling of `p` stays. -/
def insert (m : PathMap α) (p : Path) (v : α) : PathMap α := m.upsert p fun _ => v

/-- The keys in path order, as they were first spelled. -/
def keys (m : PathMap α) : List Path := m.entries.map Prod.fst

/-- The values in path order. -/
def values (m : PathMap α) : List α := m.entries.map Prod.snd

@[simp] theorem find?_empty (p : Path) : (empty : PathMap α).find? p = none := rfl

theorem lookup_same {p q : Path} (h : p.Same q) (l : List (Path × α)) :
    lookup p l = lookup q l := by
  induction l with
  | nil => rfl
  | cons x rest ih =>
    obtain ⟨r, v⟩ := x
    simp only [lookup, h.order_left, ih]

/-- Looking up does not depend on the spelling. -/
theorem find?_same {p q : Path} (h : p.Same q) (m : PathMap α) : m.find? p = m.find? q :=
  lookup_same h m.entries

/-- A path the map has is a spelling of one of its keys. -/
theorem exists_key {m : PathMap α} {p : Path} (h : m.contains p = true) :
    ∃ q ∈ m.keys, p.Same q := by
  have key (l : List (Path × α)) (h : (lookup p l).isSome = true) :
      ∃ q ∈ l.map Prod.fst, p.Same q := by
    induction l with
    | nil => simp [lookup] at h
    | cons x rest ih =>
      obtain ⟨r, v⟩ := x
      simp only [lookup] at h
      split at h
      next heq => exact ⟨r, List.mem_cons_self, Path.order_eq_iff.1 heq⟩
      next =>
        obtain ⟨q, hq, hs⟩ := ih h
        exact ⟨q, List.mem_cons_of_mem _ hq, hs⟩
  exact key m.entries h

theorem lookup_upsertList_same {p q : Path} (h : p.Same q) (f : Option α → α)
    {l : List (Path × α)} (hl : Ordered l) :
    lookup q (upsertList p f l) = some (f (lookup p l)) := by
  rw [lookup_same h.symm]
  induction l with
  | nil => simp [upsertList, lookup]
  | cons x rest ih =>
    obtain ⟨r, v⟩ := x
    obtain ⟨hr, hrest⟩ := List.pairwise_cons.1 hl
    simp only [upsertList, lookup]
    split
    next hlt =>
      have hnone : lookup p rest = none := by
        clear ih hl hrest
        induction rest with
        | nil => rfl
        | cons y ys ih =>
          obtain ⟨s, w⟩ := y
          have hs : p.order s = .lt := Path.order_trans hlt (hr (s, w) List.mem_cons_self)
          simp only [lookup, hs]
          exact ih fun e he => hr e (List.mem_cons_of_mem _ he)
      simp [lookup, hlt, hnone]
    next heq => simp [lookup, heq]
    next hgt => simp [lookup, hgt, ih hrest]

theorem lookup_upsertList_ne {p q : Path} (h : ¬p.Same q) (f : Option α → α)
    (l : List (Path × α)) : lookup q (upsertList p f l) = lookup q l := by
  have hqp : q.order p ≠ .eq := fun e => h (Path.order_eq_iff.1 e).symm
  induction l with
  | nil => simp [upsertList, lookup, hqp]
  | cons x rest ih =>
    obtain ⟨r, v⟩ := x
    simp only [upsertList]
    split
    next => simp [lookup, hqp]
    next heq =>
      have hqr : q.order r ≠ .eq := by
        rwa [← (Path.order_eq_iff.1 heq).order_right q]
      simp [lookup, hqr]
    next => simp [lookup, ih]

/-- After a change at `p` exactly the spellings of `p` have a new value. -/
theorem find?_upsert (m : PathMap α) (p q : Path) (f : Option α → α) :
    (m.upsert p f).find? q = if p.Same q then some (f (m.find? p)) else m.find? q := by
  by_cases h : p.Same q
  · rw [if_pos h]
    exact lookup_upsertList_same h f m.ordered
  · rw [if_neg h]
    exact lookup_upsertList_ne h f m.entries

theorem find?_insert (m : PathMap α) (p q : Path) (v : α) :
    (m.insert p v).find? q = if p.Same q then some v else m.find? q :=
  m.find?_upsert p q _

end PathMap

end LintBridge
