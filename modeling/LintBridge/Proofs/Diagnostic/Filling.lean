/-
# Filling a set

A set is filled step by step: a file is entered, or a diagnostic is added to one, under whatever
spelling comes along.  In the end each file has one entry.  Its path is spelled as it was at first,
and its list has what was added under all of its spellings.

* `DiagnosticSet.Addition`: one step, and `DiagnosticSet.ofAdditions`: the set after several.
* `DiagnosticSet.find?_ofAdditions`: what is found in it.
* `DiagnosticSet.mem_keys_ofAdditions`: how its files are spelled.
* `DiagnosticSet.count_ofAdditions`: how many diagnostics it has.
* `DiagnosticSet.additions_gathered`: the law.
-/
import LintBridge.Diagnostic.Set
import LintBridge.Proofs.Path.Precedence
import LintBridge.Proofs.PathMap.Latest
import Mathlib.Data.List.Induction

namespace LintBridge

namespace PathMap

variable {α : Type} {f : Option (List α) → List α} {k : Nat}

/-- A change that makes one list longer by `k` makes all lists together longer by `k`. -/
lemma length_values_upsertList (hnew : (f none).length = k)
    (hold : ∀ l, (f (some l)).length = l.length + k) (p : Path) (entries : List (Path × List α)) :
    ((upsertList p f entries).map Prod.snd).flatten.length =
      (entries.map Prod.snd).flatten.length + k := by
  induction entries with
  | nil => simp [upsertList, hnew]
  | cons e rest ih =>
    obtain ⟨q, l⟩ := e
    rw [upsertList]
    split
    next => simp [hnew, Nat.add_comm]
    next => simp [hold, Nat.add_right_comm]
    next =>
      rw [List.map_cons, List.flatten_cons, List.length_append, ih]
      simp [Nat.add_assoc]

end PathMap

namespace DiagnosticSet

/-- One step of filling a set. -/
inductive Addition where
  /-- A file is entered. -/
  | touch (path : Path)
  /-- A diagnostic is added to a file. -/
  | push (path : Path) (diagnostic : Diagnostic)

namespace Addition

/-- The file, as it is spelled. -/
def path : Addition → Path
  | touch p => p
  | push p _ => p

/-- The diagnostic that is added, if there is one. -/
def diagnostic? : Addition → Option Diagnostic
  | touch _ => none
  | push _ d => some d

/-- The first addition to a file, under any spelling of it. -/
def first (p : Path) (additions : List Addition) : Option Addition :=
  additions.find? fun a => a.path.Same p

/-- The diagnostics that are added to a file, under any spelling of it, in their order. -/
def gathered (p : Path) (additions : List Addition) : List Diagnostic :=
  (additions.filter fun a => a.path.Same p).filterMap diagnostic?

end Addition

/-- The set after an addition. -/
def add (s : DiagnosticSet) : Addition → DiagnosticSet
  | .touch p => s.touch p
  | .push p d => s.push p d

/-- The set after several additions to none. -/
def ofAdditions (additions : List Addition) : DiagnosticSet := additions.foldl add empty

variable {s : DiagnosticSet} {a : Addition} {additions : List Addition} {p q : Path}

/-! ## One addition -/

lemma find?_same (h : p.Same q) (s : DiagnosticSet) : s.find? p = s.find? q :=
  PathMap.find?_same h s.files

lemma find?_add (s : DiagnosticSet) (a : Addition) (p : Path) :
    (s.add a).find? p =
      if a.path.Same p then some ((s.find? p).getD [] ++ a.diagnostic?.toList) else s.find? p := by
  cases a with
  | touch q =>
    rw [add, find?_touch]
    split
    next h => simp [Addition.path, Addition.diagnostic?, h, find?_same h]
    next h => simp [Addition.path, h]
  | push q d =>
    rw [add, find?_push]
    split
    next h => simp [Addition.path, Addition.diagnostic?, h, find?_same h]
    next h => simp [Addition.path, h]

/-- A file that the set has not yet is entered as it is spelled. -/
lemma mem_keys_add :
    q ∈ (s.add a).files.keys ↔ q ∈ s.files.keys ∨ (q = a.path ∧ s.find? a.path = none) := by
  cases a <;> exact PathMap.mem_keys_upsertList _ s.files.ordered

lemma count_touch (s : DiagnosticSet) (p : Path) : (s.touch p).count = s.count :=
  PathMap.length_values_upsertList (k := 0) rfl (fun _ => rfl) p s.files.entries

lemma count_push (s : DiagnosticSet) (p : Path) (d : Diagnostic) :
    (s.push p d).count = s.count + 1 :=
  PathMap.length_values_upsertList rfl (by simp) p s.files.entries

lemma count_add (s : DiagnosticSet) (a : Addition) :
    (s.add a).count = s.count + if a.diagnostic?.isSome = true then 1 else 0 := by
  cases a with
  | touch p => exact count_touch s p
  | push p d => exact count_push s p d

/-! ## Several additions -/

namespace Addition

lemma first_same (h : p.Same q) (additions : List Addition) :
    first p additions = first q additions := by
  have hsame (a : Addition) : a.path.Same p ↔ a.path.Same q :=
    ⟨fun hp => hp.trans h, fun hq => hq.trans h.symm⟩
  simp only [first, hsame]

lemma first_concat (p : Path) (additions : List Addition) (a : Addition) :
    first p (additions ++ [a]) =
      (first p additions).or (if a.path.Same p then some a else none) := by
  rw [first, List.find?_append, List.find?_singleton]
  simp [first]

lemma gathered_append (p : Path) (additions additions' : List Addition) :
    gathered p (additions ++ additions') = gathered p additions ++ gathered p additions' := by
  rw [gathered, List.filter_append, List.filterMap_append]
  rfl

lemma gathered_concat (p : Path) (additions : List Addition) (a : Addition) :
    gathered p (additions ++ [a]) =
      gathered p additions ++ if a.path.Same p then a.diagnostic?.toList else [] := by
  rw [gathered_append]
  congr 1
  by_cases h : a.path.Same p
  · cases hd : a.diagnostic? <;> simp [gathered, h, hd]
  · simp [gathered, h]

lemma same_of_first (h : first p additions = some a) : a.path.Same p := by
  simpa using List.find?_some h

lemma isSome_first : (first p additions).isSome = true ↔ ∃ a ∈ additions, a.path.Same p := by
  simp [first]

/-- Nothing is added to a file before the first addition to it. -/
lemma gathered_of_first (h : first p additions = none) : gathered p additions = [] := by
  rw [first, List.find?_eq_none] at h
  rw [gathered, List.filter_eq_nil_iff.2 h, List.filterMap_nil]

end Addition

lemma ofAdditions_concat (additions : List Addition) (a : Addition) :
    ofAdditions (additions ++ [a]) = (ofAdditions additions).add a :=
  List.foldl_concat ..

/-- A file is found if something is added to it, and then with all that is added to it. -/
theorem find?_ofAdditions (additions : List Addition) (p : Path) :
    (ofAdditions additions).find? p =
      (Addition.first p additions).map fun _ => Addition.gathered p additions := by
  induction additions using List.reverseRecOn with
  | nil => rfl
  | append_singleton additions a ih =>
    rw [ofAdditions_concat, find?_add, ih, Addition.first_concat, Addition.gathered_concat]
    cases hfirst : Addition.first p additions with
    | none =>
      by_cases h : a.path.Same p
      · simp [h, Addition.gathered_of_first hfirst]
      · simp [h]
    | some b => by_cases h : a.path.Same p <;> simp [h]

lemma getD_find?_ofAdditions (additions : List Addition) (p : Path) :
    ((ofAdditions additions).find? p).getD [] = Addition.gathered p additions := by
  rw [find?_ofAdditions]
  cases hfirst : Addition.first p additions with
  | none => exact (Addition.gathered_of_first hfirst).symm
  | some a => rfl

/-- A set has the files to which something is added. -/
lemma contains_ofAdditions :
    (ofAdditions additions).contains p = true ↔ ∃ a ∈ additions, a.path.Same p := by
  rw [contains, PathMap.contains, ← find?, find?_ofAdditions, Option.isSome_map,
    Addition.isSome_first]

/-- A file is spelled as it is in the first addition to it. -/
theorem mem_keys_ofAdditions :
    q ∈ (ofAdditions additions).files.keys ↔
      (Addition.first q additions).map Addition.path = some q := by
  induction additions using List.reverseRecOn with
  | nil => simp [ofAdditions, Addition.first, empty, PathMap.keys, PathMap.empty]
  | append_singleton additions a ih =>
    rw [ofAdditions_concat, mem_keys_add, ih, find?_ofAdditions, Addition.first_concat,
      Option.map_eq_none_iff]
    cases hfirst : Addition.first q additions with
    | none =>
      -- nothing was added to the file before, so it is entered if it is spelled in this way
      constructor
      · rintro (h | ⟨rfl, -⟩)
        · cases h
        · simp
      · intro h
        have hq : a.path = q := by
          by_cases hs : a.path.Same q
          · simpa [hs] using h
          · simp [hs] at h
        exact .inr ⟨hq.symm, hq ▸ hfirst⟩
    | some b =>
      refine ⟨fun h => ?_, fun h => .inl (by simpa using h)⟩
      rcases h with h | ⟨rfl, h⟩
      · simpa using h
      · rw [hfirst] at h
        cases h

/-- A file has one entry, with the path of the first addition to it and all that is added to it. -/
theorem about_ofAdditions (additions : List Addition) (p : Path) :
    about p (ofAdditions additions).toList =
      ((Addition.first p additions).map fun a =>
        (a.path, Addition.gathered p additions)).toList := by
  have hfound := find?_ofAdditions additions p
  cases hfirst : Addition.first p additions with
  | none =>
    rw [hfirst] at hfound
    exact about_eq_nil_iff.2 (latest_eq_none_iff.1 ((PathMap.latest_entries _).trans hfound))
  | some a =>
    have hs := Addition.same_of_first hfirst
    have hkey : a.path ∈ (ofAdditions additions).files.keys := by
      rw [mem_keys_ofAdditions, Addition.first_same hs, hfirst]
      rfl
    obtain ⟨e, he, hpath⟩ := List.mem_map.1 hkey
    have hsame : e.1.Same p := hpath ▸ hs
    have hlist : e.2 = Addition.gathered p additions := by
      rw [hfirst] at hfound
      exact Option.some.inj ((PathMap.find?_of_mem he hsame).symm.trans hfound)
    rw [toList, about_eq_singleton (ofAdditions additions).files.ordered.distinct he hsame,
      Option.map_some, Option.toList_some, ← hpath, ← hlist]

/-- A set has as many diagnostics as are added. -/
theorem count_ofAdditions (additions : List Addition) :
    (ofAdditions additions).count = additions.countP fun a => a.diagnostic?.isSome := by
  induction additions using List.reverseRecOn with
  | nil => rfl
  | append_singleton additions a ih =>
    rw [ofAdditions_concat, count_add, ih, List.countP_append, List.countP_singleton]

/-- **Spellings of one path share one entry.**  The entry of a file has the path of the first
addition to it, and the diagnostics that are added under any spelling, in their order; a file to
which nothing is added has none.  The entries come in the order of paths, component by component,
which is total and has no ties but the spellings of one component list.  The set has as many
diagnostics as are added. -/
theorem additions_gathered (additions : List Addition) :
    let s := ofAdditions additions
    (∀ p, about p s.toList =
      ((Addition.first p additions).map fun a =>
        (a.path, Addition.gathered p additions)).toList) ∧
    (∀ p, s.find? p = if ∃ a ∈ additions, a.path.Same p then
      some (Addition.gathered p additions) else none) ∧
    (s.toList.Pairwise fun e e' => e.1.Before e'.1) ∧
    ((∀ p q : Path, p.Before q ∨ p.Same q ∨ q.Before p) ∧
      (∀ p q : Path, p.Before q → ¬p.Same q ∧ ¬q.Before p) ∧
      ∀ p q r : Path, p.Before q → q.Before r → p.Before r) ∧
    s.count = additions.countP fun a => a.diagnostic?.isSome := by
  intro s
  refine ⟨about_ofAdditions additions, fun p => ?_, ?_,
    ⟨Path.before_or_same, fun p q => Path.Before.strict, fun p q r => Path.Before.trans⟩,
    count_ofAdditions additions⟩
  · rw [find?_ofAdditions]
    simp only [← Addition.isSome_first]
    cases Addition.first p additions <;> rfl
  · exact s.files.ordered.imp Path.order_eq_lt_iff.1

/-- Five additions to three files, two of which are added to under two spellings.  A leading `.`
makes a difference between paths, and `a-b` comes after what is in `a`. -/
theorem additions_gathered_mixed :
    let x : Diagnostic := .warning "x" (.point ⟨0, 0⟩)
    let y : Diagnostic := .warning "y" (.point ⟨1, 0⟩)
    let additions : List Addition := [.push ⟨"./a//b.js"⟩ x, .touch ⟨"/p/a-b/"⟩,
      .push ⟨"./a/b.js"⟩ y, .touch ⟨"/p/./a/b"⟩, .push ⟨"/p//a-b"⟩ y]
    let s := ofAdditions additions
    about ⟨"/p/a-b"⟩ s.toList = [(⟨"/p/a-b/"⟩, [y])] ∧
      s.find? ⟨"./a/./b.js"⟩ = some [x, y] ∧ s.find? ⟨"a/b.js"⟩ = none ∧
      s.files.keys = [⟨"/p/./a/b"⟩, ⟨"/p/a-b/"⟩, ⟨"./a//b.js"⟩] ∧ s.count = 3 ∧
      (⟨"/p/a/b"⟩ : Path).Before ⟨"/p/a-b"⟩ ∧ (⟨"/p/a-b"⟩ : Path).Before ⟨"./a"⟩ ∧
      (⟨"/p/a/b"⟩ : Path).Before ⟨"./a"⟩ ∧ ¬(⟨"./a"⟩ : Path).Before ⟨"/p/a-b"⟩ := by
  intro x y additions s
  obtain ⟨hentry, hfound, -, ⟨-, hstrict, htrans⟩, hcount⟩ := additions_gathered additions
  have hinner : (⟨"/p/a/b"⟩ : Path).Before ⟨"/p/a-b"⟩ := Path.order_eq_lt_iff.1 (by decide +kernel)
  have hroot : (⟨"/p/a-b"⟩ : Path).Before ⟨"./a"⟩ := Path.order_eq_lt_iff.1 (by decide +kernel)
  refine ⟨?_, ?_, ?_, by decide +kernel, hcount, hinner, hroot, htrans _ _ _ hinner hroot,
    (hstrict _ _ hroot).2⟩
  · rw [hentry]
    decide +kernel
  · rw [hfound]
    decide +kernel
  · rw [hfound]
    decide +kernel

end DiagnosticSet

end LintBridge
