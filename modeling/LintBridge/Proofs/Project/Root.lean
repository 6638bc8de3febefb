/-
# The root of a project

The project of a file is looked for from the directory of the file upwards.  As the file has an
absolute path, so have all these directories, and the root is one that reports can be read from.

* `Path.components_join`: joining paths is joining their components.
* `Path.isAbsolute_of_parent?`, `Path.isAbsolute_of_mem_ancestors`: what is above an absolute path.
* `Path.location_of_fileName?`: the place of a file ends in the name of the file, and so does its
  normal form (`Path.fileName?_normalize`).
* `Project.isAbsolute_root`: the root of the project of a file.
-/
import LintBridge.Project
import LintBridge.Proofs.Path.Location
import Mathlib.Data.List.TakeWhile

namespace LintBridge

namespace Path

open Component

variable {base p q : Path}

/-! ## Joining -/

lemma filterMap_segments_append (a b : List Char) :
    (segments (a ++ '/' :: b)).filterMap ofSegment? =
      (segments a).filterMap ofSegment? ++ (segments b).filterMap ofSegment? := by
  rw [segments, Text.split_append_mark, List.filterMap_append]

lemma ne_here_of_ofSegment? {s : List Char} {c : Component} (h : ofSegment? s = some c) :
    c ≠ here := by
  unfold ofSegment? at h
  split at h <;> cases h <;> simp

/-- The components of a relative path, apart from a leading `.`, are those of its segments. -/
lemma filter_components_relative (h : p.isAbsolute = false) :
    p.components.filter (· ≠ here) = (segments p.text.toList).filterMap ofSegment? := by
  have hkept (body : List (List Char)) :
      (body.filterMap ofSegment?).filter (· ≠ here) = body.filterMap ofSegment? := by
    refine List.filter_eq_self.2 fun c hc => ?_
    obtain ⟨s, -, hs⟩ := List.mem_filterMap.1 hc
    simpa using ne_here_of_ofSegment? hs
  rw [components, layout]
  split
  next cs hcs =>
    have habs : p.isAbsolute = true := isAbsolute_iff_toList.2 ⟨cs, hcs⟩
    exact absurd (h.symm.trans habs) (by simp)
  next =>
    split
    next body hbody =>
      rw [hbody]
      exact hkept body
    next => exact hkept _

/-- Seen from an absolute directory, a relative path continues its components. -/
theorem components_join (h : base.isAbsolute = true) (hp : p.isAbsolute = false) :
    (base.join p).components = base.components ++ p.components.filter (· ≠ here) := by
  obtain ⟨cs, hcs⟩ := isAbsolute_iff_toList.1 h
  have hbase := components_of_root hcs
  rw [filter_components_relative hp, hbase, join, hp]
  simp only [Bool.false_eq_true, if_false]
  split
  next hends =>
    -- the directory ends in a separator already, which may be the leading one
    have hlast : base.text.toList.getLast? = some '/' := by
      rcases Bool.or_eq_true_iff.1 hends with hempty | hlast
      · simp [String.isEmpty_iff.1 hempty] at hcs
      · simpa using hlast
    obtain ⟨l, hl⟩ := List.getLast?_eq_some_iff.1 hlast
    rcases l with _ | ⟨c, l⟩
    · obtain rfl : cs = [] := (List.cons.inj (hcs.symm.trans hl)).2
      have htext : (⟨base.text ++ p.text⟩ : Path).text.toList = '/' :: p.text.toList := by
        rw [String.toList_append, hcs, List.singleton_append]
      rw [components_of_root htext]
      rfl
    · obtain rfl : cs = l ++ ['/'] := (List.cons.inj (hcs.symm.trans hl)).2
      have htext : (⟨base.text ++ p.text⟩ : Path).text.toList =
          '/' :: (l ++ '/' :: p.text.toList) := by
        rw [String.toList_append, hcs]
        simp
      have hcut : (segments (l ++ ['/'])).filterMap ofSegment? =
          (segments l).filterMap ofSegment? := by
        rw [filterMap_segments_append]
        exact List.append_nil _
      rw [components_of_root htext, filterMap_segments_append, hcut, List.cons_append]
  next =>
    have htext : (⟨base.text ++ "/" ++ p.text⟩ : Path).text.toList =
        '/' :: (cs ++ '/' :: p.text.toList) := by
      rw [String.toList_append, String.toList_append, hcs]
      simp
    rw [components_of_root htext, filterMap_segments_append, List.cons_append]

/-! ## The name of a file -/

lemma getLast?_components_join {s : String} (h : base.isAbsolute = true)
    (hp : p.components.getLast? = some (name s)) :
    (base.join p).components.getLast? = some (name s) := by
  by_cases habs : p.isAbsolute = true
  · rw [join_of_isAbsolute habs, hp]
  · obtain ⟨cs, hcs⟩ := List.getLast?_eq_some_iff.1 hp
    rw [components_join h (by simpa using habs), hcs, List.filter_append]
    simp

lemma fileName?_eq_some_iff {s : String} :
    p.fileName? = some s ↔ p.components.getLast? = some (name s) := by
  rw [fileName?]
  split
  next t ht => simp [ht]
  next h => simpa using h s

/-- The place of a file ends in the name of the file. -/
theorem location_of_fileName? {s : String} (h : base.isAbsolute = true)
    (hp : p.fileName? = some s) : (location base p).getLast? = some s := by
  have hlast := fileName?_eq_some_iff.1 hp
  obtain ⟨cs, hcs⟩ := List.getLast?_eq_some_iff.1 (getLast?_components_join h hlast)
  rw [location, hcs, List.foldl_append]
  simp [walk]

/-- A normal form has the name of the file. -/
lemma fileName?_normalize {s : String} (h : base.isAbsolute = true) (hp : p.fileName? = some s) :
    (normalize base p).fileName? = some s := by
  obtain ⟨names, hnames⟩ := List.getLast?_eq_some_iff.1 (location_of_fileName? h hp)
  rw [fileName?_eq_some_iff, components_normalize_absolute h, hnames, List.map_append,
    ← List.append_assoc, ← List.cons_append]
  exact List.getLast?_concat

/-- The root is the normal form of no file. -/
lemma components_normalize_ne_root {s : String} (h : base.isAbsolute = true)
    (hp : p.fileName? = some s) : (normalize base p).components ≠ [root] := by
  intro hroot
  have hlast := fileName?_eq_some_iff.1 (fileName?_normalize h hp)
  rw [hroot] at hlast
  cases hlast

/-! ## What is above a path -/

lemma layout_of_root {cs : List Char} (h : p.text.toList = '/' :: cs) :
    p.layout = ⟨some root, segments cs⟩ := by
  rw [layout]
  simp [h]

lemma isAbsolute_layout_text (body : List (List Char)) :
    (⟨Layout.text ⟨some root, body⟩⟩ : Path).isAbsolute = true := by
  simp [isAbsolute, Layout.text]

lemma isAbsolute_of_parent? (h : p.isAbsolute = true) (hq : p.parent? = some q) :
    q.isAbsolute = true := by
  obtain ⟨cs, hcs⟩ := isAbsolute_iff_toList.1 h
  rw [parent?, layout_of_root hcs] at hq
  simp only at hq
  split at hq
  next => cases hq
  next =>
    cases hq
    exact isAbsolute_layout_text _

/-- Only the root has nothing above it. -/
lemma components_of_parent?_eq_none (h : p.isAbsolute = true) (hq : p.parent? = none) :
    p.components = [root] := by
  obtain ⟨cs, hcs⟩ := isAbsolute_iff_toList.1 h
  rw [parent?, layout_of_root hcs] at hq
  simp only at hq
  split at hq
  next hsilent =>
    rw [dropSilent, List.reverse_eq_nil_iff, List.dropWhile_eq_nil_iff] at hsilent
    rw [components_of_root hcs, List.filterMap_eq_nil_iff.2]
    intro s hs
    simpa using hsilent s (List.mem_reverse.2 hs)
  next => cases hq

lemma isAbsolute_of_mem_parents {n : Nat} (h : p.isAbsolute = true) (hq : q ∈ parents n p) :
    q.isAbsolute = true := by
  induction n generalizing p with
  | zero => cases hq
  | succ n ih =>
    rw [parents] at hq
    split at hq
    next => cases hq
    next r hr =>
      have habs := isAbsolute_of_parent? h hr
      rcases List.mem_cons.1 hq with rfl | hq
      · exact habs
      · exact ih habs hq

lemma isAbsolute_of_mem_ancestors (h : p.isAbsolute = true) (hq : q ∈ p.ancestors) :
    q.isAbsolute = true := by
  rcases List.mem_cons.1 hq with rfl | hq
  · exact h
  · exact isAbsolute_of_mem_parents h hq

end Path

/-! ## The root -/

variable {isFile : Path → Bool} {start config target : Path} {names : List String}

/-- What is found from an absolute directory on has an absolute path. -/
lemma isAbsolute_of_searchUp (h : start.isAbsolute = true)
    (hfound : searchUp isFile start names = some config) : config.isAbsolute = true := by
  have hmem := List.mem_of_find?_eq_some hfound
  rw [candidates] at hmem
  obtain ⟨dir, hdir, hmem⟩ := List.mem_flatMap.1 hmem
  obtain ⟨name, -, rfl⟩ := List.mem_map.1 hmem
  exact Path.isAbsolute_join (Path.isAbsolute_of_mem_ancestors h hdir) ⟨name⟩

namespace Project

/-- The directory of a file with an absolute path has an absolute path. -/
lemma isAbsolute_directoryOf (h : target.isAbsolute = true)
    (hfile : target.components ≠ [.root]) : (directoryOf target).isAbsolute = true := by
  rw [directoryOf]
  cases hdir : target.parent? with
  | none => exact absurd (Path.components_of_parent?_eq_none h hdir) hfile
  | some dir =>
    have habs : dir.isAbsolute = true := Path.isAbsolute_of_parent? h hdir
    have hne : dir.text.isEmpty = false := Path.isEmpty_of_isAbsolute habs
    simpa [hne] using habs

/-- The root of the project of a file with an absolute path has an absolute path. -/
theorem isAbsolute_root {tool : String} {project : Project} (h : target.isAbsolute = true)
    (hfile : target.components ≠ [.root])
    (hproject : resolve isFile target names tool = .ok project) :
    project.root.isAbsolute = true := by
  have hdir := isAbsolute_directoryOf h hfile
  rw [resolve, findConfig] at hproject
  cases hconfig : searchUp isFile (directoryOf target) names with
  | none =>
    rw [hconfig] at hproject
    cases hproject
  | some config =>
    rw [hconfig] at hproject
    cases hproject
    cases hparent : config.parent? with
    | none => simpa [hparent] using hdir
    | some root =>
      have habs := Path.isAbsolute_of_parent? (isAbsolute_of_searchUp hdir hconfig) hparent
      simpa [hparent] using habs

end Project

end LintBridge
