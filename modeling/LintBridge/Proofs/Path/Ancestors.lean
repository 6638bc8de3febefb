/-
# The directories above a path

An absolute path with its plainest spelling, as normal forms are, has plainly spelled directories
above it: leaving out the last component is leaving out the last stretch of its text.

* `Path.Above`: the directories above a path, in terms of components alone.
* `Path.parent?_ofComponents`, `Path.ancestors_ofComponents`: what going up from such a path leads
  to.
* `Path.mem_ancestors_iff`: from the directory of a path, it leads to the directories above the
  path, and `Path.ancestors_descend`: to the nearest of them first.
* `Path.join_name`: a file in such a directory.
-/
import LintBridge.Proofs.Project.Root
import Mathlib.Data.List.Infix

namespace LintBridge

namespace Text

lemma join_concat {mark : Char} {segments : List (List Char)} (hne : segments ≠ [])
    (s : List Char) :
    join mark (segments ++ [s]) = join mark segments ++ mark :: s := by
  induction segments with
  | nil => exact absurd rfl hne
  | cons t rest ih =>
    rcases rest with _ | ⟨u, us⟩
    · rfl
    · calc join mark (t :: (u :: us ++ [s])) = t ++ mark :: join mark (u :: us ++ [s]) := rfl
        _ = t ++ mark :: (join mark (u :: us) ++ mark :: s) := by rw [ih (List.cons_ne_nil u us)]
        _ = join mark (t :: u :: us) ++ mark :: s := by simp [join]

end Text

namespace Path

open Component

variable {dir p : Path} {c : Component} {cs ds : List Component}

/-- A directory above the path: it is absolute and plainly spelled, and its components are the first
ones of the path, but not all of them. -/
structure Above (dir p : Path) : Prop where
  plain : dir.Plain
  isAbsolute : dir.isAbsolute = true
  first : dir.components <+: p.components
  fewer : dir.components.length < p.components.length

/-! ## Going up -/

lemma layout_ofComponents (h : ∀ d ∈ cs, d.Inner) (hne : cs ≠ []) :
    (ofComponents (root :: cs)).layout = ⟨some root, segmentsOf cs⟩ := by
  rw [layout_of_root (toList_ofComponents_absolute cs), segments_join hne h]

lemma text_layout (cs : List Component) :
    (⟨Layout.text ⟨some root, segmentsOf cs⟩⟩ : Path) = ofComponents (root :: cs) := by
  have htext : (ofComponents (root :: cs)).text =
      String.ofList ('/' :: Text.join '/' (segmentsOf cs)) := by
    rw [← toList_ofComponents_absolute, String.ofList_toList]
  rw [Layout.text, ← htext]

/-- Every stretch of a plain spelling stands for a component. -/
lemma dropSilent_segmentsOf (h : ∀ d ∈ cs, d.Inner) :
    dropSilent (segmentsOf cs) = segmentsOf cs := by
  rcases List.eq_nil_or_concat' cs with rfl | ⟨ds, c, rfl⟩
  · rfl
  · have hc : ofSegment? c.text.toList = some c := (h c (by simp)).1
    simp [dropSilent, segmentsOf, hc]

/-- Going up leaves out the last component. -/
lemma parent?_ofComponents (h : ∀ d ∈ ds ++ [c], d.Inner) :
    (ofComponents (root :: (ds ++ [c]))).parent? = some (ofComponents (root :: ds)) := by
  have hds : ∀ d ∈ ds, d.Inner := fun d hd => h d (List.mem_append_left _ hd)
  have hlast : (segmentsOf (ds ++ [c])).dropLast = segmentsOf ds := by simp [segmentsOf]
  have hne : segmentsOf (ds ++ [c]) ≠ [] := by simp [segmentsOf]
  rw [parent?, layout_ofComponents h (by simp)]
  simp only [dropSilent_segmentsOf h]
  split
  next hnil => exact absurd hnil hne
  next s ss hcons =>
    rw [← hcons, hlast, dropSilent_segmentsOf hds, text_layout]

lemma parent?_root : (ofComponents [root]).parent? = none := by decide +kernel

/-- Going up leads to all first parts of the components, the longest first. -/
lemma parents_ofComponents (h : ∀ d ∈ cs, d.Inner) {n : Nat} (hn : cs.length ≤ n) :
    ofComponents (root :: cs) :: parents n (ofComponents (root :: cs)) =
      cs.inits.reverse.map fun ds => ofComponents (root :: ds) := by
  -- from the last component to the first, as the parents are found
  induction cs using List.reverseRecOn generalizing n with
  | nil =>
    cases n with
    | zero => rfl
    | succ n =>
      rw [parents, parent?_root]
      rfl
  | append_singleton ds c ih =>
    have hds : ∀ d ∈ ds, d.Inner := fun d hd => h d (List.mem_append_left _ hd)
    rw [List.length_append, List.length_singleton] at hn
    obtain ⟨m, rfl⟩ : ∃ m, n = m + 1 := ⟨n - 1, by omega⟩
    have hinits : (ds ++ [c]).inits = ds.inits ++ [ds ++ [c]] := by simp [List.inits_append]
    rw [parents, parent?_ofComponents h]
    simp only [ih hds (by omega : ds.length ≤ m), hinits, List.reverse_append,
      List.reverse_singleton, List.singleton_append, List.map_cons]

theorem ancestors_ofComponents (h : ∀ d ∈ cs, d.Inner) :
    (ofComponents (root :: cs)).ancestors =
      cs.inits.reverse.map fun ds => ofComponents (root :: ds) := by
  have hlength : cs.length ≤ (ofComponents (root :: cs)).components.length := by
    rw [components_ofComponents (.absolute h), List.length_cons]
    exact Nat.le_succ _
  rw [ancestors, parents_ofComponents h hlength]

/-! ## The directories above a path -/

lemma inner_of_prefix (h : ∀ d ∈ cs, d.Inner) (hds : ds <+: cs) : ∀ d ∈ ds, d.Inner :=
  fun d hd => h d (hds.subset hd)

lemma above_iff (h : ∀ d ∈ cs ++ [c], d.Inner) :
    dir.Above (ofComponents (root :: (cs ++ [c]))) ↔
      ∃ ds, ds <+: cs ∧ dir = ofComponents (root :: ds) := by
  have hcs : ∀ d ∈ cs, d.Inner := fun d hd => h d (List.mem_append_left _ hd)
  have hcomponents := components_ofComponents (.absolute h)
  constructor
  · rintro ⟨hplain, habs, hfirst, hfewer⟩
    obtain ⟨ds, -, hds⟩ := components_of_isAbsolute habs
    rw [hds, hcomponents, List.cons_prefix_cons] at hfirst
    rw [hds, hcomponents, List.length_cons, List.length_cons, Nat.add_lt_add_iff_right] at hfewer
    refine ⟨ds, ?_, by rw [← hds]; exact hplain.symm⟩
    rcases List.prefix_concat_iff.1 hfirst.2 with rfl | hprefix
    · exact absurd hfewer (Nat.lt_irrefl _)
    · exact hprefix
  · rintro ⟨ds, hds, rfl⟩
    have hinner := inner_of_prefix hcs hds
    have hdir := components_ofComponents (.absolute hinner)
    refine ⟨plain_ofComponents (.absolute hinner), ?_, ?_, ?_⟩
    · rw [isAbsolute_iff, hdir]
      rfl
    · rw [hdir, hcomponents, List.cons_prefix_cons]
      exact ⟨rfl, hds.trans (List.prefix_append cs [c])⟩
    · have hlength := hds.length_le
      rw [hdir, hcomponents, List.length_cons, List.length_cons, List.length_append,
        List.length_singleton]
      omega

/-- Going up from the directory of a path leads to the directories above the path. -/
theorem mem_ancestors_iff (h : ∀ d ∈ cs ++ [c], d.Inner) :
    dir ∈ (ofComponents (root :: cs)).ancestors ↔
      dir.Above (ofComponents (root :: (cs ++ [c]))) := by
  have hcs : ∀ d ∈ cs, d.Inner := fun d hd => h d (List.mem_append_left _ hd)
  rw [above_iff h, ancestors_ofComponents hcs]
  simp only [List.mem_map, List.mem_reverse, List.mem_inits, eq_comm]

lemma inits_grow (cs : List Component) :
    cs.inits.Pairwise fun ds es => ds.length < es.length := by
  induction cs using List.reverseRecOn with
  | nil => exact List.pairwise_singleton ..
  | append_singleton ds c ih =>
    rw [List.inits_append]
    refine List.pairwise_append.2 ⟨ih, by simp, ?_⟩
    intro es hes fs hfs
    obtain rfl : fs = ds ++ [c] := by simpa using hfs
    have hlength := ((List.mem_inits _ _).1 hes).length_le
    rw [List.length_append, List.length_singleton]
    omega

/-- Going up leads to the nearest directories first. -/
theorem ancestors_descend (h : ∀ d ∈ cs, d.Inner) :
    (ofComponents (root :: cs)).ancestors.Pairwise fun a b =>
      b.components.length < a.components.length := by
  rw [ancestors_ofComponents h, List.pairwise_map, List.pairwise_reverse]
  refine (inits_grow cs).imp_of_mem fun {ds es} hds hes hlength => ?_
  have hds' := inner_of_prefix h ((List.mem_inits _ _).1 hds)
  have hes' := inner_of_prefix h ((List.mem_inits _ _).1 hes)
  rw [components_ofComponents (.absolute hds'), components_ofComponents (.absolute hes'),
    List.length_cons, List.length_cons]
  exact Nat.succ_lt_succ hlength

/-! ## Files in a directory -/

lemma eq_of_toList {p q : Path} (h : p.text.toList = q.text.toList) : p = q := by
  cases p
  cases q
  exact congrArg Path.mk (String.toList_inj.1 h)

/-- Of all plain spellings, only that of the root ends in a separator. -/
lemma getLast?_ofComponents (h : ∀ d ∈ ds ++ [c], d.Inner) :
    (ofComponents (root :: (ds ++ [c]))).text.toList.getLast? ≠ some '/' := by
  have hc : c.Inner := h c (by simp)
  obtain ⟨l, x, hx⟩ : ∃ l x, c.text.toList = l ++ [x] := by
    rcases List.eq_nil_or_concat' c.text.toList with hnil | hlast
    · exact absurd hnil hc.text_ne.1
    · exact hlast
  have hslash : x ≠ '/' := by
    rintro rfl
    exact hc.2 (by rw [hx]; simp)
  obtain ⟨l', hl'⟩ : ∃ l', Text.join '/' (segmentsOf (ds ++ [c])) = l' ++ [x] := by
    have hsegments : segmentsOf (ds ++ [c]) = segmentsOf ds ++ [l ++ [x]] := by
      simp [segmentsOf, hx]
    rw [hsegments]
    by_cases hds : segmentsOf ds = []
    · exact ⟨l, by rw [hds]; rfl⟩
    · exact ⟨Text.join '/' (segmentsOf ds) ++ '/' :: l, by rw [Text.join_concat hds]; simp⟩
  rw [toList_ofComponents_absolute, hl', ← List.cons_append, List.getLast?_append]
  simpa using hslash

/-- A file in a directory is one component more. -/
theorem join_name {n : String} (hds : ∀ d ∈ ds, d.Inner) (hn : (name n).Inner) :
    (ofComponents (root :: ds)).join ⟨n⟩ = ofComponents (root :: (ds ++ [name n])) := by
  have hrelative : (⟨n⟩ : Path).isAbsolute = false := isAbsolute_of_inner hn
  have hdir := toList_ofComponents_absolute ds
  have hempty : (ofComponents (root :: ds)).text.isEmpty = false :=
    isEmpty_of_isAbsolute (isAbsolute_iff_toList.2 ⟨_, hdir⟩)
  apply eq_of_toList
  rw [toList_ofComponents_absolute, join, hrelative, if_neg Bool.false_ne_true]
  rcases List.eq_nil_or_concat' ds with rfl | ⟨es, d, rfl⟩
  · -- the root brings its separator
    have hlast : (ofComponents [root]).text.toList.getLast? = some '/' := by rw [hdir]; rfl
    rw [hlast, if_pos (by simp), String.toList_append, hdir]
    rfl
  · have hne : segmentsOf (es ++ [d]) ≠ [] := by simp [segmentsOf]
    have hsegments : segmentsOf (es ++ [d] ++ [name n]) = segmentsOf (es ++ [d]) ++ [n.toList] := by
      rw [segmentsOf, List.map_append]
      rfl
    rw [if_neg (by simp [hempty, getLast?_ofComponents hds]), String.toList_append,
      String.toList_append, hdir, hsegments, Text.join_concat hne]
    simp

end Path

end LintBridge
