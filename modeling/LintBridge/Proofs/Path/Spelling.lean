/-
# Plainest spellings

A component list is spelled in its plainest way by writing the components with one separator between
any two of them.  Reading this spelling gives the components back, unless the list has a `.`, or a
root that is not the first component; and normal forms have neither.

* `Component.Inner`: the components that can stand anywhere in such a list.
* `Path.components_ofComponents`: the plainest spelling is read back.
* `Path.Plain`: the paths that have their plainest spelling, and `Path.plain_normalize`: a normal
  form does.
-/
import LintBridge.Path.Normal
import LintBridge.Path.Order
import Mathlib.Tactic.Common

namespace LintBridge

namespace Component

/-- Between two separators, the text of the component is read as the component. -/
def Inner (c : Component) : Prop := ofSegment? c.text.toList = some c ∧ '/' ∉ c.text.toList

lemma inner_up : Inner up := ⟨rfl, by decide⟩

lemma not_inner_root : ¬Inner root := fun h => absurd h.1 (by decide)

lemma not_inner_here : ¬Inner here := fun h => absurd h.1 (by decide)

/-- What is read between two separators is an inner component. -/
lemma inner_of_ofSegment? {s : List Char} {c : Component} (hs : '/' ∉ s)
    (h : ofSegment? s = some c) : c.Inner := by
  unfold ofSegment? at h
  split at h
  · cases h
  · cases h
  · cases h
    exact inner_up
  next hnil hdot hdots =>
    cases h
    simp only [Inner, text, String.toList_ofList]
    refine ⟨?_, hs⟩
    unfold ofSegment?
    split
    · exact absurd rfl hnil
    · exact absurd rfl hdot
    · exact absurd rfl hdots
    · rfl

/-- An inner component has a text that is neither empty nor a `.`. -/
lemma Inner.text_ne {c : Component} (h : c.Inner) : c.text.toList ≠ [] ∧ c.text.toList ≠ ['.'] := by
  constructor <;> intro hc <;> rw [Inner, hc] at h <;> exact absurd h.1 (by simp [ofSegment?])

/-- The texts of components, as stretches between separators. -/
def segmentsOf (cs : List Component) : List (List Char) := cs.map fun c => c.text.toList

lemma segments_join {cs : List Component} (hne : cs ≠ []) (h : ∀ c ∈ cs, c.Inner) :
    Path.segments (Text.join '/' (segmentsOf cs)) = segmentsOf cs := by
  refine Text.split_join (by simpa [segmentsOf] using hne) fun s hs => ?_
  obtain ⟨d, hd, rfl⟩ := List.mem_map.1 hs
  exact (h d hd).2

lemma filterMap_segmentsOf {cs : List Component} (h : ∀ c ∈ cs, c.Inner) :
    (segmentsOf cs).filterMap ofSegment? = cs := by
  induction cs with
  | nil => rfl
  | cons c rest ih =>
    have hc : ofSegment? c.text.toList = some c := (h c List.mem_cons_self).1
    rw [segmentsOf, List.map_cons, List.filterMap_cons, hc]
    exact congrArg (c :: ·) (ih fun d hd => h d (List.mem_cons_of_mem c hd))

/-- Components that are written with separators between them are read back. -/
lemma filterMap_segments_join {cs : List Component} (h : ∀ c ∈ cs, c.Inner) :
    (Path.segments (Text.join '/' (segmentsOf cs))).filterMap ofSegment? = cs := by
  by_cases hne : cs = []
  · subst hne
    rfl
  · rw [segments_join hne h, filterMap_segmentsOf h]

end Component

namespace Path

open Component

/-! ## Reading a path -/

/-- All components but the first are inner ones. -/
lemma inner_body {s : List Char} {c : Component}
    (h : c ∈ (segments s).filterMap ofSegment?) : c.Inner := by
  obtain ⟨t, ht, hc⟩ := List.mem_filterMap.1 h
  exact inner_of_ofSegment? (Text.not_mem_of_mem_split ht) hc

lemma components_of_root {p : Path} {cs : List Char} (h : p.text.toList = '/' :: cs) :
    p.components = root :: (segments cs).filterMap ofSegment? := by
  rw [components, layout]
  simp [h]

lemma isAbsolute_iff_toList {p : Path} :
    p.isAbsolute = true ↔ ∃ cs, p.text.toList = '/' :: cs := by
  unfold isAbsolute
  split
  next cs hcs => simp [hcs]
  next h => simpa using h

/-- A path that does not start with a separator is relative. -/
lemma isAbsolute_of_head? {p : Path} (h : p.text.toList.head? ≠ some '/') :
    p.isAbsolute = false := by
  rw [Bool.eq_false_iff]
  intro habs
  obtain ⟨cs, hcs⟩ := isAbsolute_iff_toList.1 habs
  exact h (by rw [hcs]; rfl)

/-- A name is a relative path. -/
lemma isAbsolute_of_inner {n : String} (h : (name n).Inner) : (⟨n⟩ : Path).isAbsolute = false :=
  isAbsolute_of_head? fun hhead => h.2 (List.mem_of_head? hhead)

/-- The empty path is relative. -/
lemma isEmpty_of_isAbsolute {p : Path} (h : p.isAbsolute = true) : p.text.isEmpty = false := by
  obtain ⟨cs, hcs⟩ := isAbsolute_iff_toList.1 h
  rw [Bool.eq_false_iff]
  intro hempty
  simp [String.isEmpty_iff.1 hempty] at hcs

/-- The components of a path: inner ones, after the root, a leading `.`, or nothing. -/
lemma components_cases (p : Path) :
    ∃ body : List Component, (∀ c ∈ body, c.Inner) ∧
      ((p.isAbsolute = true ∧ p.components = root :: body) ∨
        (p.isAbsolute = false ∧ (p.components = here :: body ∨ p.components = body))) := by
  by_cases habs : p.isAbsolute = true
  · obtain ⟨cs, hcs⟩ := isAbsolute_iff_toList.1 habs
    exact ⟨_, fun c hc => inner_body hc, .inl ⟨habs, components_of_root hcs⟩⟩
  · have hroot (cs : List Char) : p.text.toList ≠ '/' :: cs := fun hcs =>
      habs (isAbsolute_iff_toList.2 ⟨cs, hcs⟩)
    rw [components, layout]
    split
    next cs hcs => exact absurd hcs (hroot cs)
    next =>
      split
      next body hbody =>
        refine ⟨body.filterMap ofSegment?, fun c hc => ?_, .inr ⟨by simpa using habs, .inl rfl⟩⟩
        obtain ⟨t, ht, hc⟩ := List.mem_filterMap.1 hc
        have hmem : t ∈ segments p.text.toList := hbody ▸ List.mem_cons_of_mem _ ht
        exact inner_of_ofSegment? (Text.not_mem_of_mem_split hmem) hc
      next => exact ⟨_, fun c hc => inner_body hc, .inr ⟨by simpa using habs, .inr rfl⟩⟩

lemma components_of_isAbsolute {p : Path} (h : p.isAbsolute = true) :
    ∃ body : List Component, (∀ c ∈ body, c.Inner) ∧ p.components = root :: body := by
  obtain ⟨body, hbody, ⟨-, hcs⟩ | ⟨hrel, -⟩⟩ := p.components_cases
  · exact ⟨body, hbody, hcs⟩
  · exact absurd (h.symm.trans hrel) (by simp)

/-! ## Plainest spellings -/

/-- The lists of inner components, after the root or after nothing. -/
inductive Neat : List Component → Prop
  | relative {cs : List Component} (h : ∀ c ∈ cs, c.Inner) : Neat cs
  | absolute {cs : List Component} (h : ∀ c ∈ cs, c.Inner) : Neat (root :: cs)

lemma toList_intercalate (texts : List String) :
    ("/".intercalate texts).toList = Text.join '/' (texts.map String.toList) := by
  rw [String.toList_intercalate]
  induction texts with
  | nil => rfl
  | cons t rest ih =>
    cases rest with
    | nil => simp [Text.join]
    | cons u us =>
      rw [List.map_cons, List.map_cons, List.intercalate_cons_cons, Text.join, ← List.map_cons, ih]
      · simp
      · simp

lemma toList_ofComponents_absolute (cs : List Component) :
    (ofComponents (root :: cs)).text.toList = '/' :: Text.join '/' (segmentsOf cs) := by
  rw [ofComponents, String.toList_append, toList_intercalate, List.map_map]
  rfl

lemma toList_ofComponents_relative {cs : List Component} (h : ∀ c ∈ cs, c.Inner) :
    (ofComponents cs).text.toList = Text.join '/' (segmentsOf cs) := by
  unfold ofComponents
  split
  next => exact absurd (h root List.mem_cons_self) not_inner_root
  next => rw [toList_intercalate, List.map_map]; rfl

/-- The plainest spelling is read back. -/
theorem components_ofComponents {cs : List Component} (h : Neat cs) :
    (ofComponents cs).components = cs := by
  cases h with
  | @absolute cs h =>
    rw [components_of_root (toList_ofComponents_absolute cs), filterMap_segments_join h]
  | relative h =>
    have htext := toList_ofComponents_relative h
    rcases cs with _ | ⟨c, rest⟩
    · rfl
    · -- the text starts with that of the first component, which is neither a separator nor a `.`
      have hc : c.Inner := h c List.mem_cons_self
      have hsegments := segments_join (List.cons_ne_nil c rest) h
      rw [components, layout]
      split
      next cs' hcs' =>
        rw [htext.symm.trans hcs', segments, Text.split, if_pos rfl] at hsegments
        exact absurd (List.cons.inj hsegments).1.symm hc.text_ne.1
      next =>
        rw [htext]
        split
        next body hbody =>
          rw [hsegments] at hbody
          exact absurd (List.cons.inj hbody).1 hc.text_ne.2
        next => exact filterMap_segments_join h

lemma isAbsolute_iff {p : Path} : p.isAbsolute = true ↔ p.components.head? = some root := by
  obtain ⟨body, hbody, ⟨habs, hcs⟩ | ⟨hrel, hcs | hcs⟩⟩ := p.components_cases
  · simp [habs, hcs]
  · simp [hrel, hcs]
  · simp only [hrel, hcs, Bool.false_eq_true, false_iff]
    intro hhead
    exact not_inner_root (hbody root (List.mem_of_head? hhead))

/-- The paths that have their plainest spelling. -/
def Plain (p : Path) : Prop := ofComponents p.components = p

lemma plain_ofComponents {cs : List Component} (h : Neat cs) : (ofComponents cs).Plain := by
  rw [Plain, components_ofComponents h]

/-- A list of components has one plainest spelling. -/
lemma Plain.eq_of_same {p q : Path} (hp : p.Plain) (hq : q.Plain) (h : p.Same q) : p = q := by
  rw [← hp, ← hq, h]

/-! ## Normal forms -/

/-- The components that are kept stay inner ones, above the root or above nothing. -/
lemma foldl_collapseStep {cs above ground : List Component} (hcs : ∀ c ∈ cs, c.Inner)
    (habove : ∀ c ∈ above, c.Inner) (hground : ground = [] ∨ ground = [root]) :
    ∃ above' : List Component, (∀ c ∈ above', c.Inner) ∧
      cs.foldl collapseStep (above ++ ground) = above' ++ ground := by
  induction cs generalizing above with
  | nil => exact ⟨above, habove, rfl⟩
  | cons c rest ih =>
    have hc : c.Inner := hcs c List.mem_cons_self
    have hrest : ∀ d ∈ rest, d.Inner := fun d hd => hcs d (List.mem_cons_of_mem c hd)
    have hpushed : ∀ d ∈ c :: above, d.Inner := by
      intro d hd
      rcases List.mem_cons.1 hd with rfl | hd
      · exact hc
      · exact habove d hd
    rw [List.foldl_cons]
    cases c with
    | root => exact absurd hc not_inner_root
    | here => exact absurd hc not_inner_here
    | name s => exact ih hrest hpushed
    | up =>
      rcases above with _ | ⟨d, below⟩
      · -- nothing can be taken back
        have hstep : collapseStep ([] ++ ground) .up = [up] ++ ground := by
          rcases hground with rfl | rfl <;> rfl
        rw [hstep]
        exact ih hrest hpushed
      · have hstep : collapseStep ((d :: below) ++ ground) .up = below ++ ground := by
          have hd : d.Inner := habove d List.mem_cons_self
          cases d with
          | root => exact absurd hd not_inner_root
          | _ => rfl
        rw [hstep]
        exact ih hrest fun e he => habove e (List.mem_cons_of_mem d he)

/-- Inner components, read on top of the root or of nothing, leave a list that can be written down.
-/
lemma neat_reverse_foldl {body ground : List Component} (hbody : ∀ c ∈ body, c.Inner)
    (hground : ground = [] ∨ ground = [root]) : Neat (body.foldl collapseStep ground).reverse := by
  obtain ⟨above, habove, hfold⟩ := foldl_collapseStep hbody (List.forall_mem_nil _) hground
  rw [List.nil_append] at hfold
  have hreverse : ∀ c ∈ above.reverse, c.Inner := fun c hc => habove c (List.mem_reverse.1 hc)
  rw [hfold, List.reverse_append]
  rcases hground with rfl | rfl
  · exact .relative hreverse
  · exact .absolute hreverse

lemma neat_collapse (p : Path) : Neat (collapse p.components) := by
  obtain ⟨body, hbody, ⟨-, hcs⟩ | ⟨-, hcs | hcs⟩⟩ := p.components_cases
  · have hcollapse : collapse p.components = (body.foldl collapseStep [root]).reverse := by
      rw [hcs]
      rfl
    exact hcollapse ▸ neat_reverse_foldl hbody (.inr rfl)
  · have hcollapse : collapse p.components = (body.foldl collapseStep []).reverse := by
      rw [hcs]
      rfl
    exact hcollapse ▸ neat_reverse_foldl hbody (.inl rfl)
  · exact hcs ▸ neat_reverse_foldl hbody (.inl rfl)

/-- The components of a normal form are those that are left. -/
theorem components_normalize (base p : Path) :
    (normalize base p).components = collapse (base.join p).components :=
  components_ofComponents (neat_collapse _)

/-- A normal form has its plainest spelling. -/
theorem plain_normalize (base p : Path) : (normalize base p).Plain :=
  plain_ofComponents (neat_collapse _)

end Path

end LintBridge
