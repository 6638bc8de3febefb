/-
# Searching upwards

A search looks for the names in one directory after another, each the parent of the one before,
until there is no parent.  What it finds is the first file in this order: the directory counts
first, then the place of the name among the names.

* `Path.Climb`, `Path.climb_iff`: the directories that a search looks into.
* `Candidate`, `Reached`: the places where a search looks, and those that it gets to.
* `searchUp_eq_some_iff_reached`, `searchUp_congr_reached`: what a search finds, and what this
  depends on.
* `first_file_found`: the law, for names and for the copies of a tool.
-/
import LintBridge.Proofs.Project.Nearest
import Mathlib.Data.List.DropRight

namespace LintBridge

namespace Path

open Component

variable {p q : Path} {lead : Option Component} {body : List (List Char)}

/-! ## The way up -/

/-- The way up from a path leads from each directory to its parent, until there is none. -/
inductive Climb : Path → List Path → Prop
  | top {p : Path} (h : p.parent? = none) : Climb p [p]
  | up {p q : Path} {way : List Path} (h : p.parent? = some q) (hway : Climb q way) :
    Climb p (p :: way)

/-- There is one way up from a path. -/
lemma Climb.unique {way way' : List Path} (h : p.Climb way) (h' : p.Climb way') : way = way' := by
  induction h generalizing way' with
  | top hnone =>
    cases h' with
    | top => rfl
    | up hsome => cases hnone.symm.trans hsome
  | up hsome _ ih =>
    cases h' with
    | top hnone => cases hnone.symm.trans hsome
    | up hsome' hway' =>
      cases hsome.symm.trans hsome'
      rw [ih hway']

/-! ### Components of a parent -/

/-- What a layout can be: it starts at the root, with a `.`, or with a name. -/
lemma layout_cases (p : Path) :
    (∃ cs, p.layout = ⟨some root, segments cs⟩) ∨
      (∃ body, p.layout = ⟨some here, body⟩ ∧ ∀ s ∈ body, '/' ∉ s) ∨
      (p.layout = ⟨none, segments p.text.toList⟩ ∧ p.isAbsolute = false ∧
        (segments p.text.toList).head? ≠ some ['.']) := by
  by_cases habs : p.isAbsolute = true
  · obtain ⟨cs, hcs⟩ := isAbsolute_iff_toList.1 habs
    exact .inl ⟨cs, layout_of_root hcs⟩
  · rw [layout]
    split
    next cs hcs => exact absurd (isAbsolute_iff_toList.2 ⟨cs, hcs⟩) habs
    next =>
      split
      next body hbody =>
        refine .inr (.inl ⟨body, rfl, fun s hs => ?_⟩)
        exact Text.not_mem_of_mem_split (hbody ▸ List.mem_cons_of_mem _ hs)
      next hhead =>
        refine .inr (.inr ⟨rfl, by simpa using habs, fun hdot => ?_⟩)
        obtain ⟨rest, hrest⟩ := List.head?_eq_some_iff.1 hdot
        exact hhead rest hrest

lemma dropSilent_eq_rdropWhile (body : List (List Char)) :
    dropSilent body = body.rdropWhile fun s => (ofSegment? s).isNone := rfl

/-- Leaving out what stands for no component leaves all components. -/
lemma filterMap_dropSilent (body : List (List Char)) :
    (dropSilent body).filterMap ofSegment? = body.filterMap ofSegment? := by
  have hnone : (body.rtakeWhile fun s => (ofSegment? s).isNone).filterMap ofSegment? = [] := by
    refine List.filterMap_eq_nil_iff.2 fun s hs => ?_
    simpa using List.mem_rtakeWhile_imp hs
  let rest := body.rtakeWhile fun s => (ofSegment? s).isNone
  calc (dropSilent body).filterMap ofSegment?
      = (dropSilent body ++ rest).filterMap ofSegment? := by
        rw [List.filterMap_append, hnone, List.append_nil]
    _ = body.filterMap ofSegment? := by
        rw [dropSilent_eq_rdropWhile, List.rdropWhile_append_rtakeWhile]

lemma isPrefix_dropSilent (body : List (List Char)) : dropSilent body <+: body := by
  rw [dropSilent_eq_rdropWhile]
  exact List.rdropWhile_prefix _ _

/-- What is kept last stands for a component. -/
lemma exists_ofSegment?_of_dropSilent {front : List (List Char)} {s : List Char}
    (h : dropSilent body = front ++ [s]) : ∃ c, ofSegment? s = some c := by
  rw [dropSilent_eq_rdropWhile] at h
  have hlast := List.rdropWhile_last_not (fun s => (ofSegment? s).isNone) body
    (h.trans_ne (by simp))
  simp only [h, List.getLast_concat] at hlast
  rw [← Option.ne_none_iff_exists']
  simpa using hlast

/-- Only an empty text and one that starts with a separator have nothing before the first one. -/
lemma head?_segments {cs : List Char} (h : (segments cs).head? = some []) :
    cs = [] ∨ ∃ ds, cs = '/' :: ds := by
  rcases cs with _ | ⟨c, cs⟩
  · exact .inl rfl
  · rw [segments, Text.split] at h
    split at h
    next hc => exact .inr ⟨cs, by rw [hc]⟩
    next =>
      split at h <;> cases h

lemma filterMap_segments_of_join (h : ∀ s ∈ body, '/' ∉ s) :
    (segments (Text.join '/' body)).filterMap ofSegment? = body.filterMap ofSegment? := by
  rcases eq_or_ne body [] with rfl | hne
  · rfl
  · rw [segments, Text.split_join hne h]

lemma components_of_here (h : p.isAbsolute = false) (hs : segments p.text.toList = ['.'] :: body) :
    p.components = here :: body.filterMap ofSegment? := by
  rw [components, layout]
  split
  next cs hcs => exact absurd (h.symm.trans (isAbsolute_iff_toList.2 ⟨cs, hcs⟩)) (by simp)
  next =>
    rw [hs]
    rfl

lemma components_of_name (h : p.isAbsolute = false)
    (hs : (segments p.text.toList).head? ≠ some ['.']) :
    p.components = (segments p.text.toList).filterMap ofSegment? := by
  rw [components, layout]
  split
  next cs hcs => exact absurd (h.symm.trans (isAbsolute_iff_toList.2 ⟨cs, hcs⟩)) (by simp)
  next =>
    split
    next rest hrest => exact absurd (by rw [hrest]; rfl) hs
    next => rfl

lemma components_text_root (h : ∀ s ∈ body, '/' ∉ s) :
    (⟨Layout.text ⟨some root, body⟩⟩ : Path).components = root :: body.filterMap ofSegment? := by
  have htext : (⟨Layout.text ⟨some root, body⟩⟩ : Path).text.toList = '/' :: Text.join '/' body :=
    String.toList_ofList
  rw [components_of_root htext, filterMap_segments_of_join h]

lemma components_text_here (h : ∀ s ∈ body, '/' ∉ s) :
    (⟨Layout.text ⟨some here, body⟩⟩ : Path).components = here :: body.filterMap ofSegment? := by
  rcases body with _ | ⟨s, rest⟩
  · rfl
  · have htext : (⟨Layout.text ⟨some here, s :: rest⟩⟩ : Path).text.toList =
        ['.'] ++ '/' :: Text.join '/' (s :: rest) := String.toList_ofList
    have hsegments : segments (⟨Layout.text ⟨some here, s :: rest⟩⟩ : Path).text.toList =
        ['.'] :: s :: rest := by
      rw [htext, segments, Text.split_append_mark, Text.split_join (List.cons_ne_nil s rest) h]
      rfl
    refine components_of_here ?_ hsegments
    rw [isAbsolute, htext]
    rfl

lemma components_text_name (h : ∀ s ∈ body, '/' ∉ s) (hempty : body.head? ≠ some [])
    (hdot : body.head? ≠ some ['.']) :
    (⟨Layout.text ⟨none, body⟩⟩ : Path).components = body.filterMap ofSegment? := by
  rcases body with _ | ⟨s, rest⟩
  · rfl
  · have htext : (⟨Layout.text ⟨none, s :: rest⟩⟩ : Path).text.toList =
        Text.join '/' (s :: rest) := String.toList_ofList
    have hsegments : segments (⟨Layout.text ⟨none, s :: rest⟩⟩ : Path).text.toList = s :: rest := by
      rw [htext, segments, Text.split_join (List.cons_ne_nil s rest) h]
    have hrelative : (⟨Layout.text ⟨none, s :: rest⟩⟩ : Path).isAbsolute = false := by
      rw [Bool.eq_false_iff]
      intro habs
      obtain ⟨cs, hcs⟩ := isAbsolute_iff_toList.1 habs
      rw [hcs] at hsegments
      exact hempty (by rw [← hsegments]; rfl)
    rw [components_of_name hrelative (by rwa [hsegments]), hsegments]

/-- The parent of a path in terms of its layout: the last stretch that stands for a component is
left out, or else a leading `.`. -/
lemma parent?_cases (hlayout : p.layout = ⟨lead, body⟩) (h : p.parent? = some q) :
    (lead = some here ∧ body.filterMap ofSegment? = [] ∧ q = ⟨""⟩) ∨
      ∃ front c, dropSilent front <+: body ∧
        body.filterMap ofSegment? = (dropSilent front).filterMap ofSegment? ++ [c] ∧
        q = ⟨Layout.text ⟨lead, dropSilent front⟩⟩ := by
  rw [parent?, hlayout] at h
  simp only at h
  split at h
  next hnil =>
    split at h
    next =>
      refine .inl ⟨rfl, ?_, (Option.some.inj h).symm⟩
      rw [← filterMap_dropSilent, hnil]
      rfl
    next => cases h
  next s ss hcons =>
    obtain ⟨front, last, hfront⟩ := List.eq_nil_or_concat' (s :: ss) |>.resolve_left (by simp)
    rw [hfront] at hcons h
    obtain ⟨c, hc⟩ := exists_ofSegment?_of_dropSilent hcons
    rw [List.dropLast_concat] at h
    refine .inr ⟨front, c, ?_, ?_, (Option.some.inj h).symm⟩
    · have hkept : front <+: dropSilent body := hcons ▸ List.prefix_append front [last]
      exact (isPrefix_dropSilent front).trans (hkept.trans (isPrefix_dropSilent body))
    · rw [← filterMap_dropSilent body, hcons, List.filterMap_append, filterMap_dropSilent]
      simp [hc]

/-- A parent has all components but the last. -/
theorem components_of_parent? (h : p.parent? = some q) :
    ∃ c, p.components = q.components ++ [c] := by
  rcases p.layout_cases with ⟨cs, hlayout⟩ | ⟨body, hlayout, hbody⟩ | ⟨hlayout, hrelative, hdot⟩
  · rcases parent?_cases hlayout h with ⟨hhere, -⟩ | ⟨front, c, hkept, hc, rfl⟩
    · cases hhere
    · have hsegments : ∀ s ∈ dropSilent front, '/' ∉ s :=
        fun s hs => Text.not_mem_of_mem_split (hkept.subset hs)
      refine ⟨c, ?_⟩
      rw [components_text_root hsegments, components, hlayout, hc]
      rfl
  · rcases parent?_cases hlayout h with ⟨-, hnil, rfl⟩ | ⟨front, c, hkept, hc, rfl⟩
    · refine ⟨here, ?_⟩
      rw [components, hlayout, hnil]
      rfl
    · refine ⟨c, ?_⟩
      rw [components_text_here fun s hs => hbody s (hkept.subset hs), components, hlayout, hc]
      rfl
  · rcases parent?_cases hlayout h with ⟨hhere, -⟩ | ⟨front, c, hkept, hc, rfl⟩
    · cases hhere
    · have hsegments : ∀ s ∈ dropSilent front, '/' ∉ s :=
        fun s hs => Text.not_mem_of_mem_split (hkept.subset hs)
      -- what is left starts as the path itself does
      have hhead {s : List Char} (hs : (dropSilent front).head? = some s) :
          (segments p.text.toList).head? = some s := by
        obtain ⟨rest, hrest⟩ := hkept
        rw [← hrest, List.head?_append, hs]
        rfl
      have hempty : (dropSilent front).head? ≠ some [] := by
        intro hs
        rcases head?_segments (hhead hs) with hnil | ⟨ds, hds⟩
        · rw [hnil] at hc
          exact List.append_ne_nil_of_right_ne_nil _ (List.cons_ne_nil c []) hc.symm
        · exact absurd (hrelative.symm.trans (isAbsolute_iff_toList.2 ⟨ds, hds⟩)) (by simp)
      refine ⟨c, ?_⟩
      rw [components_text_name hsegments hempty fun hs => hdot (hhead hs), components, hlayout, hc]
      rfl

/-- Going up ends at a path without a parent, when there are as many steps as components. -/
lemma climb_parents {n : Nat} (hn : p.components.length ≤ n) : p.Climb (p :: parents n p) := by
  induction n generalizing p with
  | zero =>
    refine .top (Option.eq_none_iff_forall_ne_some.2 fun q hq => ?_)
    obtain ⟨c, hc⟩ := components_of_parent? hq
    rw [hc, List.length_append, List.length_singleton] at hn
    omega
  | succ n ih =>
    rw [parents]
    split
    next hnone => exact .top hnone
    next q hq =>
      obtain ⟨c, hc⟩ := components_of_parent? hq
      rw [hc, List.length_append, List.length_singleton] at hn
      exact .up hq (ih (by omega))

/-- The directories upwards from a path are those on the way up, and all of them. -/
theorem climb_iff {way : List Path} : p.Climb way ↔ way = p.ancestors := by
  have hway : p.Climb p.ancestors := climb_parents (Nat.le_refl _)
  exact ⟨fun h => h.unique hway, fun h => h ▸ hway⟩

end Path

/-! ## The order of a search -/

variable {isFile isFile' : Path → Bool} {start p : Path} {names : List String} {tool : String}
  {i j : Nat}

/-- The path of the `j`-th name in the `i`-th directory upwards. -/
def Candidate (start : Path) (names : List String) (i j : Nat) (p : Path) : Prop :=
  ∃ dir name, start.ancestors[i]? = some dir ∧ names[j]? = some name ∧ p = dir.join ⟨name⟩

/-- A candidate that a search gets to: no candidate in a nearer directory is a file, and in the same
directory none with an earlier name. -/
structure Reached (isFile : Path → Bool) (start : Path) (names : List String) (i j : Nat)
    (p : Path) : Prop where
  candidate : Candidate start names i j p
  missed : ∀ i' j' p', Candidate start names i' j' p' → i' < i ∨ i' = i ∧ j' < j →
    isFile p' = false

lemma searchUp_eq_none_iff_candidate :
    searchUp isFile start names = none ↔
      ∀ i j p, Candidate start names i j p → isFile p = false := by
  rw [searchUp_eq_none_iff]
  constructor
  · rintro h i j p ⟨dir, name, hdir, hname, rfl⟩
    exact h dir (List.mem_of_getElem? hdir) name (List.mem_of_getElem? hname)
  · intro h dir hdir name hname
    obtain ⟨i, hi⟩ := List.mem_iff_getElem?.1 hdir
    obtain ⟨j, hj⟩ := List.mem_iff_getElem?.1 hname
    exact h i j _ ⟨dir, name, hi, hj, rfl⟩

/-- The first candidate that is a file is found. -/
lemma searchUp_of_reached (h : Reached isFile start names i j p) (hfile : isFile p = true) :
    searchUp isFile start names = some p := by
  obtain ⟨⟨dir, name, hdir, hname, rfl⟩, hmissed⟩ := h
  obtain ⟨hi, rfl⟩ := List.getElem?_eq_some_iff.1 hdir
  obtain ⟨hj, rfl⟩ := List.getElem?_eq_some_iff.1 hname
  rw [searchUp_eq_some_iff]
  refine ⟨start.ancestors.take i, _, start.ancestors.drop (i + 1), names.take j, _,
    names.drop (j + 1), ?_, ?_, rfl, hfile, ?_, ?_⟩
  · rw [← List.drop_eq_getElem_cons hi, List.take_append_drop]
  · rw [← List.drop_eq_getElem_cons hj, List.take_append_drop]
  · intro d hd n hn
    obtain ⟨i', hi'⟩ := List.mem_iff_getElem?.1 hd
    obtain ⟨j', hj'⟩ := List.mem_iff_getElem?.1 hn
    rw [List.getElem?_take] at hi'
    split at hi'
    next hlt => exact hmissed i' j' _ ⟨d, n, hi', hj', rfl⟩ (.inl hlt)
    next => cases hi'
  · intro n hn
    obtain ⟨j', hj'⟩ := List.mem_iff_getElem?.1 hn
    rw [List.getElem?_take] at hj'
    split at hj'
    next hlt => exact hmissed i j' _ ⟨_, n, hdir, hj', rfl⟩ (.inr ⟨rfl, hlt⟩)
    next => cases hj'

/-- A file that is found is the first candidate that is one. -/
lemma exists_reached_of_searchUp (h : searchUp isFile start names = some p) :
    ∃ i j, Reached isFile start names i j p ∧ isFile p = true := by
  obtain ⟨nearer, dir, farther, before, name, after, hdirs, rfl, rfl, hfile, hnearer, hbefore⟩ :=
    searchUp_eq_some_iff.1 h
  refine ⟨nearer.length, before.length, ⟨⟨dir, name, ?_, ?_, rfl⟩, ?_⟩, hfile⟩
  · simp [hdirs]
  · simp
  · rintro i' j' p' ⟨dir', name', hdir', hname', rfl⟩ (hlt | ⟨rfl, hlt⟩)
    · rw [hdirs, List.getElem?_append_left hlt] at hdir'
      exact hnearer dir' (List.mem_of_getElem? hdir') name' (List.mem_of_getElem? hname')
    · rw [List.getElem?_append_left hlt] at hname'
      obtain rfl : dir = dir' := by simpa [hdirs] using hdir'
      exact hbefore name' (List.mem_of_getElem? hname')

theorem searchUp_eq_some_iff_reached :
    searchUp isFile start names = some p ↔
      ∃ i j, Reached isFile start names i j p ∧ isFile p = true :=
  ⟨exists_reached_of_searchUp, fun ⟨_, _, h, hfile⟩ => searchUp_of_reached h hfile⟩

/-- A search depends on nothing but the candidates that it gets to. -/
theorem searchUp_congr_reached
    (h : ∀ i j p, Reached isFile start names i j p → isFile' p = isFile p) :
    searchUp isFile' start names = searchUp isFile start names := by
  cases hfound : searchUp isFile start names with
  | none =>
    have hmissed := searchUp_eq_none_iff_candidate.1 hfound
    rw [searchUp_eq_none_iff_candidate]
    intro i j p hp
    rw [h i j p ⟨hp, fun i' j' p' hp' _ => hmissed i' j' p' hp'⟩]
    exact hmissed i j p hp
  | some p =>
    obtain ⟨i, j, hreached, hfile⟩ := exists_reached_of_searchUp hfound
    refine searchUp_of_reached ⟨hreached.candidate, fun i' j' p' hp' hlt => ?_⟩
      ((h i j p hreached).trans hfile)
    -- the search gets to what comes before the file
    rw [h i' j' p' ⟨hp', fun i'' j'' p'' hp'' hlt' => hreached.missed i'' j'' p'' hp'' (by omega)⟩]
    exact hreached.missed i' j' p' hp' hlt

/-! ## The copies of a tool -/

/-- The name of a copy of the tool, seen from the directory that has it. -/
def toolCopy (tool : String) : String := "node_modules/.bin/" ++ tool

lemma toList_toolCopy (tool : String) :
    ∃ cs, (toolCopy tool).toList = 'n' :: (cs ++ tool.toList) := by
  have hhead : "node_modules/.bin/".toList = 'n' :: "ode_modules/.bin/".toList := by decide +kernel
  exact ⟨_, calc (toolCopy tool).toList = "node_modules/.bin/".toList ++ tool.toList :=
      String.toList_append
    _ = _ := congrArg (· ++ tool.toList) hhead⟩

lemma isAbsolute_toolCopy (tool : String) : (⟨toolCopy tool⟩ : Path).isAbsolute = false := by
  obtain ⟨cs, hcs⟩ := toList_toolCopy tool
  rw [Path.isAbsolute, hcs]
  rfl

lemma text_toolPlace (h : (⟨tool⟩ : Path).isAbsolute = false) :
    (toolPlace tool).text = toolCopy tool := by
  have hbin : Path.join ⟨"node_modules"⟩ ⟨".bin"⟩ = ⟨"node_modules/.bin"⟩ := by decide +kernel
  have hends : ("node_modules/.bin".isEmpty ||
      decide ("node_modules/.bin".toList.getLast? = some '/')) = false := by decide +kernel
  have hmark : "node_modules/.bin" ++ "/" = "node_modules/.bin/" := by decide +kernel
  have hjoin : toolPlace tool = ⟨"node_modules/.bin" ++ "/" ++ tool⟩ := by
    rw [toolPlace, hbin, Path.join, h, if_neg Bool.false_ne_true, hends,
      if_neg Bool.false_ne_true]
  calc (toolPlace tool).text = "node_modules/.bin" ++ "/" ++ tool := congrArg Path.text hjoin
    _ = toolCopy tool := congrArg (· ++ tool) hmark

/-- A copy in a directory is not spelled like the bare name: its spelling is longer. -/
lemma join_toolCopy_ne (dir : Path) (tool : String) : dir.join ⟨toolCopy tool⟩ ≠ ⟨tool⟩ := by
  intro h
  obtain ⟨cs, hcs⟩ := toList_toolCopy tool
  have hlength := congrArg (fun p : Path => p.text.toList.length) h
  rw [Path.join, isAbsolute_toolCopy, if_neg Bool.false_ne_true] at hlength
  split at hlength <;>
    simp only [String.toList_append, hcs, List.length_append, List.length_cons] at hlength <;> omega

lemma findTool_of_relative (h : (⟨tool⟩ : Path).isAbsolute = false) :
    findTool isFile start tool = (searchUp isFile start [toolCopy tool]).getD ⟨tool⟩ := by
  rw [findTool, text_toolPlace h]

/-- The bare name stands for a tool of which there is no copy. -/
lemma findTool_eq_bare_iff (h : (⟨tool⟩ : Path).isAbsolute = false) :
    findTool isFile start tool = ⟨tool⟩ ↔
      ∀ i j p, Candidate start [toolCopy tool] i j p → isFile p = false := by
  rw [findTool_of_relative h, ← searchUp_eq_none_iff_candidate]
  cases hfound : searchUp isFile start [toolCopy tool] with
  | none => simp
  | some p =>
    obtain ⟨i, j, ⟨⟨dir, name, -, hname, rfl⟩, -⟩, -⟩ := exists_reached_of_searchUp hfound
    obtain rfl : name = toolCopy tool := List.mem_singleton.1 (List.mem_of_getElem? hname)
    simpa using join_toolCopy_ne dir tool

/-- A tool that is given by an absolute path is not looked for. -/
lemma findTool_of_isAbsolute (h : (⟨tool⟩ : Path).isAbsolute = true) :
    findTool isFile start tool = ⟨tool⟩ := by
  rw [findTool, toolPlace, Path.join_of_isAbsolute h]
  cases hfound : searchUp isFile start [tool] with
  | none => rfl
  | some p =>
    obtain ⟨i, j, ⟨⟨dir, name, -, hname, rfl⟩, -⟩, -⟩ := exists_reached_of_searchUp hfound
    obtain rfl : name = tool := List.mem_singleton.1 (List.mem_of_getElem? hname)
    exact Path.join_of_isAbsolute h dir

/-! ## The law -/

/-- **The first file is found.**  A search looks into the directory where it starts and all those
above it.  It finds the file that comes first: no name in a nearer directory is a file, and no
earlier name in the same one.  It finds nothing exactly if there is no file.  What it finds depends
on nothing but the candidates up to and including this file.  The same holds for the copies of a
tool, with the bare name if there is none, except that a tool with an absolute path is used as it
is. -/
theorem first_file_found (isFile : Path → Bool) (start : Path) (names : List String)
    (tool : String) :
    (∀ way, start.Climb way ↔ way = start.ancestors) ∧
    (∀ p, searchUp isFile start names = some p ↔
      ∃ i j, Reached isFile start names i j p ∧ isFile p = true) ∧
    (searchUp isFile start names = none ↔
      ∀ i j p, Candidate start names i j p → isFile p = false) ∧
    (∀ isFile' : Path → Bool,
      (∀ i j p, Reached isFile start names i j p → isFile' p = isFile p) →
      searchUp isFile' start names = searchUp isFile start names) ∧
    ((⟨tool⟩ : Path).isAbsolute = false →
      (∀ i j p, Reached isFile start [toolCopy tool] i j p → isFile p = true →
        findTool isFile start tool = p) ∧
      (findTool isFile start tool = ⟨tool⟩ ↔
        ∀ i j p, Candidate start [toolCopy tool] i j p → isFile p = false) ∧
      ∀ isFile' : Path → Bool,
        (∀ i j p, Reached isFile start [toolCopy tool] i j p → isFile' p = isFile p) →
        findTool isFile' start tool = findTool isFile start tool) ∧
    ((⟨tool⟩ : Path).isAbsolute = true → findTool isFile start tool = ⟨tool⟩) := by
  refine ⟨fun way => Path.climb_iff, fun p => searchUp_eq_some_iff_reached,
    searchUp_eq_none_iff_candidate, fun isFile' => searchUp_congr_reached, ?_,
    findTool_of_isAbsolute⟩
  intro hrelative
  refine ⟨?_, findTool_eq_bare_iff hrelative, ?_⟩
  · intro i j p hreached hfile
    rw [findTool_of_relative hrelative, searchUp_of_reached hreached hfile]
    rfl
  · intro isFile' hsame
    rw [findTool_of_relative hrelative, findTool_of_relative hrelative,
      searchUp_congr_reached hsame]

/-- A nearer directory goes before an earlier name, and a file beyond the one that is found does not
count. -/
theorem first_file_found_nearer :
    let files : List Path := [⟨"/p/src/b.js"⟩, ⟨"/p/a.js"⟩, ⟨"/p/node_modules/.bin/lint"⟩]
    let isFile := fun p => decide (p ∈ files)
    let isFile' := fun p => decide (p ∈ files.eraseIdx 1 ++ [⟨"/b.js"⟩])
    let start : Path := ⟨"/p/src"⟩
    (∃ i j, Reached isFile start ["a.js", "b.js"] i j ⟨"/p/src/b.js"⟩) ∧
      (∀ i j p, Reached isFile start ["a.js", "b.js"] i j p → isFile' p = isFile p) ∧
      searchUp isFile' start ["a.js", "b.js"] = some ⟨"/p/src/b.js"⟩ ∧
      (⟨"lint"⟩ : Path).isAbsolute = false ∧
      findTool isFile start "lint" = ⟨"/p/node_modules/.bin/lint"⟩ := by
  intro files isFile isFile' start
  have hrelative : (⟨"lint"⟩ : Path).isAbsolute = false := by decide +kernel
  have hfound : searchUp isFile start ["a.js", "b.js"] = some ⟨"/p/src/b.js"⟩ := by decide +kernel
  have hcopy : searchUp isFile start [toolCopy "lint"] = some ⟨"/p/node_modules/.bin/lint"⟩ := by
    decide +kernel
  obtain ⟨-, hsome, -, hcongr, htool, -⟩ := first_file_found isFile start ["a.js", "b.js"] "lint"
  obtain ⟨i, j, hreached, -⟩ := (hsome _).1 hfound
  obtain ⟨i', j', hreached', hfile'⟩ := exists_reached_of_searchUp hcopy
  have hsame : ∀ i j p, Reached isFile start ["a.js", "b.js"] i j p → isFile' p = isFile p := by
    rintro i j p ⟨⟨dir, name, hdir, hname, rfl⟩, hmissed⟩
    have hfirst := hmissed 0 1 _ ⟨start, "b.js", rfl, rfl, rfl⟩
    have hhere : i = 0 := by
      by_contra hi
      exact absurd (hfirst (by omega)) (by decide +kernel)
    subst hhere
    obtain rfl : start = dir := Option.some.inj hdir
    rcases List.mem_pair.1 (List.mem_of_getElem? hname) with rfl | rfl <;> decide +kernel
  exact ⟨⟨i, j, hreached⟩, hsame, (hcongr isFile' hsame).trans hfound, hrelative,
    (htool hrelative).1 i' j' _ hreached' hfile'⟩

/-- A copy of a tool with an absolute path, and the tool itself, are there, but its path is used
whether they are or not. -/
theorem absolute_tool_unsearched :
    let file : Node := .file [] false
    let disk : Disk := ⟨[(["p"], .directory), (["node_modules", "p"], .directory),
      ([".bin", "node_modules", "p"], .directory), (["lint", ".bin", "node_modules", "p"], file),
      (["lint"], file)], ["p"]⟩
    disk.isFile (Path.join ⟨"/p"⟩ ⟨toolCopy "/lint"⟩) = true ∧
      findTool disk.isFile ⟨"/p"⟩ "/lint" = ⟨"/lint"⟩ ∧
      ¬(findTool disk.isFile ⟨"/p"⟩ "/lint" = ⟨"/lint"⟩ ↔
        ∀ i j p, Candidate ⟨"/p"⟩ [toolCopy "/lint"] i j p → disk.isFile p = false) := by
  intro file disk
  have hcopy : disk.isFile (Path.join ⟨"/p"⟩ ⟨toolCopy "/lint"⟩) = true := by decide +kernel
  have hbare : findTool disk.isFile ⟨"/p"⟩ "/lint" = ⟨"/lint"⟩ := by decide +kernel
  refine ⟨hcopy, hbare, fun h => ?_⟩
  have hnone := h.1 hbare 0 0 _ ⟨⟨"/p"⟩, toolCopy "/lint", rfl, rfl, rfl⟩
  exact Bool.false_ne_true (hnone.symm.trans hcopy)

end LintBridge
