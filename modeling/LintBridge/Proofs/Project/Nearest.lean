/-
# The project of a target

The project of a target is that of the nearest directory above it in which there is a configuration.
It is found by looking at these directories alone, so neither the current directory nor anything
else matters.  There is one exception.  The root has no directory above it, and its project is
looked for in the current directory.

* `searchUp_eq_some_iff`, `searchUp_eq_none_iff`: what searching upwards finds.
* `Disk.isFile_join_empty`: nothing is found under the empty name.
* `Project.Nearest`: the project of a target, in terms of the directories above it.
* `Project.resolve_of_absolute`: the law.
* `Project.exists_project_of_root`: the exception.
-/
import LintBridge.Disk
import LintBridge.Proofs.Path.Ancestors

namespace LintBridge

variable {isFile : Path → Bool} {start config target : Path} {names : List String} {tool : String}

/-! ## Searching upwards -/

/-- A search finds the first name that is there in the nearest directory that has one of the names.
-/
theorem searchUp_eq_some_iff :
    searchUp isFile start names = some config ↔
      ∃ nearer dir farther before name after, start.ancestors = nearer ++ dir :: farther ∧
        names = before ++ name :: after ∧ config = dir.join ⟨name⟩ ∧ isFile config = true ∧
        (∀ d ∈ nearer, ∀ n ∈ names, isFile (d.join ⟨n⟩) = false) ∧
        ∀ n ∈ before, isFile (dir.join ⟨n⟩) = false := by
  rw [searchUp, candidates, List.find?_flatMap, List.findSome?_eq_some_iff]
  constructor
  · rintro ⟨nearer, dir, farther, hdirs, hfound, hnearer⟩
    rw [List.find?_map, Option.map_eq_some_iff] at hfound
    obtain ⟨name, hfound, rfl⟩ := hfound
    obtain ⟨hfile, before, after, hnames, hbefore⟩ := List.find?_eq_some_iff_append.1 hfound
    refine ⟨nearer, dir, farther, before, name, after, hdirs, hnames, rfl, hfile, ?_, ?_⟩
    · intro d hd n hn
      have hnone := List.find?_eq_none.1 (hnearer d hd) (d.join ⟨n⟩) (List.mem_map.2 ⟨n, hn, rfl⟩)
      simpa using hnone
    · intro n hn
      simpa using hbefore n hn
  · rintro ⟨nearer, dir, farther, before, name, after, hdirs, hnames, rfl, hfile, hnearer, hbefore⟩
    refine ⟨nearer, dir, farther, hdirs, ?_, ?_⟩
    · rw [List.find?_map, Option.map_eq_some_iff]
      refine ⟨name, List.find?_eq_some_iff_append.2 ⟨hfile, before, after, hnames, ?_⟩, rfl⟩
      intro n hn
      simpa using hbefore n hn
    · intro d hd
      rw [List.find?_eq_none]
      intro q hq
      obtain ⟨n, hn, rfl⟩ := List.mem_map.1 hq
      simpa using hnearer d hd n hn

theorem searchUp_eq_none_iff :
    searchUp isFile start names = none ↔
      ∀ dir ∈ start.ancestors, ∀ n ∈ names, isFile (dir.join ⟨n⟩) = false := by
  rw [searchUp, candidates, List.find?_eq_none]
  simp only [List.forall_mem_flatMap, List.forall_mem_map, Bool.not_eq_true]

/-- A search only looks at the names in the directories upwards. -/
lemma searchUp_congr_directories {isFile' : Path → Bool}
    (h : ∀ dir ∈ start.ancestors, ∀ n ∈ names, isFile' (dir.join ⟨n⟩) = isFile (dir.join ⟨n⟩)) :
    searchUp isFile' start names = searchUp isFile start names := by
  refine searchUp_congr fun q hq => ?_
  obtain ⟨dir, hdir, hq⟩ := List.mem_flatMap.1 hq
  obtain ⟨n, hn, rfl⟩ := List.mem_map.1 hq
  exact h dir hdir n hn

/-! ## The empty name -/

/-- The empty name leads to a path that is empty or ends in a separator. -/
lemma Path.text_join_empty (dir : Path) :
    (dir.join ⟨""⟩).text = "" ∨ (dir.join ⟨""⟩).text.toList.getLast? = some '/' := by
  rw [join, show (⟨""⟩ : Path).isAbsolute = false from rfl, if_neg Bool.false_ne_true]
  split
  next h =>
    rw [Bool.or_eq_true, String.isEmpty_iff, decide_eq_true_iff] at h
    simpa using h
  next => simp

namespace Disk

variable {d : Disk} {here l : Location} {way : List (List Char)}

/-- A way whose last segment is empty ends in a directory, if this is so behind every link on it. -/
lemma node?_of_walkOn {follow : Location → List (List Char) → Except DiskError Place}
    (hfollow : ∀ there way, way.getLast? = some [] → follow there way = .ok (.found l) →
      d.node? l = some .directory)
    (hway : way.getLast? = some []) (h : d.walkOn false follow here way = .ok (.found l)) :
    d.node? l = some .directory := by
  induction way generalizing here with
  | nil => cases hway
  | cons s rest ih =>
    rw [walkOn] at h
    split at h
    next hhere =>
      by_cases hrest : rest = []
      · -- the last segment is only passed in a directory, and does not lead out of it
        subst hrest
        obtain rfl : s = [] := by simpa using hway
        obtain rfl : here = l := by simpa [Component.ofSegment?, walkOn] using h
        exact hhere
      · have hlast : rest.getLast? = some [] := by
          rw [List.getLast?_cons_of_ne_nil hrest] at hway
          exact hway
        split at h
        next => exact ih hlast h
        next => exact ih hlast h
        next c =>
          split at h
          next => cases h
          next =>
            split at h
            next =>
              rw [if_neg (by simpa using hrest)] at h
              cases h
            next target _ =>
              have hway' : (Path.segments target.toList ++ rest).getLast? = some [] := by
                rw [List.getLast?_append, hlast]
                rfl
              exact hfollow _ _ hway' h
            next => exact ih hlast h
    next => cases h

lemma node?_of_walk {links : Nat} (hway : way.getLast? = some [])
    (h : d.walk false links here way = .ok (.found l)) : d.node? l = some .directory := by
  induction links generalizing here way with
  | zero => exact node?_of_walkOn (fun _ _ _ hno => by cases hno) hway h
  | succ links ih => exact node?_of_walkOn (fun _ _ => ih) hway h

/-- A path that is empty or ends in a separator is never that of a file. -/
lemma isFile_of_separator {p : Path} (h : p.text = "" ∨ p.text.toList.getLast? = some '/') :
    d.isFile p = false := by
  have hfound (l : Location) (hl : d.resolve false p = .ok (.found l)) :
      d.node? l = some .directory := by
    unfold resolve at hl
    split at hl
    next => cases hl
    next hne =>
      split at hl
      next => cases hl
      split at hl
      next => cases hl
      next =>
        have hends : p.text.toList.getLast? = some '/' :=
          h.resolve_left fun hempty => hne (String.isEmpty_iff.2 hempty)
        obtain ⟨cs, hcs⟩ := List.getLast?_eq_some_iff.1 hends
        have hway : (Path.segments p.text.toList ++ []).getLast? = some [] := by
          rw [List.append_nil, hcs, Path.segments, Text.split_append_mark, List.getLast?_append]
          rfl
        exact node?_of_walk hway hl
  rw [isFile, stat]
  cases hplace : d.resolve false p with
  | error e => rfl
  | ok place =>
    cases place with
    | missing l => rfl
    | found l => simp [bind, Except.bind, hfound l hplace]

/-- No disk has a file with the empty name. -/
lemma isFile_join_empty (d : Disk) (dir : Path) : d.isFile (dir.join ⟨""⟩) = false :=
  isFile_of_separator (Path.text_join_empty dir)

end Disk

namespace Project

open LintBridge.Path Component

/-! ## Projects in terms of searches -/

lemma resolve_eq_ok_iff {project : Project} :
    resolve isFile target names tool = .ok project ↔
      ∃ config, searchUp isFile (directoryOf target) names = some config ∧
        project = ⟨config, config.parent?.getD (directoryOf target),
          findTool isFile (directoryOf target) tool⟩ := by
  rw [resolve, findConfig]
  cases searchUp isFile (directoryOf target) names with
  | none => simp [bind, Except.bind]
  | some config => simp [bind, Except.bind, pure, Except.pure, eq_comm]

lemma resolve_eq_error_iff {e : Failure} :
    resolve isFile target names tool = .error e ↔
      searchUp isFile (directoryOf target) names = none ∧
        e = .configNotFound (directoryOf target) := by
  rw [resolve, findConfig]
  cases searchUp isFile (directoryOf target) names with
  | none => simp [bind, Except.bind, eq_comm]
  | some config => simp [bind, Except.bind, pure, Except.pure]

/-- A project is found if and only if one of the names is, in some directory upwards. -/
lemma exists_resolve_iff :
    (∃ project, resolve isFile target names tool = .ok project) ↔
      ∃ dir ∈ (directoryOf target).ancestors, ∃ n ∈ names, isFile (dir.join ⟨n⟩) = true := by
  have hsearch : (∃ project, resolve isFile target names tool = .ok project) ↔
      ¬searchUp isFile (directoryOf target) names = none := by
    rw [← Ne, Option.ne_none_iff_exists']
    constructor
    · rintro ⟨project, hproject⟩
      obtain ⟨config, hconfig, -⟩ := resolve_eq_ok_iff.1 hproject
      exact ⟨config, hconfig⟩
    · rintro ⟨config, hconfig⟩
      exact ⟨_, resolve_eq_ok_iff.2 ⟨config, hconfig, rfl⟩⟩
  rw [hsearch, searchUp_eq_none_iff]
  simp only [not_forall, Bool.not_eq_false, exists_prop]

/-- Where the project is, apart from the tool that is used in it. -/
def place (project : Project) : Path × Path := (project.config, project.root)

/-- The place of a project only depends on the names in the directories upwards. -/
lemma map_place_congr {isFile' : Path → Bool} (tool' : String)
    (h : ∀ dir ∈ (directoryOf target).ancestors,
      ∀ n ∈ names, isFile' (dir.join ⟨n⟩) = isFile (dir.join ⟨n⟩)) :
    (resolve isFile' target names tool').map place =
      (resolve isFile target names tool).map place := by
  rw [resolve, resolve, findConfig, findConfig, searchUp_congr_directories h]
  cases searchUp isFile (directoryOf target) names <;> rfl

/-! ## Projects above a target -/

/-- A name that can be that of a file: it has no separator, and is neither `.` nor `..`. -/
def PlainName (n : String) : Prop := '/' ∉ n.toList ∧ n ≠ "." ∧ n ≠ ".."

lemma inner_name {n : String} (h : PlainName n) (hne : n ≠ "") : (name n).Inner := by
  have hchars {l : List Char} (hl : n.toList = l) : n = String.ofList l := by
    rw [← hl, String.ofList_toList]
  refine ⟨?_, h.1⟩
  rw [Component.text, ofSegment?.eq_def]
  split
  next hl => exact absurd (hchars hl) hne
  next hl => exact absurd (hchars hl) h.2.1
  next hl => exact absurd (hchars hl) h.2.2
  next => rw [String.ofList_toList]

/-- The project is that of the nearest directory above the target which has a file with one of the
names, and its configuration is the first of the names that is there. -/
structure Nearest (isFile : Path → Bool) (target : Path) (names : List String)
    (project : Project) : Prop where
  above : project.root.Above target
  config : ∃ before name after, names = before ++ name :: after ∧
    project.config = project.root.join ⟨name⟩ ∧ isFile project.config = true ∧
    ∀ n ∈ before, isFile (project.root.join ⟨n⟩) = false
  nearest : ∀ dir : Path, dir.Above target →
    project.root.components.length < dir.components.length →
    ∀ n ∈ names, isFile (dir.join ⟨n⟩) = false

lemma directoryOf_ofComponents {cs : List Component} {c : Component}
    (h : ∀ d ∈ cs ++ [c], d.Inner) :
    directoryOf (ofComponents (.root :: (cs ++ [c]))) = ofComponents (.root :: cs) := by
  have hne : (ofComponents (.root :: cs)).text.isEmpty = false :=
    isEmpty_of_isAbsolute (isAbsolute_iff_toList.2 ⟨_, toList_ofComponents_absolute cs⟩)
  rw [directoryOf, parent?_ofComponents h]
  simp [hne]

/-- What is found above a target is the nearest project. -/
lemma nearest_of_resolve {cs : List Component} {c : Component} (h : ∀ d ∈ cs ++ [c], d.Inner)
    (hnames : ∀ n ∈ names, PlainName n)
    (hempty : "" ∈ names → ∀ dir : Path, isFile (dir.join ⟨""⟩) = false) {project : Project}
    (hfound : resolve isFile (ofComponents (.root :: (cs ++ [c]))) names tool = .ok project) :
    project.Nearest isFile (ofComponents (.root :: (cs ++ [c]))) names := by
  have hcs : ∀ d ∈ cs, d.Inner := fun d hd => h d (List.mem_append_left _ hd)
  obtain ⟨config, hconfig, rfl⟩ := resolve_eq_ok_iff.1 hfound
  rw [directoryOf_ofComponents h] at hconfig ⊢
  obtain ⟨nearer, dir, farther, before, name, after, hdirs, rfl, rfl, hfile, hnearer, hbefore⟩ :=
    searchUp_eq_some_iff.1 hconfig
  have habove : dir.Above (ofComponents (.root :: (cs ++ [c]))) := by
    rw [← mem_ancestors_iff h, hdirs]
    simp
  have hname : name ∈ before ++ name :: after := by simp
  have hne : name ≠ "" := by
    rintro rfl
    exact Bool.false_ne_true ((hempty hname dir).symm.trans hfile)
  -- the directory of the configuration is the one it was found in
  obtain ⟨ds, hds, hdir⟩ := (above_iff h).1 habove
  have hinner := inner_of_prefix hcs hds
  have hjoin := join_name hinner (inner_name (hnames name hname) hne)
  have hroot : (dir.join ⟨name⟩).parent? = some dir := by
    rw [hdir, hjoin]
    refine parent?_ofComponents (List.forall_mem_append.2 ⟨hinner, ?_⟩)
    rw [List.forall_mem_singleton]
    exact inner_name (hnames name hname) hne
  simp only [hroot, Option.getD_some]
  refine ⟨habove, ⟨before, name, after, rfl, rfl, hfile, hbefore⟩, ?_⟩
  intro d hd hlonger n hn
  -- a directory with more components comes earlier
  have hmem : d ∈ nearer ++ dir :: farther := hdirs ▸ (mem_ancestors_iff h).2 hd
  have hdescend := ancestors_descend hcs
  rw [hdirs, List.pairwise_append, List.pairwise_cons] at hdescend
  rcases List.mem_append.1 hmem with hd' | hd'
  · exact hnearer d hd' n hn
  · rcases List.mem_cons.1 hd' with rfl | hd'
    · exact absurd hlonger (Nat.lt_irrefl _)
    · exact absurd (hdescend.2.1.1 d hd') (Nat.lt_asymm hlonger)

/-! ## The root -/

lemma ancestors_directoryOf_root :
    (directoryOf (ofComponents [.root])).ancestors = [⟨"."⟩, ⟨""⟩] := by decide +kernel

/-- A name in the current directory has a relative path. -/
lemma isAbsolute_join_here {n : String} (h : PlainName n) {dir : Path}
    (hdir : dir ∈ ([⟨"."⟩, ⟨""⟩] : List Path)) : (dir.join ⟨n⟩).isAbsolute = false := by
  have hhead : n.toList.head? ≠ some '/' := fun hhead => h.1 (List.mem_of_head? hhead)
  have hname : (⟨n⟩ : Path).isAbsolute = false := isAbsolute_of_head? hhead
  apply isAbsolute_of_head?
  rw [join, hname, if_neg Bool.false_ne_true]
  rcases List.mem_pair.1 hdir with rfl | rfl
  · rw [if_neg (by decide), String.toList_append, String.toList_append]
    simp
  · rw [if_pos (by decide), String.toList_append]
    simpa using hhead

/-! ## The law -/

/-- The project of a target that is not the root. -/
lemma resolve_above {cs : List Component} {c : Component} (h : ∀ d ∈ cs ++ [c], d.Inner)
    (hnames : ∀ n ∈ names, PlainName n)
    (hempty : "" ∈ names → ∀ dir : Path, isFile (dir.join ⟨""⟩) = false) (tool : String) :
    let target := ofComponents (.root :: (cs ++ [c]))
    let found := resolve isFile target names tool
    (∀ project, found = .ok project → project.Nearest isFile target names) ∧
    ((∃ project, found = .ok project) ↔
      ∃ dir : Path, dir.Above target ∧ ∃ n ∈ names, isFile (dir.join ⟨n⟩) = true) ∧
    (∀ e, found = .error e → ∃ dir : Path, dir.Above target ∧
      dir.components = target.components.dropLast ∧ e = .configNotFound dir) ∧
    (∀ (isFile' : Path → Bool) (tool' : String),
      (∀ dir : Path, dir.Above target →
        ∀ n ∈ names, isFile' (dir.join ⟨n⟩) = isFile (dir.join ⟨n⟩)) →
      (resolve isFile' target names tool').map place = found.map place) := by
  intro target found
  have hdirectory : directoryOf target = ofComponents (.root :: cs) := directoryOf_ofComponents h
  have habove (dir : Path) : dir ∈ (directoryOf target).ancestors ↔ dir.Above target := by
    rw [hdirectory]
    exact mem_ancestors_iff h
  refine ⟨fun project hfound => nearest_of_resolve h hnames hempty hfound, ?_, ?_, ?_⟩
  · rw [exists_resolve_iff]
    simp only [habove]
  · intro e he
    obtain ⟨-, rfl⟩ := resolve_eq_error_iff.1 he
    have hinner : ∀ d ∈ cs, d.Inner := fun d hd => h d (List.mem_append_left _ hd)
    refine ⟨_, (habove _).1 List.mem_cons_self, ?_, rfl⟩
    rw [hdirectory, components_ofComponents (.absolute h),
      components_ofComponents (.absolute hinner), ← List.cons_append, List.dropLast_concat]
  · intro isFile' tool' hsame
    exact map_place_congr tool' fun dir hdir => hsame dir ((habove dir).1 hdir)

/-- The project of the root. -/
lemma resolve_root (hnames : ∀ n ∈ names, PlainName n) (tool : String) :
    let found := resolve isFile (ofComponents [.root]) names tool
    ((∃ project, found = .ok project) ↔
      ∃ dir ∈ ([⟨"."⟩, ⟨""⟩] : List Path), ∃ n ∈ names, isFile (dir.join ⟨n⟩) = true) ∧
    ∀ project, found = .ok project → project.config.isAbsolute = false := by
  refine ⟨by rw [exists_resolve_iff, ancestors_directoryOf_root], ?_⟩
  intro project hfound
  obtain ⟨config, hconfig, rfl⟩ := resolve_eq_ok_iff.1 hfound
  obtain ⟨nearer, dir, farther, before, name, after, hdirs, rfl, rfl, -⟩ :=
    searchUp_eq_some_iff.1 hconfig
  rw [ancestors_directoryOf_root] at hdirs
  exact isAbsolute_join_here (hnames name (by simp)) (hdirs ▸ by simp)

/-- **The project belongs to the target.**  Let a target be the absolute form of a path.  If it is
not the root, then what is found is the project of the nearest directory above it which has a file
with one of the names, and its configuration is the first of them that is there.  It is found
exactly if there is such a directory, and else the failure names the directory of the target.  No
other files count, for the configuration, the root or the failure.  If the target is the root, the
names are looked for in the current directory instead. -/
theorem resolve_of_absolute {cwd : Except String Path} {p : Path}
    (hcwd : ∀ dir, cwd = .ok dir → dir.isAbsolute = true)
    (htarget : Path.absolute cwd p = .ok target) (hnames : ∀ n ∈ names, PlainName n)
    (hempty : "" ∈ names → ∀ dir : Path, isFile (dir.join ⟨""⟩) = false) (tool : String) :
    let found := resolve isFile target names tool
    (target.components ≠ [.root] →
      (∀ project, found = .ok project → project.Nearest isFile target names) ∧
      ((∃ project, found = .ok project) ↔
        ∃ dir : Path, dir.Above target ∧ ∃ n ∈ names, isFile (dir.join ⟨n⟩) = true) ∧
      (∀ e, found = .error e → ∃ dir : Path, dir.Above target ∧
        dir.components = target.components.dropLast ∧ e = .configNotFound dir) ∧
      (∀ (isFile' : Path → Bool) (tool' : String),
        (∀ dir : Path, dir.Above target →
          ∀ n ∈ names, isFile' (dir.join ⟨n⟩) = isFile (dir.join ⟨n⟩)) →
        (resolve isFile' target names tool').map place = found.map place)) ∧
    (target.components = [.root] →
      ((∃ project, found = .ok project) ↔
        ∃ dir ∈ ([⟨"."⟩, ⟨""⟩] : List Path), ∃ n ∈ names, isFile (dir.join ⟨n⟩) = true) ∧
      ∀ project, found = .ok project → project.config.isAbsolute = false) := by
  intro found
  obtain ⟨base, hbase, htarget⟩ := exists_normalize_of_absolute hcwd htarget
  have hplain : target.Plain := htarget ▸ plain_normalize base p
  have habs : target.isAbsolute = true := htarget ▸ isAbsolute_normalize hbase p
  clear htarget hbase
  obtain ⟨body, hbody, hcs⟩ := components_of_isAbsolute habs
  obtain rfl : target = ofComponents (.root :: body) := by rw [← hcs]; exact hplain.symm
  constructor
  · intro hfile
    rcases List.eq_nil_or_concat' body with rfl | ⟨cs, c, rfl⟩
    · exact absurd hcs hfile
    · exact resolve_above hbody hnames hempty tool
  · intro hroot
    obtain rfl : body = [] := (List.cons.inj (hcs.symm.trans hroot)).2
    exact resolve_root hnames tool

/-- A target with a configuration beside it that has another name, two of them above it, the first
of the names at the root of the tree, and one in the current directory. -/
theorem resolve_of_absolute_beside :
    let file : Node := .file [] false
    let disk : Disk := ⟨[(["p"], .directory), (["lib", "p"], .directory),
      (["src", "p"], .directory), (["c.yml", "lib", "p"], file), (["b.js", "p"], file),
      (["a.json", "p"], file), (["first"], file), (["a.json", "src", "p"], file)], ["src", "p"]⟩
    let names := ["", "first", "a.json", "b.js"]
    let target : Path := ⟨"/p/lib/x.js"⟩
    Path.absolute (.ok disk.workingDirectory) ⟨"..//lib/./x.js"⟩ = .ok target ∧
      (∀ n ∈ names, PlainName n) ∧ (∀ dir : Path, disk.isFile (dir.join ⟨""⟩) = false) ∧
      target.components ≠ [.root] ∧
      ∃ project, resolve disk.isFile target names "lint" = .ok project ∧
        project = ⟨⟨"/p/a.json"⟩, ⟨"/p"⟩, ⟨"lint"⟩⟩ ∧
        project.Nearest disk.isFile target names := by
  intro file disk names target
  have hcwd : ∀ d, Except.ok (ε := String) disk.workingDirectory = .ok d →
      d.isAbsolute = true := by
    rintro d ⟨⟩
    decide +kernel
  have htarget : Path.absolute (.ok disk.workingDirectory) ⟨"..//lib/./x.js"⟩ = .ok target := by
    decide +kernel
  have hnames : ∀ n ∈ names, PlainName n := by
    simp only [PlainName]
    decide +kernel
  have hempty := disk.isFile_join_empty
  have hfile : target.components ≠ [.root] := by decide +kernel
  have hproject : resolve disk.isFile target names "lint" =
      .ok ⟨⟨"/p/a.json"⟩, ⟨"/p"⟩, ⟨"lint"⟩⟩ := by
    decide +kernel
  obtain ⟨hlaw, -⟩ := resolve_of_absolute hcwd htarget hnames (fun _ => hempty) "lint"
  exact ⟨htarget, hnames, hempty, hfile, _, hproject, rfl, (hlaw hfile).1 _ hproject⟩

/-- **The exception.**  The root has a project if a file of the current directory has the name of a
configuration, although there is none at the root itself. -/
theorem exists_project_of_root :
    let disk : Disk :=
      ⟨[(["work"], .directory), ([".eslintrc", "work"], .file [] false)], ["work"]⟩
    Path.absolute (.ok disk.workingDirectory) ⟨"/"⟩ = .ok rootDirectory ∧
      disk.isFile (rootDirectory.join ⟨".eslintrc"⟩) = false ∧
      resolve disk.isFile rootDirectory [".eslintrc"] "eslint" =
        .ok ⟨⟨"./.eslintrc"⟩, ⟨"."⟩, ⟨"eslint"⟩⟩ := by
  decide +kernel

end Project

end LintBridge
