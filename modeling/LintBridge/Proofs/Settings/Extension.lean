/-
# The files that are linted

Whether a file is linted is decided on its path as an event spells it, but the lint tool is run on
the absolute normal form of this path.  The answer only depends on the name of the file, which all
spellings of the path share with the normal form.

* `Path.extension?_eq_some_iff`: a name is cut at its last dot.
* `Settings.accepts_iff`: which names are those of files that are linted.
* `Settings.accepts_congr`: nothing else of a path matters.
* `Settings.accepts_by_name`: the law, from the spelling of a path to its absolute form.
-/
import LintBridge.Proofs.Project.Root
import LintBridge.Settings.Basic

namespace LintBridge

namespace Path

variable {p q base : Path}

/-! ## What follows the last dot -/

/-- A name is cut at its last dot, unless this is its first character. -/
lemma extensionOf?_eq_some_iff {name x : List Char} :
    extensionOf? name = some x ↔ ∃ stem, stem ≠ [] ∧ '.' ∉ x ∧ name = stem ++ '.' :: x := by
  constructor
  · intro h
    unfold extensionOf? at h
    split at h
    next dot c before hcut =>
      cases h
      obtain rfl : dot = '.' := by
        have hhead := List.head?_dropWhile_not (· ≠ '.') name.reverse
        rw [hcut] at hhead
        simpa using hhead
      refine ⟨(c :: before).reverse, by simp, fun hmem => ?_, ?_⟩
      · simpa using List.mem_takeWhile_imp (List.mem_reverse.1 hmem)
      · calc name = (name.reverse.takeWhile (· ≠ '.') ++
                name.reverse.dropWhile (· ≠ '.')).reverse := by
              rw [List.takeWhile_append_dropWhile, List.reverse_reverse]
          _ = (c :: before).reverse ++ '.' :: (name.reverse.takeWhile (· ≠ '.')).reverse := by
              rw [hcut]
              simp
    next => cases h
  · rintro ⟨stem, hstem, hx, rfl⟩
    -- read from its end, the name has no dot before the one it is cut at
    have hafter : ∀ c ∈ x.reverse, decide (c ≠ '.') = true := by
      intro c hc
      simpa using fun hdot : c = '.' => hx (hdot ▸ List.mem_reverse.1 hc)
    obtain ⟨c, before, hbefore⟩ := List.exists_cons_of_ne_nil (List.reverse_ne_nil_iff.2 hstem)
    have hname : (stem ++ '.' :: x).reverse = x.reverse ++ '.' :: c :: before := by
      simp [hbefore]
    rw [extensionOf?, hname, List.dropWhile_append_of_pos hafter,
      List.takeWhile_append_of_pos hafter]
    simp

theorem extension?_eq_some_iff {x : String} :
    p.extension? = some x ↔
      ∃ stem, p.fileName? = some (stem ++ "." ++ x) ∧ stem ≠ "" ∧ '.' ∉ x.toList := by
  rw [extension?, Option.bind_eq_some_iff]
  constructor
  · rintro ⟨name, hname, hx⟩
    obtain ⟨cs, hcs, rfl⟩ := Option.map_eq_some_iff.1 hx
    obtain ⟨stem, hstem, hdot, hcut⟩ := extensionOf?_eq_some_iff.1 hcs
    refine ⟨String.ofList stem, ?_, by simpa using hstem, by simpa using hdot⟩
    rw [hname, Option.some.injEq, ← String.toList_inj, hcut]
    simp
  · rintro ⟨stem, hname, hstem, hdot⟩
    have hcut : extensionOf? (stem ++ "." ++ x).toList = some x.toList :=
      extensionOf?_eq_some_iff.2 ⟨stem.toList, by simpa using hstem, hdot, by simp⟩
    exact ⟨_, hname, by rw [hcut]; simp⟩

/-! ## Spellings and normal forms -/

lemma fileName?_same (h : p.Same q) : p.fileName? = q.fileName? := by
  rw [fileName?, fileName?, h]

/-- The normal form of a file is in a directory with an absolute path. -/
lemma exists_parent?_normalize {s : String} (h : base.isAbsolute = true)
    (hp : p.fileName? = some s) :
    ∃ dir, (normalize base p).parent? = some dir ∧ dir.isAbsolute = true := by
  have habs := isAbsolute_normalize h p
  cases hdir : (normalize base p).parent? with
  | none =>
    exact absurd (components_of_parent?_eq_none habs hdir) (components_normalize_ne_root h hp)
  | some dir => exact ⟨dir, rfl, isAbsolute_of_parent? habs hdir⟩

end Path

namespace Settings

variable {settings : Settings} {p q : Path}

lemma accepts_iff_extension? :
    settings.accepts p = true ↔ ∃ x, p.extension? = some x ∧ "." ++ x ∈ settings.extensions := by
  rw [accepts]
  cases p.extension? <;> simp

/-- A file is linted if its name is a stem followed by one of the extensions. -/
theorem accepts_iff :
    settings.accepts p = true ↔
      ∃ stem x, p.fileName? = some (stem ++ "." ++ x) ∧ stem ≠ "" ∧ '.' ∉ x.toList ∧
        "." ++ x ∈ settings.extensions := by
  simp only [accepts_iff_extension?, Path.extension?_eq_some_iff]
  constructor
  · rintro ⟨x, ⟨stem, hname, hstem, hdot⟩, hx⟩
    exact ⟨stem, x, hname, hstem, hdot, hx⟩
  · rintro ⟨stem, x, hname, hstem, hdot, hx⟩
    exact ⟨x, ⟨stem, hname, hstem, hdot⟩, hx⟩

/-- Only the name of a file matters. -/
lemma accepts_congr (h : p.fileName? = q.fileName?) : settings.accepts p = settings.accepts q := by
  rw [accepts, accepts, Path.extension?, Path.extension?, h]

/-- A file that is linted has a name. -/
lemma fileName?_of_accepts (h : settings.accepts p = true) : ∃ s, p.fileName? = some s := by
  obtain ⟨stem, x, hname, -⟩ := accepts_iff.1 h
  exact ⟨_, hname⟩

end Settings

/-- In a known directory, a file that is linted has an absolute normal form. -/
lemma Path.absolute_of_accepts {settings : Settings} {p : Path} (h : settings.accepts p = true)
    (dir : Path) : absolute (.ok dir) p = .ok (normalize dir p) := by
  refine absolute_ok ?_ dir
  rw [Bool.eq_false_iff]
  intro hempty
  obtain rfl : p = ⟨""⟩ := by
    cases p
    exact congrArg Path.mk (String.isEmpty_iff.1 hempty)
  -- the empty path has no extension
  cases h

namespace Settings

/-- **Files are linted by their names.**  A file is linted if and only if the last component of its
path is a name that ends in one of the extensions: this is a dot with no other dot after it, and
something comes before it.  Spellings of one component list have the same answer.  In an absolute
directory, a file that is linted has an absolute form, whose last component is the same, which has
the same answer, and which is in a directory with an absolute path. -/
theorem accepts_by_name (settings : Settings) (p : Path) :
    (settings.accepts p = true ↔ ∃ stem x : String,
      p.components.getLast? = some (.name (stem ++ "." ++ x)) ∧ stem ≠ "" ∧ '.' ∉ x.toList ∧
        "." ++ x ∈ settings.extensions) ∧
    (∀ q, p.Same q → settings.accepts q = settings.accepts p) ∧
    (∀ cwd : Path, cwd.isAbsolute = true → settings.accepts p = true →
      ∃ target dir, Path.absolute (.ok cwd) p = .ok target ∧
        target.components.getLast? = p.components.getLast? ∧ settings.accepts target = true ∧
        target.parent? = some dir ∧ dir.isAbsolute = true ∧ dir.text ≠ "") := by
  refine ⟨?_, fun q hs => accepts_congr (Path.fileName?_same hs.symm), fun cwd hcwd h => ?_⟩
  · simp only [accepts_iff, Path.fileName?_eq_some_iff]
  · obtain ⟨s, hname⟩ := fileName?_of_accepts h
    have htarget := Path.fileName?_normalize hcwd hname
    obtain ⟨dir, hdir, habs⟩ := Path.exists_parent?_normalize hcwd hname
    refine ⟨.normalize cwd p, dir, Path.absolute_of_accepts h cwd, ?_, ?_, hdir, habs, ?_⟩
    · rw [Path.fileName?_eq_some_iff.1 htarget, Path.fileName?_eq_some_iff.1 hname]
    · rw [accepts_congr (htarget.trans hname.symm), h]
    · have hne := Path.isEmpty_of_isAbsolute habs
      rintro hempty
      simp [hempty] at hne

/-- A file whose name has three dots, two of them next to each other, under two spellings of a path
that leaves the current directory. -/
theorem accepts_by_name_dotted :
    let settings : Settings := { extensions := [".ts", ".js"] }
    let p : Path := ⟨"./../src//a..min.js/."⟩
    let q : Path := ⟨"./..//./src/a..min.js"⟩
    let target : Path := ⟨"/src/a..min.js"⟩
    let cwd : Path := ⟨"/w"⟩
    settings.accepts p = true ∧ p.Same q ∧ settings.accepts q = true ∧ cwd.isAbsolute = true ∧
      Path.absolute (.ok cwd) p = .ok target ∧ settings.accepts target = true ∧
      target.parent? = some ⟨"/src"⟩ := by
  intro settings p q target cwd
  obtain ⟨hiff, hsame, hforms⟩ := accepts_by_name settings p
  have hp : settings.accepts p = true :=
    hiff.2 ⟨"a..min", "js", by decide +kernel, by decide, by decide, by decide⟩
  have hq : p.Same q := by decide +kernel
  have hcwd : cwd.isAbsolute = true := by decide +kernel
  have htarget : Path.absolute (.ok cwd) p = .ok target := by decide +kernel
  obtain ⟨target', _, htarget', -, haccepts, -⟩ := hforms cwd hcwd hp
  obtain rfl : target' = target := Except.ok.inj (htarget'.symm.trans htarget)
  exact ⟨hp, hq, (hsame q hq).trans hp, hcwd, htarget, haccepts, by decide +kernel⟩

end Settings

end LintBridge
