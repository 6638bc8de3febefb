/-
# The place that a path names

Seen from an absolute directory, a path names a place in the tree of directories: its components are
walked from the root on, a `..` leads out of the last directory that was entered, and at the root it
leads nowhere.  A normal form keeps the names on the way to this place.  But a `..` that was met at
the root is kept too, until the next one that is met there takes it back.

* `Path.location`: the names on the way to the place.
* `Path.overshoots`: how often a `..` is met at the root.
* `Path.components_normalize_absolute`: the components of a normal form, in these terms.
* `Path.normalize_normalize`: a normal form stays as it is, whatever it is seen from.
* `Path.normalize_keeps_place`: it names the place of the path, and absolute forms are stable, too.
-/
import LintBridge.Proofs.Path.Spelling
import Mathlib.Data.List.Basic

namespace LintBridge

namespace Path

open Component

/-- The names on the way to a place, the last one first, after one more component. -/
def walk (names : List String) : Component → List String
  | root => []
  | here => names
  | up => names.tail
  | name s => s :: names

/-- The names on the way from the root to the place that `p` names as seen from `base`. -/
def location (base p : Path) : List String := ((base.join p).components.foldl walk []).reverse

/-- How often the components lead out of the root, starting at the place with these names. -/
def overshootsFrom : List String → List Component → Nat
  | _, [] => 0
  | [], up :: cs => overshootsFrom [] cs + 1
  | names, c :: cs => overshootsFrom (walk names c) cs

/-- How often a `..` is met at the root on the way to the place that `p` names. -/
def overshoots (base p : Path) : Nat := overshootsFrom [] (base.join p).components

/-- The `..` that is left after the root when `..` has been met there `n` times. -/
def remnant (n : Nat) : List Component := if n % 2 = 1 then [up] else []

lemma remnant_add_one (n : Nat) :
    collapseStep (remnant n ++ [root]) up = remnant (n + 1) ++ [root] := by
  rcases Nat.mod_two_eq_zero_or_one n with h | h
  · have hnext : (n + 1) % 2 = 1 := by omega
    simp [remnant, h, hnext, collapseStep]
  · have hnext : (n + 1) % 2 = 0 := by omega
    simp [remnant, h, hnext, collapseStep]

/-- Reading components keeps the names on the way above what is left of the `..` at the root. -/
lemma foldl_collapseStep_absolute {cs : List Component} (hcs : ∀ c ∈ cs, c.Inner)
    (names : List String) (n : Nat) :
    cs.foldl collapseStep (names.map name ++ (remnant n ++ [root])) =
      (cs.foldl walk names).map name ++ (remnant (n + overshootsFrom names cs) ++ [root]) := by
  -- on the components, from any place and after any number of overshoots
  induction cs generalizing names n with
  | nil => simp [overshootsFrom]
  | cons c rest ih =>
    have hc : c.Inner := hcs c List.mem_cons_self
    have hrest : ∀ d ∈ rest, d.Inner := fun d hd => hcs d (List.mem_cons_of_mem c hd)
    rw [List.foldl_cons, List.foldl_cons]
    cases c with
    | root => exact absurd hc not_inner_root
    | here => exact absurd hc not_inner_here
    | name s => exact ih hrest (s :: names) n
    | up =>
      rcases names with _ | ⟨s, names⟩
      · have hstep : collapseStep (([] : List String).map name ++ (remnant n ++ [root])) up =
            ([] : List String).map name ++ (remnant (n + 1) ++ [root]) := remnant_add_one n
        rw [hstep, ih hrest [] (n + 1), overshootsFrom]
        simp only [walk, List.tail_nil]
        rw [Nat.add_right_comm, Nat.add_assoc]
      · exact ih hrest names n

lemma isAbsolute_join {base : Path} (h : base.isAbsolute = true) (p : Path) :
    (base.join p).isAbsolute = true := by
  obtain ⟨cs, hcs⟩ := isAbsolute_iff_toList.1 h
  unfold join
  split
  next hp => exact hp
  next => split <;> simp [isAbsolute, String.toList_append, hcs]

/-- **What a normal form keeps.**  After the root, a normal form has the names on the way to the
place, preceded by a `..` if the number of those that were met at the root is odd. -/
theorem components_normalize_absolute {base : Path} (h : base.isAbsolute = true) (p : Path) :
    (normalize base p).components =
      root :: (remnant (overshoots base p) ++ (location base p).map name) := by
  obtain ⟨body, hbody, hcs⟩ := components_of_isAbsolute (isAbsolute_join h p)
  have hwalk := foldl_collapseStep_absolute hbody [] 0
  have hstart : ([] : List String).map name ++ (remnant 0 ++ [root]) = [root] := rfl
  rw [hstart] at hwalk
  have hfirst : collapseStep [] root = [root] := rfl
  have hplace : location base p = (body.foldl walk []).reverse := by
    rw [location, hcs]
    rfl
  have hcount : overshoots base p = 0 + overshootsFrom [] body := by
    rw [overshoots, hcs, overshootsFrom, Nat.zero_add]
    · rfl
    · simp
  have hremnant (n : Nat) : (remnant n).reverse = remnant n := by
    unfold remnant
    split <;> rfl
  rw [components_normalize, collapse, hcs, List.foldl_cons, hfirst, hwalk, hplace, hcount]
  simp [hremnant]

lemma isAbsolute_normalize {base : Path} (h : base.isAbsolute = true) (p : Path) :
    (normalize base p).isAbsolute = true := by
  rw [isAbsolute_iff, components_normalize_absolute h]
  rfl

/-- A normal form keeps a `..` if and only if the number of those that were met at the root is
odd. -/
lemma up_mem_remnant_iff (n : Nat) (names : List String) :
    up ∈ remnant n ++ names.map name ↔ n % 2 = 1 := by
  unfold remnant
  split <;> simp [*]

lemma remnant_append_inj {n m : Nat} {names names' : List String}
    (h : remnant n ++ names.map name = remnant m ++ names'.map name) :
    names = names' ∧ n % 2 = m % 2 := by
  have hup : n % 2 = 1 ↔ m % 2 = 1 := by
    rw [← up_mem_remnant_iff n names, h, up_mem_remnant_iff]
  have hparity : n % 2 = m % 2 := by omega
  have hremnant : remnant n = remnant m := by rw [remnant, remnant, hparity]
  rw [hremnant] at h
  have hinj : Function.Injective name := fun s t hst => by cases hst; rfl
  exact ⟨List.map_injective_iff.2 hinj (List.append_cancel_left h), hparity⟩

/-- **When normal forms are equal.**  Two paths have one normal form if and only if they name one
place, and `..` was met at the root an odd number of times for both or for neither. -/
theorem normalize_eq_iff {base base' : Path} (h : base.isAbsolute = true)
    (h' : base'.isAbsolute = true) (p q : Path) :
    normalize base p = normalize base' q ↔
      location base p = location base' q ∧ overshoots base p % 2 = overshoots base' q % 2 := by
  constructor
  · intro heq
    have hcs := congrArg components heq
    rw [components_normalize_absolute h, components_normalize_absolute h'] at hcs
    exact remnant_append_inj (List.cons.inj hcs).2
  · rintro ⟨hplace, hparity⟩
    refine (plain_normalize base p).eq_of_same (plain_normalize base' q) ?_
    rw [Same, components_normalize_absolute h, components_normalize_absolute h', hplace, remnant,
      remnant, hparity]

/-! ## Normal forms of normal forms -/

lemma join_of_isAbsolute {p : Path} (h : p.isAbsolute = true) (base : Path) : base.join p = p :=
  if_pos h

/-- An absolute path has one normal form, whatever it is seen from. -/
lemma normalize_of_isAbsolute {p : Path} (h : p.isAbsolute = true) (base base' : Path) :
    normalize base p = normalize base' p := by
  rw [normalize, normalize, join_of_isAbsolute h, join_of_isAbsolute h]

lemma foldl_walk_names (names stack : List String) :
    (names.map name).foldl walk stack = names.reverse ++ stack := by
  induction names generalizing stack with
  | nil => rfl
  | cons s rest ih => simp [walk, ih]

lemma overshootsFrom_names (names stack : List String) :
    overshootsFrom stack (names.map name) = 0 := by
  induction names generalizing stack with
  | nil => rfl
  | cons s rest ih =>
    rw [List.map_cons, overshootsFrom]
    · exact ih _
    · simp

/-- The place is that of the path. -/
lemma location_normalize {base : Path} (h : base.isAbsolute = true) (p : Path) :
    location base (normalize base p) = location base p := by
  rw [location, join_of_isAbsolute (isAbsolute_normalize h p), components_normalize_absolute h,
    List.foldl_cons, List.foldl_append, foldl_walk_names]
  have hremnant : (remnant (overshoots base p)).foldl walk (walk [] root) = [] := by
    unfold remnant
    split <;> rfl
  simp [hremnant]

lemma overshoots_normalize {base : Path} (h : base.isAbsolute = true) (p : Path) :
    overshoots base (normalize base p) = overshoots base p % 2 := by
  rw [overshoots, join_of_isAbsolute (isAbsolute_normalize h p), components_normalize_absolute h]
  generalize overshoots base p = n
  generalize location base p = names
  rcases Nat.mod_two_eq_zero_or_one n with hn | hn
  · have hremnant : remnant n = [] := by simp [remnant, hn]
    rw [hremnant, hn, List.nil_append, overshootsFrom]
    · exact overshootsFrom_names names _
    · simp
  · have hremnant : remnant n = [up] := by simp [remnant, hn]
    rw [hremnant, hn, List.cons_append, List.nil_append, overshootsFrom]
    · rw [walk, overshootsFrom, overshootsFrom_names]
    · simp

/-- A normal form stays as it is, whatever it is seen from. -/
theorem normalize_normalize {base : Path} (h : base.isAbsolute = true) (base' p : Path) :
    normalize base' (normalize base p) = normalize base p := by
  rw [normalize_of_isAbsolute (isAbsolute_normalize h p) base' base, normalize_eq_iff h h]
  refine ⟨location_normalize h p, ?_⟩
  rw [overshoots_normalize h, Nat.mod_mod]

/-! ## Absolute normal forms -/

/-- In a known directory every path but the empty one has an absolute normal form. -/
lemma absolute_ok {p : Path} (h : p.text.isEmpty = false) (dir : Path) :
    absolute (.ok dir) p = .ok (normalize dir p) := by
  rw [absolute, h]
  by_cases habs : p.isAbsolute = true
  · simp [habs, normalize_of_isAbsolute habs rootDirectory dir]
  · simp [habs, Except.map]

/-- An absolute normal form is its own, whether the directory is known or not. -/
lemma absolute_normalize {base : Path} (h : base.isAbsolute = true) (cwd : Except String Path)
    (p : Path) : absolute cwd (normalize base p) = .ok (normalize base p) := by
  have habs := isAbsolute_normalize h p
  have hne : (normalize base p).text.isEmpty = false := isEmpty_of_isAbsolute habs
  rw [absolute, hne, habs, normalize_normalize h]
  rfl

/-- An absolute form is a normal form, as it is seen from the root or from the current directory. -/
lemma eq_normalize_of_absolute {cwd : Except String Path} {p target : Path}
    (h : absolute cwd p = .ok target) :
    ∃ base, (base = rootDirectory ∨ cwd = .ok base) ∧ target = normalize base p := by
  unfold absolute at h
  split at h
  · cases h
  split at h
  · cases h
    exact ⟨rootDirectory, .inl rfl, rfl⟩
  · cases cwd with
    | error reason => cases h
    | ok dir =>
      cases h
      exact ⟨dir, .inr rfl, rfl⟩

/-- An absolute form is the normal form that is seen from some absolute directory. -/
lemma exists_normalize_of_absolute {cwd : Except String Path} {p target : Path}
    (hcwd : ∀ dir, cwd = .ok dir → dir.isAbsolute = true) (h : absolute cwd p = .ok target) :
    ∃ base, base.isAbsolute = true ∧ target = normalize base p := by
  obtain ⟨base, rfl | hbase, htarget⟩ := eq_normalize_of_absolute h
  · exact ⟨rootDirectory, by decide +kernel, htarget⟩
  · exact ⟨base, hcwd base hbase, htarget⟩

/-- **A normal form keeps the place.**  Let a path be absolute, or be seen from an absolute
directory.  Wherever its normal form is seen from, it names the place of the path, and it is its own
normal form.  So the absolute form of a path is its own absolute form in every current directory,
and also where the current directory is unknown. -/
theorem normalize_keeps_place {base p : Path} (h : p.isAbsolute = true ∨ base.isAbsolute = true)
    {cwd : Except String Path} (hcwd : ∀ dir, cwd = .ok dir → dir.isAbsolute = true) :
    (∀ base', location base' (normalize base p) = location base p ∧
      normalize base' (normalize base p) = normalize base p) ∧
    (∀ q target, absolute cwd q = .ok target → ∀ cwd', absolute cwd' target = .ok target) := by
  constructor
  · -- an absolute path may as well be seen from the root
    obtain ⟨base₀, hbase₀, hjoin⟩ : ∃ base₀ : Path, base₀.isAbsolute = true ∧
        base₀.join p = base.join p := by
      rcases h with hp | hbase
      · have hroot : rootDirectory.isAbsolute = true := by decide +kernel
        exact ⟨rootDirectory, hroot, by rw [join_of_isAbsolute hp, join_of_isAbsolute hp]⟩
      · exact ⟨base, hbase, rfl⟩
    have hnormal : normalize base p = normalize base₀ p := by rw [normalize, normalize, hjoin]
    have hplace : location base p = location base₀ p := by rw [location, location, hjoin]
    have habs : (normalize base₀ p).isAbsolute = true := isAbsolute_normalize hbase₀ p
    intro base'
    rw [hnormal, hplace]
    refine ⟨?_, normalize_normalize hbase₀ base' p⟩
    rw [← location_normalize hbase₀ p, location, location, join_of_isAbsolute habs,
      join_of_isAbsolute habs]
  · intro q target htarget cwd'
    obtain ⟨base', hbase', rfl⟩ := exists_normalize_of_absolute hcwd htarget
    exact absolute_normalize hbase' cwd' q

/-- A path on whose way `..` is met at the root three times, seen from one more directory
afterwards. -/
theorem normalize_keeps_place_beyond_root :
    let base : Path := ⟨"/a"⟩
    let p : Path := ⟨"../../x/./../../../b//c"⟩
    let target : Path := ⟨"/../b/c"⟩
    base.isAbsolute = true ∧ absolute (.ok base) p = .ok target ∧ location base p = ["b", "c"] ∧
      location ⟨"q"⟩ target = location base p ∧ normalize ⟨"q"⟩ target = target ∧
      absolute (.error "gone") target = .ok target := by
  intro base p target
  have hbase : base.isAbsolute = true := by decide +kernel
  have hcwd : ∀ dir, Except.ok (ε := String) base = .ok dir → dir.isAbsolute = true := by
    rintro dir ⟨⟩
    exact hbase
  have htarget : absolute (.ok base) p = .ok target := by decide +kernel
  have hnormal : normalize base p = target := by decide +kernel
  obtain ⟨hseen, habsolute⟩ := normalize_keeps_place (p := p) (.inr hbase) hcwd
  rw [hnormal] at hseen
  exact ⟨hbase, htarget, by decide +kernel, (hseen ⟨"q"⟩).1, (hseen ⟨"q"⟩).2,
    habsolute p target htarget (.error "gone")⟩

end Path

end LintBridge
