/-
# The entries of a directory

A file system keeps a tree: what stands anywhere stands in a directory, under a name that a
directory can hold.  So a name leads to an entry of the current directory, and the absolute path of
something that is no link leads to it, whatever else is on the disk.

* `Disk.WellFormed`: the disks that a file system can come to; `Disk.WellFormed.of_nodes` checks
  one.
* `Disk.WellFormed.put`: what is put in the place of an entry that is no directory leads to such a
  disk again.
* `Disk.create_name`, `Disk.remove_name`: making and removing an entry of the current directory.
* `Disk.WellFormed.resolve_path`: where the absolute path of a location leads.
* `Disk.WellFormed.readText_path`: what a file is found to say under its absolute path.
-/
import LintBridge.Disk
import LintBridge.Proofs.Path.Ancestors
import LintBridge.Proofs.Text.Utf8

namespace LintBridge

open LintBridge.Path Component

/-- The absolute path of a location is the plainest spelling of the names on the way to it. -/
lemma Location.path_eq (l : Location) : l.path = ofComponents (root :: l.reverse.map name) := by
  have htexts : (l.reverse.map name).map Component.text = l.reverse := by
    rw [List.map_map]
    exact List.map_id _
  rw [ofComponents, htexts]
  rfl

namespace Disk

/-- A name that a directory can hold: it is read as one component, and it is not too long. -/
structure EntryName (n : String) : Prop where
  inner : (name n).Inner
  noNul : '\x00' ∉ n.toList
  short : (Octets.ofString n).length ≤ maxName

/-- A path that is not too long for the system. -/
def Fits (p : Path) : Prop := (Octets.ofString p.text).length ≤ maxPath

instance (p : Path) : Decidable (Fits p) := Nat.decLe _ _

/-- Whatever stands on the disk stands in a directory, under a name that a directory can hold, and
the current directory is one. -/
structure WellFormed (d : Disk) : Prop where
  name : ∀ {n l}, d.node? (n :: l) ≠ none → EntryName n
  parent : ∀ {n l}, d.node? (n :: l) ≠ none → d.node? l = some .directory
  current : d.node? d.current = some .directory

variable {d : Disk} {n : String} {l here : Location} {node : Node} {keepLast : Bool}

/-! ## Checking a disk -/

instance (n : String) : Decidable (EntryName n) :=
  decidable_of_iff ((Component.ofSegment? n.toList = some (Component.name n) ∧ '/' ∉ n.toList) ∧
      '\x00' ∉ n.toList ∧ (Octets.ofString n).length ≤ maxName)
    ⟨fun ⟨hinner, hnul, hshort⟩ => ⟨hinner, hnul, hshort⟩,
      fun h => ⟨h.inner, h.noNul, h.short⟩⟩

/-- Something can stand at the location: the root, or a name in a directory. -/
def Holds (d : Disk) : Location → Prop
  | [] => True
  | n :: l => EntryName n ∧ d.node? l = some .directory

instance (d : Disk) : (l : Location) → Decidable (d.Holds l)
  | [] => inferInstanceAs (Decidable True)
  | n :: l => inferInstanceAs (Decidable (EntryName n ∧ d.node? l = some .directory))

/-- A disk is checked node by node. -/
theorem WellFormed.of_nodes (h : ∀ e ∈ d.nodes, d.Holds e.1)
    (hcurrent : d.node? d.current = some .directory) : d.WellFormed := by
  have hholds {n : String} {l : Location} (hnode : d.node? (n :: l) ≠ none) :
      EntryName n ∧ d.node? l = some .directory := by
    by_contra hno
    refine hnode (List.lookup_eq_none_iff.2 fun e he => ?_)
    rw [bne_iff_ne]
    intro heq
    have he' := h e he
    rw [← heq] at he'
    exact hno he'
  exact ⟨fun hnode => (hholds hnode).1, fun hnode => (hholds hnode).2, hcurrent⟩

/-! ## Changes of a disk -/

/-- Where something is put, it does not matter what stood there. -/
lemma put_erase (d : Disk) (l : Location) (node : Node) :
    (d.erase l).put l node = d.put l node := by
  simp [put, erase, List.filter_filter]

/-- An entry that is no directory has nothing below it, so it may be replaced. -/
theorem WellFormed.put (hd : d.WellFormed) (hn : EntryName n) (hl : d.node? l = some .directory)
    (hentry : d.node? (n :: l) ≠ some .directory) (node : Node) :
    (d.put (n :: l) node).WellFormed := by
  -- a directory stays one, as it is not the entry
  have hdirectory {k : Location} (hk : d.node? k = some .directory) :
      (d.put (n :: l) node).node? k = some .directory := by
    rw [node?_put _ _ _ _ (List.cons_ne_nil n l), if_neg ?_, hk]
    rintro rfl
    exact hentry hk
  have hstands {m : String} {k : Location} (h : (d.put (n :: l) node).node? (m :: k) ≠ none) :
      m :: k = n :: l ∨ d.node? (m :: k) ≠ none := by
    rw [node?_put _ _ _ _ (List.cons_ne_nil n l)] at h
    split at h
    next heq => exact .inl heq
    next => exact .inr h
  constructor
  case name =>
    intro m k h
    rcases hstands h with heq | h
    · cases heq
      exact hn
    · exact hd.name h
  case parent =>
    intro m k h
    rcases hstands h with heq | h
    · cases heq
      exact hdirectory hl
    · exact hdirectory (hd.parent h)
  case current => exact hdirectory hd.current

/-! ## One step of a way -/

lemma EntryName.ofSegment? (hn : EntryName n) :
    Component.ofSegment? n.toList = some (Component.name n) := hn.inner.1

section

variable {follow : Location → List (List Char) → Except DiskError Place} {rest : List (List Char)}

/-- A name leads from a directory to what stands there under this name. -/
lemma walkOn_step (hhere : d.node? here = some .directory) (hn : EntryName n) :
    d.walkOn keepLast follow here (n.toList :: rest) =
      match d.node? (n :: here) with
      | none => if rest.isEmpty then .ok (.missing (n :: here)) else .error .notFound
      | some (.link target) =>
        if keepLast && rest.isEmpty then .ok (.found (n :: here))
        else follow (enter here target rest).1 (enter here target rest).2
      | some _ => d.walkOn keepLast follow (n :: here) rest := by
  have hshort : ¬maxName < (Octets.ofString (name n).text).length := Nat.not_lt.2 hn.short
  rw [walkOn, hhere]
  simp only [hn.ofSegment?]
  rw [if_neg hshort]
  rfl

/-- The way goes through what stands under a name, unless it is a link. -/
lemma walkOn_through (hhere : d.node? here = some .directory) (hn : EntryName n)
    (hnode : d.node? (n :: here) = some node) (hlink : ∀ target, node ≠ .link target) :
    d.walkOn keepLast follow here (n.toList :: rest) =
      d.walkOn keepLast follow (n :: here) rest := by
  rw [walkOn_step hhere hn, hnode]
  cases node with
  | directory => rfl
  | file => rfl
  | link target => exact absurd rfl (hlink target)

/-- A way of one name ends at the entry, even if this is a link that could be followed. -/
lemma walkOn_entry (hhere : d.node? here = some .directory) (hn : EntryName n) :
    d.walkOn true follow here [n.toList] =
      .ok (if d.node? (n :: here) = none then .missing (n :: here) else .found (n :: here)) := by
  rw [walkOn_step hhere hn]
  cases d.node? (n :: here) with
  | none => rfl
  | some node => cases node <;> rfl

end

/-! ## Entries of the current directory -/

lemma EntryName.text_ne (hn : EntryName n) : n ≠ "" := by
  rintro rfl
  exact hn.inner.text_ne.1 rfl

/-- A name leads to the entry of the current directory, and not to what a link there leads to. -/
lemma resolve_name (hhere : d.node? d.current = some .directory) (hn : EntryName n) :
    d.resolve true ⟨n⟩ = .ok (if d.node? (n :: d.current) = none then .missing (n :: d.current)
      else .found (n :: d.current)) := by
  have hempty : n.isEmpty = false := by simpa using hn.text_ne
  have hnul : n.toList.contains '\x00' = false := by simpa using hn.noNul
  have hlength : ¬maxPath < (Octets.ofString n).length :=
    Nat.not_lt.2 (hn.short.trans (by decide))
  have hrelative : (⟨n⟩ : Path).isAbsolute = false := isAbsolute_of_inner hn.inner
  have hway : Path.segments n.toList = [n.toList] := Text.split_of_not_mem hn.inner.2
  simp only [resolve, hempty, hnul, if_neg hlength, enter, hrelative, hway]
  exact walkOn_entry hhere hn

/-- An entry is made where there is none. -/
theorem create_name (hhere : d.node? d.current = some .directory) (hn : EntryName n)
    (content : Octets) :
    d.create ⟨n⟩ content =
      if d.node? (n :: d.current) = none then .ok (d.put (n :: d.current) (.file content false))
      else .error .exists := by
  rw [create, resolve_name hhere hn]
  split <;> rfl

/-- An entry is removed unless it is a directory. -/
theorem remove_name (hhere : d.node? d.current = some .directory) (hn : EntryName n) :
    d.remove ⟨n⟩ =
      if d.node? (n :: d.current) = none then .error .notFound
      else if d.node? (n :: d.current) = some .directory then .error .isDirectory
      else .ok (d.erase (n :: d.current)) := by
  rw [remove, resolve_name hhere hn]
  cases hnode : d.node? (n :: d.current) with
  | none => rfl
  | some node =>
    simp only [reduceCtorEq, if_false, bind, Except.bind, hnode]
    cases node <;> rfl

/-! ## Absolute paths -/

/-- What something stands in is a directory. -/
lemma WellFormed.above (hd : d.WellFormed) {below : Location}
    (h : d.node? (below ++ n :: here) ≠ none) : d.node? here = some .directory := by
  induction below with
  | nil => exact hd.parent h
  | cons m below ih =>
    have hbelow : d.node? (below ++ n :: here) = some .directory := hd.parent h
    exact ih (by simp [hbelow])

lemma WellFormed.entryName (hd : d.WellFormed) (h : d.node? l ≠ none) : ∀ n ∈ l, EntryName n := by
  induction l with
  | nil => simp
  | cons m k ih =>
    have hk : d.node? k ≠ none := by simp [hd.parent h]
    exact List.forall_mem_cons.2 ⟨hd.name h, ih hk⟩

/-- The names on the way to something that is no link are walked to their end. -/
lemma WellFormed.walkOn_names (hd : d.WellFormed)
    {follow : Location → List (List Char) → Except DiskError Place} {names : List String}
    (hnode : d.node? (names.reverse ++ here) = some node) (hlink : ∀ target, node ≠ .link target) :
    d.walkOn keepLast follow here (names.map String.toList) =
      .ok (.found (names.reverse ++ here)) := by
  -- on the names that are left, from any directory on the way
  induction names generalizing here with
  | nil => rfl
  | cons n rest ih =>
    rw [List.reverse_cons, List.append_assoc, List.singleton_append] at hnode ⊢
    have hstands : d.node? (rest.reverse ++ n :: here) ≠ none := by simp [hnode]
    have hentry : ∃ m, d.node? (n :: here) = some m ∧ ∀ target, m ≠ .link target := by
      rcases List.eq_nil_or_concat' rest.reverse with hrest | ⟨below, m, hrest⟩
      · rw [hrest] at hnode
        exact ⟨node, hnode, hlink⟩
      · rw [hrest, List.append_assoc] at hstands
        exact ⟨.directory, hd.above hstands, by simp⟩
    obtain ⟨m, hm, hmlink⟩ := hentry
    have hentry : d.node? (n :: here) ≠ none := by simp [hm]
    have hn : EntryName n := hd.name hentry
    rw [List.map_cons, walkOn_through (hd.above hstands) hn hm hmlink]
    exact ih hnode

lemma inner_of_entryName (hl : ∀ n ∈ l, EntryName n) : ∀ c ∈ l.reverse.map name, c.Inner := by
  intro c hc
  obtain ⟨n, hn, rfl⟩ := List.mem_map.1 hc
  exact (hl n (List.mem_reverse.1 hn)).inner

/-- The path of an entry is that of its directory with the name behind it. -/
lemma path_join (hl : ∀ m ∈ n :: l, EntryName m) : l.path.join ⟨n⟩ = Location.path (n :: l) := by
  obtain ⟨hn, hl⟩ := List.forall_mem_cons.1 hl
  rw [Location.path_eq, Location.path_eq, join_name (inner_of_entryName hl) hn.inner,
    List.reverse_cons, List.map_append, List.map_singleton]

lemma toList_path (l : Location) :
    l.path.text.toList = '/' :: Text.join '/' (l.reverse.map String.toList) := by
  rw [Location.path_eq, toList_ofComponents_absolute, segmentsOf, List.map_map]
  rfl

lemma nul_not_mem_path (hl : ∀ n ∈ l, EntryName n) : '\x00' ∉ l.path.text.toList := by
  have hjoin {segments : List (List Char)} (h : ∀ s ∈ segments, '\x00' ∉ s) :
      '\x00' ∉ Text.join '/' segments := by
    induction segments with
    | nil => exact List.not_mem_nil
    | cons s rest ih =>
      obtain ⟨hs, hrest⟩ := List.forall_mem_cons.1 h
      cases rest with
      | nil => exact hs
      | cons t ts => simpa [Text.join, hs] using ih hrest
  rw [toList_path, List.mem_cons, not_or]
  refine ⟨by decide, hjoin fun s hs => ?_⟩
  obtain ⟨n, hn, rfl⟩ := List.mem_map.1 hs
  exact (hl n (List.mem_reverse.1 hn)).noNul

/-- **The absolute path of something that is no link leads to it**, from every current directory. -/
theorem WellFormed.resolve_path (hd : d.WellFormed) (hnode : d.node? (n :: l) = some node)
    (hlink : ∀ target, node ≠ .link target) (hfits : Fits (Location.path (n :: l))) :
    d.resolve keepLast (Location.path (n :: l)) = .ok (.found (n :: l)) := by
  have hnames : ∀ m ∈ n :: l, EntryName m := hd.entryName (by simp [hnode])
  have htext := toList_path (n :: l)
  have habs : (Location.path (n :: l)).isAbsolute = true := isAbsolute_iff_toList.2 ⟨_, htext⟩
  have hempty : (Location.path (n :: l)).text.isEmpty = false := isEmpty_of_isAbsolute habs
  have hnul : (Location.path (n :: l)).text.toList.contains '\x00' = false := by
    simpa using nul_not_mem_path hnames
  have hsegments : Path.segments (Location.path (n :: l)).text.toList =
      [] :: (n :: l).reverse.map String.toList := by
    have hjoin : Path.segments (Text.join '/' ((n :: l).reverse.map String.toList)) =
        (n :: l).reverse.map String.toList := by
      refine Text.split_join (by simp) fun s hs => ?_
      obtain ⟨m, hm, rfl⟩ := List.mem_map.1 hs
      exact (hnames m (List.mem_reverse.1 hm)).inner.2
    rw [htext, Path.segments, Text.split, if_pos rfl]
    exact congrArg ([] :: ·) hjoin
  have hway : d.walk keepLast maxLinks [] ((n :: l).reverse.map String.toList) =
      .ok (.found ((n :: l).reverse.reverse ++ [])) :=
    hd.walkOn_names (by simpa using hnode) hlink
  rw [List.reverse_reverse, List.append_nil] at hway
  rw [resolve, hempty, hnul, if_neg Bool.false_ne_true, if_neg Bool.false_ne_true,
    if_neg (Nat.not_lt.2 hfits), enter, habs, hsegments, List.append_nil]
  exact hway

/-- **A file is found under its absolute path**, and with the text that was written to it. -/
theorem WellFormed.readText_path (hd : d.WellFormed) {text : String} {executable : Bool}
    (hnode : d.node? (n :: l) = some (.file (Octets.ofString text) executable))
    (hfits : Fits (Location.path (n :: l))) :
    d.isFile (Location.path (n :: l)) = true ∧
      d.readText (Location.path (n :: l)) = .ok text := by
  have hstat : d.stat (Location.path (n :: l)) =
      .ok (n :: l, .file (Octets.ofString text) executable) := by
    rw [stat, hd.resolve_path hnode (by simp) hfits]
    simp only [bind, Except.bind, hnode]
  refine ⟨by rw [isFile, hstat], ?_⟩
  rw [readText, read, hstat]
  simp only [bind, Except.bind, Octets.decode?_ofString]

end Disk

end LintBridge
