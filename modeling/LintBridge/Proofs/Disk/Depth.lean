/-
# Directories that are deep down

A directory can be so deep down that the absolute paths of its entries are too long for the system.
A name still leads to such an entry from the directory itself, but no absolute path does, so nothing
that is looked for by absolute paths is found there.

* `Disk.isFile_of_not_fits`: nothing is found under a path that is too long.
* `Disk.bytes_path`: the bytes of the absolute path of a location.
* `Disk.ancestors_path`: the directories above a location.
* `Disk.only`: a disk with nothing but one directory and those above it.
-/
import LintBridge.Proofs.Disk.Entries

namespace LintBridge

open LintBridge.Path Component

namespace Disk

variable {d : Disk} {p : Path} {n : String} {k l : Location}

/-! ## The length of a path -/

lemma isFile_of_not_fits (h : ¬Fits p) : d.isFile p = false := by
  have hrefused : ∃ e, d.resolve false p = .error e := by
    unfold resolve
    split_ifs with hempty hnul hlong
    · exact ⟨_, rfl⟩
    · exact ⟨_, rfl⟩
    · exact ⟨_, rfl⟩
    · exact absurd (Nat.not_lt.1 hlong) h
  obtain ⟨e, he⟩ := hrefused
  rw [isFile, stat, he]
  rfl

lemma bytes_join {segments : List (List Char)} (hne : segments ≠ []) :
    '/' :: (Text.join '/' segments).flatMap Octets.ofChar =
      segments.flatMap fun s => '/' :: s.flatMap Octets.ofChar := by
  induction segments with
  | nil => exact absurd rfl hne
  | cons s rest ih =>
    rcases rest with _ | ⟨t, ts⟩
    · simp [Text.join]
    · have hmark : Octets.ofChar '/' = ['/'] := rfl
      rw [List.flatMap_cons, ← ih (List.cons_ne_nil t ts)]
      simp [Text.join, hmark]

/-- In the absolute path of a location, there is a separator in front of every name. -/
theorem bytes_path (hl : l ≠ []) :
    Octets.ofString l.path.text = l.reverse.flatMap fun n => '/' :: Octets.ofString n := by
  have hne : l.reverse.map String.toList ≠ [] := by simpa using hl
  have hmark : Octets.ofChar '/' = ['/'] := rfl
  calc Octets.ofString l.path.text
      = '/' :: (Text.join '/' (l.reverse.map String.toList)).flatMap Octets.ofChar := by
        rw [Octets.ofString, toList_path, List.flatMap_cons, hmark]
        rfl
    _ = l.reverse.flatMap fun n => '/' :: Octets.ofString n := by
        rw [bytes_join hne, List.flatMap_map]
        rfl

lemma length_path_cons (hl : l ≠ []) :
    (Octets.ofString (Location.path (n :: l)).text).length =
      (Octets.ofString l.path.text).length + ((Octets.ofString n).length + 1) := by
  rw [bytes_path (List.cons_ne_nil n l), bytes_path hl, List.reverse_cons, List.flatMap_append,
    List.length_append, List.flatMap_singleton, List.length_cons]

lemma length_path_replicate (m : Nat) (n : String) :
    (Octets.ofString (Location.path (List.replicate (m + 1) n)).text).length =
      (m + 1) * ((Octets.ofString n).length + 1) := by
  rw [bytes_path (by simp), List.reverse_replicate, List.flatMap_replicate]
  simp

/-! ## Long names -/

lemma length_replicate {c : Char} (hc : c.toNat < 0x80) (n : Nat) :
    (Octets.ofString (String.ofList (List.replicate n c))).length = n := by
  have hbyte : Octets.ofChar c = [c] := if_pos hc
  simp [Octets.ofString, hbyte]

/-- A name may be one character over and over. -/
lemma EntryName.replicate {c : Char} (hc : c.toNat < 0x80) (hdot : c ≠ '.') (hslash : c ≠ '/')
    (hnul : c ≠ '\x00') {n : Nat} (hpos : 0 < n) (hshort : n ≤ maxName) :
    EntryName (String.ofList (List.replicate n c)) where
  inner := by
    obtain ⟨m, rfl⟩ := Nat.exists_eq_add_one.2 hpos
    have htext : (name (String.ofList (List.replicate (m + 1) c))).text.toList =
        c :: List.replicate m c := String.toList_ofList
    rw [Component.Inner, htext]
    refine ⟨?_, by simpa [← List.replicate_succ] using hslash.symm⟩
    -- only a segment that starts with a dot stands for something else than a name
    unfold Component.ofSegment?
    split
    next h => cases h
    next h => exact absurd (List.cons.inj h).1 hdot
    next h => exact absurd (List.cons.inj h).1 hdot
    next => rfl
  noNul := by simpa using fun _ => hnul.symm
  short := by rwa [length_replicate hc]

/-! ## The directories above a location -/

lemma ancestors_path (hl : ∀ n ∈ l, EntryName n) :
    l.path.ancestors = l.tails.map Location.path := by
  rw [Location.path_eq, ancestors_ofComponents (inner_of_entryName hl), List.map_inits,
    List.inits_reverse]
  simp [Location.path_eq, Function.comp_def]

/-! ## A single directory -/

/-- The disk with nothing but the current directory and the directories above it. -/
def only (l : Location) : Disk :=
  ⟨(l.tails.filter (· ≠ [])).map fun k => (k, .directory), l⟩

lemma node?_only : (only l).node? k = if k <:+ l then some .directory else none := by
  cases k with
  | nil => simp [node?]
  | cons n k =>
    have hmem : n :: k ∈ l.tails.filter (· ≠ []) ↔ n :: k <:+ l := by simp
    split
    next h => exact List.lookup_graph (fun _ => Node.directory) (hmem.2 h)
    next h =>
      refine List.lookup_eq_none_iff.2 fun e he => ?_
      obtain ⟨m, hm, rfl⟩ := List.mem_map.1 he
      rw [bne_iff_ne]
      rintro rfl
      exact h (hmem.1 hm)

theorem WellFormed.only (hl : ∀ n ∈ l, EntryName n) : (only l).WellFormed := by
  have hstands {k : Location} (h : (Disk.only l).node? k ≠ none) : k <:+ l := by
    rw [node?_only] at h
    by_contra hno
    exact h (if_neg hno)
  constructor
  case name => exact fun h => hl _ ((hstands h).subset List.mem_cons_self)
  case parent =>
    intro n k h
    rw [node?_only, if_pos ((List.suffix_cons n k).trans (hstands h))]
  case current => exact node?_only.trans (if_pos (List.suffix_refl l))

/-- Something new may stand in each of the directories. -/
theorem WellFormed.only_put (hl : ∀ m ∈ l, EntryName m) (hn : EntryName n) (hk : k <:+ l)
    (hnew : ¬n :: k <:+ l) (node : Node) : ((Disk.only l).put (n :: k) node).WellFormed := by
  refine (WellFormed.only hl).put hn ?_ ?_ node
  · rw [node?_only, if_pos hk]
  · rw [node?_only, if_neg hnew]
    simp

end Disk

end LintBridge
