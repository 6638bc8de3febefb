/-
# Interrupted ways

A way to a run can be interrupted: only some first changes of it are made.  What is left to do then
is the way from the new display to the same run.  However often this happens, no empty list is sent
twice for a file, and the last attempt ends where the first would have ended.

* `Display.Attempted d next l e`: attempts to bring `d` up to date with the run have sent the lists
  `l` and led to `e`.
* `Display.Attempted.interrupted`, `Display.Attempted.completed`: one more attempt.
* `Display.Attempted.revise_eq`: the way still ends where it did at the start.
-/
import LintBridge.Proofs.Display.Revision

namespace LintBridge

namespace Display

variable {d e : Display} {next : DiagnosticSet} {p q : Path} {l : List (Path × List Diagnostic)}

/-! ## Files that a run does not report -/

lemma mem_missing : q ∈ d.missing next ↔ q ∈ d.files.keys ∧ next.contains q = false := by
  simp [missing]

lemma missing_eq_of_mem_iff
    (h : ∀ q, next.contains q = false → (q ∈ d.files.keys ↔ q ∈ e.files.keys)) :
    d.missing next = e.missing next := by
  refine eq_of_increasing id (d.files.increasing_keys.filter _)
    (e.files.increasing_keys.filter _) fun q => ?_
  rw [mem_missing, mem_missing]
  exact and_congr_left fun hq => h q hq

/-- Publishing a list for a file that is tracked or reported leaves the missing files as they are,
and as they are spelled. -/
lemma missing_record (hp : d.files.contains p = true ∨ next.contains p = true)
    (l : List Diagnostic) : (d.record p l).missing next = d.missing next := by
  refine missing_eq_of_mem_iff fun q hq => ?_
  rw [record, PathMap.mem_keys_insert, or_iff_left]
  rintro ⟨rfl, hnew⟩
  rcases hp with hp | hp
  · exact Bool.false_ne_true (hnew.symm.trans hp)
  · exact Bool.false_ne_true (hq.symm.trans hp)

lemma contains_record_of_contains (h : d.files.contains q = true) (p : Path)
    (l : List Diagnostic) : (d.record p l).files.contains q = true := by
  rw [PathMap.contains, find?_record]
  split
  · rfl
  · exact h

lemma missing_recordAll
    (h : ∀ x ∈ l, d.files.contains x.1 = true ∨ next.contains x.1 = true) :
    (d.recordAll l).missing next = d.missing next := by
  induction l generalizing d with
  | nil => rfl
  | cons x rest ih =>
    have hrest : ∀ y ∈ rest, (d.record x.1 x.2).files.contains y.1 = true ∨
        next.contains y.1 = true := fun y hy =>
      (h y (List.mem_cons_of_mem x hy)).imp_left fun hc => contains_record_of_contains hc x.1 x.2
    exact (ih hrest).trans (missing_record (h x List.mem_cons_self) x.2)

lemma mem_keys_recordAll (hdistinct : Distinct l)
    (hnew : ∀ x ∈ l, d.files.contains x.1 = false) :
    q ∈ (d.recordAll l).files.keys ↔ q ∈ d.files.keys ∨ q ∈ l.map Prod.fst := by
  induction l generalizing d with
  | nil => simp [recordAll]
  | cons x rest ih =>
    obtain ⟨hx, hrest⟩ := List.pairwise_cons.1 hdistinct
    have hnew' : ∀ y ∈ rest, (d.record x.1 x.2).files.contains y.1 = false := by
      intro y hy
      rw [PathMap.contains, find?_record, if_neg (hx y hy)]
      exact hnew y (List.mem_cons_of_mem x hy)
    have hcons : d.recordAll (x :: rest) = (d.record x.1 x.2).recordAll rest := rfl
    rw [hcons, ih hrest hnew', record, PathMap.mem_keys_insert]
    simp [hnew x List.mem_cons_self, or_assoc]

/-- The display that shows a run has the files of the run, as the run spells them, and the missing
ones, as they were spelled. -/
lemma mem_keys_showing :
    q ∈ (d.showing next).files.keys ↔ q ∈ next.files.keys ∨ q ∈ d.missing next := by
  have hnext (q : Path) : (empty.recordAll next.toList).files.contains q = next.contains q := by
    have hlatest : latest q next.toList = next.find? q := PathMap.latest_entries next.files
    rw [PathMap.contains, find?_recordAll, hlatest, empty, PathMap.find?_empty]
    cases hl : next.find? q with
    | none => exact (PathMap.contains_eq_false_iff.2 hl).symm
    | some x => exact (PathMap.contains_of_find? hl).symm
  have hdistinct : Distinct ((d.missing next).map fun p => (p, ([] : List Diagnostic))) := by
    refine Ordered.distinct (List.pairwise_map.2 ?_)
    exact d.files.increasing_keys.filter _
  have hnew : ∀ x ∈ (d.missing next).map fun p => (p, ([] : List Diagnostic)),
      (empty.recordAll next.toList).files.contains x.1 = false := by
    intro x hx
    obtain ⟨p, hp, rfl⟩ := List.mem_map.1 hx
    rw [hnext]
    exact (mem_missing.1 hp).2
  have hempty : q ∉ empty.files.keys := List.not_mem_nil
  have hfirst : q ∈ (empty.recordAll next.toList).files.keys ↔
      q ∈ empty.files.keys ∨ q ∈ next.files.keys :=
    mem_keys_recordAll next.files.ordered.distinct fun _ _ => rfl
  rw [showing, mem_keys_recordAll hdistinct hnew, hfirst, List.map_map, or_iff_right hempty]
  simp only [Function.comp_def, List.map_id']

/-- The display that shows a run keeps the missing files, as they are spelled. -/
lemma missing_showing (d : Display) (next : DiagnosticSet) :
    (d.showing next).missing next = d.missing next := by
  refine missing_eq_of_mem_iff fun q hq => ?_
  rw [mem_keys_showing, mem_missing, and_iff_left hq, or_iff_right]
  -- a key of the run would be reported
  intro hmem
  have hcontains : next.contains q = true := PathMap.contains_of_mem_keys hmem
  rw [hq] at hcontains
  exact Bool.false_ne_true hcontains

/-! ## Attempts -/

/-- Attempts to bring a display up to date with a run have sent these lists, and led to this
display. -/
structure Attempted (d : Display) (next : DiagnosticSet) (l : List (Path × List Diagnostic))
    (e : Display) : Prop where
  missing : e.missing next = d.missing next
  agrees : e.Agrees (d.recordAll l)
  wanted : ∀ x ∈ l, x.2 = next.screen x.1
  once : ∀ p, next.screen p = [] → (about p l).length ≤ 1

/-! ### One more attempt -/

/-- What is sent for a file is what the run shows in it. -/
lemma wanted_of_mem_changes {c : Change} (h : c ∈ (d.revise next).changes) :
    c.diagnostics = next.screen c.path := by
  rw [DiagnosticSet.screen]
  rcases mem_changes.1 h with h | h
  · have hfound : next.find? c.path = some c.diagnostics :=
      PathMap.find?_of_mem (mem_updates.1 h).1 (.refl c.path)
    rw [hfound]
    rfl
  · have hnone : next.find? c.path = none :=
      PathMap.contains_eq_false_iff.1 (mem_clears.1 h).2.1
    rw [hnone]
    exact (mem_clears.1 h).2.2.1

/-- A file for which something is sent is tracked or reported. -/
lemma contains_of_mem_changes {c : Change} (h : c ∈ (d.revise next).changes) :
    d.files.contains c.path = true ∨ next.contains c.path = true := by
  rcases mem_changes.1 h with h | h
  · exact .inr (PathMap.contains_of_mem (mem_updates.1 h).1)
  · obtain ⟨x, hx, -⟩ := isDirty_iff.1 (isDirty_of_mem_dirtyFiles (mem_clears.1 h).1)
    exact .inl (PathMap.contains_of_find? hx)

namespace Attempted

lemma refl (d : Display) (next : DiagnosticSet) : Attempted d next [] d where
  missing := rfl
  agrees _ := rfl
  wanted _ hx := absurd hx List.not_mem_nil
  once _ _ := Nat.zero_le 1

lemma tidy (h : Attempted d next l e) (hd : d.Tidy) : e.Tidy := fun p hp =>
  hd.recordAll l p ((h.agrees p).symm.trans hp)

/-- A file that the run leaves empty is clean as soon as something has been sent for it. -/
lemma isClean_of_about (h : Attempted d next l e) (hp : next.screen p = [])
    (hsent : about p l ≠ []) : e.isClean p = true := by
  obtain ⟨x, hx⟩ := List.exists_mem_of_ne_nil _ hsent
  have hnone : latest p l ≠ none := by
    rw [Ne, latest_eq_none_iff]
    exact fun hall => hall x (mem_about.1 hx).1 (mem_about.1 hx).2
  obtain ⟨y, hy⟩ := Option.ne_none_iff_exists'.1 hnone
  obtain ⟨z, hz, rfl⟩ := Option.map_eq_some_iff.1 hy
  obtain ⟨hmem, hs⟩ := mem_about.1 (List.mem_of_getLast? hz)
  have hempty : z.2 = [] := by rw [h.wanted z hmem, next.screen_same hs, hp]
  rw [isClean_iff, h.agrees p, find?_recordAll, hy, hempty]
  rfl

/-- **An interrupted attempt** has sent some first changes. -/
lemma interrupted (h : Attempted d next l e) {sent rest : List Change}
    (hsplit : (e.revise next).changes = sent ++ rest) :
    Attempted d next (l ++ sent.map Change.content) (e.apply sent) := by
  have hmem : ∀ c ∈ sent, c ∈ (e.revise next).changes := fun c hc =>
    hsplit ▸ List.mem_append_left rest hc
  have hdistinct : Distinct (sent.map Change.content) := by
    have hall := distinct_changes e next
    rw [hsplit, List.map_append] at hall
    exact (List.pairwise_append.1 hall).1
  constructor
  · rw [← h.missing, apply]
    refine missing_recordAll fun x hx => ?_
    obtain ⟨c, hc, rfl⟩ := List.mem_map.1 hx
    exact contains_of_mem_changes (hmem c hc)
  · intro p
    rw [apply, find?_recordAll, h.agrees p, find?_recordAll, find?_recordAll, latest_append,
      Option.map_or, Option.or_assoc]
  · intro x hx
    rcases List.mem_append.1 hx with hx | hx
    · exact h.wanted x hx
    · obtain ⟨c, hc, rfl⟩ := List.mem_map.1 hx
      exact wanted_of_mem_changes (hmem c hc)
  · intro p hp
    rw [about_append, List.length_append]
    by_cases hbefore : about p l = []
    · rw [hbefore, List.length_nil, Nat.zero_add]
      exact about_length_le_one hdistinct
    · -- the file is clean already, so that nothing is worth sending for it
      have hclean := h.isClean_of_about hp hbefore
      have hnone : about p (sent.map Change.content) = [] := by
        rw [about_eq_nil_iff]
        intro x hx hs
        obtain ⟨c, hc, rfl⟩ := List.mem_map.1 hx
        have hpath : c.path.Same p := hs
        have hempty : c.diagnostics = [] := by
          rw [wanted_of_mem_changes (hmem c hc), next.screen_same hpath, hp]
        have hskip : ¬e.needsPublish c.path c.diagnostics = true :=
          not_needsPublish_iff.2 ⟨hempty, isClean_same hpath ▸ hclean⟩
        exact hskip (needsPublish_of_mem_changes (hmem c hc))
      rw [hnone]
      exact h.once p hp

/-- **A completed attempt** has sent all changes. -/
lemma completed (h : Attempted d next l e) (hd : d.Tidy) :
    Attempted d next (l ++ (e.revise next).changes.map Change.content) (e.revise next).display := by
  have hall := h.interrupted (List.append_nil (e.revise next).changes).symm
  exact {
    missing := (missing_showing e next).trans h.missing
    agrees := fun p => ((h.tidy hd).revise_agrees next p).trans (hall.agrees p)
    wanted := hall.wanted
    once := hall.once }

/-- The way still ends where it did at the start. -/
lemma revise_eq (h : Attempted d next l e) : (e.revise next).display = (d.revise next).display := by
  simp only [revise, showing, h.missing]

/-- When the end is reached, a dirty file that the run does not report has been sent the empty list
once, and nothing else. -/
lemma cleared_once (h : Attempted d next l (d.revise next).display) (hdirty : d.isDirty p = true)
    (hp : next.contains p = false) : ∃ q, about p l = [(q, [])] := by
  have hnone : next.find? p = none := PathMap.contains_eq_false_iff.1 hp
  have hempty : next.screen p = [] := by rw [DiagnosticSet.screen, hnone]; rfl
  have hnow : (d.revise next).display.isDirty p = false := by
    rw [isDirty, diagnostics?, revise, find?_showing, hnone]
    cases d.files.contains p <;> rfl
  exact about_of_cleared h.agrees (h.once p hempty) hdirty hnow

end Attempted

end Display

end LintBridge
