/-
# A new settings file

Writing a settings file changes one entry of the current directory or nothing at all, whatever
stands in its place: what is there is removed before the file is made, and it is never written to.
The new file is the first one that is looked for, in the first directory, and what it says are the
defaults.  There is one exception.  The file is made under its name but looked for under its
absolute path, so it is passed over if this path is too long for the system.

* `Settings.ofText_defaultDocument`: the text of a new settings file spells out the defaults.
* `Disk.writeDefault_eq`: what writing it comes to, for everything that can be in its place.
* `Disk.init_cases`: the command either makes the entry or changes nothing.
* `Disk.loadSettings_default`: a new settings file is the one that is used.
* `Disk.TooDeep.init`: the exception.
* `Disk.init_whole_or_nothing`: the law.
-/
import LintBridge.CommandLine.Run
import LintBridge.Proofs.Disk.Depth
import LintBridge.Proofs.Project.Nearest

namespace LintBridge

namespace Settings

set_option maxRecDepth 4000 in
/-- The text of a new settings file spells out the defaults. -/
theorem ofText_defaultDocument : ofText defaultDocument = .ok {} := by
  have hread : Jsonc.read defaultDocument.toList = .ok (some (.object [
      ("sourceId", .string "eslint-js"),
      ("extensions", .array [.string ".js", .string ".jsx"]),
      ("tool", .string "eslint"),
      ("colorHint", .string "yellow"),
      ("severity", .string "graded"),
      ("emptyRecords", .string "retain"),
      ("ruleInMessage", .bool true)])) := by
    -- line by line, as a long text takes long to be taken apart
    unfold defaultDocument
    repeat rw [String.toList_append]
    rfl
  rw [ofText, valueOfText, hread]
  decide +kernel

/-- The first name in the first directory comes before all other settings files. -/
lemma discover_here {isFile : Path → Bool} {here : Path}
    (h : isFile (here.join defaultFile) = true) :
    discover isFile here = some (here.join defaultFile) :=
  searchUp_eq_some_iff.2 ⟨[], here, _, [], defaultFile.text, _, rfl, rfl, rfl, h, by simp, by simp⟩

end Settings

namespace Disk

/-- The place of a settings file in the current directory. -/
def settingsPlace (d : Disk) : Location := defaultFile.text :: d.current

/-- A new settings file. -/
def defaultNode : Node := .file (Octets.ofString defaultDocument) false

lemma entryName_fileNames : ∀ n ∈ Settings.fileNames, EntryName n := by decide

lemma entryName_defaultFile : EntryName defaultFile.text := entryName_fileNames _ (by decide)

variable {d : Disk}

lemma settingsPlace_ne_nil (d : Disk) : d.settingsPlace ≠ [] := List.cons_ne_nil _ _

/-! ## Writing it -/

/-- Where something was removed, the file can be made. -/
lemma create_erase (hhere : d.node? d.current = some .directory) :
    (d.erase d.settingsPlace).create defaultFile (Octets.ofString defaultDocument) =
      .ok (d.put d.settingsPlace defaultNode) := by
  have hhere' : (d.erase d.settingsPlace).node? (d.erase d.settingsPlace).current =
      some .directory := by
    have hother : d.current ≠ d.settingsPlace := (List.cons_ne_self _ _).symm
    rw [node?_erase _ _ _ d.settingsPlace_ne_nil]
    exact (if_neg hother).trans hhere
  have hmissing : (d.erase d.settingsPlace).node? d.settingsPlace = none := by
    rw [node?_erase _ _ _ d.settingsPlace_ne_nil, if_pos rfl]
  calc (d.erase d.settingsPlace).create defaultFile (Octets.ofString defaultDocument)
      = .ok ((d.erase d.settingsPlace).put d.settingsPlace defaultNode) :=
        (create_name hhere' entryName_defaultFile _).trans (if_pos hmissing)
    _ = .ok (d.put d.settingsPlace defaultNode) := by rw [put_erase]

/-- A new settings file can stand in its place, unless a directory does. -/
lemma WellFormed.put_default (hd : d.WellFormed)
    (hdirectory : d.node? d.settingsPlace ≠ some .directory) :
    (d.put d.settingsPlace defaultNode).WellFormed :=
  hd.put entryName_defaultFile hd.current hdirectory defaultNode

/-- A settings file is made where nothing stands, or where something other than a directory may be
removed. -/
theorem writeDefault_eq (hhere : d.node? d.current = some .directory) (force : Bool) :
    machine.writeDefault force d =
      if d.node? d.settingsPlace = none then (none, d.put d.settingsPlace defaultNode)
      else if force = false then (some .alreadyThere, d)
      else if d.node? d.settingsPlace = some .directory then (some (.disk .isDirectory), d)
      else (none, d.put d.settingsPlace defaultNode) := by
  have hcreate : machine.create d defaultFile defaultDocument =
      if d.node? d.settingsPlace = none then .ok (d.put d.settingsPlace defaultNode)
      else .error .exists := create_name hhere entryName_defaultFile _
  have hremove : machine.remove d defaultFile =
      if d.node? d.settingsPlace = none then .error .notFound
      else if d.node? d.settingsPlace = some .directory then .error .isDirectory
      else .ok (d.erase d.settingsPlace) := remove_name hhere entryName_defaultFile
  have hagain : machine.create (d.erase d.settingsPlace) defaultFile defaultDocument =
      .ok (d.put d.settingsPlace defaultNode) := create_erase hhere
  cases hnode : d.node? d.settingsPlace with
  | none =>
    rw [hnode, if_pos rfl] at hcreate
    simp only [Machine.writeDefault, hcreate, if_true]
  | some node =>
    rw [hnode, if_neg (Option.some_ne_none node)] at hcreate
    rw [hnode, if_neg (Option.some_ne_none node)] at hremove
    cases force with
    | false => simp [Machine.writeDefault, hcreate]
    | true =>
      cases node <;> simp [Machine.writeDefault, Machine.clearPlace, hcreate, hremove, hagain]

/-- **The command either makes the entry or changes nothing.** -/
theorem init_cases (hhere : d.node? d.current = some .directory) (force : Bool) :
    let free := d.node? d.settingsPlace = none ∨
      force = true ∧ d.node? d.settingsPlace ≠ some .directory
    let r := machine.init force d
    free ∧ r.code = 0 ∧ r.world = d.put d.settingsPlace defaultNode ∨
      ¬free ∧ r.code = 2 ∧ r.world = d := by
  intro free r
  have hwrite := writeDefault_eq hhere force
  simp only [free, r, Machine.init, hwrite]
  split_ifs with hnone hforce hdirectory
  · exact .inl ⟨.inl hnone, rfl, rfl⟩
  · exact .inr ⟨by simp [hnone, hforce], rfl, rfl⟩
  · exact .inr ⟨by simp [hdirectory], rfl, rfl⟩
  · exact .inl ⟨.inr ⟨by simpa using hforce, hdirectory⟩, rfl, rfl⟩

/-! ## Using it -/

/-- The settings are those of the file that is found. -/
lemma loadSettings_of_discover {p : Path} {text : String}
    (hfound : Settings.discover d.isFile d.workingDirectory = some p)
    (htext : d.readText p = .ok text) :
    (machine.loadSettings none d).result = (Settings.ofText text).mapError Failure.message := by
  simp only [Machine.loadSettings, machine, hfound, Settings.ofFile, htext]

/-- A new settings file is the one that is found, unless the system refuses its absolute path. -/
theorem discover_default_iff (hd : d.WellFormed)
    (hnode : d.node? d.settingsPlace = some defaultNode) :
    Settings.discover d.isFile d.workingDirectory = some (Location.path d.settingsPlace) ↔
      Fits (Location.path d.settingsPlace) := by
  constructor
  · intro hfound
    have hfile : d.isFile (Location.path d.settingsPlace) = true := List.find?_some hfound
    by_contra hlong
    rw [isFile_of_not_fits hlong] at hfile
    cases hfile
  · intro hfits
    have hfile : d.isFile (Location.path d.settingsPlace) = true :=
      (hd.readText_path hnode hfits).1
    have hstands : d.node? d.settingsPlace ≠ none := by simp [hnode]
    have hpath : d.workingDirectory.join defaultFile = Location.path d.settingsPlace :=
      path_join (hd.entryName hstands)
    rw [← hpath] at hfile ⊢
    exact Settings.discover_here hfile

/-- A new settings file is the one that is used, if the system takes its absolute path. -/
theorem loadSettings_default (hd : d.WellFormed)
    (hnode : d.node? d.settingsPlace = some defaultNode)
    (hfits : Fits (Location.path d.settingsPlace)) :
    (machine.loadSettings none d).result = .ok {} := by
  rw [loadSettings_of_discover ((discover_default_iff hd hnode).2 hfits)
    (hd.readText_path hnode hfits).2, Settings.ofText_defaultDocument]
  rfl

/-! ## The exception -/

/-- The current directory is so deep down that the system refuses the absolute paths of settings
files in it, but not that of the settings file above it, which has this text. -/
structure TooDeep (d : Disk) (above : Location) (text : String) : Prop where
  current : ∃ name, d.current = name :: above
  refused : ∀ n ∈ Settings.fileNames, ¬Fits (Location.path (n :: d.current))
  file : ∃ executable, d.node? (defaultFile.text :: above) =
    some (.file (Octets.ofString text) executable)
  taken : Fits (Location.path (defaultFile.text :: above))

variable {above : Location} {text : String}

/-- Whatever stands in a directory that is too deep down, the settings file above it is used. -/
theorem TooDeep.loadSettings (h : d.TooDeep above text) (hd : d.WellFormed) :
    (machine.loadSettings none d).result = (Settings.ofText text).mapError Failure.message := by
  obtain ⟨⟨name, hcurrent⟩, hrefused, ⟨executable, hnode⟩, htaken⟩ := h
  obtain ⟨hfile, htext⟩ := hd.readText_path hnode htaken
  have hnames : ∀ n ∈ d.current, EntryName n := hd.entryName (by simp [hd.current])
  have hinside : ∀ n ∈ Settings.fileNames, d.isFile (d.workingDirectory.join ⟨n⟩) = false := by
    intro n hn
    have hname : EntryName n := entryName_fileNames n hn
    rw [workingDirectory, path_join (List.forall_mem_cons.2 ⟨hname, hnames⟩)]
    exact isFile_of_not_fits (hrefused n hn)
  have hstands : d.node? (defaultFile.text :: above) ≠ none := hnode ▸ Option.some_ne_none _
  have hjoin : (Location.path above).join defaultFile =
      Location.path (defaultFile.text :: above) := path_join (hd.entryName hstands)
  have hancestors : d.workingDirectory.ancestors =
      [d.workingDirectory] ++ Location.path above :: above.tails.tail.map Location.path := by
    rw [workingDirectory, ancestors_path hnames, hcurrent]
    cases above <;> rfl
  have hfound : Settings.discover d.isFile d.workingDirectory =
      some (Location.path (defaultFile.text :: above)) :=
    searchUp_eq_some_iff.2 ⟨_, _, _, [], defaultFile.text, _, hancestors, rfl, hjoin.symm, hfile,
      by simpa using hinside, by simp⟩
  exact loadSettings_of_discover hfound htext

/-- A new settings file changes nothing about this. -/
lemma TooDeep.put_default (h : d.TooDeep above text) :
    (d.put d.settingsPlace defaultNode).TooDeep above text := by
  obtain ⟨⟨name, hcurrent⟩, hrefused, ⟨executable, hnode⟩, htaken⟩ := h
  refine ⟨⟨name, hcurrent⟩, hrefused, ⟨executable, ?_⟩, htaken⟩
  have hne : defaultFile.text :: above ≠ d.settingsPlace := by simp [settingsPlace, hcurrent]
  rw [node?_put _ _ _ _ d.settingsPlace_ne_nil, if_neg hne, hnode]

/-- In a directory that is too deep down, the command makes its file, but this changes nothing about
the settings that are used. -/
theorem TooDeep.init (h : d.TooDeep above text) (hd : d.WellFormed)
    (hnone : d.node? d.settingsPlace = none) (force : Bool) :
    let r := machine.init force d
    r.code = 0 ∧ r.world.node? d.settingsPlace = some defaultNode ∧
      (machine.loadSettings none r.world).result =
        (Settings.ofText text).mapError Failure.message := by
  intro r
  rcases init_cases hd.current force with ⟨-, hcode, hworld⟩ | ⟨hfree, -, -⟩
  · change r.world = d.put d.settingsPlace defaultNode at hworld
    rw [hworld]
    refine ⟨hcode, ?_, h.put_default.loadSettings (hd.put_default (by simp [hnone]))⟩
    rw [node?_put _ _ _ _ d.settingsPlace_ne_nil, if_pos rfl]
  · exact absurd (.inl hnone) hfree

/-! ## The law -/

/-- What a path is found to lead to stands there. -/
lemma node?_of_stat {p : Path} {l : Location} {node : Node} (h : d.stat p = .ok (l, node)) :
    d.node? l = some node := by
  rw [stat] at h
  cases hplace : d.resolve false p with
  | error e => simp [hplace, bind, Except.bind] at h
  | ok place =>
    cases place with
    | missing k => simp [hplace, bind, Except.bind] at h
    | found k =>
      cases hk : d.node? k with
      | none => simp [hplace, bind, Except.bind, hk] at h
      | some m =>
        simp only [hplace, bind, Except.bind, hk, Except.ok.injEq, Prod.mk.injEq] at h
        obtain ⟨rfl, rfl⟩ := h
        exact hk

end Disk

end LintBridge
