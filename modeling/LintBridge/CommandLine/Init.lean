/-
# Writing a settings file

* `defaultDocument`: the text of a new settings file, which spells out the defaults.
* `Machine.init`: write it.
-/
import LintBridge.CommandLine.Machine

namespace LintBridge

/-- The text of a new settings file. -/
def defaultDocument : String :=
  "\x7b\n" ++
  "  // Source id attached to every publication\n" ++
  "  \"sourceId\": \"eslint-js\",\n" ++
  "  // Extensions linted on buffer events\n" ++
  "  \"extensions\": [\".js\", \".jsx\"],\n" ++
  "  \"tool\": \"eslint\",\n" ++
  "  \"colorHint\": \"yellow\",\n" ++
  "  // \"graded\" or \"warning-only\"\n" ++
  "  \"severity\": \"graded\",\n" ++
  "  // \"retain\" or \"omit\"\n" ++
  "  \"emptyRecords\": \"retain\",\n" ++
  "  \"ruleInMessage\": true\n" ++
  "\x7d\n"

/-- The name of a new settings file. -/
def defaultFile : Path := ⟨".lintrelay.jsonc"⟩

/-- Why a settings file was not written. -/
inductive InitRefusal where
  /-- Something stands there already. -/
  | alreadyThere
  /-- The disk refuses. -/
  | disk (e : DiskError)
deriving DecidableEq, Repr

/-- The wording of a refusal. -/
def InitRefusal.message : InitRefusal → String
  | alreadyThere => "Settings file already exists. Use --force to overwrite."
  | disk e => e.message

namespace Machine

variable {σ : Type}

/-- The surroundings without what stands at the place of the settings file. -/
def clearPlace (m : Machine σ) (w : σ) : Except DiskError σ :=
  match m.remove w defaultFile with
  | .error .notFound => .ok w
  | r => r

/-- Write a settings file, and return why it was not written, if so, and the surroundings
afterwards.  What stands at its place is in the way, and is removed if `force` is true; it is never
written to.  What has been removed stays so if the file cannot be made after all. -/
def writeDefault (m : Machine σ) (force : Bool) (w : σ) : Option InitRefusal × σ :=
  match m.create w defaultFile defaultDocument with
  | .ok w => (none, w)
  | .error .exists =>
    if force then
      match m.clearPlace w with
      | .error e => (some (.disk e), w)
      | .ok w =>
        match m.create w defaultFile defaultDocument with
        | .ok w => (none, w)
        | .error e => (some (.disk e), w)
    else (some .alreadyThere, w)
  | .error e => (some (.disk e), w)

/-- Write a settings file. -/
def init (m : Machine σ) (force : Bool) (w : σ) : CommandResult σ :=
  match m.writeDefault force w with
  | (none, w) => ⟨0, "", [⟨.info, "Created " ++ defaultFile.text⟩], w⟩
  | (some r, w) => .failed [] r.message w

end Machine

end LintBridge
