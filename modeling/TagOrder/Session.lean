import TagOrder.Command
import TagOrder.Fixing
import TagOrder.Report
import TagOrder.Settings
import TagOrder.Storage.Search

/-!
# Sessions

A session is one run of a command line on some files. The options are read from the project first,
and a project that is badly configured ends the session before the command line is looked at.
-/

namespace TagOrder

/-- What a session leaves: its status, what it printed, what it said, and the files. The console
shows what was said to the user. -/
structure Session (σ : Type) where
  status : Nat
  output : String := ""
  console : String := ""
  notices : List Notice := []
  files : σ
  deriving DecidableEq, Repr

/-- Why a session has no result. -/
inductive Halt (σ : Type) where
  /-- The command line does not have the form of one. -/
  | usage
  /-- A fault came up, which leaves the files as they then were. The notices are what had been said
  by then. -/
  | fault (fault : Fault) (notices : List Notice) (files : σ)

/-- What was said before is said first. -/
def Halt.after {σ : Type} (before : List Notice) : Halt σ -> Halt σ
  | .usage => .usage
  | .fault cause notices files => .fault cause (before ++ notices) files

namespace Session

variable {σ : Type}

/-- What the console shows of what was said, in order. -/
def shown (notices : List Notice) : String := String.join (notices.map ({} : Banner).shown)

/-- A session that printed and said something; the console shows what was said. -/
def ofNotices (files : σ) (status : Nat) (output : String) (notices : List Notice) : Session σ :=
  { status, output, notices, files, console := shown notices }

/-- The introduction. -/
def welcome : Notice := ⟨.welcome, ({} : Banner).welcome⟩

/-- The name under which the rule is shown. -/
def ruleName : String := Registry.packaged.displayName ruleCode

/-- The status of a check: whether everything was loaded and nothing is out of order. -/
def checkStatus (audit : Audit) : Nat :=
  if audit.hasViolations || !audit.failed.isEmpty then 1 else 0

/-- What is said before a check: the introduction, when it reports in a table. -/
def greeting (asTable : Bool) : List Notice := if asTable then [welcome] else []

/-- What a check ends with: the report, and the status. -/
def report (files : σ) (asTable : Bool) (audit : Audit) (notices : List Notice) : Session σ :=
  if asTable then
    let advice : List Notice := if audit.hasViolations then
        [⟨.step, "Next: run 'attrs-order fix' to reorder automatically."⟩]
      else []
    ofNotices files (checkStatus audit) (Report.table ruleName audit) (notices ++ advice)
  else ofNotices files (checkStatus audit) (Report.json audit) notices

/-- The formats of a report, and whether each is a table. -/
def formats : List (String × Bool) := [("table", true), ("json", false)]

/-- Checks what paths stand for. -/
def check (storage : Storage σ) (files : σ) (rule : Rule) (format : String)
    (paths : List String) : Except (Halt σ) (Session σ) :=
  match formats.lookup format with
  | none => .ok (ofNotices files 2 ""
      [⟨.error, "Unknown format '" ++ format ++ "'; use table or json."⟩])
  | some asTable =>
    match audit storage files rule paths with
    | .error halted => .error (.fault halted.fault (greeting asTable ++ halted.notices) files)
    | .ok (audit, notices) => .ok (report files asTable audit (greeting asTable ++ notices))

/-- The number of tags that results leave out of order. -/
def unresolvedTags (results : List FixResult) : Nat := total (results.map (·.unresolvedTags))

/-- The status of a fix: whether any tag is left out of order. -/
def fixStatus (results : List FixResult) : Nat := if unresolvedTags results = 0 then 0 else 1

/-- What is said at the end about the results of a fix. -/
def fixNotices (results : List FixResult) : List Notice :=
  let modified := results.countP (·.modified)
  [⟨.step, if modified = 0 then "No fixes applied" else
      "Fixed " ++ Nat.repr modified ++ " file(s)"⟩] ++
    (if unresolvedTags results = 0 then []
    else [⟨.warning, Nat.repr (unresolvedTags results) ++ " tag(s) still need manual attention."⟩])

/-- Fixes what paths stand for. -/
def fix (storage : Storage σ) (files : σ) (rule : Rule) (backups : Bool) (paths : List String) :
    Except (Halt σ) (Session σ) :=
  let outcome := fixPaths storage files rule backups paths
  match outcome.answer with
  | .error fault => .error (.fault fault (welcome :: outcome.notices) outcome.files)
  | .ok results => .ok (ofNotices outcome.files (fixStatus results) ""
      (welcome :: outcome.notices ++ fixNotices results))

/-- Says what the rule asks for. -/
def explain (files : σ) : Session σ :=
  let lines := [ruleName, Rule.description, "", Registry.packaged.manualInstructions ruleCode]
  ofNotices files 0 (String.join (lines.map (· ++ "\n"))) []

/-- Runs a command under some options. -/
def run (storage : Storage σ) (files : σ) (options : Options) :
    Command -> Except (Halt σ) (Session σ)
  | .check format paths => check storage files (.ofRegistry options .packaged) format paths
  | .fix backups paths => fix storage files (.ofRegistry options .packaged) backups paths
  | .explain => .ok (explain files)

/-- The remarks on the keys of settings that are ignored. -/
def remarks (fields : Fields) : List Notice :=
  (Options.unknownKeys fields).map fun key => ⟨.remark, Options.unknownKeyWarning key⟩

/-- A session that a badly configured project ended. -/
def misconfigured (files : σ) (remarks : List Notice) (fault : Fault) : Session σ :=
  { status := 2, notices := remarks, files
    console := "attrs-order: invalid configuration: " ++ fault.message ++ "\n" }

/-- Runs a command line under the options that settings give. -/
def runLine (storage : Storage σ) (files : σ) (fields : Fields) (line : List String) :
    Except (Halt σ) (Session σ) :=
  match Options.read storage.limits.shown fields with
  | .error error =>
    if (Fault.options error).isConfiguration then
      .ok (misconfigured files (remarks fields) (.options error))
    else .error (.fault (.options error) (remarks fields) files)
  | .ok options =>
    match Command.ofLine? line with
    | none => .error .usage
    | some command =>
      match run storage files options command with
      | .error halt => .error (halt.after (remarks fields))
      | .ok session => .ok { session with notices := remarks fields ++ session.notices }

/-- The session of a command line on a volume. -/
def start (volume : Volume) (line : List String) : Except (Halt Volume) (Session Volume) :=
  match Settings.load Volume.storage.limits volume volume.here with
  | .ok fields => runLine Volume.storage volume fields line
  | .error fault =>
    if fault.isConfiguration then .ok (misconfigured volume [] fault)
    else .error (.fault fault [] volume)

end Session

end TagOrder
