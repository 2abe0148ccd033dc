import TagOrder.Fault
import TagOrder.Notice
import TagOrder.Rule
import TagOrder.Total

/-!
# Audits

An audit collects parser dumps, loads the document of each and lists its violations. A dump that is
refused is noted as failed and the audit goes on. A fault ends it, and comes with what had been said
by then.
-/

namespace TagOrder

/-- The violations of one document. -/
structure FileAudit where
  path : String
  violations : List Violation
  deriving DecidableEq, Repr

/-- What an audit found. -/
structure Audit where
  files : List FileAudit := []
  failed : List String := []
  deriving DecidableEq, Repr

namespace Audit

/-- The number of violations. -/
def count (audit : Audit) : Nat := total (audit.files.map fun file => file.violations.length)

/-- The number of documents with violations. -/
def faultyFiles (audit : Audit) : Nat := audit.files.countP fun file => !file.violations.isEmpty

/-- Whether any document has violations. -/
def hasViolations (audit : Audit) : Bool := audit.files.any fun file => !file.violations.isEmpty

/-- An audit as a value. -/
def toValue (audit : Audit) : Value :=
  .table
    [("violation_count", .int audit.count),
      ("failed", .list (audit.failed.map .text)),
      ("files", .list (audit.files.map fun file =>
        .table
          [("path", .text file.path),
            ("violations", .list (file.violations.map Violation.toValue))]))]

end Audit

/-- The dumps that paths stand for, with a warning for each path that stands for none. -/
def collectDumps {σ : Type} (storage : Storage σ) (files : σ) :
    List String -> Except (Halted Fault) (List String × List Notice)
  | [] => .ok ([], [])
  | path :: rest =>
    match storage.dumps files path with
    | .error error => .error { fault := .file error }
    | .ok found =>
      let warnings : List Notice := if found.isEmpty then
          [⟨.warning, "No *" ++ dumpEnding ++ " parser dumps found in " ++ path⟩]
        else []
      match collectDumps storage files rest with
      | .error halted => .error (halted.after warnings)
      | .ok (others, notices) => .ok (found ++ others, warnings ++ notices)

/-- The violations of tags. -/
def checkTags (rule : Rule) : List Tag -> Except Fault (List Violation)
  | [] => .ok []
  | tag :: rest =>
    match rule.check tag, checkTags rule rest with
    | .error fault, _ => .error (.template fault)
    | .ok _, .error fault => .error fault
    | .ok violations, .ok others => .ok (violations ++ others)

/-- What is said about a dump that is refused. -/
def refusalNotice (path : String) (fault : DumpFault) : Notice :=
  ⟨.error, (LoadError.dump path fault).message⟩

/-- What is said about a document before its tags are checked. -/
def checkingNotice (document : Document) : Notice :=
  ⟨.debug, "Checking " ++ document.path ++ " (" ++ Nat.repr document.tags.length ++ " tags)"⟩

/-- The audit of the documents of some dumps, with what is said about it. -/
def auditDumps {σ : Type} (storage : Storage σ) (files : σ) (rule : Rule) :
    List String -> Except (Halted Fault) (Audit × List Notice)
  | [] => .ok ({}, [])
  | dump :: rest =>
    match Document.load storage files dump with
    | .error (.dump path fault) =>
      match auditDumps storage files rule rest with
      | .error halted => .error (halted.after [refusalNotice path fault])
      | .ok (audit, notices) =>
        .ok ({ audit with failed := dump :: audit.failed }, refusalNotice path fault :: notices)
    | .error error => .error { fault := .load error }
    | .ok document =>
      match checkTags rule document.tags with
      | .error fault => .error { fault, notices := [checkingNotice document] }
      | .ok violations =>
        match auditDumps storage files rule rest with
        | .error halted => .error (halted.after [checkingNotice document])
        | .ok (audit, notices) =>
          .ok ({ audit with files := ⟨document.path, violations⟩ :: audit.files },
            checkingNotice document :: notices)

/-- The audit of what paths stand for, with what is said about it. -/
def audit {σ : Type} (storage : Storage σ) (files : σ) (rule : Rule) (paths : List String) :
    Except (Halted Fault) (Audit × List Notice) :=
  match collectDumps storage files paths with
  | .error halted => .error halted
  | .ok (dumps, warnings) =>
    match auditDumps storage files rule dumps with
    | .error halted => .error (halted.after warnings)
    | .ok (audit, notices) => .ok (audit, warnings ++ notices)

end TagOrder
