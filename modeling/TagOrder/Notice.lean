/-!
# Notices

What the tool says while it works, in order. Notices for the user appear on the console; warnings
and errors among them also go to the log. Troubles with files go to the log alone.
-/

namespace TagOrder

/-- What a notice is about. -/
inductive NoticeKind where
  | welcome
  | step
  | warning
  | error
  | debug
  /-- A failure that goes to the log and not to the user. -/
  | trouble
  /-- A remark on the options, which goes to the log and not to the user. -/
  | remark
  deriving DecidableEq, Repr

/-- One thing said. -/
structure Notice where
  kind : NoticeKind
  message : String
  deriving DecidableEq, Repr

/-- Why something ended before its time, and what had been said by then. -/
structure Halted (ε : Type) where
  fault : ε
  notices : List Notice := []

/-- What was said before is said first. -/
def Halted.after {ε : Type} (before : List Notice) (halted : Halted ε) : Halted ε :=
  { halted with notices := before ++ halted.notices }

/-- How grave a log record is. -/
inductive LogLevel where
  | warning
  | error
  deriving DecidableEq, Repr

/-- The level at which a notice is logged, if it is grave enough. -/
def NoticeKind.level? : NoticeKind -> Option LogLevel
  | .warning | .remark => some .warning
  | .error | .trouble => some .error
  | .welcome | .step | .debug => none

/-- Whether a notice is meant for the user. -/
def NoticeKind.isForUser : NoticeKind -> Bool
  | .trouble | .remark => false
  | _ => true

end TagOrder
