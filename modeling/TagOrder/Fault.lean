import TagOrder.Document
import TagOrder.Options
import TagOrder.Template.Fault

/-!
# Faults

Everything that ends a run before its time.
-/

namespace TagOrder

/-- Why the settings of a project file are refused. -/
inductive SettingsFault where
  /-- The file is not written as settings are. -/
  | malformed
  | sectionNotTable
  deriving DecidableEq, Repr

/-- The words for a refusal. -/
def SettingsFault.message : SettingsFault -> String
  | malformed => "<toml>"
  | sectionNotTable => "[tool.attribute-order] must be a table."

/-- Why a run ended before its time. -/
inductive Fault where
  | options (error : OptionsError)
  | load (error : LoadError)
  | template (fault : TemplateFault)
  | file (error : FileError)
  | settings (path : String) (fault : SettingsFault)
  /-- What should hold the sections of all tools is of another type. -/
  | toolNotTable (type : String)
  /-- A value of a project file goes beyond the limits. -/
  | beyond (limit : LimitFault)

namespace Fault

/-- The words for a fault. -/
def message : Fault -> String
  | options error => error.message
  | load error => error.message
  | template fault => fault.message
  | file error => error.message
  | settings path fault => path ++ ": " ++ fault.message
  | toolNotTable type => "'" ++ type ++ "' object has no attribute 'get'"
  | beyond limit => limit.message

/-- Whether a fault lies in how the tool is configured. -/
def isConfiguration : Fault -> Bool
  | options (.beyond _) => false
  | options _ | settings _ _ => true
  | _ => false

end Fault

end TagOrder
