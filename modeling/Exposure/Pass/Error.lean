import Exposure.Catalog.Basic
import Exposure.ConfigurationError
import Exposure.File.System
import Exposure.Location
import Exposure.Yaml.Form

/-!
# Failures of a pass

A pass fails for what the operator wrote, for what the front end or the backend reports, or for a
file.
-/

namespace Exposure

/-- Why a backend emits nothing, or why what it emitted could not be written. -/
inductive EmitError where
  /-- The backend fails, in its own words. -/
  | backend (message : String)
  /-- An artifact could not be written. -/
  | write (path : String) (e : FileError)
deriving DecidableEq, Repr

/-- Why a pass fails. -/
inductive PassError where
  | configuration (e : ConfigurationError)
  /-- The file of the configuration does not hold one. -/
  | configurationFile (e : Yaml.Fault)
  | catalog (e : CatalogError)
  | parse (e : ParseError)
  | emit (e : EmitError)
  | file (path : String) (e : FileError)
deriving DecidableEq, Repr

/-- The text of a failure of a backend. -/
def EmitError.message : EmitError → String
  | backend message => message
  | write path e => s!"failed to write {path}: {e.message}"

namespace PassError

/-- The words in front of what is wrong with the file of a configuration. -/
def configurationFileLabel : String := "invalid configuration file: "

/-- The text of a failure. -/
def message : PassError → String
  | configuration e => e.message
  | configurationFile e => configurationFileLabel ++ e.message
  | catalog e => e.message
  | parse e => e.display
  | emit e => e.message
  | file path e => s!"{path}: {e.message}"

/-- What caused a failure, if its text is about something else, too. -/
def cause? : PassError → Option String
  | configurationFile e => some e.message
  | emit (.write _ e) => some e.message
  | file _ e => some e.message
  | _ => none

/-- The texts of a failure and of what caused it. -/
def chain (e : PassError) : List String := e.message :: e.cause?.toList

/-- Whether the operator's configuration is at fault. -/
def isConfiguration : PassError → Bool
  | configuration _ => true
  | configurationFile _ => true
  | _ => false

/-- Whether the front end is at fault. -/
def isParse : PassError → Bool
  | parse _ => true
  | catalog _ => true
  | _ => false

end PassError

end Exposure
