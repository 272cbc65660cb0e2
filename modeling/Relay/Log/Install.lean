import Relay.Config
import Relay.Log.Filter

/-!
# Installing the log

The logging settings take effect when they are installed. That is possible once in the life of a
program, and only with settings whose filter can be read.
-/

namespace Relay.Log

/-- **Why logging settings cannot be installed.** -/
inductive InstallError where
  /-- The filter cannot be read. -/
  | filter (text : String) (fault : FilterFault)
  /-- Settings have been installed before. -/
  | occupied
  deriving DecidableEq

/-- The wording of an installation error. -/
def InstallError.message : InstallError → String
  | filter _ .directive => "invalid filter directive"
  | filter _ (.cut split) => split.message
  | occupied =>
    "failed to install tracing subscriber: a global default trace dispatcher has already been set"

/-- **Installing settings** where settings may have been installed before. The filter is looked at
first. -/
def install (isOccupied : Bool) (config : LoggingConfig) : Except InstallError Unit :=
  match checkFilter config.filter with
  | .error fault => .error (.filter config.filter fault)
  | .ok () => if isOccupied then .error .occupied else .ok ()

end Relay.Log
