import Confine.Code.Error
import Confine.Mode

set_option autoImplicit false

/-! # What goes wrong with a sandbox

The causes for which a sandbox refuses an operation, and their wording. Three of them pass on
what the backend says, and one passes on a failure of the code layer. -/

namespace Confine.Sandbox

/-- A failure of a sandbox. -/
inductive Error where
  /-- The code was refused. -/
  | code (cause : Code.Error)
  /-- The mode has no such operation. -/
  | unsupportedMode (mode : Mode)
  /-- The limit container was not created. -/
  | container (reason : String)
  /-- The command was not started. -/
  | spawn (reason : String)
  /-- The child process did not obey. -/
  | process (reason : String)
  /-- Something is running already. -/
  | alreadyRunning
  /-- Nothing is running. -/
  | notRunning
  /-- The sandbox is gone. -/
  | destroyed
  deriving DecidableEq, Repr

namespace Error

/-- The wording of a failure. -/
def message : Error → String
  | .code cause => cause.message
  | .unsupportedMode mode => s!"exec_code is not supported in {mode.name} mode"
  | .container reason => "failed to create limit container: " ++ reason
  | .spawn reason => "failed to spawn sandboxed process: " ++ reason
  | .process reason => "process control failed: " ++ reason
  | .alreadyRunning => "sandbox is already running"
  | .notRunning => "sandbox is not running"
  | .destroyed => "sandbox has been destroyed"

/-- The failure of the host that lies behind a failure, if there is one. -/
def causes : Error → List String
  | .code cause => cause.causes
  | .container reason | .spawn reason | .process reason => [reason]
  | _ => []

end Error

end Confine.Sandbox
