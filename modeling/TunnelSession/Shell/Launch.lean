import TunnelSession.Shell.Config
import TunnelSession.Shell.LogFilter

/-!
What a shell is launched from: a configuration, and a filter for diagnostic messages. A launch that
fails says why, unless it broke off while it read a filter.
-/
namespace TunnelSession.Shell

inductive LaunchError where
  | config (cause : ConfigError)
  | filter (fault : LogFilter.Fault)
  deriving DecidableEq, Repr

namespace LaunchError

/-- What a failed launch prints first. -/
def report : LaunchError → String
  | .config cause => "Error: " ++ cause.message
  | .filter .malformed => "Error: invalid log level"
  | .filter .torn => ""

def exitCode : LaunchError → Nat
  | .filter .torn => 101
  | _ => 1

end LaunchError

/-- The configuration that a launch goes by. `path` names its file, and `filter` is the one that the
environment gives. -/
def configure (find : String → Found) (path filter : Option String) :
    Except LaunchError Config := do
  let c ← (Config.load find path).mapError .config
  (LogFilter.choose filter c.logLevel).mapError .filter
  return c

end TunnelSession.Shell
