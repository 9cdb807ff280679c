import TunnelSession.Console.Basic
import TunnelSession.DryRun.Engine
import TunnelSession.DryRun.Interface
import TunnelSession.Shell.Config

/-!
The shell: a console on a dry run. It takes lines and outcomes, in whatever order they come, until a
line quits or the input ends; then it waits for the request in flight, drops what it has not been
told, and stops a session that still runs.
-/
namespace TunnelSession

structure Shell where
  console : Console DryRun.Engine DryRun.Interface
  ended : Bool

namespace Shell

/-- Heartbeats are a second apart at least. -/
def period (c : Config) : Nat :=
  max c.heartbeatSeconds 1 * 1000000000

def session (c : Config) (dir : Folder) (now : Moment) :
    Session DryRun.Engine DryRun.Interface :=
  .idle (.load dir) { known := c.neighbors, period := period c, now }
    { permission := c.permission, installed := .ofList (c.apps.map (·.id)) } c.host c.dataDir

/-- What the shell prints when it is opened on its data folder, and the shell. -/
def launch (c : Config) (dir : Folder) (now : Moment) : List String × Shell :=
  let console := Console.connect (session c dir now) c.apps
  (Console.help ++ Console.settingLines console.store.settings, ⟨console, false⟩)

/-- `work` lets the request in flight run to its end, and `deliver` hands over the outcome that has
waited longest. -/
inductive Event where
  | line (text : String)
  | inputEnd
  | work
  | deliver
  deriving DecidableEq, Repr

def deliver (s : Shell) : List String × Shell :=
  match s.console.dispatcher.outcomes with
  | [] => ([], s)
  | o :: outcomes =>
    let (lines, console) :=
      { s.console with dispatcher := { s.console.dispatcher with outcomes } }.onOutcome o
    (lines, { s with console })

/-- The lines that an event prints. Nothing happens after the end. -/
def step (s : Shell) (e : Event) : List String × Shell :=
  if s.ended then ([], s)
  else
    match e with
    | .line text =>
      let handled := s.console.handle text
      (handled.lines, ⟨handled.console, !handled.goesOn⟩)
    | .inputEnd => ([], { s with ended := true })
    | .work => ([], { s with console := s.console.settle })
    | .deliver => s.deliver

def run (s : Shell) : List Event → List String × Shell
  | [] => ([], s)
  | e :: es =>
    let (first, s) := s.step e
    let (rest, s) := s.run es
    (first ++ rest, s)

/-- A line that is not text ends the input. -/
def Event.ofInput : Option String → Event
  | some text => .line text
  | none => .inputEnd

/-- Lines that arrive at once, and then all that comes of them. -/
def feed (s : Shell) (inputs : List (Option String)) : List String × Shell :=
  s.run (inputs.map .ofInput ++ [.work, .deliver])

/-- Lines in turn, up to those that end the shell, and what is printed each time. -/
def feedAll (s : Shell) : List (List (Option String)) → List (List String) × Shell
  | [] => ([], s)
  | inputs :: later =>
    if s.ended then ([], s)
    else
      let (lines, s) := s.feed inputs
      let (rest, s) := s.feedAll later
      (lines :: rest, s)

def withSession (s : Shell) (session : Session DryRun.Engine DryRun.Interface) : Shell :=
  { s with console := { s.console with dispatcher := { s.console.dispatcher with session } } }

def folder (s : Shell) : Folder := s.console.store.dir

/-- The shell with its data folder as it is found now. -/
def inFolder (s : Shell) (dir : Folder) : Shell :=
  { s with console := s.console.withStore { s.console.store with dir } }

/-- The shell at a later moment, when heartbeats have become due. -/
def advance (s : Shell) (now : Moment) : Shell :=
  let session := s.console.dispatcher.session
  let (engine, dir) := session.engine.advance session.store.dir now
  s.withSession { session with engine, store := { session.store with dir } }

/-- The session as the console leaves it behind. -/
def left (s : Shell) : Session DryRun.Engine DryRun.Interface :=
  s.console.settle.dispatcher.session

/-- The session once it has been shut down, and how that ended. -/
def close (s : Shell) : Session.Verdict × Session DryRun.Engine DryRun.Interface :=
  if s.left.isRunning then s.left.perform .stop else (.done, s.left)

end Shell

end TunnelSession
