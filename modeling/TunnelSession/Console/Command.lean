import TunnelSession.Text.Blank
import TunnelSession.Text.Split

/-!
Command lines. A line is stripped of blanks and cut at its first space; what follows the space is
stripped again. Newlines of a value are typed and shown as a backslash and an `n`.
-/
namespace TunnelSession.Console

inductive Command where
  | nothing
  | help
  | list
  | edit (row value : List Char)
  | check (entry : List Char) (excluded : Bool)
  | ok
  | cancel
  | start
  | stop
  | quit
  | unknown (word : List Char)
  deriving DecidableEq, Repr

/-- The word before the first space, and what is left of the text, stripped. -/
def word (cs : List Char) : List Char × List Char :=
  let (first, rest) := Text.cut ' ' cs
  (first, Text.strip rest)

def Command.ofWord (command : String) (rest : List Char) : Command :=
  match command with
  | "" => .nothing
  | "help" => .help
  | "list" => .list
  | "edit" => .edit (word rest).1 (word rest).2
  | "check" => .check rest true
  | "uncheck" => .check rest false
  | "ok" => .ok
  | "cancel" => .cancel
  | "start" => .start
  | "stop" => .stop
  | "quit" => .quit
  | "exit" => .quit
  | other => .unknown other.toList

def Command.parse (line : String) : Command :=
  let (command, rest) := word (Text.strip line.toList)
  .ofWord (String.ofList command) rest

/-- Each backslash with an `n` after it becomes a newline. -/
def typed : List Char → List Char
  | '\\' :: 'n' :: cs => '\n' :: typed cs
  | c :: cs => c :: typed cs
  | [] => []

/-- Each newline becomes a backslash with an `n` after it. -/
def shown : List Char → List Char
  | '\n' :: cs => '\\' :: 'n' :: shown cs
  | c :: cs => c :: shown cs
  | [] => []

end TunnelSession.Console
