import TunnelSession.Json.Value
import TunnelSession.Text.Quoted

/-!
JSON text in its indented form: two spaces a level, a member or an item a line, a bare pair of
brackets for what is empty, and no newline at the end. A string escapes only what it must.
-/
namespace TunnelSession.Json

def escape (c : Char) : List Char :=
  if c = '"' then ['\\', '"']
  else if c = '\\' then ['\\', '\\']
  else if c = '\n' then ['\\', 'n']
  else if c = '\r' then ['\\', 'r']
  else if c = '\t' then ['\\', 't']
  else if c = '\x08' then ['\\', 'b']
  else if c = '\x0c' then ['\\', 'f']
  else if c.toNat < 0x10 then ['\\', 'u', '0', '0', '0'] ++ Text.hexDigits c.toNat
  else if c.toNat < 0x20 then ['\\', 'u', '0', '0'] ++ Text.hexDigits c.toNat
  else [c]

def literal (s : String) : List Char :=
  ['"'] ++ s.toList.flatMap escape ++ ['"']

/-- A literal without a text is written as the empty one. -/
def literalOf (value : Option String) : List Char :=
  literal (value.getD "")

def newline (level : Nat) : List Char :=
  '\n' :: List.replicate (2 * level) ' '

/-- What stands between the brackets: each part on a line of its own, a level further in. -/
def block (level : Nat) : List (List Char) → List Char
  | [] => []
  | [part] => newline (level + 1) ++ part ++ newline level
  | part :: parts => newline (level + 1) ++ part ++ [','] ++ block level parts

mutual

def chars (level : Nat) : Json → List Char
  | .null => ['n', 'u', 'l', 'l']
  | .boolean true => ['t', 'r', 'u', 'e']
  | .boolean false => ['f', 'a', 'l', 's', 'e']
  | .number n => n.toList
  | .text value => literalOf value
  | .array items => ['['] ++ block level (itemChars (level + 1) items) ++ [']']
  | .object members => ['\x7b'] ++ block level (memberChars (level + 1) members) ++ ['\x7d']

def itemChars (level : Nat) : List Json → List (List Char)
  | [] => []
  | item :: items => chars level item :: itemChars level items

def memberChars (level : Nat) : List (Option String × Json) → List (List Char)
  | [] => []
  | (key, value) :: members =>
    (literalOf key ++ [':', ' '] ++ chars level value) :: memberChars level members

end

def pretty (v : Json) : String :=
  String.ofList (chars 0 v)

end TunnelSession.Json
