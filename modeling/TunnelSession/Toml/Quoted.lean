import TunnelSession.Text.Quoted
import TunnelSession.Toml.Blank

/-!
TOML strings, basic or literal, on one line or on several. Those on several lines drop a newline
that they start with, read every newline as a bare one, and may end in up to two quotes of their own
before the closing three.
-/
namespace TunnelSession.Toml

/-- The character that hexadecimal digits number, if it is one. -/
def numbered? (digits : List Char) : Option Char :=
  match Text.hexOver? 0 digits with
  | some n => if n.isValidChar then some (Char.ofNat n) else none
  | none => none

def simple? : Char → Option Char
  | '"' => some '"'
  | '\\' => some '\\'
  | 'b' => some '\x08'
  | 'f' => some '\x0c'
  | 'n' => some '\n'
  | 'r' => some '\r'
  | 't' => some '\t'
  | _ => none

def after (c : Option Char) (rest : Option (List Char × List Char)) :
    Option (List Char × List Char) := do
  let c ← c
  let (cs, rest) ← rest
  return (c :: cs, rest)

/-- The rest of a basic string, up to its closing quote. -/
def basic : Reader (List Char)
  | [] => none
  | '"' :: cs => some ([], cs)
  | '\\' :: 'u' :: a :: b :: c :: d :: cs => after (numbered? [a, b, c, d]) (basic cs)
  | '\\' :: 'U' :: a :: b :: c :: d :: e :: f :: g :: h :: cs =>
    after (numbered? [a, b, c, d, e, f, g, h]) (basic cs)
  | '\\' :: e :: cs => after (simple? e) (basic cs)
  | c :: cs => if isPlain c ∧ c ≠ '\\' then after (some c) (basic cs) else none

def literal : Reader (List Char)
  | [] => none
  | '\'' :: cs => some ([], cs)
  | c :: cs => if isPlain c then after (some c) (literal cs) else none

def dropSpace : List Char → List Char
  | '\r' :: '\n' :: cs => dropSpace cs
  | c :: cs => if isBlank c ∨ c = '\n' then dropSpace cs else c :: cs
  | [] => []

/-- A backslash at the end of a line takes away all white space up to the next character. -/
def continued? (cs : List Char) : Option (List Char) :=
  (newline? (skip cs)).map dropSpace

theorem length_dropSpace_le (cs : List Char) : (dropSpace cs).length ≤ cs.length := by
  fun_induction dropSpace cs with
  | case1 cs ih =>
    simp only [List.length_cons]
    omega
  | case2 c cs _ _ ih =>
    simp only [List.length_cons]
    omega
  | case3 => exact Nat.le_refl _
  | case4 => exact Nat.le_refl _

theorem length_newline?_lt {cs rest : List Char} (h : newline? cs = some rest) :
    rest.length < cs.length := by
  unfold newline? at h
  split at h
  · cases h
    exact Nat.lt_add_one _
  · cases h
    simp only [List.length_cons]
    omega
  · cases h

theorem length_continued?_lt {cs rest : List Char} (h : continued? cs = some rest) :
    rest.length < cs.length := by
  obtain ⟨r, hr, rfl⟩ := Option.map_eq_some_iff.1 h
  have skipped : (skip cs).length ≤ cs.length := (List.dropWhile_sublist isBlank).length_le
  have := length_newline?_lt hr
  have := length_dropSpace_le r
  omega

/-- The rest of a basic string on several lines. -/
def basicLines (cs : List Char) : Option (List Char × List Char) :=
  match cs with
  | [] => none
  | '"' :: '"' :: '"' :: '"' :: '"' :: cs => some (['"', '"'], cs)
  | '"' :: '"' :: '"' :: '"' :: cs => some (['"'], cs)
  | '"' :: '"' :: '"' :: cs => some ([], cs)
  | '\\' :: 'u' :: a :: b :: c :: d :: cs => after (numbered? [a, b, c, d]) (basicLines cs)
  | '\\' :: 'U' :: a :: b :: c :: d :: e :: f :: g :: h :: cs =>
    after (numbered? [a, b, c, d, e, f, g, h]) (basicLines cs)
  | '\\' :: e :: cs =>
    match _h : continued? (e :: cs) with
    | some rest => basicLines rest
    | none => after (simple? e) (basicLines cs)
  | '\r' :: '\n' :: cs => after (some '\n') (basicLines cs)
  | c :: cs => if (isPlain c ∧ c ≠ '\\') ∨ c = '\n' then after (some c) (basicLines cs) else none
termination_by cs.length
decreasing_by
  all_goals simp only [List.length_cons]
  all_goals try omega
  have := length_continued?_lt _h
  simp only [List.length_cons] at this
  omega

def literalLines : Reader (List Char)
  | [] => none
  | '\'' :: '\'' :: '\'' :: '\'' :: '\'' :: cs => some (['\'', '\''], cs)
  | '\'' :: '\'' :: '\'' :: '\'' :: cs => some (['\''], cs)
  | '\'' :: '\'' :: '\'' :: cs => some ([], cs)
  | '\r' :: '\n' :: cs => after (some '\n') (literalLines cs)
  | c :: cs => if isPlain c ∨ c = '\n' then after (some c) (literalLines cs) else none

def dropNewline (cs : List Char) : List Char :=
  (newline? cs).getD cs

/-- A string on one line. -/
def line : Reader (List Char)
  | '"' :: cs => basic cs
  | '\'' :: cs => literal cs
  | _ => none

def string : Reader (List Char)
  | '"' :: '"' :: '"' :: cs => basicLines (dropNewline cs)
  | '\'' :: '\'' :: '\'' :: cs => literalLines (dropNewline cs)
  | cs => line cs

end TunnelSession.Toml
