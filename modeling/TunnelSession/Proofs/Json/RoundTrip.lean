import TunnelSession.Proofs.Json.Literal

/-!
A value reads back from its indented text. `Legible` values are those whose literals all hold a
text; they hold no numbers. Fuel is enough as long as it exceeds the length of the text:

* `items_block` and `members_block`: what stands between brackets is read part by part;
* `reads`: a legible value is read off the front of a text;
* `parse?_pretty`: and it is all that its own text writes.
-/

namespace TunnelSession.Json

inductive Legible : Json → Prop
  | null : Legible .null
  | boolean (b) : Legible (.boolean b)
  | text (s) : Legible (.text (some s))
  | array {items} (each : ∀ v ∈ items, Legible v) : Legible (.array items)
  | object {members} (keys : ∀ m ∈ members, m.1.isSome) (each : ∀ m ∈ members, Legible m.2) :
      Legible (.object members)

section Openings

variable (fuel : Nat) (cs : List Char)

-- What the first character of a value decides, so that no proof about one kind of value has to go
-- through the reader's other branches.

theorem value_text : value (fuel + 1) ('"' :: cs) =
    (literalBody cs).map fun (s, rest) => (.text s, rest) := rfl

theorem value_bracket : value (fuel + 1) ('[' :: cs) =
    match skip cs with
    | ']' :: rest => some (.array [], rest)
    | rest => (items fuel rest).map fun (vs, rest) => (.array vs, rest) := rfl

theorem value_brace : value (fuel + 1) ('\x7b' :: cs) =
    match skip cs with
    | '\x7d' :: rest => some (.object [], rest)
    | rest => (members fuel rest).map fun (ms, rest) => (.object ms, rest) := rfl

end Openings

section Blanks

theorem skip_of_ne {c : Char} (plain : isBlank c = false) (cs : List Char) :
    skip (c :: cs) = c :: cs := by
  simp [skip, plain]

theorem skip_skip (cs : List Char) : skip (skip cs) = skip cs := by
  induction cs with
  | nil => rfl
  | cons c cs ih =>
    by_cases blank : isBlank c = true
    · simpa [skip, blank] using ih
    · simp [skip, blank]

theorem skip_newline (level : Nat) (cs : List Char) : skip (newline level ++ cs) = skip cs := by
  refine List.dropWhile_append_of_pos fun c mem => ?_
  simp only [newline, List.mem_cons, List.mem_replicate] at mem
  rcases mem with rfl | ⟨_, rfl⟩ <;> rfl

theorem value_skip (fuel : Nat) (cs : List Char) : value fuel (skip cs) = value fuel cs := by
  cases fuel with
  | zero => rfl
  | succ fuel => simp only [value, skip_skip]

theorem value_newline (fuel level : Nat) (cs : List Char) :
    value fuel (newline level ++ cs) = value fuel cs := by
  rw [← value_skip, skip_newline, value_skip]

theorem value_space (fuel : Nat) (cs : List Char) : value fuel (' ' :: cs) = value fuel cs := by
  rw [← value_skip, ← value_skip fuel cs]
  rfl

theorem items_skip (fuel : Nat) (cs : List Char) : items fuel (skip cs) = items fuel cs := by
  cases fuel with
  | zero => rfl
  | succ fuel => rw [items, items, value_skip]

theorem members_skip (fuel : Nat) (cs : List Char) : members fuel (skip cs) = members fuel cs := by
  cases fuel with
  | zero => rfl
  | succ fuel => rw [members, members, skip_skip]

end Blanks

section Blocks

theorem block_singleton (level : Nat) (part rest : List Char) :
    block level [part] ++ rest = newline (level + 1) ++ (part ++ (newline level ++ rest)) := by
  simp [block]

theorem block_cons (level : Nat) (part : List Char) {parts : List (List Char)}
    (more : parts ≠ []) (rest : List Char) : block level (part :: parts) ++ rest =
      newline (level + 1) ++ (part ++ ',' :: (block level parts ++ rest)) := by
  cases parts with
  | nil => exact absurd rfl more
  | cons next parts => simp [block]

/-- A block is longer than its first part and what comes after the comma. -/
theorem length_block (level : Nat) (part : List Char) (parts : List (List Char)) :
    part.length + (block level parts).length < (block level (part :: parts)).length := by
  cases parts with
  | nil =>
    simp [block, newline]
    omega
  | cons next parts =>
    simp [block, newline]
    omega

/-- The first character of a block that is no blank is that of its first part. -/
theorem skip_block {c : Char} (plain : isBlank c = false) (level : Nat) (part : List Char)
    (parts : List (List Char)) (rest : List Char) :
    ∃ tail, skip (block level ((c :: part) :: parts) ++ rest) = c :: tail := by
  cases parts with
  | nil =>
    rw [block_singleton, skip_newline]
    exact ⟨_, skip_of_ne plain _⟩
  | cons next parts =>
    rw [block_cons level _ (by simp), skip_newline]
    exact ⟨_, skip_of_ne plain _⟩

end Blocks

/-- A value is read off the front of any text that starts with its own. -/
def Reads (v : Json) : Prop :=
  ∀ level fuel rest, (chars level v).length < fuel →
    value fuel (chars level v ++ rest) = some (v, rest)

theorem Reads.of_succ {v : Json} (h : ∀ level fuel rest, (chars level v).length ≤ fuel →
    value (fuel + 1) (chars level v ++ rest) = some (v, rest)) : Reads v := by
  intro level fuel rest enough
  obtain ⟨fuel, rfl⟩ : ∃ n, fuel = n + 1 := ⟨fuel - 1, by omega⟩
  exact h level fuel rest (by omega)

section Arrays

theorem items_block {vs : List Json} (nonempty : vs ≠ []) (each : ∀ v ∈ vs, Reads v)
    (level fuel : Nat) (rest : List Char)
    (enough : (block level (itemChars (level + 1) vs)).length < fuel) :
    items fuel (block level (itemChars (level + 1) vs) ++ ']' :: rest) = some (vs, rest) := by
  induction vs generalizing fuel with
  | nil => exact absurd rfl nonempty
  | cons v vs ih =>
    rw [itemChars] at enough ⊢
    have longer := length_block level (chars (level + 1) v) (itemChars (level + 1) vs)
    obtain ⟨fuel, rfl⟩ : ∃ n, fuel = n + 1 := ⟨fuel - 1, by omega⟩
    have first (rest : List Char) : value fuel (chars (level + 1) v ++ rest) = some (v, rest) :=
      each v List.mem_cons_self _ _ _ (by omega)
    cases vs with
    | nil =>
      have close : skip (newline level ++ ']' :: rest) = ']' :: rest := skip_newline level _
      rw [itemChars, block_singleton, items, value_newline, first]
      simp [close]
    | cons w vs =>
      have more : itemChars (level + 1) (w :: vs) ≠ [] := by simp [itemChars]
      have others := ih (by simp) (fun v mem => each v (List.mem_cons_of_mem _ mem)) fuel (by omega)
      rw [block_cons level _ more, items, value_newline, first]
      simp [skip_of_ne, isBlank, others]

/-- What a value starts with: no blank, and nothing that closes a list. -/
theorem chars_head {v : Json} (legible : Legible v) (level : Nat) :
    ∃ c cs, chars level v = c :: cs ∧ isBlank c = false ∧ c ≠ ']' := by
  cases legible with
  | boolean b => cases b <;> exact ⟨_, _, rfl, rfl, by decide⟩
  | null | text | array | object => exact ⟨_, _, rfl, rfl, by decide⟩

/-- A list whose brackets do not close at once is read item by item. -/
theorem value_array {c : Char} {cs tail : List Char} (inside : skip cs = c :: tail)
    (opens : c ≠ ']') (fuel : Nat) :
    value (fuel + 1) ('[' :: cs) = (items fuel cs).map fun (vs, rest) => (.array vs, rest) := by
  rw [value_bracket, inside]
  split
  · rename_i closes
    exact absurd (List.cons.inj closes).1 opens
  · rw [← inside, items_skip]

theorem array_reads {vs : List Json} (legible : ∀ v ∈ vs, Legible v) (each : ∀ v ∈ vs, Reads v) :
    Reads (.array vs) := by
  refine .of_succ fun level fuel rest enough => ?_
  cases vs with
  | nil => rfl
  | cons v vs =>
    simp only [chars, List.length_append, List.length_singleton] at enough
    have inside := items_block (by simp) each level fuel rest (by omega)
    obtain ⟨c, part, starts, plain, opens⟩ := chars_head (legible v List.mem_cons_self) (level + 1)
    rw [itemChars, starts] at inside
    obtain ⟨tail, first⟩ := skip_block plain level part (itemChars (level + 1) vs) (']' :: rest)
    rw [chars, itemChars, starts]
    simp [value_array first opens, inside]

end Arrays

section Objects

theorem member_append (key : String) (part rest : List Char) :
    literalOf (some key) ++ [':', ' '] ++ part ++ rest =
      '"' :: (key.toList.flatMap escape ++ '"' :: ':' :: ' ' :: (part ++ rest)) := by
  simp [literalOf, literal]

theorem members_block {ms : List (Option String × Json)} (nonempty : ms ≠ [])
    (keys : ∀ m ∈ ms, m.1.isSome) (each : ∀ m ∈ ms, Reads m.2) (level fuel : Nat)
    (rest : List Char) (enough : (block level (memberChars (level + 1) ms)).length < fuel) :
    members fuel (block level (memberChars (level + 1) ms) ++ '\x7d' :: rest) =
      some (ms, rest) := by
  induction ms generalizing fuel with
  | nil => exact absurd rfl nonempty
  | cons m ms ih =>
    obtain ⟨key, v⟩ := m
    obtain ⟨key, rfl⟩ := Option.isSome_iff_exists.mp (keys _ List.mem_cons_self)
    rw [memberChars] at enough ⊢
    have longer := length_block level (literalOf (some key) ++ [':', ' '] ++ chars (level + 1) v)
      (memberChars (level + 1) ms)
    have shorter : (chars (level + 1) v).length ≤
        (literalOf (some key) ++ [':', ' '] ++ chars (level + 1) v).length := by
      rw [List.length_append]
      exact Nat.le_add_left _ _
    obtain ⟨fuel, rfl⟩ : ∃ n, fuel = n + 1 := ⟨fuel - 1, by omega⟩
    have first (rest : List Char) :
        value fuel (' ' :: (chars (level + 1) v ++ rest)) = some (v, rest) := by
      have reads : Reads v := each (some key, v) List.mem_cons_self
      rw [value_space]
      exact reads _ _ _ (by omega)
    cases ms with
    | nil =>
      have close : skip (newline level ++ '\x7d' :: rest) = '\x7d' :: rest := skip_newline level _
      rw [memberChars, block_singleton, members, skip_newline, member_append]
      simp [skip_of_ne, isBlank, literalBody_escaped, first, close]
    | cons next ms =>
      have more : memberChars (level + 1) (next :: ms) ≠ [] := by simp [memberChars]
      have others := ih (by simp) (fun m mem => keys m (List.mem_cons_of_mem _ mem))
        (fun m mem => each m (List.mem_cons_of_mem _ mem)) fuel (by omega)
      rw [block_cons level _ more, members, skip_newline, member_append]
      simp [skip_of_ne, isBlank, literalBody_escaped, first, others]

theorem value_object {c : Char} {cs tail : List Char} (inside : skip cs = c :: tail)
    (opens : c ≠ '\x7d') (fuel : Nat) : value (fuel + 1) ('\x7b' :: cs) =
      (members fuel cs).map fun (ms, rest) => (.object ms, rest) := by
  rw [value_brace, inside]
  split
  · rename_i closes
    exact absurd (List.cons.inj closes).1 opens
  · rw [← inside, members_skip]

theorem object_reads {ms : List (Option String × Json)} (keys : ∀ m ∈ ms, m.1.isSome)
    (each : ∀ m ∈ ms, Reads m.2) : Reads (.object ms) := by
  refine .of_succ fun level fuel rest enough => ?_
  cases ms with
  | nil => rfl
  | cons m ms =>
    simp only [chars, List.length_append, List.length_singleton] at enough
    have inside := members_block (by simp) keys each level fuel rest (by omega)
    obtain ⟨key, v⟩ := m
    obtain ⟨key, rfl⟩ := Option.isSome_iff_exists.mp (keys _ List.mem_cons_self)
    obtain ⟨part, starts⟩ : ∃ part, literalOf (some key) ++ [':', ' '] ++ chars (level + 1) v =
        '"' :: part := ⟨_, rfl⟩
    rw [memberChars, starts] at inside
    have plain : isBlank '"' = false := rfl
    obtain ⟨tail, first⟩ := skip_block plain level part (memberChars (level + 1) ms)
      ('\x7d' :: rest)
    rw [chars, memberChars, starts]
    simp [value_object first (by decide), inside]

end Objects

theorem reads {v : Json} (legible : Legible v) : Reads v := by
  induction legible with
  | null => exact .of_succ fun _ _ _ _ => rfl
  | boolean b => exact .of_succ fun _ _ _ _ => by cases b <;> rfl
  | text s =>
    refine .of_succ fun _ _ _ _ => ?_
    simp [chars, literalOf, literal, value_text, literalBody_escaped]
  | array legible ih => exact array_reads legible ih
  | object keys _ ih => exact object_reads keys ih

theorem parse?_pretty {v : Json} (legible : Legible v) : parse? v.pretty = some v := by
  have read := reads legible 0 ((chars 0 v).length + 1) [] (Nat.lt_succ_self _)
  rw [List.append_nil] at read
  simp [parse?, pretty, read, skip]

end TunnelSession.Json
