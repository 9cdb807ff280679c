/-!
Sorting that keeps ties in order. For an order that is total and transitive, but in which different
things may tie, there is one arrangement of a list that is sorted and leaves what ties as it stood:
`mergeSort_arranges` and `Arranges.unique`. Where something stands in a sorted list is how many come
before it: `lt_countP_iff`.
-/

namespace TunnelSession

section

variable {α : Type} {le : α → α → Bool} {given sorted other : List α}

/-- Each may stand before the other. -/
def tied (le : α → α → Bool) (a b : α) : Bool := le a b && le b a

/-- A list in order, with everything that ties as it stood. -/
structure Arranges (le : α → α → Bool) (given sorted : List α) : Prop where
  perm : sorted.Perm given
  ordered : sorted.Pairwise (le · ·)
  steady : ∀ a, sorted.filter (tied le a) = given.filter (tied le a)

variable (trans : ∀ a b c, le a b → le b c → le a c) (total : ∀ a b, le a b || le b a)

include trans in
/-- What ties with one thing ties with each other. -/
theorem pairwise_tied (a : α) (l : List α) : (l.filter (tied le a)).Pairwise (le · ·) := by
  apply List.pairwise_of_forall_mem_list
  intro b mem_b c mem_c
  simp only [List.mem_filter, tied, Bool.and_eq_true] at mem_b mem_c
  exact trans b a c mem_b.2.2 mem_c.2.1

include trans total in
theorem mergeSort_arranges (given : List α) : Arranges le given (given.mergeSort le) := by
  have perm := List.mergeSort_perm given le
  refine ⟨perm, List.pairwise_mergeSort trans total given, fun a => ?_⟩
  have kept : (given.filter (tied le a)).Sublist (given.mergeSort le) :=
    List.sublist_mergeSort trans total (pairwise_tied trans a given) List.filter_sublist
  have part : (given.filter (tied le a)).Sublist
      ((given.mergeSort le).filter (tied le a)) := by
    simpa using kept.filter (tied le a)
  exact (part.eq_of_length (perm.filter (tied le a)).length_eq.symm).symm

include total

/-- Two lists in order in which the same things tie in the same order are the same list. -/
theorem eq_of_ordered {l l' : List α} (ordered : l.Pairwise (le · ·))
    (ordered' : l'.Pairwise (le · ·)) (steady : ∀ a, l.filter (tied le a) = l'.filter (tied le a)) :
    l = l' := by
  have self (a : α) : tied le a a = true := by
    simpa [tied] using total a a
  have mem_of {m m' : List α} (steady : ∀ a, m.filter (tied le a) = m'.filter (tied le a)) {a : α}
      (mem : a ∈ m) : a ∈ m' := by
    have mem : a ∈ m.filter (tied le a) := List.mem_filter.mpr ⟨mem, self a⟩
    rw [steady] at mem
    exact (List.mem_filter.mp mem).1
  induction l generalizing l' with
  | nil =>
    cases l' with
    | nil => rfl
    | cons b rest => cases mem_of (fun a => (steady a).symm) (List.mem_cons_self (a := b))
  | cons a rest ih =>
    cases l' with
    | nil => cases mem_of steady (List.mem_cons_self (a := a))
    | cons b rest' =>
      obtain ⟨least, later⟩ := List.pairwise_cons.mp ordered
      obtain ⟨least', later'⟩ := List.pairwise_cons.mp ordered'
      -- each first one may stand before the other, so they lead the same ties
      have before : le a b = true := by
        rcases List.mem_cons.mp (mem_of (fun a => (steady a).symm) List.mem_cons_self) with
          rfl | mem
        · simpa using total b b
        · exact least b mem
      have after : le b a = true := by
        rcases List.mem_cons.mp (mem_of steady List.mem_cons_self) with rfl | mem
        · simpa using total a a
        · exact least' a mem
      have ties : tied le a b = true := by
        simp only [tied, before, after, Bool.and_self]
      have same : a = b := by
        have first := steady a
        rw [List.filter_cons_of_pos (self a), List.filter_cons_of_pos ties] at first
        exact (List.cons.inj first).1
      subst same
      rw [ih later later' fun c => ?_]
      have all := steady c
      by_cases led : tied le c a = true
      · rw [List.filter_cons_of_pos led, List.filter_cons_of_pos led] at all
        exact (List.cons.inj all).2
      · rwa [List.filter_cons_of_neg led, List.filter_cons_of_neg led] at all

/-- There is one such arrangement. -/
theorem Arranges.unique (first : Arranges le given sorted) (second : Arranges le given other) :
    other = sorted :=
  eq_of_ordered total second.ordered first.ordered fun a =>
    (second.steady a).trans (first.steady a).symm

end

/-- In a sorted list, those up to a bound are the first ones. -/
theorem lt_countP_iff {α : Type} {R : α → α → Prop} {p : α → Bool} {l : List α}
    (ordered : l.Pairwise R) (bound : ∀ a b, R a b → p b = true → p a = true) {i : Nat} {a : α}
    (there : l[i]? = some a) : i < l.countP p ↔ p a = true := by
  induction l generalizing i with
  | nil => simp at there
  | cons b rest ih =>
    obtain ⟨least, later⟩ := List.pairwise_cons.mp ordered
    by_cases first : p b = true
    · rw [List.countP_cons_of_pos first]
      cases i with
      | zero =>
        cases there
        simp [first]
      | succ i =>
        rw [Nat.add_lt_add_iff_right]
        exact ih later there
    · have none : ∀ c ∈ b :: rest, ¬ p c = true := by
        intro c mem below
        rcases List.mem_cons.mp mem with rfl | mem
        · exact first below
        · exact first (bound b c (least c mem) below)
      rw [List.countP_eq_zero.mpr none]
      simp [none a (List.mem_of_getElem? there)]

end TunnelSession
