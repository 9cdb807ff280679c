import TunnelSession.Descriptor

/-!
What becomes of the descriptors in a slot. Whatever the steps, a descriptor in the slot is owned
(`step_owned`), so letting go of it releases it; one that is taken out is detached first, and
letting go of it releases nothing. `step_settles` balances one step, and `after_settles` any number
of them; `released_or_taken_once` adds the order of the releases.
-/

namespace TunnelSession.Slot

def after (s : Slot) (steps : List Step) : Slot :=
  steps.foldl (fun s x => (s.step x).2) s

/-- The steps with their answers. -/
def history (s : Slot) : List Step → List (Step × Answer)
  | [] => []
  | x :: steps => (x, (s.step x).1) :: (s.step x).2.history steps

/-- The number in the slot, if there is one. -/
def numbers (s : Slot) : List Int :=
  s.held.toList.map (·.fd)

/-- The number of the descriptor that a step drops, at the owner's wish or for another one that
takes its place. -/
def dropped (s : Slot) : Step → List Int
  | .create _ | .drop => s.numbers
  | .readFd | .describe | .takeRaw => []

/-- The numbers of the descriptors that are dropped, one after the other. -/
def drops (s : Slot) : List Step → List Int
  | [] => []
  | x :: steps => s.dropped x ++ (s.step x).2.drops steps

/-- Steps that look at the descriptor and leave it where it is. -/
def Step.reads : Step → Bool
  | .readFd | .describe => true
  | .create _ | .takeRaw | .drop => false

def Owned (s : Slot) : Prop :=
  ∀ h ∈ s.held, h.owned = true

theorem empty_owned : empty.Owned := nofun

section Steps

variable {s : Slot}

theorem letGo_owned (owned : s.Owned) : s.letGo = ⟨none, s.released ++ s.numbers⟩ := by
  obtain ⟨held, released⟩ := s
  cases held with
  | none => rfl
  | some h => simp [letGo, numbers, Handle.releases, owned h rfl]

theorem letGo_detached (s : Slot) :
    { s with held := s.held.map Handle.detach }.letGo = ⟨none, s.released⟩ := by
  obtain ⟨held, released⟩ := s
  cases held <;> simp [letGo, Handle.releases, Handle.detach]

theorem step_owned (owned : s.Owned) (x : Step) : (s.step x).2.Owned := by
  cases x with
  | create fd =>
    rintro h ⟨⟩
    rfl
  | readFd | describe => exact owned
  | takeRaw | drop => nofun

theorem step_released (owned : s.Owned) (x : Step) :
    (s.step x).2.released = s.released ++ s.dropped x := by
  cases x with
  | create | drop => simp [step, letGo_owned owned, dropped]
  | readFd | describe => simp [step, dropped]
  | takeRaw => simp [step, letGo_detached, dropped]

theorem count_numbers (s : Slot) (fd : Int) :
    s.numbers.count fd = if s.held.map (·.fd) = some fd then 1 else 0 := by
  obtain ⟨held, released⟩ := s
  cases held <;> simp [numbers, List.count_singleton]

/-- What is there before a step, or is made by it, is released, taken out or there after it. -/
theorem step_settles (owned : s.Owned) (x : Step) (fd : Int) :
    s.released.count fd + s.numbers.count fd + [x].count (.create fd) =
      (s.step x).2.released.count fd + [(x, (s.step x).1)].count (.takeRaw, .fd fd) +
        (s.step x).2.numbers.count fd := by
  rw [step_released owned, List.count_append]
  cases x with
  | create n =>
    have made : (s.step (.create n)).2.numbers = [n] := rfl
    simp [made, dropped, List.count_singleton]
  | readFd | describe => simp [step, dropped]
  | takeRaw =>
    have gone : (s.step .takeRaw).2.numbers = [] := rfl
    have answer : [(Step.takeRaw, (s.step .takeRaw).1)].count (.takeRaw, .fd fd) =
        s.numbers.count fd := by
      rw [count_numbers, List.count_singleton]
      cases held : s.held <;> simp [step, fdOf, held]
    simp [gone, answer, dropped]
  | drop =>
    have gone : (s.step .drop).2.numbers = [] := rfl
    simp [gone, dropped]

theorem step_reads {x : Step} (reads : x.reads = true) : (s.step x).2 = s := by
  cases x with
  | readFd | describe => rfl
  | create | takeRaw | drop => cases reads

end Steps

section Runs

variable {s : Slot}

theorem after_released (owned : s.Owned) (steps : List Step) :
    (s.after steps).released = s.released ++ s.drops steps := by
  induction steps generalizing s with
  | nil => simp [after, drops]
  | cons x steps ih =>
    have later := ih (step_owned owned x)
    rw [step_released owned, List.append_assoc] at later
    exact later

theorem after_settles (owned : s.Owned) (steps : List Step) (fd : Int) :
    s.released.count fd + s.numbers.count fd + steps.count (.create fd) =
      (s.after steps).released.count fd + (s.history steps).count (.takeRaw, .fd fd) +
        (s.after steps).numbers.count fd := by
  induction steps generalizing s with
  | nil => simp [after, history]
  | cons x steps ih =>
    have now := step_settles owned x fd
    have later := ih (step_owned owned x)
    have whole : s.after (x :: steps) = (s.step x).2.after steps := rfl
    rw [whole, history, List.count_cons, List.count_cons]
    rw [List.count_singleton, List.count_singleton] at now
    omega

/-- Without the steps that only read, the slot and the other answers are the same. -/
theorem after_filter_reads (s : Slot) (steps : List Step) :
    s.after (steps.filter (!·.reads)) = s.after steps ∧
      s.history (steps.filter (!·.reads)) = (s.history steps).filter (!·.1.reads) := by
  induction steps generalizing s with
  | nil => exact ⟨rfl, rfl⟩
  | cons x steps ih =>
    cases reads : x.reads with
    | true =>
      obtain ⟨same, answers⟩ := ih s
      rw [List.filter_cons_of_neg (by simp [reads]), same, answers]
      simp [after, history, reads, step_reads reads]
    | false =>
      obtain ⟨same, answers⟩ := ih (s.step x).2
      rw [List.filter_cons_of_pos (by simp [reads])]
      simp only [after, List.foldl_cons, history] at same answers ⊢
      rw [same, answers, List.filter_cons_of_pos (by simp [reads])]
      exact ⟨rfl, rfl⟩

end Runs

/-- **A descriptor is released or taken out, once.** Put any steps to a slot that is empty at first.
For every number, the descriptors made with it are as many as its releases and the times that it was
taken out, and one more if it is in the slot. The releases are those of the descriptors that were
dropped, in the order in which they were. Steps that read the number or print the descriptor change
nothing: without them the slot is the same, and so are the answers to the other steps. -/
theorem released_or_taken_once (steps : List Step) :
    let s := empty.after steps
    (∀ fd, steps.count (.create fd) =
      s.released.count fd + (empty.history steps).count (.takeRaw, .fd fd) +
        if s.held.map (·.fd) = some fd then 1 else 0) ∧
    s.released = empty.drops steps ∧
    empty.after (steps.filter (!·.reads)) = s ∧
    empty.history (steps.filter (!·.reads)) = (empty.history steps).filter (!·.1.reads) := by
  refine ⟨fun fd => ?_, after_released empty_owned steps, after_filter_reads empty steps⟩
  have settled := after_settles empty_owned steps fd
  have none_before : empty.released.count fd + empty.numbers.count fd = 0 := rfl
  rwa [none_before, Nat.zero_add, count_numbers] at settled

/-- Of three descriptors with one number, the first gives way to the second, which is taken out. -/
example : (empty.after [.create 7, .create 7, .takeRaw, .create 7, .drop]).released = [7, 7] := by
  decide

end TunnelSession.Slot
