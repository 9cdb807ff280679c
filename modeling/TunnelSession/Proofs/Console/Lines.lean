import TunnelSession.Console.Basic
import TunnelSession.Proofs.Session.Run

/-!
What a line does to a session. It has at most one request accepted, `accepted?`, and apart from that
request it changes nothing but settings: `run_lands`.
-/

namespace TunnelSession.Console

variable {ε ι : Type} [Engine ε] [TunnelInterface ι]

/-- The gateway candidate in the place that a value names. -/
def named? (c : Console ε ι) (value : List Char) : Option Candidate :=
  if value = [] then none
  else (Text.position? value).bind (c.dispatcher.session.neighbors.candidates[·]?)

/-- The request that a command makes. -/
def request? (c : Console ε ι) : Command → Option Session.Request
  | .start => if c.controls.start then some .start else none
  | .stop => if c.controls.stop then some .stop else none
  | .edit row value =>
    ((Text.position? row).bind (Menu.Row.all[·]?)).bind fun row =>
      if row.kind.editor c.controls.isRunning = .gatewayChoice then
        (c.named? value).map .switch
      else none
  | _ => none

/-- The request that a command has accepted: none while another one is in flight. -/
def accepted? (c : Console ε ι) (command : Command) : Option Session.Request :=
  if c.dispatcher.session.flight.isSome then none else c.request? command

/-- What a command does, by the request that it has accepted. -/
inductive Lands (c c' : Console ε ι) : Option Session.Request → Prop
  | settings {store : Store} (dispatcher : c'.dispatcher = (c.withStore store).dispatcher)
      (controls : c'.controls = c.controls) : Lands c c' none
  | start (free : c.dispatcher.session.flight = none) (enabled : c.controls.start = true)
      (dispatcher : c'.dispatcher = (c.dispatcher.dispatch .start).2)
      (controls : c'.controls = { c.controls with start := false }) : Lands c c' (some .start)
  | stop (free : c.dispatcher.session.flight = none) (enabled : c.controls.stop = true)
      (dispatcher : c'.dispatcher = (c.dispatcher.dispatch .stop).2)
      (controls : c'.controls = { c.controls with stop := false }) : Lands c c' (some .stop)
  | switch {target : Candidate} (free : c.dispatcher.session.flight = none)
      (dispatcher : c'.dispatcher = (c.dispatcher.dispatch (.switch target)).2)
      (controls : c'.controls = c.controls) : Lands c c' (some (.switch target))

omit [Engine ε] in
theorem lands_same (c : Console ε ι) : Lands c c none := .settings rfl rfl

theorem start_lands (c : Console ε ι) : Lands c c.start.2 (c.accepted? .start) := by
  cases enabled : c.controls.start with
  | false =>
    simpa [start, Controls.pressStart, accepted?, request?, enabled] using lands_same c
  | true =>
    rcases c.dispatcher.dispatch_cases .start with ⟨taken, busy⟩ | ⟨free, d, accepted⟩
    · simp only [start, Controls.pressStart, enabled, ↓reduceIte, busy, accepted?, taken]
      exact .settings rfl (by simp [← enabled])
    · simp only [start, Controls.pressStart, enabled, ↓reduceIte, accepted, accepted?, request?,
        free, Option.isSome_none, Bool.false_eq_true]
      exact .start free enabled (by rw [accepted]) rfl

theorem stop_lands (c : Console ε ι) : Lands c c.stop.2 (c.accepted? .stop) := by
  cases enabled : c.controls.stop with
  | false =>
    simpa [stop, Controls.pressStop, accepted?, request?, enabled] using lands_same c
  | true =>
    rcases c.dispatcher.dispatch_cases .stop with ⟨taken, busy⟩ | ⟨free, d, accepted⟩
    · simp only [stop, Controls.pressStop, enabled, ↓reduceIte, busy, accepted?, taken]
      exact .settings rfl (by simp [← enabled])
    · simp only [stop, Controls.pressStop, enabled, ↓reduceIte, accepted, accepted?, request?,
        free, Option.isSome_none, Bool.false_eq_true]
      exact .stop free enabled (by rw [accepted]) rfl

theorem chooseGateway_lands (c : Console ε ι) (value : List Char) :
    Lands c (c.chooseGateway value).2
      (if c.dispatcher.session.flight.isSome then none else (c.named? value).map .switch) := by
  by_cases blank : value = []
  · simpa [chooseGateway, named?, blank] using lands_same c
  · simp only [chooseGateway, named?, blank, ↓reduceIte]
    split
    · rename_i unknown
      simpa [unknown] using lands_same c
    · rename_i target known
      rcases c.dispatcher.dispatch_cases (.switch target) with ⟨taken, busy⟩ | ⟨free, d, accepted⟩
      · simpa [busy, taken] using lands_same c
      · simp only [accepted, free, known, Option.isSome_none, Bool.false_eq_true, ↓reduceIte,
          Option.map_some]
        exact .switch free (by rw [accepted]) rfl

omit [Engine ε] in
theorem editText_lands (c : Console ε ι) (key : Settings.Key) (value : List Char) :
    Lands c (c.editText key value).2 none := by
  unfold editText
  split
  · exact lands_same c
  · exact .settings rfl rfl

theorem edit_lands (c : Console ε ι) (row value : List Char) :
    Lands c (c.edit row value).2 (c.accepted? (.edit row value)) := by
  cases found : (Text.position? row).bind (Menu.Row.all[·]?) with
  | none => simpa [edit, accepted?, request?, found] using lands_same c
  | some entry =>
    simp only [edit, accepted?, request?, found, Option.bind_some]
    unfold editRow
    split
    · rename_i text
      simpa [text] using editText_lands c _ value
    · rename_i text
      simpa [text] using editText_lands c _ value
    · rename_i choice
      simpa [choice] using chooseGateway_lands c value
    · rename_i apps
      simp only [apps, reduceCtorEq, ↓reduceIte, ite_self]
      exact .settings rfl rfl
    · rename_i log
      simpa [log] using lands_same c
    · rename_i noChoice _ _ _ _
      simpa [show ¬ _ from noChoice] using lands_same c

theorem run_lands (c : Console ε ι) (command : Command) :
    Lands c (c.run command).2 (c.accepted? command) := by
  cases command with
  | start => exact c.start_lands
  | stop => exact c.stop_lands
  | edit row value => exact c.edit_lands row value
  | check entry excluded =>
    simp only [run, check, accepted?, request?, ite_self]
    split
    · exact lands_same c
    · split <;> exact .settings rfl rfl
  | ok =>
    simp only [run, confirm, accepted?, request?, ite_self]
    split <;> exact .settings rfl rfl
  | cancel =>
    simp only [run, accepted?, request?, ite_self]
    exact .settings rfl rfl
  | _ => simpa [run, accepted?, request?] using lands_same c

theorem handle_lands (c : Console ε ι) (text : String) :
    Lands c (c.handle text).console (c.accepted? (.parse text)) := by
  unfold handle
  exact c.run_lands (.parse text)

end TunnelSession.Console
