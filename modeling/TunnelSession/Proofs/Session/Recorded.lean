import TunnelSession.Proofs.Session.Run
import TunnelSession.Scripted.Engine
import TunnelSession.Scripted.Interface

/-!
Collaborators that keep a record. A recorded engine or interface answers as the one behind it, and
writes down each call with its answer, the oldest first. What is counted over a run is read off the
records.
-/

namespace TunnelSession

namespace Reply

variable {σ τ : Type} (f : σ → τ) (reply : Reply σ)

def map : Reply τ := { reply with engine := f reply.engine }

@[simp] theorem map_ending : (reply.map f).ending = reply.ending := rfl

@[simp] theorem map_engine : (reply.map f).engine = f reply.engine := rfl

@[simp] theorem map_dropped : (reply.map f).dropped = reply.dropped := rfl

end Reply

namespace Recorded

/-- `up` says whether the engine ran when it was asked to start. -/
inductive EngineCall where
  | start (descriptor : Descriptor) (params : Tunnel.Params) (up : Bool)
      (ending : Ending EngineError Unit)
  | stop (ending : Ending EngineError Unit)
  | redirect (target : Address) (ending : Ending EngineError Unit)
  deriving DecidableEq

inductive InterfaceCall where
  | establish (config : Tunnel.Config) (ending : Ending InterfaceError Establishment)
  | release (descriptor : Descriptor)
  | askPermission (granted : Bool)

structure Engine (ε : Type) where
  inner : ε
  calls : List EngineCall

structure Interface (ι : Type) where
  inner : ι
  calls : List InterfaceCall

namespace Engine

variable {ε : Type}

def unused (e : ε) : Engine ε := ⟨e, []⟩

def note (e : Engine ε) (call : EngineCall) (inner : ε) : Engine ε :=
  ⟨inner, e.calls ++ [call]⟩

instance [TunnelSession.Engine ε] : TunnelSession.Engine (Engine ε) where
  start e dir d p :=
    let reply := TunnelSession.Engine.start e.inner dir d p
    reply.map (e.note (.start d p (TunnelSession.Engine.isRunning e.inner) reply.ending))
  stop e dir :=
    let reply := TunnelSession.Engine.stop e.inner dir
    reply.map (e.note (.stop reply.ending))
  redirect e dir target :=
    let reply := TunnelSession.Engine.redirect e.inner dir target
    reply.map (e.note (.redirect target reply.ending))
  isRunning e := TunnelSession.Engine.isRunning e.inner
  neighbors e := TunnelSession.Engine.neighbors e.inner

section

variable [TunnelSession.Engine ε] (e : Engine ε) (dir : Folder)

@[simp] theorem isRunning_eq :
    TunnelSession.Engine.isRunning e = TunnelSession.Engine.isRunning e.inner := rfl

@[simp] theorem start_eq (d : Descriptor) (p : Tunnel.Params) :
    TunnelSession.Engine.start e dir d p =
      (TunnelSession.Engine.start e.inner dir d p).map
        (e.note (.start d p (TunnelSession.Engine.isRunning e.inner)
          (TunnelSession.Engine.start e.inner dir d p).ending)) := rfl

@[simp] theorem stop_eq : TunnelSession.Engine.stop e dir =
    (TunnelSession.Engine.stop e.inner dir).map
      (e.note (.stop (TunnelSession.Engine.stop e.inner dir).ending)) := rfl

@[simp] theorem redirect_eq (target : Address) : TunnelSession.Engine.redirect e dir target =
    (TunnelSession.Engine.redirect e.inner dir target).map
      (e.note (.redirect target (TunnelSession.Engine.redirect e.inner dir target).ending)) := rfl

end

end Engine

/-- The descriptor that a call handed over for good. -/
def EngineCall.accepted? : EngineCall → Option Descriptor
  | .start d _ _ (.ok ()) => some d
  | _ => none

@[simp] theorem EngineCall.accepted?_answered (d : Descriptor) (p : Tunnel.Params) (up : Bool) :
    (EngineCall.start d p up (.ok ())).accepted? = some d := rfl

theorem EngineCall.accepted?_unanswered {ending : Ending EngineError Unit}
    (h : ending ≠ .ok ()) (d : Descriptor) (p : Tunnel.Params) (up : Bool) :
    (EngineCall.start d p up ending).accepted? = none := by
  cases ending with
  | ok value => exact absurd rfl h
  | error cause => rfl
  | raised payload => rfl

def EngineCall.isStop : EngineCall → Bool
  | .stop _ => true
  | _ => false

/-- Whether a call asked a running engine to start. -/
def EngineCall.isClash : EngineCall → Bool
  | .start _ _ up _ => up
  | _ => false

namespace Engine

variable {ε : Type}

/-- The descriptors of the starts that were answered, in their order. -/
def accepted (e : Engine ε) : List Descriptor := e.calls.filterMap EngineCall.accepted?

def stops (e : Engine ε) : Nat := e.calls.countP EngineCall.isStop

variable (e : Engine ε) (call : EngineCall) (inner : ε)

/-- The calls made since an earlier moment. -/
def since (e before : Engine ε) : List EngineCall := e.calls.drop before.calls.length

theorem since_eq {e before : Engine ε} {made : List EngineCall}
    (h : e.calls = before.calls ++ made) : e.since before = made := by
  rw [since, h, List.drop_left]

@[simp] theorem note_inner : (e.note call inner).inner = inner := rfl

@[simp] theorem note_calls : (e.note call inner).calls = e.calls ++ [call] := rfl

@[simp] theorem accepted_note :
    (e.note call inner).accepted = e.accepted ++ call.accepted?.toList := by
  cases h : call.accepted? <;> simp [accepted, note, h]

@[simp] theorem stops_note : (e.note call inner).stops = e.stops + call.isStop.toNat := by
  cases h : call.isStop <;> simp [stops, note, h]

variable [TunnelSession.Engine ε] {e} {dir : Folder} {d : Descriptor} {p : Tunnel.Params}
  {ending : Ending EngineError Unit}

theorem calls_start (answer : (TunnelSession.Engine.start e dir d p).ending = ending) :
    (TunnelSession.Engine.start e dir d p).engine.calls =
      e.calls ++ [.start d p (TunnelSession.Engine.isRunning e) ending] := by
  subst answer
  rfl

theorem calls_stop : (TunnelSession.Engine.stop e dir).engine.calls =
    e.calls ++ [.stop (TunnelSession.Engine.stop e dir).ending] := rfl

theorem calls_redirect {target : Address}
    (answer : (TunnelSession.Engine.redirect e dir target).ending = ending) :
    (TunnelSession.Engine.redirect e dir target).engine.calls =
      e.calls ++ [.redirect target ending] := by
  subst answer
  rfl

theorem accepted_answered (answer : (TunnelSession.Engine.start e dir d p).ending = .ok ()) :
    (TunnelSession.Engine.start e dir d p).engine.accepted = e.accepted ++ [d] := by
  simp only [start_eq, Reply.map_ending] at answer
  simp [answer]

theorem accepted_unanswered (answer : (TunnelSession.Engine.start e dir d p).ending ≠ .ok ()) :
    (TunnelSession.Engine.start e dir d p).engine.accepted = e.accepted := by
  simp only [start_eq, Reply.map_ending] at answer
  simp [EngineCall.accepted?_unanswered answer]

theorem accepted_stop :
    (TunnelSession.Engine.stop e dir).engine.accepted = e.accepted := by
  simp [EngineCall.accepted?]

theorem accepted_redirect (target : Address) :
    (TunnelSession.Engine.redirect e dir target).engine.accepted = e.accepted := by
  simp [EngineCall.accepted?]

end Engine

namespace Interface

variable {ι : Type}

def unused (i : ι) : Interface ι := ⟨i, []⟩

def note (i : Interface ι) (call : InterfaceCall) (inner : ι) : Interface ι :=
  ⟨inner, i.calls ++ [call]⟩

instance [TunnelInterface ι] : TunnelInterface (Interface ι) where
  establish i config :=
    let answer := TunnelInterface.establish i.inner config
    (answer.1, i.note (.establish config answer.1) answer.2)
  release i d := i.note (.release d) (TunnelInterface.release i.inner d)
  askPermission i :=
    let answer := TunnelInterface.askPermission i.inner
    (answer.1, i.note (.askPermission answer.1) answer.2)

section

variable [TunnelInterface ι] (i : Interface ι)

theorem establish_eq (config : Tunnel.Config) : TunnelInterface.establish i config =
    ((TunnelInterface.establish i.inner config).1,
      i.note (.establish config (TunnelInterface.establish i.inner config).1)
        (TunnelInterface.establish i.inner config).2) := rfl

theorem release_eq (d : Descriptor) : TunnelInterface.release i d =
    i.note (.release d) (TunnelInterface.release i.inner d) := rfl

end

end Interface

/-- The descriptor that a call made. -/
def InterfaceCall.issued? : InterfaceCall → Option Descriptor
  | .establish _ (.ok made) => some made.descriptor
  | _ => none

/-- The descriptor that a call took back. -/
def InterfaceCall.returned? : InterfaceCall → Option Descriptor
  | .release d => some d
  | _ => none

def InterfaceCall.hasRaised : InterfaceCall → Bool
  | .establish _ (.raised _) => true
  | _ => false

namespace Interface

variable {ι : Type}

def issued (i : Interface ι) : List Descriptor := i.calls.filterMap InterfaceCall.issued?

def returned (i : Interface ι) : List Descriptor := i.calls.filterMap InterfaceCall.returned?

/-- Whether some request for an interface has raised. -/
def hasRaised (i : Interface ι) : Bool := i.calls.any InterfaceCall.hasRaised

/-- The calls made since an earlier moment. -/
def since (i before : Interface ι) : List InterfaceCall := i.calls.drop before.calls.length

theorem since_eq {i before : Interface ι} {made : List InterfaceCall}
    (h : i.calls = before.calls ++ made) : i.since before = made := by
  rw [since, h, List.drop_left]

theorem calls_establish [TunnelInterface ι] {i j : Interface ι} {config : Tunnel.Config}
    {ending : Ending InterfaceError Establishment}
    (answer : TunnelInterface.establish i config = (ending, j)) :
    j.calls = i.calls ++ [.establish config ending] := by
  rw [establish_eq, Prod.mk.injEq] at answer
  obtain ⟨rfl, rfl⟩ := answer
  rfl

theorem calls_releases [TunnelInterface ι] (dropped : List Descriptor) (i : Interface ι) :
    (dropped.foldl TunnelInterface.release i).calls = i.calls ++ dropped.map .release := by
  induction dropped generalizing i with
  | nil => simp
  | cons d rest ih => simp [ih, release_eq, note]

variable (i : Interface ι) (call : InterfaceCall) (inner : ι)

@[simp] theorem note_inner : (i.note call inner).inner = inner := rfl

@[simp] theorem issued_note : (i.note call inner).issued = i.issued ++ call.issued?.toList := by
  cases h : call.issued? <;> simp [issued, note, h]

@[simp] theorem returned_note :
    (i.note call inner).returned = i.returned ++ call.returned?.toList := by
  cases h : call.returned? <;> simp [returned, note, h]

@[simp] theorem hasRaised_note :
    (i.note call inner).hasRaised = (i.hasRaised || call.hasRaised) := by
  simp [hasRaised, note]

end Interface

variable {ε ι : Type}

/-- What an engine call let go of is given back. -/
theorem landed_calls [TunnelInterface ι] {s : Session ε (Interface ι)}
    {before calls : List InterfaceCall} (reply : Reply ε) (phase : Session.Phase)
    (h : s.interface.calls = before ++ calls) : (s.landed reply phase).interface.calls =
      before ++ (calls ++ reply.dropped.map .release) := by
  rw [Session.landed_interface, Interface.calls_releases, h, List.append_assoc]

/-- The surroundings of recorded collaborators: what is behind them changes, but no record does. -/
def surroundings (u : Surroundings ε ι) : Surroundings (Engine ε) (Interface ι) where
  engine e e' := u.engine e.inner e'.inner ∧ e'.calls = e.calls
  interface i i' := u.interface i.inner i'.inner ∧ i'.calls = i.calls

/-- A session that nothing has happened to, with a front end connected. -/
def fresh (store : Store) (engine : ε) (interface : ι) (host storage : String) :
    Dispatcher (Engine ε) (Interface ι) :=
  ⟨.idle store (.unused engine) (.unused interface) host storage, []⟩

/-- A session over collaborators that follow a script, with the default settings. -/
def overScript (engine : Scripted.Engine) (interface : Scripted.Interface) :
    Dispatcher (Engine Scripted.Engine) (Interface Scripted.Interface) :=
  fresh (.inMemory .missing) engine interface Tunnel.defaultHost "/data/cute"

end Recorded

end TunnelSession
