import TunnelSession.Proofs.Tunnel.Config
import TunnelSession.Session.Lifecycle

/-!
The plan of a start: the configuration and the parameters that the settings of the moment make, or
what is at fault with them, the configuration first.
-/

namespace TunnelSession.Session

variable {ε ι : Type} {s : Session ε ι} {config : Tunnel.Config} {params : Tunnel.Params}
  {cause : Tunnel.ConfigError}

theorem plan_of_config (made : Tunnel.config s.host s.store.settings = .ok config) :
    s.plan = (Tunnel.params s.storage s.store.settings).map (config, ·) := by
  rw [plan, made]
  cases Tunnel.params s.storage s.store.settings <;> rfl

theorem plan_eq_ok_iff : s.plan = .ok (config, params) ↔
    Tunnel.config s.host s.store.settings = .ok config ∧
      Tunnel.params s.storage s.store.settings = .ok params := by
  constructor
  · intro made
    obtain ⟨c, configured, made⟩ := Tunnel.bind_eq_ok made
    obtain ⟨p, parametrized, made⟩ := Tunnel.bind_eq_ok made
    cases made
    exact ⟨configured, parametrized⟩
  · rintro ⟨configured, parametrized⟩
    rw [plan_of_config configured, parametrized]
    rfl

theorem plan_gateway (plan : s.plan = .ok (config, params)) :
    s.store.get? .gateway = some params.gateway := by
  obtain ⟨_, _, _, _, gateway, _⟩ := Tunnel.params_eq_ok (plan_eq_ok_iff.mp plan).2
  exact gateway

end TunnelSession.Session
