import TunnelSession.Proofs.Settings.Store
import TunnelSession.Tunnel.Config

/-!
What the parameters of an engine are made of: they carry the stored name, gateway and links, and the
local address once it has been read as one. They have a link for every line that is not blank.
-/

namespace TunnelSession.Tunnel

theorem bind_eq_ok {α β γ : Type} {x : Except α β} {f : β → Except α γ} {c : γ}
    (h : x >>= f = .ok c) : ∃ b, x = .ok b ∧ f b = .ok c := by
  cases x with
  | error cause => cases h
  | ok b => exact ⟨b, rfl, h⟩

theorem required_eq_ok {s : Settings} {key : Settings.Key} {value : String} :
    required s key = .ok value ↔ s.get? key = some value := by
  unfold required
  split
  · rename_i found
    simp [found]
  · rename_i missing
    simp [missing]

/-- Parameters are made from settings that have all of what they carry. -/
theorem params_eq_ok {storage : String} {s : Settings} {p : Params}
    (made : params storage s = .ok p) :
    ∃ a links, address s .localAddress = .ok a ∧ s.get? .name = some p.localName ∧
      s.get? .gateway = some p.gateway ∧ s.get? .links = some links ∧
      p.storage = storage ∧ p.localAddress = ⟨a, prefixLength⟩ ∧ p.links = Tunnel.links links := by
  obtain ⟨a, local_ok, made⟩ := bind_eq_ok made
  obtain ⟨name, name_ok, made⟩ := bind_eq_ok made
  obtain ⟨gateway, gateway_ok, made⟩ := bind_eq_ok made
  obtain ⟨links, links_ok, made⟩ := bind_eq_ok made
  rw [required_eq_ok] at name_ok gateway_ok links_ok
  cases made
  exact ⟨a, links, local_ok, name_ok, gateway_ok, links_ok, rfl, rfl, rfl⟩

/-- Where no setting is missing, only the local address can be at fault. -/
theorem params_ok_of_address (storage : String) {s : Settings} (complete : s.isComplete = true)
    {a : Address} (read : address s .localAddress = .ok a) : ∃ p, params storage s = .ok p := by
  have keys := ((Settings.isComplete_iff s).mp complete).1
  obtain ⟨name, has_name⟩ := Option.isSome_iff_exists.mp (keys .name)
  obtain ⟨gateway, has_gateway⟩ := Option.isSome_iff_exists.mp (keys .gateway)
  obtain ⟨links, has_links⟩ := Option.isSome_iff_exists.mp (keys .links)
  rw [← required_eq_ok] at has_name has_gateway has_links
  rw [params, read, has_name, has_gateway, has_links]
  exact ⟨_, rfl⟩

end TunnelSession.Tunnel
