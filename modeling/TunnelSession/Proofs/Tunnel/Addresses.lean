import TunnelSession.Proofs.Address
import TunnelSession.Proofs.Session.Gateway
import TunnelSession.Proofs.Tunnel.Config

/-!
The two addresses of a tunnel. The configuration needs both and the parameters one of them, and each
is read by itself: `address_cases` says what comes of a stored text, and `config_agrees_with_params`
how the two readings go together.
-/

namespace TunnelSession.Tunnel

open Address

section Readings

variable {s : Settings} {key : Settings.Key} {value : String}

/-- A stored text is read as the address whose text it is, blanks around it aside, or refused as it
is stored. -/
theorem address_cases (stored : s.get? key = some value) :
    (∃ a, address s key = .ok a ∧ Text.strip value.toList = a.text.toList) ∨
    address s key = .error (.invalidAddress key value) ∧ ¬ IsQuad (Text.strip value.toList) := by
  have found := required_eq_ok.mpr stored
  cases read : ofChars? (Text.strip value.toList) with
  | some a =>
    refine .inl ⟨a, ?_, ofChars?_eq_some_iff.mp read⟩
    simp only [address, found, bind, Except.bind, read]
    rfl
  | none =>
    refine .inr ⟨?_, ?_⟩
    · simp only [address, found, bind, Except.bind, read]
      rfl
    · rw [isQuad_iff_isSome, read]
      decide

variable {a b : Address} {cause : ConfigError}

theorem config_of_addresses (host : String) (first : address s .localAddress = .ok a)
    (second : address s .dnsServer = .ok b) :
    config host s = .ok { localAddress := a, dnsServer := b, excluded := s.apps.insert host } := by
  rw [config, first, second]
  rfl

/-- The local address is read before the other one. -/
theorem config_of_localAddress_error (host : String)
    (first : address s .localAddress = .error cause) : config host s = .error cause := by
  rw [config, first]
  rfl

theorem config_of_dnsServer_error (host : String) (first : address s .localAddress = .ok a)
    (second : address s .dnsServer = .error cause) : config host s = .error cause := by
  rw [config, first, second]
  rfl

theorem params_of_localAddress_error (storage : String)
    (first : address s .localAddress = .error cause) : params storage s = .error cause := by
  rw [params, first]
  rfl

/-- The parameters carry the local address that was read. -/
theorem params_of_address (storage : String) (complete : s.isComplete = true)
    (first : address s .localAddress = .ok a) :
    ∃ p, params storage s = .ok p ∧ p.localAddress = ⟨a, prefixLength⟩ := by
  obtain ⟨p, made⟩ := params_ok_of_address storage complete first
  obtain ⟨_, _, read, _, _, _, _, route, _⟩ := params_eq_ok made
  cases first.symm.trans read
  exact ⟨p, made, route⟩

end Readings

/-- **Configuration and parameters agree, and take exactly the valid addresses.** Take any store
that there can be, any host application and any storage folder. The configuration is made exactly if
the stored local address and the stored name server are dotted quads, blanks around them aside; its
addresses are written as these texts, and it excludes the stored applications and the host. The
parameters are made exactly if the stored local address is a dotted quad, so they are made whenever
the configuration is, with the same local address and the same prefix. If the configuration is not
made, the fault is the local address, as it is stored, if that is no dotted quad, and then it is the
fault of the parameters too; otherwise it is the name server, and the parameters are made. A start,
which makes both, leaves the store as it was. -/
theorem config_agrees_with_params {store : Store} (reachable : store.Reachable)
    (host storage : String) :
    ∃ localText dnsText, store.get? .localAddress = some localText ∧
      store.get? .dnsServer = some dnsText ∧
      ((∃ c, config host store.settings = .ok c) ↔
        IsQuad (Text.strip localText.toList) ∧ IsQuad (Text.strip dnsText.toList)) ∧
      (∀ c, config host store.settings = .ok c →
        c.localAddress.text.toList = Text.strip localText.toList ∧
        c.dnsServer.text.toList = Text.strip dnsText.toList ∧
        ∀ id, id ∈ c.excluded ↔ id = host ∨ id ∈ store.settings.apps) ∧
      ((∃ p, params storage store.settings = .ok p) ↔ IsQuad (Text.strip localText.toList)) ∧
      (∀ c, config host store.settings = .ok c →
        ∃ p, params storage store.settings = .ok p ∧
          p.localAddress = ⟨c.localAddress, c.prefixLength⟩) ∧
      (∀ cause, config host store.settings = .error cause →
        (cause = .invalidAddress .localAddress localText ∧
          ¬ IsQuad (Text.strip localText.toList) ∧
          params storage store.settings = .error cause) ∨
        (cause = .invalidAddress .dnsServer dnsText ∧ IsQuad (Text.strip localText.toList) ∧
          ¬ IsQuad (Text.strip dnsText.toList) ∧
          ∃ p, params storage store.settings = .ok p)) ∧
      ∀ {ε ι : Type} [TunnelInterface ι] (s : Session ε ι), s.store = store →
        (s.enter .start).2.store = store := by
  have complete := reachable.isComplete
  have keys := ((Settings.isComplete_iff _).mp complete).1
  obtain ⟨localText, hasLocal⟩ := Option.isSome_iff_exists.mp (keys .localAddress)
  obtain ⟨dnsText, hasDns⟩ := Option.isSome_iff_exists.mp (keys .dnsServer)
  refine ⟨localText, dnsText, hasLocal, hasDns, ?_⟩
  have unchanged : ∀ {ε ι : Type} [TunnelInterface ι] (s : Session ε ι), s.store = store →
      (s.enter .start).2.store = store := by
    intro ε ι _ s same
    rw [Session.enters_store (Session.enter_enters s .start), same]
  rcases address_cases hasLocal with ⟨a, first, textA⟩ | ⟨first, notA⟩
  · have quadA : IsQuad (Text.strip localText.toList) := isQuad_iff.mpr ⟨a, textA⟩
    obtain ⟨p, params, route⟩ := params_of_address storage complete first
    rcases address_cases hasDns with ⟨b, second, textB⟩ | ⟨second, notB⟩
    · have quadB : IsQuad (Text.strip dnsText.toList) := isQuad_iff.mpr ⟨b, textB⟩
      have config := config_of_addresses host first second
      rw [config, params]
      refine ⟨by simp [quadA, quadB], ?_, by simp [quadA], ?_, nofun, unchanged⟩
      · rintro c ⟨⟩
        refine ⟨textA.symm, textB.symm, fun id => ?_⟩
        rw [Std.ExtTreeSet.mem_insert, Std.LawfulEqCmp.compare_eq_iff_eq, eq_comm]
      · rintro c ⟨⟩
        exact ⟨p, rfl, route⟩
    · have config := config_of_dnsServer_error host first second
      rw [config, params]
      refine ⟨by simp [notB], nofun, by simp [quadA], nofun, ?_, unchanged⟩
      rintro cause ⟨⟩
      exact .inr ⟨rfl, quadA, notB, p, rfl⟩
  · have config := config_of_localAddress_error host first
    have params := params_of_localAddress_error storage first
    rw [config, params]
    refine ⟨by simp [notA], nofun, by simp [notA], nofun, ?_, unchanged⟩
    rintro cause ⟨⟩
    exact .inl ⟨rfl, notA, rfl⟩

/-- Blanks around the local address do no harm, and a name server out of range keeps only the
configuration from being made. -/
theorem config_agrees_with_params_out_of_range :
    let store := ((Store.inMemory .missing).save .localAddress "\u2003 10.0.0.7\n").save .dnsServer
      " 8.8.8.256"
    config defaultHost store.settings = .error (.invalidAddress .dnsServer " 8.8.8.256") ∧
      ∃ p, params "/data" store.settings = .ok p := by
  intro store
  have reachable : store.Reachable := .save _ _ (.save _ _ (.inMemory _))
  obtain ⟨localText, dnsText, hasLocal, hasDns, made, _, read, _, fault, _⟩ :=
    config_agrees_with_params reachable defaultHost "/data"
  obtain rfl : "\u2003 10.0.0.7\n" = localText := by
    rw [Store.get?_save_other _ (by decide), Store.get?_save] at hasLocal
    exact Option.some.inj hasLocal
  obtain rfl : " 8.8.8.256" = dnsText := by
    rw [Store.get?_save] at hasDns
    exact Option.some.inj hasDns
  refine ⟨?_, read.mpr (by decide)⟩
  cases failed : config defaultHost store.settings with
  | ok c => exact absurd (made.mp ⟨c, failed⟩).2 (by decide)
  | error cause =>
    rcases fault cause failed with ⟨_, bad, _⟩ | ⟨rfl, _⟩
    · exact absurd bad (by decide)
    · rfl

end TunnelSession.Tunnel
