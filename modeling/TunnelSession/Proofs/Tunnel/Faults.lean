import TunnelSession.Proofs.Text.Quoted
import TunnelSession.Proofs.Text.Split
import TunnelSession.Proofs.Tunnel.Addresses

/-!
What a configuration error says. Each has a message of its own (`message_injective`), on one line
(`message_oneLine`), and the quotes in it are those of the bad value (`quoted_message`).
`bad_address_told` says so of the error that a bad address leads to.
-/

namespace TunnelSession.Tunnel

open Address

namespace ConfigError

theorem message_missingSetting (key : Settings.Key) :
    (missingSetting key).message.toList = "Missing setting: ".toList ++ key.text.toList :=
  String.toList_append

theorem message_invalidAddress (key : Settings.Key) (value : String) :
    (invalidAddress key value).message.toList = "Invalid ".toList ++
      (key.text.toList ++ (" address: ".toList ++ (Text.quote value).toList)) := by
  change ("Invalid " ++ key.text ++ " address: " ++ Text.quote value).toList = _
  simp only [String.toList_append, List.append_assoc]

theorem text_plain (key : Settings.Key) :
    ' ' ∉ key.text.toList ∧ '"' ∉ key.text.toList ∧ Text.OneLine key.text := by
  cases key <;> decide

theorem message_missingSetting_ne (key other : Settings.Key) (value : String) :
    (missingSetting key).message ≠ (invalidAddress other value).message := by
  intro same
  rw [← String.toList_inj, message_missingSetting, message_invalidAddress] at same
  cases (congrArg List.head? same : some 'M' = some 'I')

theorem message_injective {e f : ConfigError} (same : e.message = f.message) : e = f := by
  cases e with
  | missingSetting key =>
    cases f with
    | missingSetting other =>
      rw [← String.toList_inj, message_missingSetting, message_missingSetting,
        List.append_cancel_left_eq, String.toList_inj] at same
      rw [Settings.Key.text_injective same]
    | invalidAddress => exact absurd same (message_missingSetting_ne _ _ _)
  | invalidAddress key value =>
    cases f with
    | missingSetting => exact absurd same.symm (message_missingSetting_ne _ _ _)
    | invalidAddress other value' =>
      have space : " address: ".toList = ' ' :: "address: ".toList := by decide
      rw [← String.toList_inj, message_invalidAddress, message_invalidAddress,
        List.append_cancel_left_eq, space, List.cons_append, List.cons_append] at same
      -- the name of a key ends at the first space
      have parts := congrArg (Text.cut ' ') same
      rw [Text.cut_append_sep (text_plain key).1, Text.cut_append_sep (text_plain other).1,
        Prod.mk.injEq, List.append_cancel_left_eq, String.toList_inj, String.toList_inj] at parts
      rw [Settings.Key.text_injective parts.1, Text.quote_injective parts.2]

theorem message_oneLine (e : ConfigError) : Text.OneLine e.message := by
  cases e with
  | missingSetting key =>
    have front : Text.OneLine "Missing setting: " := by decide
    exact front.append (text_plain key).2.2
  | invalidAddress key value =>
    have front : Text.OneLine "Invalid " := by decide
    have middle : Text.OneLine " address: " := by decide
    exact ((front.append (text_plain key).2.2).append middle).append (Text.oneLine_quote value)

/-- The part of a message from its first quotation mark on. -/
def quoted (message : String) : String :=
  String.ofList (message.toList.dropWhile (· != '"'))

theorem quoted_message (key : Settings.Key) (value : String) :
    quoted (invalidAddress key value).message = Text.quote value := by
  have front : '"' ∉ "Invalid ".toList := by decide
  have middle : '"' ∉ " address: ".toList := by decide
  rw [quoted, message_invalidAddress, List.dropWhile_append_of_pos (Text.ne_sep front),
    List.dropWhile_append_of_pos (Text.ne_sep (text_plain key).2.1),
    List.dropWhile_append_of_pos (Text.ne_sep middle), Text.quote]
  simp

end ConfigError

/-- A bad address keeps the configuration from being made. The local address is read first, so it
is the one at fault where both are bad. -/
theorem config_of_bad_address {store : Store} (reachable : store.Reachable) (host : String)
    {key : Settings.Key} {value : String} (isAddress : key = .localAddress ∨ key = .dnsServer)
    (stored : store.get? key = some value) (bad : ¬ IsQuad (Text.strip value.toList)) :
    ∃ told culprit, config host store.settings = .error (.invalidAddress told culprit) ∧
      (told = key ∨ told = .localAddress) ∧ store.get? told = some culprit ∧
      ¬ IsQuad (Text.strip culprit.toList) := by
  have keys := ((Settings.isComplete_iff _).mp reachable.isComplete).1
  obtain ⟨localText, hasLocal⟩ := Option.isSome_iff_exists.mp (keys .localAddress)
  rcases address_cases hasLocal with ⟨a, first, text⟩ | ⟨first, notLocal⟩
  · have good : IsQuad (Text.strip localText.toList) := isQuad_iff.mpr ⟨a, text⟩
    rcases isAddress with rfl | rfl
    · cases hasLocal.symm.trans stored
      exact absurd good bad
    · rcases address_cases stored with ⟨b, _, text⟩ | ⟨second, _⟩
      · exact absurd (isQuad_iff.mpr ⟨b, text⟩) bad
      · exact ⟨_, value, config_of_dnsServer_error host first second, .inl rfl, stored, bad⟩
  · exact ⟨_, localText, config_of_localAddress_error host first, .inr rfl, hasLocal, notLocal⟩

/-- **A bad address is told without loss, on one line.** Take any store that there can be and any
host application, and let the local address or the name server that is stored be no dotted quad,
blanks around it aside. Then no configuration is made, and the error is about this address, unless
the local address is bad too. It has the value as it is stored. Its message has no line end and no
other control in it. No other error has the same message, so both the key and the value are told by
it; and the value is what stands in its quotes once the escapes are undone. -/
theorem bad_address_told {store : Store} (reachable : store.Reachable) (host : String)
    {key : Settings.Key} {value : String} (isAddress : key = .localAddress ∨ key = .dnsServer)
    (stored : store.get? key = some value) (bad : ¬ IsQuad (Text.strip value.toList)) :
    ∃ told culprit, config host store.settings = .error (.invalidAddress told culprit) ∧
      (told = key ∨ told = .localAddress) ∧ store.get? told = some culprit ∧
      ¬ IsQuad (Text.strip culprit.toList) ∧
      let message := (ConfigError.invalidAddress told culprit).message
      Text.OneLine message ∧ Text.unquote? (ConfigError.quoted message) = some culprit ∧
      ∀ e : ConfigError, e.message = message → e = .invalidAddress told culprit := by
  obtain ⟨told, culprit, refused, which, there, fault⟩ :=
    config_of_bad_address reachable host isAddress stored bad
  refine ⟨told, culprit, refused, which, there, fault, ConfigError.message_oneLine _, ?_, ?_⟩
  · rw [ConfigError.quoted_message, Text.unquote?_quote]
  · intro e same
    exact ConfigError.message_injective same

/-- A name server with a line end in it, a combining mark, and the escape of this mark. -/
theorem bad_address_told_with_escapes :
    let dnsText := "8.8.8.8\n\u0301\\u\x7b301\x7d"
    let store := ((Store.inMemory .missing).save .localAddress "10.0.0.7").save .dnsServer dnsText
    ∃ e, config defaultHost store.settings = .error e ∧ e.message =
        "Invalid dns_server address: \"8.8.8.8\\n\\u\x7b301\x7d\\\\u\x7b301\x7d\"" ∧
      Text.unquote? (ConfigError.quoted e.message) = some dnsText := by
  intro dnsText store
  have reachable : store.Reachable := .save _ _ (.save _ _ (.inMemory _))
  have stored : store.get? .dnsServer = some dnsText := Store.get?_save ..
  obtain ⟨told, culprit, refused, which, there, fault, _, undone, _⟩ :=
    bad_address_told reachable defaultHost (.inr rfl) stored (by decide)
  rcases which with rfl | rfl
  · cases there.symm.trans stored
    exact ⟨_, refused, by decide +kernel, undone⟩
  · rw [Store.get?_save_other _ (by decide), Store.get?_save] at there
    cases there
    exact absurd (by decide) fault

end TunnelSession.Tunnel
