/-!
The string settings: the name each is kept under, the title it is shown with and the value it
starts from.
-/
namespace TunnelSession.Settings

inductive Key where
  | name
  | localAddress
  | gateway
  | dnsServer
  | links
  deriving DecidableEq, Repr

namespace Key

def all : List Key :=
  [.name, .localAddress, .gateway, .dnsServer, .links]

/-- The name that the key's value is kept under. -/
def text : Key → String
  | .name => "name"
  | .localAddress => "local_address"
  | .gateway => "gateway"
  | .dnsServer => "dns_server"
  | .links => "links"

def title : Key → String
  | .name => "Name"
  | .localAddress => "IP Address"
  | .gateway => "Gateway"
  | .dnsServer => "DNS Server"
  | .links => "Links"

def initial : Key → String
  | .name => "cellphone"
  | .localAddress => "172.20.0.99"
  | .gateway => "172.20.0.1"
  | .dnsServer => "8.8.8.8"
  | .links => "tls://hostname:4433"

theorem mem_all (k : Key) : k ∈ all := by
  cases k <;> decide

theorem text_injective {k l : Key} (h : k.text = l.text) : k = l := by
  revert h
  cases k <;> cases l <;> decide

end Key

end TunnelSession.Settings
