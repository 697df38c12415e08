import ConfigVault.Instance.Address.Client
import ConfigVault.Proofs.Retry.Policy

/-!
# Waiting for an endpoint

Waiting follows the policy of tries, with the answer to a call as the condition.  Every attempt makes
one and the same call.  What goes out for it is one and the same request as long as no answer sets a
cookie, since that is all that clients add to later requests.
-/

namespace ConfigVault

namespace Probe

variable {κ ρ ε : Type} (client : HttpClient κ ρ ε) (p : Probe)

def before (k : Nat) : HttpExchange κ ρ := (p.check client).before (p.start client) k

/-- What comes back for the call of an attempt. -/
def answer (k : Nat) : Except ε Response := (client.request p.call (p.before client k)).1

def outcome (k : Nat) : Except ε Value := (p.check client).outcome (p.start client) k

variable {client p} {k : Nat}

variable (client p)

end Probe

namespace Address

end Address

end ConfigVault
