import Mathlib.Data.Int.CardIntervalMod
import SearchKit.Proofs.Engine.Addressing

/-!
The hosts of a client over any sequence of calls. They take turns in the order of the settings until
the client is shut down, and after that none of them is addressed any more.
-/

namespace SearchKit.HttpClient

set_option autoImplicit false

variable {τ : Type}

/-! ## Single calls -/

def position (client : HttpClient) : Nat := client.turn.toNat % client.hosts.length

section Execution

variable (transport : Transport τ) {state : HttpClient × τ}

end Execution

/-! ## Sequences of calls -/

section Uses

variable (transport : Transport τ)

variable (state : HttpClient × τ)

end Uses

end SearchKit.HttpClient
