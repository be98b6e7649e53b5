import EnclaveAudit.Device.Transport
import EnclaveAudit.Simulator.Firmware

/-!
# `EnclaveAudit/Simulator/Transport.lean` — a simulated device as a transport

The device answers while it is open. Opening and closing it is counted and does nothing else: what
was locked stays locked.
-/

set_option autoImplicit false

namespace EnclaveAudit.Simulator

/-- The device once it was opened. -/
def State.opened (d : State) : State := { d with isOpen := true, openCount := d.openCount + 1 }

/-- The device once it was closed. -/
def State.released (d : State) : State := { d with isOpen := false, closeCount := d.closeCount + 1 }

/-- The channel to a simulated device. -/
def transport (e : Surroundings) (s : Settings) : Transport State where
  name := "simulator"
  acquire d := ⟨.ok (), [], d.opened⟩
  release d := ([], d.released)
  exchange request d :=
    if d.isOpen then
      let (value, after) := answer e s request { d with requestCount := d.requestCount + 1 }
      ⟨.ok value, [], after⟩
    else ⟨.error .simulatorClosed, [], d⟩

end EnclaveAudit.Simulator
