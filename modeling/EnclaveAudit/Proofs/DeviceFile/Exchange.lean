import EnclaveAudit.DeviceFile.Transport

/-!
# `EnclaveAudit/Proofs/DeviceFile/Exchange.lean` — one exchange with a device file

While its file is open, a request is too long for a message and goes nowhere, or it is one control
call. An encoded answer that fits the buffer is what the answer is read from.
-/

set_option autoImplicit false

namespace EnclaveAudit.DeviceFile

variable {φ : Type} {system : System φ} {path : String} {d : State φ} {descriptor : Nat}
  {request : Value}

/-- A request that is too long for a message is refused, and nothing happens. -/
theorem exchange_of_limit_lt (hfile : d.descriptor = some descriptor)
    (hlong : requestLimit < (Cbor.encode request).length) :
    exchange system path request d = ⟨.ok (errorAnswer .inputTooLarge), [], d⟩ := by
  unfold exchange
  rw [hfile]
  exact if_pos hlong

/-- Any other request is one control call. -/
theorem exchange_of_length_le (hfile : d.descriptor = some descriptor)
    (hshort : (Cbor.encode request).length ≤ requestLimit) :
    exchange system path request d =
      let (outcome, after) := system.control descriptor (Cbor.encode request) d.system
      ⟨.ok (answerOf system.decode outcome).1, (answerOf system.decode outcome).2,
        { d with system := after }⟩ := by
  unfold exchange
  rw [hfile]
  exact if_neg (Nat.not_lt.mpr hshort)

/-- Octets that fit the buffer are seen as they are. -/
theorem window_of_length_le {octets : Bytes} (h : octets.length ≤ responseLimit) :
    window ⟨octets, octets.length⟩ = octets := by
  unfold window
  dsimp only
  rw [List.take_of_length_le h, Nat.min_eq_left h, List.take_left]

end EnclaveAudit.DeviceFile
