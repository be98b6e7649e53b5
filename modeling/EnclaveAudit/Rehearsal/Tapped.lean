import EnclaveAudit.Device.Transport
import EnclaveAudit.Wire.Value

/-!
# `EnclaveAudit/Rehearsal/Tapped.lean` — a transport that is interfered with

A tap sits in front of a transport and waits for certain requests. When its turn comes it may close
the transport, keep the request from it, or put an answer of its own in place of the true one. Of
several taps the first that fires acts, and those behind it do not see the request.
-/

set_option autoImplicit false

namespace EnclaveAudit.Rehearsal

/-- What a tap waits for and what it does. -/
structure Tap where
  /-- the whole request it waits for -/
  request : Option Value := none
  /-- the name of the operation it waits for -/
  name : Option String := none
  /-- which of those requests it acts on, counted from one; zero means each -/
  nth : Nat := 0
  /-- whether it closes the transport first -/
  close : Bool := false
  /-- whether the request goes on to the transport -/
  forward : Bool := true
  /-- the answer in place of the true one -/
  response : Option Value := none

namespace Tap

/-- The name that a request starts with. -/
def nameOf : Value → Option String
  | .text s => some s
  | .map ((.text s, _) :: _) => some s
  | _ => none

/-- Whether a request is one that the tap waits for. -/
def awaits (tap : Tap) (request : Value) : Bool :=
  (match tap.request with
    | some awaited => awaited.same request
    | none => true) &&
  (match tap.name with
    | some name => nameOf request == some name
    | none => true)

/-- The tap that fires, if one does, and the counts after the request. -/
def fire (request : Value) : List Tap → List Nat → Option Tap × List Nat
  | tap :: taps, count :: counts =>
    if tap.awaits request then
      if tap.nth = 0 ∨ tap.nth = count + 1 then (some tap, (count + 1) :: counts)
      else
        let (fired, rest) := fire request taps counts
        (fired, (count + 1) :: rest)
    else
      let (fired, rest) := fire request taps counts
      (fired, count :: rest)
  | _, counts => (none, counts)

end Tap

/-- A device behind taps, and how many requests each tap has waited for. -/
structure Tapped (σ : Type) where
  device : σ
  counts : List Nat

namespace Tapped

variable {σ : Type}

/-- What a tap does with a request. -/
def act (t : Transport σ) (tap : Tap) (request : Value) (device : σ) : Outcome σ Value :=
  let (remarks, device) := if tap.close then t.release device else ([], device)
  if tap.forward then
    let o := t.exchange request device
    ⟨o.result.map (tap.response.getD ·), remarks ++ o.remarks, o.device⟩
  else ⟨.ok (tap.response.getD .null), remarks, device⟩

/-- The transport behind taps. -/
def transport (t : Transport σ) (taps : List Tap) : Transport (Tapped σ) where
  name := t.name
  acquire d :=
    let o := t.acquire d.device
    ⟨o.result, o.remarks, { d with device := o.device }⟩
  release d :=
    let (remarks, device) := t.release d.device
    (remarks, { d with device })
  exchange request d :=
    let (fired, counts) := Tap.fire request taps d.counts
    let o := match fired with
      | some tap => act t tap request d.device
      | none => t.exchange request d.device
    ⟨o.result, o.remarks, ⟨o.device, counts⟩⟩

end Tapped

end EnclaveAudit.Rehearsal
