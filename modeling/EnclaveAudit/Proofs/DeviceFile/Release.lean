import EnclaveAudit.Proofs.Audit.Agreement
import EnclaveAudit.Proofs.Audit.Release
import EnclaveAudit.Proofs.DeviceFile.Exchange
import EnclaveAudit.Rehearsal.Replay

/-!
# `EnclaveAudit/Proofs/DeviceFile/Release.lean` — a device file that was opened is closed

Over a device file the uses of the transport become calls of the operating system. `System.traced`
remembers them. While the file is open an exchange is one control call, or none if the request is
too long, so the calls of a run are the opening, control calls on the descriptor that it gave, and
one closing of that descriptor.

How the closing ends is written down and otherwise forgotten: with another way of closing files a
run ends the same.
-/

set_option autoImplicit false

namespace EnclaveAudit

/-- Ends that differ in no more than in equal devices do not differ. -/
theorem Course.EndsAlike.eq {σ α : Type} {x y : EStateM.Result Halt (Standing σ) α}
    (h : EndsAlike Eq x y) : x = y := by
  cases h with
  | ok a l h | error halt l h => rw [h]

namespace DeviceFile

open Rehearsal (Replay SystemCall)

/-! ## Calls -/

/-- An operating system, and the calls that were made of it so far. -/
structure Traced (φ : Type) where
  system : φ
  calls : List SystemCall := []

/-- The system with a memory of its calls. -/
def System.traced {φ : Type} (system : System φ) : System (Traced φ) where
  openFile path r :=
    let (result, after) := system.openFile path r.system
    (result, ⟨after, r.calls ++ [.openFile path]⟩)
  closeFile descriptor r :=
    let (result, after) := system.closeFile descriptor r.system
    (result, ⟨after, r.calls ++ [.closeFile descriptor]⟩)
  control descriptor request r :=
    let (result, after) := system.control descriptor request r.system
    (result, ⟨after, r.calls ++ [.control descriptor request]⟩)
  decode := system.decode

/-- Between two states of a file that is open, nothing was called but control calls on it. -/
def Controlled {φ : Type} (descriptor : Nat) (d d' : State (Traced φ)) : Prop :=
  d'.descriptor = some descriptor ∧
    ∃ messages : List Bytes, d'.system.calls = d.system.calls ++ messages.map (.control descriptor)

section

variable {φ : Type} {system : System φ} {path : String} {descriptor : Nat}
  {d d' d'' : State (Traced φ)}

theorem Controlled.refl (h : d.descriptor = some descriptor) : Controlled descriptor d d :=
  ⟨h, [], (List.append_nil _).symm⟩

theorem Controlled.trans (h : Controlled descriptor d d') (h' : Controlled descriptor d' d'') :
    Controlled descriptor d d'' := by
  obtain ⟨-, messages, hcalls⟩ := h
  obtain ⟨hopen, messages', hcalls'⟩ := h'
  refine ⟨hopen, messages ++ messages', ?_⟩
  rw [hcalls', hcalls, List.map_append, List.append_assoc]

/-- An exchange with an open file is answered, with one control call or with none. -/
theorem controlled_exchange (h : d.descriptor = some descriptor) (request : Value) :
    (∃ answer, (exchange system.traced path request d).result = .ok answer) ∧
      Controlled descriptor d (exchange system.traced path request d).device := by
  by_cases hlong : requestLimit < (Cbor.encode request).length
  · rw [exchange_of_limit_lt h hlong]
    exact ⟨⟨_, rfl⟩, .refl h⟩
  · rw [exchange_of_length_le h (Nat.not_lt.mp hlong)]
    exact ⟨⟨_, rfl⟩, h, [Cbor.encode request], rfl⟩

theorem controlled_replies {pairs : List (Value × Value)} (h : d.descriptor = some descriptor)
    (hreplies : (transport system.traced path).Replies d pairs d') : Controlled descriptor d d' := by
  induction pairs generalizing d with
  | nil =>
    obtain rfl : d' = d := hreplies
    exact .refl h
  | cons pair pairs ih =>
    have hfirst : Controlled descriptor d (exchange system.traced path pair.1 d).device :=
      (controlled_exchange h pair.1).2
    exact hfirst.trans (ih hfirst.1 hreplies.2)

/-- A course over a file that is open makes control calls on it and nothing else. -/
theorem controlled_of_converse {α : Type} {r : EStateM.Result Halt (Standing (State (Traced φ))) α}
    (h : d.descriptor = some descriptor)
    (hr : Course.Converse (transport system.traced path) d r) :
    Controlled descriptor d (Course.last r).device := by
  cases hr with
  | answered pairs hreplies _ => exact controlled_replies h hreplies
  | interrupted pairs request hreplies hi _ =>
    -- while the file is open every request is answered
    have hanswered : ∃ answer, (exchange system.traced path request _).result = .ok answer :=
      (controlled_exchange (controlled_replies h hreplies).1 request).1
    obtain ⟨answer, hanswer⟩ := hanswered
    cases hanswer.symm.trans hi

end

/-! ## Runs -/

section

variable {φ : Type} (a : Auditor) (system : System φ) (path runId : String) (now : Instant)
  (kernel : φ)

/-- The calls of a run are the opening, control calls on the descriptor, and its closing. -/
theorem calls_run {descriptor : Nat} (hopens : (system.openFile path kernel).1 = .ok descriptor) :
    let c := a.run (transport system.traced path) runId now { system := { system := kernel } }
    c.device.descriptor = none ∧ ∃ messages : List Bytes,
      c.device.system.calls =
        .openFile path :: messages.map (.control descriptor) ++ [.closeFile descriptor] := by
  intro c
  let start : State (Traced φ) := { system := { system := kernel } }
  let opened : State (Traced φ) :=
    ⟨⟨(system.openFile path kernel).2, [.openFile path]⟩, some descriptor⟩
  have hacquire : (transport system.traced path).acquire start =
      ⟨.ok (), [.opened path], opened⟩ := by
    show acquire system.traced path start = _
    unfold acquire
    have hcall : system.traced.openFile path start.system = (.ok descriptor, opened.system) :=
      Prod.ext hopens rfl
    rw [hcall]
  have hopened : ((transport system.traced path).acquire start).result = .ok () := by rw [hacquire]
  have hconclude := (a.run_concludes runId now hopened).2
  rw [hacquire] at hconclude
  obtain ⟨hfile, messages, hcalls⟩ := controlled_of_converse (d := opened) rfl
    (Course.converses_whole (transport system.traced path) a.parameters ⟨opened, .empty⟩)
  rw [show c.device = _ from hconclude]
  generalize (Course.last _).device = d at hfile hcalls ⊢
  show (release system.traced d).2.descriptor = none ∧ _
  have hrelease : (release system.traced d).2 =
      ⟨⟨(system.closeFile descriptor d.system.system).2,
        d.system.calls ++ [.closeFile descriptor]⟩, none⟩ := by
    unfold release
    rw [hfile]
    simp only [System.traced]
    cases (system.closeFile descriptor d.system.system).1 <;> rfl
  refine ⟨by rw [hrelease], messages, ?_⟩
  show (release system.traced d).2.system.calls = _
  rw [hrelease, hcalls]
  rfl

/-- How a file is closed does not matter to a run. -/
theorem outcome_run_closing (closeFile : Nat → φ → Except Int Unit × φ) {descriptor : Nat}
    (hopens : (system.openFile path kernel).1 = .ok descriptor) :
    (a.run (transport { system with closeFile } path) runId now { system := kernel }).outcome =
      (a.run (transport system path) runId now { system := kernel }).outcome := by
  let start : State φ := { system := kernel }
  let system' : System φ := { system with closeFile }
  have hacquire : (acquire system path start).result = .ok () := by
    unfold acquire
    rw [show system.openFile path start.system = (.ok descriptor, _) from Prod.ext hopens rfl]
  have halike : ∀ request,
      (transport system path).AgreesOn (transport system' path) Eq request := by
    rintro request d _ rfl
    exact ⟨rfl, rfl⟩
  have hends := Course.matches_whole (p := a.parameters) (fun request _ => halike request)
    (acquire system path start).device _ .empty rfl
  have hconclude := (a.run_concludes (t := transport system path) runId now hacquire).1
  have hconclude' := (a.run_concludes (t := transport system' path) runId now hacquire).1
  exact hconclude'.trans ((congrArg _ hends.eq).symm.trans hconclude.symm)

end

/-- **A transport that was acquired is released once**, whatever it answers and wherever it is
interrupted, and whichever way the run ends.

A run whose transport cannot be acquired ends in that interruption and does nothing else with the
transport. Any other acquires it, sends requests, and releases it, and that is all. Either all
requests were answered, and the run ends in a report or in what is wrong with the device; or the last
one was interrupted, and the run ends in that very interruption.

Over a device file that was not opened before, and that can be opened, the calls of the operating
system are one opening, control calls on the descriptor, and one closing of it. Whether the closing
fails makes no difference to how the run ends. -/
theorem run_releases_once {σ φ : Type} (a : Auditor) (runId : String) (now : Instant) :
    (∀ (t : Transport σ) (device : σ),
      let opened := t.acquire device
      let c := a.run t.recorded runId now { device }
      (∀ i, opened.result = .error i →
        c.outcome = .error (.interrupted i) ∧ c.device.uses.toList = [.acquire]) ∧
      (opened.result = .ok () → ∃ pairs d, t.Replies opened.device pairs d ∧
        ((c.device.uses.toList =
            .acquire :: (pairs.map fun pair => .exchange pair.1) ++ [.release] ∧
          ∀ i, c.outcome ≠ .error (.interrupted i)) ∨
        ∃ request i, (t.exchange request d).result = .error i ∧
          c.device.uses.toList =
            .acquire :: (pairs.map fun pair => .exchange pair.1) ++ [.exchange request, .release] ∧
          c.outcome = .error (.interrupted i)))) ∧
    ∀ (system : System φ) (path : String) (kernel : φ) (descriptor : Nat),
      (system.openFile path kernel).1 = .ok descriptor →
      let c := a.run (transport system.traced path) runId now { system := { system := kernel } }
      (c.device.descriptor = none ∧ ∃ messages : List Bytes, c.device.system.calls =
        .openFile path :: messages.map (.control descriptor) ++ [.closeFile descriptor]) ∧
      ∀ closeFile,
        (a.run (transport { system with closeFile } path) runId now { system := kernel }).outcome =
          (a.run (transport system path) runId now { system := kernel }).outcome := by
  constructor
  · intro t device
    exact a.run_uses t runId now device
  · intro system path kernel descriptor hopens
    exact ⟨calls_run a system path runId now kernel hopens, fun closeFile =>
      outcome_run_closing a system path runId now kernel closeFile hopens⟩

/-- A device that is closed underneath the run, and a file that cannot be closed. -/
theorem run_releases_once_of_failures :
    let a : Auditor := ⟨.default, .empty⟩
    let t : Transport Unit :=
      ⟨"closed", fun _ => ⟨.ok (), [], ()⟩, fun _ => ([], ()), fun _ _ =>
        ⟨.error .simulatorClosed, [], ()⟩⟩
    let c := a.run t.recorded "" (0 : Int) { device := () }
    let e : Surroundings := ⟨0, fun _ n => Bytes.zeros n, .standard⟩
    let system := Replay.system e
    let kernel : Replay := { closeError := 5, replies := [.failure 5] }
    let calls := (a.run (transport system.traced defaultPath) "" (0 : Int)
      { system := { system := kernel } }).device.system.calls
    (t.acquire ()).result = .ok () ∧ c.outcome = .error (.interrupted .simulatorClosed) ∧
    (∃ request, c.device.uses.toList = [.acquire, .exchange request, .release]) ∧
    (system.openFile defaultPath kernel).1 = .ok 7 ∧
    ∃ messages : List Bytes,
      calls = .openFile defaultPath :: messages.map (.control 7) ++ [.closeFile 7] := by
  intro a t c e system kernel calls
  have hopens : (system.openFile defaultPath kernel).1 = .ok 7 := rfl
  obtain ⟨hrun, hfile⟩ := run_releases_once (σ := Unit) (φ := Replay) a "" (0 : Int)
  obtain ⟨⟨-, hcalls⟩, -⟩ := hfile system defaultPath kernel 7 hopens
  have hinterrupted : c.outcome = .error (.interrupted .simulatorClosed) := rfl
  obtain ⟨pairs, d, hreplies, hends⟩ := (hrun t ()).2 rfl
  -- no request is answered, so the first is the last
  have hpairs : pairs = [] := by
    cases pairs with
    | nil => rfl
    | cons pair pairs => cases hreplies.1
  subst hpairs
  rcases hends with ⟨-, hnever⟩ | ⟨request, i, -, huses, -⟩
  · exact absurd hinterrupted (hnever _)
  · exact ⟨rfl, hinterrupted, ⟨request, huses⟩, hopens, hcalls⟩

end DeviceFile

end EnclaveAudit
