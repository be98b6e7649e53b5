import EnclaveAudit.Simulator.Transport

/-!
# `EnclaveAudit/Proofs/Simulator/Transcript.lean` — what comes of requests in a row

A simulated device that is open answers whatever it is sent, and stays open. A `transcript` is what
a series of requests comes to, each with its result; the time may go on between them.

`Served` is what one request that makes sense can come to, in all cases, and whatever holds of every
answer is read off it. What a device answers depends on its registers and its random octets, and not
on what was counted of it (`State.Alike`).
-/

set_option autoImplicit false

namespace EnclaveAudit.Simulator

/-- Sends requests one after the other, each at its time: what came of each, and the device after
the last. -/
def transcript (e : Surroundings) (s : Settings) :
    List (Instant × Value) → State → List (Value × Except Interruption Value) × State
  | [], d => ([], d)
  | (now, request) :: later, d =>
    let o := (transport { e with now } s).exchange request d
    let (rest, after) := transcript e s later o.device
    ((request, o.result) :: rest, after)

variable {e : Surroundings} {s : Settings} {d d' : State}

/-! ## What a request comes to -/

/-- The random octets that an answer holds. -/
def randomReply (b : Bytes) : Value := reply "GetRandom" [("random", .bytes b)]

/-- What a request that makes sense comes to, where it is not refused. -/
inductive Served (e : Surroundings) (s : Settings) (d : State) : Request → Value → State → Prop
  | describe : Served e s d .describe (describe s d) d
  | read {i : Nat} {c : Cell} (hc : d.bank[i]? = some c) :
    Served e s d (.describeRegister i) (serveRead s i c d).1 (d.setCell i (c.read s).2)
  | extend {i : Nat} {c : Cell} (previous data : Bytes) (hc : d.bank[i]? = some c) :
    Served e s d (.extendRegister i data)
      (reply "ExtendPCR" [("data", .bytes (e.primitives.extend s.digest previous data))])
      (d.setCell i (c.write (e.primitives.extend s.digest previous data)))
  | lock {i : Nat} {c : Cell} (hc : d.bank[i]? = some c) :
    Served e s d (.lockRegister i) (.text "LockPCR") (d.setCell i c.lock)
  | relock {i : Nat} {c c' : Cell} (silent : Bool) (hc : d.bank[i]? = some c) :
    Served e s d (.lockRegister i) (if silent then .text "LockPCR" else refuse .readOnlyIndex)
      (d.setCell i c')
  | lockRange (count : Nat) :
    Served e s d (.lockRegisters count) (.text "LockPCRs")
      { d with bank := lockFirst count d.bank }
  | attest (userData nonce publicKey : Option Bytes) :
    Served e s d (.attest userData nonce publicKey)
      (reply "Attestation" [("document", .bytes
        (if s.has .emptyDocument then [] else document e s d.bank userData nonce publicKey))]) d
  | repeated {b : Bytes} (hb : d.stuck = some b) : Served e s d .random (randomReply b) d
  | drawn {stuck : Option Bytes}
    (hstuck : stuck = d.stuck ∨ stuck = some (e.entropy d.draws randomChunk)) :
    Served e s d .random (randomReply (e.entropy d.draws randomChunk))
      { d with draws := d.draws + 1, stuck }

theorem served_of_serve {r : Request} {v : Value} (h : serve e s d r = .ok (v, d')) :
    Served e s d r v d' := by
  cases r with
  | describe =>
    cases h
    exact .describe
  | describeRegister i =>
    cases hc : d.bank[i]? with
    | none => simp only [serve, hc, reduceCtorEq] at h
    | some c =>
      simp only [serve, hc] at h
      cases h
      exact .read hc
  | extendRegister i data =>
    cases hc : d.bank[i]? with
    | none => simp only [serve, hc, reduceCtorEq] at h
    | some c =>
      simp only [serve, hc, serveExtend] at h
      split at h
      · cases h
      · cases h
        exact .extend _ data hc
  | lockRegister i =>
    cases hc : d.bank[i]? with
    | none => simp only [serve, hc, reduceCtorEq] at h
    | some c =>
      simp only [serve, hc, serveLock] at h
      split at h
      · cases h
        exact .relock _ hc
      · cases h
        exact .lock hc
  | lockRegisters count =>
    cases h
    exact .lockRange count
  | attest userData nonce publicKey =>
    cases h
    exact .attest userData nonce publicKey
  | random =>
    simp only [serve, serveRandom] at h
    split at h
    · next hb =>
      cases h
      exact .repeated hb
    · cases h
      refine .drawn ?_
      split
      · exact .inr rfl
      · exact .inl rfl

/-- **What an answer comes to**: a refusal that does nothing, or what a request that makes sense
comes to. -/
theorem answer_cases (e : Surroundings) (s : Settings) (d : State) (request : Value) :
    (∃ status, answer e s request d = (refuse status, d)) ∨
      ∃ r v d', Request.ofValue s request = .ok r ∧ answer e s request d = (v, d') ∧
        Served e s d r v d' := by
  unfold answer
  split
  · exact .inl ⟨_, rfl⟩
  · next r hr =>
    split
    · exact .inl ⟨_, rfl⟩
    · next answered h => exact .inr ⟨r, answered.1, answered.2, hr, rfl, served_of_serve h⟩

theorem isOpen_answer (request : Value) : (answer e s request d).2.isOpen = d.isOpen := by
  obtain ⟨status, h⟩ | ⟨r, v, d', -, h, hserved⟩ := answer_cases e s d request
  · rw [h]
  · rw [h]
    cases hserved <;> rfl

/-! ## What an answer depends on -/

/-- The devices differ in no more than in what was counted of them. -/
structure State.Alike (d d' : State) : Prop where
  bank : d.bank = d'.bank
  draws : d.draws = d'.draws
  stuck : d.stuck = d'.stuck

/-- Devices that are alike answer alike, and stay so. -/
theorem State.Alike.answer (h : d.Alike d') (e : Surroundings) (s : Settings) (request : Value) :
    (answer e s request d).1 = (answer e s request d').1 ∧
      (answer e s request d).2.Alike (answer e s request d').2 := by
  obtain ⟨bank, isOpen, openCount, closeCount, requestCount, draws, stuck⟩ := d
  obtain ⟨hbank, hdraws, hstuck⟩ := h
  dsimp only at hbank hdraws hstuck
  subst hbank hdraws hstuck
  unfold Simulator.answer
  cases Request.ofValue s request with
  | error status => exact ⟨rfl, rfl, rfl, rfl⟩
  | ok r =>
    cases r with
    | describe | lockRegisters _ | attest _ _ _ => exact ⟨rfl, rfl, rfl, rfl⟩
    | describeRegister i =>
      simp only [serve]
      cases d'.bank[i]? <;> exact ⟨rfl, rfl, rfl, rfl⟩
    | extendRegister i data =>
      simp only [serve, serveExtend]
      cases d'.bank[i]? with
      | none => exact ⟨rfl, rfl, rfl, rfl⟩
      | some c =>
        dsimp only
        cases c.register.lock && !s.has .extendLocked <;> exact ⟨rfl, rfl, rfl, rfl⟩
    | lockRegister i =>
      simp only [serve, serveLock]
      cases d'.bank[i]? with
      | none => exact ⟨rfl, rfl, rfl, rfl⟩
      | some c =>
        dsimp only
        cases c.register.lock <;> exact ⟨rfl, rfl, rfl, rfl⟩
    | random =>
      simp only [serve, serveRandom]
      split <;> exact ⟨rfl, rfl, rfl, rfl⟩

/-! ## Exchanges -/

/-- An open device answers. -/
theorem exchange_of_open (hopen : d.isOpen = true) (request : Value) :
    (transport e s).exchange request d =
      let (value, after) := answer e s request { d with requestCount := d.requestCount + 1 }
      ⟨.ok value, [], after⟩ := by
  unfold transport
  exact if_pos hopen

/-- An exchange counts the request and answers it, and the answer does not depend on the count. -/
theorem State.Alike.exchange (h : d.Alike d') (hopen : d'.isOpen = true) (e : Surroundings)
    (s : Settings) (request : Value) :
    ((transport e s).exchange request d').result = .ok (Simulator.answer e s request d).1 ∧
      (Simulator.answer e s request d).2.Alike ((transport e s).exchange request d').device := by
  let counted : State := { d' with requestCount := d'.requestCount + 1 }
  have hcounted : d.Alike counted := ⟨h.bank, h.draws, h.stuck⟩
  obtain ⟨hsame, hafter⟩ := hcounted.answer e s request
  rw [exchange_of_open hopen]
  exact ⟨congrArg Except.ok hsame.symm, hafter⟩

theorem result_exchange (hopen : d.isOpen = true) (request : Value) :
    ((transport e s).exchange request d).result = .ok (answer e s request d).1 :=
  (State.Alike.exchange ⟨rfl, rfl, rfl⟩ hopen e s request).1

theorem isOpen_exchange (hopen : d.isOpen = true) (request : Value) :
    ((transport e s).exchange request d).device.isOpen = true := by
  rw [exchange_of_open hopen]
  exact (isOpen_answer request).trans hopen

theorem isOpen_transcript (requests : List (Instant × Value)) (hopen : d.isOpen = true) :
    (transcript e s requests d).2.isOpen = true := by
  induction requests generalizing d with
  | nil => exact hopen
  | cons next later ih => exact ih (isOpen_exchange hopen next.2)

end EnclaveAudit.Simulator
