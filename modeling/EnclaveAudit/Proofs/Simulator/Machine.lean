import EnclaveAudit.Proofs.Device.Outcomes
import EnclaveAudit.Proofs.Simulator.Bank
import EnclaveAudit.Proofs.Simulator.Reading
import EnclaveAudit.Proofs.Simulator.Transcript

/-!
# `EnclaveAudit/Proofs/Simulator/Machine.lean` — what a register owes to the history

Of a device without faults a register can be told from the outside. Whether it is locked, and what
it holds, follow from the requests that were sent since the device was made and from which of them
were accepted: a register is locked once a request asked for it, and holds its boot value extended
by the data of every extension that was accepted, in their order. `History` is that reading of a
transcript. It looks at no state of the device, so it is a machine of its own, and the device is
shown to follow it request by request.
-/

set_option autoImplicit false

namespace EnclaveAudit.Simulator

/-! ## The machine -/

/-- The number that a request for an operation gives, if it is one. -/
def number? (operation field : String) (request : Value) : Option Nat :=
  (Operation.body? operation request).bind fun body => (body.field? field).bind Value.nat?

/-- The data that a request extends a register by. -/
def extension? (index : Nat) (request : Value) : Option Bytes :=
  (Operation.body? "ExtendPCR" request).bind fun body =>
    if (body.field? "index").bind Value.nat? = some index then
      (body.field? "data").bind Value.bytes?
    else none

/-- Whether a request locks a register of a bank with so many of them. -/
def locks (registerCount : Int) (index : Nat) (request : Value) : Bool :=
  number? "LockPCR" "index" request == some index ||
    (number? "LockPCRs" "range" request).any fun n => index < n && (n : Int) ≤ registerCount

/-- Whether a request was answered, and not with an error. -/
def accepted : Except Interruption Value → Bool
  | .ok answer => (Operation.refusal? answer).isNone
  | .error _ => false

namespace History

/-- Whether a register is locked after a history. -/
def locked (s : Settings) (index : Nat) (history : List (Value × Except Interruption Value)) :
    Bool :=
  index < 16 || history.any fun turn => locks s.registerCount index turn.1

/-- The data that a turn extends a register by. -/
def accepted? (index : Nat) (turn : Value × Except Interruption Value) : Option Bytes :=
  if accepted turn.2 then extension? index turn.1 else none

/-- What a register holds when the machine starts. -/
def start (e : Surroundings) (s : Settings) (index : Nat) : Bytes :=
  let zero := Bytes.zeros s.digest.width
  if index ∈ [0, 1, 2, 4] then
    e.primitives.hash s.digest (zero ++ Bytes.ofString ("boot-measurement-" ++ toString index))
  else zero

/-- What a register holds after a history. -/
def value (e : Surroundings) (s : Settings) (index : Nat)
    (history : List (Value × Except Interruption Value)) : Bytes :=
  (history.filterMap (accepted? index)).foldl
    (fun v data => e.primitives.hash s.digest (v ++ data)) (start e s index)

end History

/-! ## Requests as the machine reads them -/

section

variable {s : Settings} {request body : Value} {name : String} {index : Nat}

theorem has_eq_false (hfaults : s.faults = []) (f : Fault) : s.has f = false := by
  unfold Settings.has
  rw [hfaults]
  rfl

theorem lockLimit_eq (hfaults : s.faults = []) : Request.lockLimit s = s.registerCount := by
  unfold Request.lockLimit
  rw [has_eq_false hfaults, if_neg Bool.false_ne_true]

theorem ofValue_of_read {i : Nat} (hi : (i : Int) < s.registerCount)
    (h : number? "DescribePCR" "index" request = some i) :
    Request.ofValue s request = .ok (.describeRegister i) := by
  obtain ⟨body, hbody, hindex⟩ := Option.bind_eq_some_iff.mp h
  rw [Operation.body?_eq_some_iff.mp hbody]
  exact Check.bind_eq_ok_iff.mpr ⟨i, index_eq_ok_iff.mpr ⟨hindex, hi⟩, rfl⟩

theorem ofValue_of_extension {i : Nat} {data : Bytes} (hi : (i : Int) < s.registerCount)
    (h : extension? i request = some data) :
    Request.ofValue s request = .ok (.extendRegister i data) := by
  obtain ⟨body, hbody, harguments⟩ := Option.bind_eq_some_iff.mp h
  split_ifs at harguments with hindex
  rw [Operation.body?_eq_some_iff.mp hbody]
  refine Check.bind_eq_ok_iff.mpr ⟨i, index_eq_ok_iff.mpr ⟨hindex, hi⟩, ?_⟩
  rw [harguments]
  rfl

theorem ofValue_of_lock {i : Nat} (hi : (i : Int) < s.registerCount)
    (h : number? "LockPCR" "index" request = some i) :
    Request.ofValue s request = .ok (.lockRegister i) := by
  obtain ⟨body, hbody, hindex⟩ := Option.bind_eq_some_iff.mp h
  rw [Operation.body?_eq_some_iff.mp hbody]
  exact Check.bind_eq_ok_iff.mpr ⟨i, index_eq_ok_iff.mpr ⟨hindex, hi⟩, rfl⟩

theorem ofValue_of_lockRange {n : Nat} (hn : (n : Int) ≤ Request.lockLimit s)
    (h : number? "LockPCRs" "range" request = some n) :
    Request.ofValue s request = .ok (.lockRegisters n) := by
  obtain ⟨body, hbody, hrange⟩ := Option.bind_eq_some_iff.mp h
  rw [Operation.body?_eq_some_iff.mp hbody]
  refine Check.bind_eq_ok_iff.mpr ⟨n, number_eq_ok_iff.mpr hrange, ?_⟩
  rw [if_pos hn]
  rfl

/-- What a request locks, of those the firmware accepts. -/
def Request.locks (index : Nat) : Request → Bool
  | .lockRegister i => i == index
  | .lockRegisters n => index < n
  | _ => false

/-- What a request extends a register by, of those the firmware accepts. -/
def Request.extension? (index : Nat) : Request → Option Bytes
  | .extendRegister i data => if i = index then some data else none
  | _ => none

theorem locks_of_ofValue_error (hindex : (index : Int) < s.registerCount) {status : Status}
    (h : Request.ofValue s request = .error status) :
    locks (Request.lockLimit s) index request = false := by
  rw [← Bool.not_eq_true]
  intro hlocks
  unfold locks at hlocks
  rcases Bool.or_eq_true .. |>.mp hlocks with hlock | hrange
  · cases (ofValue_of_lock hindex (beq_iff_eq.mp hlock)).symm.trans h
  · obtain ⟨n, hn, hlimit⟩ := (Option.any_eq_true _ _).mp hrange
    simp only [Bool.and_eq_true, decide_eq_true_eq] at hlimit
    cases (ofValue_of_lockRange hlimit.2 hn).symm.trans h

theorem locks_of_ofValue_ok {r : Request} (h : Request.ofValue s request = .ok r) :
    locks (Request.lockLimit s) index request = r.locks index := by
  obtain ⟨body, hparts, hread⟩ := ofValue_eq_ok h
  unfold locks number?
  rw [body?_bind_of_parts? rfl hparts, body?_bind_of_parts? rfl hparts]
  cases r with
  | lockRegister i =>
    have hnumber := (index_eq_ok_iff.mp hread).1
    simp [Request.operation, Request.locks, hnumber]
  | lockRegisters n =>
    obtain ⟨hn, hlimit⟩ := hread
    simp [Request.operation, Request.locks, number_eq_ok_iff.mp hn, hlimit]
  | _ => rfl

theorem extension?_of_ofValue_ok {r : Request} (h : Request.ofValue s request = .ok r) :
    extension? index request = r.extension? index := by
  obtain ⟨body, hparts, hread⟩ := ofValue_eq_ok h
  unfold extension?
  rw [body?_bind_of_parts? rfl hparts]
  cases r with
  | extendRegister i data =>
    obtain ⟨hindex, hdata⟩ := hread
    simp [Request.operation, Request.extension?, (index_eq_ok_iff.mp hindex).1, hdata]
  | _ => rfl

end

/-! ## One request -/

/-- A register with its lock set on a condition. -/
def lockedIf (condition : Bool) (r : Register) : Register :=
  { r with lock := r.lock || condition }

/-- What a turn makes of a register. -/
def History.step (e : Surroundings) (s : Settings) (index : Nat) (r : Register)
    (turn : Value × Except Interruption Value) : Register :=
  let r' := match accepted? index turn with
    | some data => r.withValue (e.primitives.hash s.digest (r.value ++ data))
    | none => r
  lockedIf (locks s.registerCount index turn.1) r'

section

variable {e : Surroundings} {s : Settings} {d : State} {request : Value} {index : Nat}
  {r : Register}

@[simp] theorem lockedIf_false : lockedIf false r = r := by
  unfold lockedIf
  rw [Bool.or_false]

@[simp] theorem lockedIf_true : lockedIf true r = r.locked := by
  unfold lockedIf
  rw [Bool.or_true]
  rfl

theorem lockedIf_of_locked (h : r.lock = true) (condition : Bool) : lockedIf condition r = r := by
  unfold lockedIf
  rw [h, Bool.true_or, ← h]

/-- A turn that extends nothing changes no more than a lock. -/
theorem History.step_eq_lockedIf {turn : Value × Except Interruption Value}
    (haccepted : accepted? index turn = none) :
    History.step e s index r turn = lockedIf (locks s.registerCount index turn.1) r := by
  unfold History.step
  rw [haccepted]

/-- A request that extends nothing, as the firmware takes it, neither. -/
theorem History.step_of_no_extension (hfaults : s.faults = []) {q : Request}
    {result : Except Interruption Value} (hq : Request.ofValue s request = .ok q)
    (hextension : q.extension? index = none) :
    History.step e s index r (request, result) = lockedIf (q.locks index) r := by
  have haccepted : accepted? index (request, result) = none := by
    simp only [accepted?, extension?_of_ofValue_ok hq, hextension, ite_self]
  rw [step_eq_lockedIf haccepted, ← lockLimit_eq hfaults, locks_of_ofValue_ok hq]

theorem registers_eq (hr : d.registers[index]? = some r) {c : Cell} (hc : d.bank[index]? = some c) :
    c.register = r := by
  rw [State.registers, List.getElem?_map, hc] at hr
  exact Option.some.inj hr

theorem exists_cell (hr : d.registers[index]? = some r) :
    ∃ c, d.bank[index]? = some c ∧ c.register = r := by
  rw [State.registers, List.getElem?_map] at hr
  exact Option.map_eq_some_iff.mp hr

theorem registers_setCell {i : Nat} {c c' : Cell} (hc : d.bank[i]? = some c) :
    (d.setCell i c').registers[index]? =
      if i = index then some c'.register else d.registers[index]? := by
  have hbound : i < d.bank.length := (List.getElem?_eq_some_iff.mp hc).1
  simp only [State.setCell, State.registers, List.getElem?_map]
  split_ifs with hi
  · rw [← hi, List.getElem?_set_self hbound]
    rfl
  · rw [List.getElem?_set_ne hi]

/-- A register is read without being changed, unless its lock flaps. -/
theorem registers_serveRead (hfaults : s.faults = []) {i : Nat} {c : Cell}
    (hc : d.bank[i]? = some c) : (serveRead s i c d).2.registers[index]? = d.registers[index]? := by
  have hread : (c.read s).2 = c := by
    unfold Cell.read
    rw [has_eq_false hfaults]
    rfl
  show (d.setCell i (c.read s).2).registers[index]? = _
  rw [hread, registers_setCell hc]
  split_ifs with hi
  · rw [← hi, State.registers, List.getElem?_map, hc]
    rfl
  · rfl

theorem registers_serveRandom : (serveRandom e s d).2.registers = d.registers := by
  unfold serveRandom
  split <;> rfl

/-- Locking a register sets its lock, if that is not set already. -/
theorem registers_serveLock {i : Nat} {c : Cell} (hc : d.bank[i]? = some c)
    (hr : d.registers[index]? = some r) :
    (serveLock s i c d).2.registers[index]? = some (lockedIf (i == index) r) := by
  by_cases hi : i = index
  · subst hi
    have hcell := registers_eq hr hc
    rw [beq_self_eq_true]
    unfold serveLock
    split_ifs with hlock <;> rw [registers_setCell hc, if_pos rfl]
    · rw [lockedIf_of_locked (hcell ▸ hlock), ← hcell]
    · rw [lockedIf_true, ← hcell]
      rfl
  · rw [beq_eq_false_iff_ne.mpr hi, lockedIf_false]
    unfold serveLock
    split_ifs <;> rw [registers_setCell hc, if_neg hi, hr]

/-- Locking a range sets the locks of the registers in it. -/
theorem registers_lockFirst {n : Nat} (hr : d.registers[index]? = some r) :
    ((lockFirst n d.bank).map Cell.register)[index]? = some (lockedIf (index < n) r) := by
  rw [State.registers, List.getElem?_map] at hr
  rw [List.getElem?_map, getElem?_lockFirst]
  obtain ⟨c, hc, rfl⟩ := Option.map_eq_some_iff.mp hr
  rw [hc]
  split_ifs with hn
  · rw [decide_eq_true hn, lockedIf_true]
    rfl
  · rw [decide_eq_false hn, lockedIf_false]
    rfl

/-- An extension is refused if the register is locked, and otherwise writes the hash. -/
theorem serveExtend_eq (hfaults : s.faults = []) {i : Nat} {c : Cell} {data : Bytes} :
    serveExtend e s i c data d =
      if c.register.lock then .error .readOnlyIndex
      else
        let value := e.primitives.hash s.digest (c.register.value ++ data)
        .ok (reply "ExtendPCR" [("data", .bytes value)], d.setCell i (c.write value)) := by
  unfold serveExtend
  rw [has_eq_false hfaults, has_eq_false hfaults, Bool.not_false, Bool.and_true]
  rfl

theorem answer_of_ofValue_ok {q : Request} (hq : Request.ofValue s request = .ok q) :
    answer e s request d =
      match serve e s d q with
      | .error status => (refuse status, d)
      | .ok answered => answered := by
  cases hserve : serve e s d q <;> simp only [answer, hq, hserve]

/-- An extension changes the register that it is for, if it is accepted. -/
theorem registers_extend (hfaults : s.faults = []) (hr : d.registers[index]? = some r)
    {i : Nat} {data : Bytes} (hq : Request.ofValue s request = .ok (.extendRegister i data)) :
    (answer e s request d).2.registers[index]? =
      some (History.step e s index r (request, .ok (answer e s request d).1)) := by
  have hlocks : locks s.registerCount index request = false := by
    rw [← lockLimit_eq hfaults, locks_of_ofValue_ok hq]
    rfl
  have hrefused : ∀ status, History.step e s index r (request, .ok (refuse status)) = r := by
    intro status
    have haccepted : History.accepted? index (request, .ok (refuse status)) = none := rfl
    rw [History.step_eq_lockedIf haccepted, hlocks, lockedIf_false]
  rw [answer_of_ofValue_ok hq]
  simp only [serve]
  cases hc : d.bank[i]? with
  | none => rwa [hrefused]
  | some c =>
    simp only [serveExtend_eq hfaults]
    cases hlock : c.register.lock with
    | true =>
      simp only [if_true, hrefused]
      exact hr
    | false =>
      simp only [Bool.false_eq_true, if_false]
      rw [registers_setCell hc]
      unfold History.step
      rw [hlocks, lockedIf_false]
      have haccepted : ∀ value, History.accepted? index
          (request, .ok (reply "ExtendPCR" [("data", .bytes value)])) =
            if i = index then some data else none :=
        fun value => extension?_of_ofValue_ok hq
      rw [haccepted]
      split_ifs with hi
      · obtain rfl := hi
        rw [← registers_eq hr hc]
        rfl
      · exact hr

/-- **One request** makes of a register what the machine says. -/
theorem registers_answer (hfaults : s.faults = []) (hindex : (index : Int) < s.registerCount)
    (hr : d.registers[index]? = some r) (request : Value) :
    (answer e s request d).2.registers[index]? =
      some (History.step e s index r (request, .ok (answer e s request d).1)) := by
  cases hq : Request.ofValue s request with
  | error status =>
    have haccepted : History.accepted? index (request, .ok (refuse status)) = none := rfl
    unfold answer
    rw [hq, History.step_eq_lockedIf haccepted, ← lockLimit_eq hfaults,
      locks_of_ofValue_error hindex hq, lockedIf_false]
    exact hr
  | ok q =>
    cases q with
    | extendRegister i data => exact registers_extend hfaults hr hq
    -- all others change no more than locks
    | describe | attest userData nonce publicKey =>
      rw [History.step_of_no_extension hfaults hq rfl, answer_of_ofValue_ok hq]
      exact lockedIf_false.symm ▸ hr
    | random =>
      rw [History.step_of_no_extension hfaults hq rfl, answer_of_ofValue_ok hq]
      exact (congrArg (·[index]?) registers_serveRandom).trans (lockedIf_false.symm ▸ hr)
    | describeRegister i =>
      rw [History.step_of_no_extension hfaults hq rfl, answer_of_ofValue_ok hq]
      simp only [serve, Request.locks, lockedIf_false]
      cases hc : d.bank[i]? with
      | none => exact hr
      | some c => exact (registers_serveRead hfaults hc).trans hr
    | lockRegister i =>
      rw [History.step_of_no_extension hfaults hq rfl, answer_of_ofValue_ok hq]
      simp only [serve, Request.locks]
      cases hc : d.bank[i]? with
      | none =>
        -- a register that the bank lacks is not this one
        have hi : i ≠ index := by
          rintro rfl
          rw [State.registers, List.getElem?_map, hc] at hr
          cases hr
        rw [beq_eq_false_iff_ne.mpr hi, lockedIf_false]
        exact hr
      | some c => exact registers_serveLock hc hr
    | lockRegisters n =>
      rw [History.step_of_no_extension hfaults hq rfl, answer_of_ofValue_ok hq]
      exact registers_lockFirst hr

end

/-! ## Runs -/

section

variable {e : Surroundings} {s : Settings} {index : Nat}

theorem registers_exchange (hfaults : s.faults = []) (hindex : (index : Int) < s.registerCount)
    {d : State} {r : Register} (hopen : d.isOpen = true) (hr : d.registers[index]? = some r)
    (request : Value) :
    ((transport e s).exchange request d).device.registers[index]? =
      some (History.step e s index r
        (request, ((transport e s).exchange request d).result)) := by
  rw [exchange_of_open hopen]
  have hcounted : ({ d with requestCount := d.requestCount + 1 } : State).registers[index]? =
      some r := hr
  exact registers_answer hfaults hindex hcounted request

/-- **A history**, turn by turn, makes of a register what the machine says. -/
theorem registers_transcript (hfaults : s.faults = []) (hindex : (index : Int) < s.registerCount)
    (requests : List (Instant × Value)) {d : State} {r : Register} (hopen : d.isOpen = true)
    (hr : d.registers[index]? = some r) :
    (transcript e s requests d).2.registers[index]? =
      some ((transcript e s requests d).1.foldl (History.step e s index) r) := by
  induction requests generalizing d r with
  | nil => exact hr
  | cons next later ih =>
    obtain ⟨now, request⟩ := next
    let o := (transport { e with now } s).exchange request d
    -- the machine does not look at the clock
    have hnext : o.device.registers[index]? =
        some (History.step e s index r (request, o.result)) :=
      registers_exchange hfaults hindex hopen hr request
    exact ih (isOpen_exchange hopen request) hnext

/-- What the steps of a history come to. -/
theorem History.foldl_step (history : List (Value × Except Interruption Value)) (r : Register) :
    history.foldl (History.step e s index) r =
      ⟨r.index, r.lock || history.any fun turn => locks s.registerCount index turn.1,
        (history.filterMap (accepted? index)).foldl
          (fun v data => e.primitives.hash s.digest (v ++ data)) r.value⟩ := by
  induction history generalizing r with
  | nil => simp
  | cons turn history ih =>
    rw [List.foldl_cons, ih, List.any_cons, List.filterMap_cons]
    unfold step lockedIf
    cases accepted? index turn <;> simp [Bool.or_assoc]

theorem measured_eq (hfaults : s.faults = []) : measured s = [0, 1, 2, 4] := by
  unfold measured
  rw [has_eq_false hfaults]
  rfl

/-- A register starts as the machine does. -/
theorem registers_fresh (hfaults : s.faults = []) (hindex : (index : Int) < s.registerCount) :
    (State.fresh e s).registers[index]? =
      some ⟨index, decide (index < 16), History.start e s index⟩ := by
  have hbound : index < s.registerCount.toNat := by omega
  have hvalue : bootValue e.primitives s index = History.start e s index := by
    unfold bootValue History.start
    rw [measured_eq hfaults]
    simp [Primitives.extend, measurement]
  rw [State.registers, State.fresh, boot, List.map_map, List.getElem?_map,
    List.getElem?_range hbound]
  show some (bootRegister e.primitives s index) = _
  rw [bootRegister, hvalue]
  rfl

/-- **What a register owes to the history**, after any requests to a device that was just made. -/
theorem registers_of_history (hfaults : s.faults = []) (hindex : (index : Int) < s.registerCount)
    (requests : List (Instant × Value)) :
    let run := transcript e s requests (State.fresh e s).opened
    run.2.registers[index]? =
      some ⟨index, History.locked s index run.1, History.value e s index run.1⟩ := by
  intro run
  have hstart : (State.fresh e s).opened.registers[index]? =
      some ⟨index, decide (index < 16), History.start e s index⟩ := registers_fresh hfaults hindex
  rw [registers_transcript hfaults hindex requests rfl hstart, History.foldl_step]
  rfl

end

/-! ## What the next answer shows -/

section

variable {e : Surroundings} {s : Settings} {d : State} {request : Value} {index : Nat}
  {r : Register}

theorem answer_extension (hfaults : s.faults = []) (hindex : (index : Int) < s.registerCount)
    (hr : d.registers[index]? = some r) {data : Bytes} (h : extension? index request = some data) :
    (answer e s request d).1 =
      if r.lock then refuse .readOnlyIndex
      else
        let value := e.primitives.hash s.digest (r.value ++ data)
        reply "ExtendPCR" [("data", .bytes value)] := by
  obtain ⟨c, hc, rfl⟩ := exists_cell hr
  rw [answer_of_ofValue_ok (ofValue_of_extension hindex h)]
  simp only [serve, hc, serveExtend_eq hfaults]
  split_ifs <;> rfl

theorem answer_lock (hfaults : s.faults = []) (hindex : (index : Int) < s.registerCount)
    (hr : d.registers[index]? = some r) (h : number? "LockPCR" "index" request = some index) :
    (answer e s request d).1 = if r.lock then refuse .readOnlyIndex else .text "LockPCR" := by
  obtain ⟨c, hc, rfl⟩ := exists_cell hr
  rw [answer_of_ofValue_ok (ofValue_of_lock hindex h)]
  simp only [serve, hc, serveLock, Cell.relockIsSilent, has_eq_false hfaults, Bool.false_and,
    Bool.or_false, Bool.false_eq_true, if_false]
  split_ifs <;> rfl

theorem answer_read (hfaults : s.faults = []) (hindex : (index : Int) < s.registerCount)
    (hr : d.registers[index]? = some r) (h : number? "DescribePCR" "index" request = some index) :
    (answer e s request d).1 =
      reply "DescribePCR" [("lock", .bool r.lock), ("data", .bytes r.value)] := by
  obtain ⟨c, hc, rfl⟩ := exists_cell hr
  rw [answer_of_ofValue_ok (ofValue_of_read hindex h)]
  simp only [serve, hc, serveRead, Cell.read, has_eq_false hfaults, Bool.false_and,
    Bool.false_eq_true, if_false]

end

/-- **The machine.** Send anything to a device without faults that was just made. Then a register is
locked, and holds what it holds, as the history says; and the next request for it is answered as the
history says: an extension and a locking are refused exactly if it is locked, an extension gives the
value extended by its data, and a read shows the lock and the value. -/
theorem answers_follow_history (e : Surroundings) (s : Settings) (hfaults : s.faults = [])
    {index : Nat} (hindex : (index : Int) < s.registerCount) (requests : List (Instant × Value))
    (now : Instant) (request : Value) :
    let run := transcript e s requests (State.fresh e s).opened
    let lock := History.locked s index run.1
    let value := History.value e s index run.1
    let next := ((transport { e with now } s).exchange request run.2).result
    run.2.registers[index]? = some ⟨index, lock, value⟩ ∧
    (∀ data, extension? index request = some data →
      let extended := e.primitives.hash s.digest (value ++ data)
      next = .ok (if lock then refuse .readOnlyIndex
        else reply "ExtendPCR" [("data", .bytes extended)])) ∧
    (number? "LockPCR" "index" request = some index →
      next = .ok (if lock then refuse .readOnlyIndex else .text "LockPCR")) ∧
    (number? "DescribePCR" "index" request = some index →
      next = .ok (reply "DescribePCR" [("lock", .bool lock), ("data", .bytes value)])) := by
  intro run lock value next
  have hregister : run.2.registers[index]? = some ⟨index, lock, value⟩ :=
    registers_of_history hfaults hindex requests
  have hopen : run.2.isOpen = true := isOpen_transcript requests rfl
  have hnext : next = .ok (answer { e with now } s request run.2).1 :=
    result_exchange hopen request
  rw [hnext]
  refine ⟨hregister, fun data h => ?_, fun h => ?_, fun h => ?_⟩
  · rw [answer_extension hfaults hindex hregister h]
  · rw [answer_lock hfaults hindex hregister h]
  · rw [answer_read hfaults hindex hregister h]

/-- A free register is extended, locked, and extended in vain. -/
theorem answers_follow_history_of_a_locking :
    let e : Surroundings := ⟨0, fun _ n => Bytes.zeros n, .standard⟩
    let extend (b : UInt8) : Value := (Operation.extendRegister (.int 16) [b]).request
    let run := transcript e {}
      [(1, extend 1), (2, (Operation.lockRegister (.int 16)).request), (3, extend 2)]
      (State.fresh e {}).opened
    let read := (Operation.describeRegister (.int 16)).request
    let extended := e.primitives.hash .sha384 (Bytes.zeros 48 ++ [1])
    Settings.faults {} = [] ∧ ((16 : Nat) : Int) < Settings.registerCount {} ∧
    ((transport { e with now := 4 } {}).exchange read run.2).result =
      .ok (reply "DescribePCR" [("lock", .bool true), ("data", .bytes extended)]) := by
  intro e extend run read extended
  have hlocked : History.locked {} 16 run.1 = true := rfl
  have hvalue : History.value e {} 16 run.1 = extended := rfl
  have hread : number? "DescribePCR" "index" read = some 16 := rfl
  have hnext := (answers_follow_history e {} rfl (by decide : ((16 : Nat) : Int) < 32)
    [(1, extend 1), (2, (Operation.lockRegister (.int 16)).request), (3, extend 2)]
    4 read).2.2.2 hread
  rw [hlocked, hvalue] at hnext
  exact ⟨rfl, by decide, hnext⟩

end EnclaveAudit.Simulator
