import EnclaveAudit.Proofs.Simulator.Isolation
import EnclaveAudit.Proofs.Simulator.Validation

/-!
# `EnclaveAudit/Proofs/Simulator/BulkLocking.lean` — locking a range, and locking one by one

There are two ways to lock registers, and they are not the same code. A range is cut off at the end
of the bank and locked at once; a single register is locked by a handler that refuses, counts, and
with some faults says nothing. What they leave of the bank is nevertheless said by one function:
`lockedWhere` sets the locks at the places that were chosen, and nothing else. An accepted range
chooses the places below its end, a single register its own place, whatever the answer is. So a
series of requests chooses what any of them does, and the two ways agree where they choose the same.
-/

set_option autoImplicit false

namespace EnclaveAudit.Simulator

/-! ## Registers with some locks set -/

/-- The registers, and those at the chosen places locked. -/
def lockedWhere (chosen : Nat → Bool) (registers : List Register) : List Register :=
  registers.mapIdx fun i r => lockedIf (chosen i) r

section

variable {chosen chosen' : Nat → Bool} {registers registers' : List Register}

theorem getElem?_lockedWhere {index : Nat} : (lockedWhere chosen registers)[index]? =
    (registers[index]?).map (lockedIf (chosen index)) := List.getElem?_mapIdx

@[simp] theorem length_lockedWhere : (lockedWhere chosen registers).length = registers.length :=
  List.length_mapIdx

theorem eq_lockedWhere (hlength : registers'.length = registers.length)
    (h : ∀ index r, registers[index]? = some r →
      registers'[index]? = some (lockedIf (chosen index) r)) :
    registers' = lockedWhere chosen registers := by
  apply List.ext_getElem?
  intro index
  rw [getElem?_lockedWhere]
  cases hr : registers[index]? with
  | none =>
    rw [List.getElem?_eq_none_iff] at hr
    exact List.getElem?_eq_none (hlength ▸ hr)
  | some r => exact h index r hr

/-- Only the places that there are count. -/
theorem lockedWhere_congr (h : ∀ i < registers.length, chosen i = chosen' i) :
    lockedWhere chosen registers = lockedWhere chosen' registers := by
  refine eq_lockedWhere length_lockedWhere fun index r hr => ?_
  have hbound : index < registers.length := (List.getElem?_eq_some_iff.mp hr).1
  rw [getElem?_lockedWhere, hr, h index hbound]
  rfl

theorem lockedWhere_lockedWhere : lockedWhere chosen' (lockedWhere chosen registers) =
    lockedWhere (fun i => chosen i || chosen' i) registers := by
  refine eq_lockedWhere (by simp) fun index r hr => ?_
  rw [getElem?_lockedWhere, getElem?_lockedWhere, hr]
  simp only [Option.map_some, lockedIf, Bool.or_assoc]

theorem lockedWhere_false : lockedWhere (fun _ => false) registers = registers :=
  (eq_lockedWhere rfl fun _ _ hr => by rwa [lockedIf_false]).symm

end

/-! ## One request -/

section

variable {e : Surroundings} {s : Settings} {d : State} {request body : Value}

theorem registers_exchange_of_open (hopen : d.isOpen = true) :
    ((transport e s).exchange request d).device.registers = (answer e s request d).2.registers := by
  obtain ⟨-, hafter⟩ := State.Alike.exchange (d := d) ⟨rfl, rfl, rfl⟩ hopen e s request
  exact (congrArg (List.map Cell.register) hafter.bank).symm

theorem length_registers_answer :
    (answer e s request d).2.registers.length = d.registers.length := by
  simp only [State.registers, List.length_map, length_answer]

/-- A request to lock a register of the bank chooses its place, whatever the answer is. -/
theorem registers_of_lock (hplaced : d.bank.Placed s) {i : Nat} (hi : (i : Int) < s.registerCount)
    (h : number? "LockPCR" "index" request = some i) :
    (answer e s request d).2.registers = lockedWhere (fun j => i == j) d.registers := by
  refine eq_lockedWhere length_registers_answer fun index r hr => ?_
  obtain ⟨c, hc⟩ := hplaced.exists_cell hi
  rw [answer_of_ofValue_ok (ofValue_of_lock hi h)]
  simp only [serve, hc]
  exact registers_serveLock hc hr

theorem answer_lockRange (hcall : Calls request "LockPCRs" body) {n : Nat}
    (hrange : body.field? "range" = some (.int n)) :
    answer e s request d =
      if (n : Int) ≤ Request.lockLimit s then
        (.text "LockPCRs", { d with bank := lockFirst n d.bank })
      else (refuse .invalidIndex, d) := by
  have hread := hcall.ofValue_lockRange (s := s)
  rw [number_of_field hrange] at hread
  split_ifs with hn
  · rw [answer_of_ofValue_ok (hread.trans (if_pos hn))]
    rfl
  · exact answer_of_ofValue_error (hread.trans (if_neg hn))

theorem registers_of_lockFirst (n : Nat) :
    (lockFirst n d.bank).map Cell.register = lockedWhere (fun i => i < n) d.registers := by
  refine eq_lockedWhere ?_ fun _ _ => registers_lockFirst
  simp only [State.registers, List.length_map, (Bank.Follows.lockFirst (s := {}) n d.bank).1]

/-- Whether a range is accepted does not depend on the device, and one that is chooses the places
below its end. -/
theorem registers_of_lockRange (hcall : Calls request "LockPCRs" body) {n : Nat}
    (hrange : body.field? "range" = some (.int n)) :
    (accepted (.ok (answer e s request d).1) = true ↔ (n : Int) ≤ Request.lockLimit s) ∧
      ((n : Int) ≤ Request.lockLimit s →
        (answer e s request d).2.registers = lockedWhere (fun i => i < n) d.registers) := by
  rw [answer_lockRange hcall hrange]
  split_ifs with hn
  · exact ⟨iff_of_true rfl hn, fun _ => registers_of_lockFirst n⟩
  · exact ⟨iff_of_false Bool.false_ne_true hn, fun h => absurd h hn⟩

/-- A range that is refused, for whatever reason, chooses nothing. -/
theorem registers_of_refused_range (hcall : Calls request "LockPCRs" body)
    (hrefused : accepted (.ok (answer e s request d).1) = false) :
    (answer e s request d).2.registers = d.registers := by
  by_cases hnumber : Unnumbered body "range"
  · rw [answer_of_ofValue_error (ofValue_of_senseless (.unranged hcall hnumber))]
  · obtain ⟨n, hrange⟩ := exists_number hnumber
    rw [answer_lockRange hcall hrange] at hrefused ⊢
    split_ifs at hrefused ⊢
    · cases hrefused
    · rfl

end

/-! ## Requests in a row -/

section

variable {e : Surroundings} {s : Settings} {d : State}

/-- The request that each of some requests is, to lock one register. -/
def lockings (requests : List (Instant × Value)) : List (Option Nat) :=
  requests.map fun sent => number? "LockPCR" "index" sent.2

/-- **Locking one by one** chooses the places that are named, in whatever order and how often. -/
theorem registers_of_lockings (hplaced : d.bank.Placed s) (hopen : d.isOpen = true)
    {requests : List (Instant × Value)} {indices : List Nat}
    (hrequests : lockings requests = indices.map some)
    (hindices : ∀ i ∈ indices, (i : Int) < s.registerCount) :
    (transcript e s requests d).2.registers =
      lockedWhere (fun i => indices.contains i) d.registers := by
  induction requests generalizing d indices with
  | nil =>
    obtain rfl : indices = [] := List.map_eq_nil_iff.mp hrequests.symm
    exact lockedWhere_false.symm
  | cons next later ih =>
    obtain ⟨now, request⟩ := next
    obtain ⟨i, rest, rfl, hi, hrest⟩ := List.map_eq_cons_iff.mp hrequests.symm
    let o := (transport { e with now } s).exchange request d
    have hplaced' : o.device.bank.Placed s := by
      have hkept := indices_perform (e := e) (s := s) (d := d) (.request now request)
      exact hkept.trans hplaced
    have hstep : o.device.registers = lockedWhere (fun j => i == j) d.registers := by
      rw [registers_exchange_of_open hopen]
      exact registers_of_lock hplaced (hindices i List.mem_cons_self) hi.symm
    have hlater := ih hplaced' (isOpen_exchange hopen request) hrest.symm
      fun j hj => hindices j (List.mem_cons_of_mem i hj)
    refine hlater.trans ?_
    rw [hstep, lockedWhere_lockedWhere]
    refine lockedWhere_congr fun j _ => ?_
    rw [List.contains_cons, Bool.beq_comm]

/-- So does locking, one by one, what a range names, if the bank has it. -/
theorem registers_of_lockings_below (hplaced : d.bank.Placed s) (hopen : d.isOpen = true)
    {requests : List (Instant × Value)} {indices : List Nat} {n : Nat}
    (hrequests : lockings requests = indices.map some)
    (hindices : ∀ i : Nat, i ∈ indices ↔ (i : Int) < min (n : Int) s.registerCount) :
    (transcript e s requests d).2.registers = lockedWhere (fun i => i < n) d.registers := by
  have hbank : ∀ i ∈ indices, (i : Int) < s.registerCount := by
    intro i hi
    have hmin := (hindices i).mp hi
    omega
  refine (registers_of_lockings hplaced hopen hrequests hbank).trans ?_
  refine lockedWhere_congr fun i hi => ?_
  -- the places that the range has beyond the bank are not there
  have hlength : d.registers.length = s.registerCount.toNat := by
    rw [State.registers, List.length_map, hplaced.length]
  have hmem : i ∈ indices ↔ i < n := by
    rw [hindices]
    omega
  rw [List.contains_eq_mem]
  exact decide_eq_decide.mpr hmem

theorem exists_calls {request : Value} {name field : String} {n : Nat}
    (h : number? name field request = some n) :
    ∃ body, Calls request name body ∧ body.field? field = some (.int n) := by
  obtain ⟨body, hbody, hfield⟩ := Option.bind_eq_some_iff.mp h
  obtain rfl := Operation.body?_eq_some_iff.mp hbody
  exact ⟨body, .entry name body, bind_nat?_eq_some_iff.mp hfield⟩

theorem exchange_lockRange (hopen : d.isOpen = true) {request : Value} {n : Nat}
    (hrange : number? "LockPCRs" "range" request = some n) :
    let o := (transport e s).exchange request d
    (accepted o.result = true ↔ (n : Int) ≤ Request.lockLimit s) ∧
      ((n : Int) ≤ Request.lockLimit s →
        o.device.registers = lockedWhere (fun i => i < n) d.registers) := by
  intro o
  obtain ⟨body, hcall, hfield⟩ := exists_calls hrange
  rw [registers_exchange_of_open hopen, result_exchange hopen]
  exact registers_of_lockRange hcall hfield

/-- **Ranges in a row** choose the places below the greater end. -/
theorem registers_of_two_ranges (hopen : d.isOpen = true) {first second : Instant × Value}
    {a b : Nat} (ha : number? "LockPCRs" "range" first.2 = some a)
    (hb : number? "LockPCRs" "range" second.2 = some b) :
    let run := transcript e s [first, second] d
    (∀ turn ∈ run.1, accepted turn.2 = true) →
      ((max a b : Nat) : Int) ≤ Request.lockLimit s ∧
        run.2.registers = lockedWhere (fun i => i < max a b) d.registers := by
  intro run haccepted
  let o := (transport { e with now := first.1 } s).exchange first.2 d
  have hopen' : o.device.isOpen = true := isOpen_exchange hopen first.2
  obtain ⟨hfirst, hregisters⟩ :=
    exchange_lockRange (e := { e with now := first.1 }) (s := s) hopen ha
  obtain ⟨hsecond, hregisters'⟩ :=
    exchange_lockRange (e := { e with now := second.1 }) (s := s) hopen' hb
  have hlimit := hfirst.mp (haccepted _ List.mem_cons_self)
  have hlimit' := hsecond.mp (haccepted _ (List.mem_cons_of_mem _ List.mem_cons_self))
  refine ⟨by omega, (hregisters' hlimit').trans ?_⟩
  rw [hregisters hlimit, lockedWhere_lockedWhere]
  refine lockedWhere_congr fun i _ => ?_
  rw [← Bool.decide_or]
  exact decide_eq_decide.mpr (by omega)

end

/-- **Locking a range is locking one by one.** Take a device with any faults, after any calls, that
is open, and ask it to lock a range. If it refuses, no register is changed. If it accepts, the
registers below the end of the range are locked in addition and nothing else changes; and the same
registers come of locking those of them that the bank has one by one, in whatever order and how
often, whatever the device answers to that. So two ranges in a row do what the longer one does, and
a range locked twice does what it does once. -/
theorem range_locks_one_by_one (e : Surroundings) (s : Settings) (calls : List Call)
    (hopen : ((State.fresh e s).after e s calls).isOpen = true) (now : Instant) :
    let d := (State.fresh e s).after e s calls
    let sent (request : Value) := (transport { e with now } s).exchange request d
    (∀ request body, Calls request "LockPCRs" body → accepted (sent request).result = false →
      (sent request).device.registers = d.registers) ∧
    (∀ request n, number? "LockPCRs" "range" request = some n →
      accepted (sent request).result = true →
      (sent request).device.registers = lockedWhere (fun i => i < n) d.registers ∧
      ∀ requests (indices : List Nat), lockings requests = indices.map some →
        (∀ i : Nat, i ∈ indices ↔ (i : Int) < min (n : Int) s.registerCount) →
        (transcript e s requests d).2.registers = (sent request).device.registers) ∧
    (∀ first second request a b, number? "LockPCRs" "range" (Prod.snd first) = some a →
      number? "LockPCRs" "range" (Prod.snd second) = some b →
      number? "LockPCRs" "range" request = some (max a b) →
      let run := transcript e s [first, second] d
      (∀ turn ∈ run.1, accepted turn.2 = true) →
      run.2.registers = (sent request).device.registers) ∧
    (∀ request n later later', number? "LockPCRs" "range" request = some n →
      let run := transcript e s [(later, request), (later', request)] d
      (∀ turn ∈ run.1, accepted turn.2 = true) →
      run.2.registers = (sent request).device.registers) := by
  intro d sent
  have hplaced : d.bank.Placed s := placed_after e s calls
  have hranges : ∀ first second request a b,
      number? "LockPCRs" "range" (Prod.snd first) = some a →
      number? "LockPCRs" "range" (Prod.snd second) = some b →
      number? "LockPCRs" "range" request = some (max a b) →
      let run := transcript e s [first, second] d
      (∀ turn ∈ run.1, accepted turn.2 = true) →
      run.2.registers = (sent request).device.registers := by
    intro first second request a b ha hb hrequest run haccepted
    obtain ⟨hlimit, hregisters⟩ := registers_of_two_ranges hopen ha hb haccepted
    exact hregisters.trans ((exchange_lockRange hopen hrequest).2 hlimit).symm
  refine ⟨fun request body hcall hrefused => ?_, fun request n hrange haccepted => ?_, hranges,
    fun request n later later' hrange => ?_⟩
  · have hresult : (sent request).result = _ := result_exchange hopen request
    rw [hresult] at hrefused
    rw [registers_exchange_of_open hopen]
    exact registers_of_refused_range hcall hrefused
  · obtain ⟨hlimit, hregisters⟩ := exchange_lockRange (e := { e with now }) (s := s) hopen hrange
    have hlocked := hregisters (hlimit.mp haccepted)
    exact ⟨hlocked, fun requests indices hrequests hindices =>
      (registers_of_lockings_below hplaced hopen hrequests hindices).trans hlocked.symm⟩
  · exact hranges (later, request) (later', request) request n n hrange hrange
      (by rwa [max_self])

/-- A range that ends one beyond the bank, with locks that are refused once. -/
theorem range_locks_one_by_one_beyond_the_end :
    let e : Surroundings := ⟨0, fun _ n => Bytes.zeros n, .standard⟩
    let s : Settings := { registerCount := 18, faults := [.looseLockRange, .relockOnce] }
    let d := (State.fresh e s).after e s [.opening]
    let range := (Operation.lockRegisters (.int 19)).request
    let indices := [17, 3, 16, 17] ++ List.range 18
    let requests := indices.map fun i => ((i : Int), (Operation.lockRegister (.int i)).request)
    d.isOpen = true ∧ lockings requests = indices.map some ∧
    (transcript e s requests d).2.registers =
      ((transport e s).exchange range d).device.registers := by
  intro e s d range indices requests
  have hopen : d.isOpen = true := rfl
  have hlockings : lockings requests = indices.map some := rfl
  have haccepted : accepted ((transport e s).exchange range d).result = true := rfl
  have hindices : ∀ i : Nat, i ∈ indices ↔ (i : Int) < min ((19 : Nat) : Int) s.registerCount := by
    intro i
    have hcount : s.registerCount = 18 := rfl
    simp only [indices, List.mem_append, List.mem_cons, List.not_mem_nil, or_false, List.mem_range,
      hcount]
    omega
  have hsame := (range_locks_one_by_one e s [.opening] hopen e.now).2.1 range 19 rfl haccepted
  exact ⟨hopen, hlockings, hsame.2 requests indices hlockings hindices⟩

end EnclaveAudit.Simulator
