import EnclaveAudit.Proofs.Simulator.Machine
import EnclaveAudit.Proofs.Simulator.Places

/-!
# `EnclaveAudit/Proofs/Simulator/Isolation.lean` — registers keep to themselves

What becomes of a register depends on the requests that concern it, and on no others: it does not
matter what is asked of the other registers, how often, and what is asked that makes no sense. That
holds with every fault, so it is a fact about the whole cell, with what is counted of the register
beside its lock and its value.

Two steps carry it. A request that does not concern a register leaves its cell as it is
(`getElem?_answer_of_not_concerns`), and one that does is answered from the cell alone
(`answer_of_concerns`). So a run shows of a register what the run shows from which everything else
was taken out (`transcript_about`), and two runs that differ in nothing else show the same of it.
-/

set_option autoImplicit false

namespace EnclaveAudit.Simulator

/-! ## Requests that concern a register -/

/-- The request reads, extends or locks the register, or locks a range that reaches beyond it. -/
def concerns (index : Nat) (request : Value) : Bool :=
  number? "DescribePCR" "index" request == some index ||
  number? "ExtendPCR" "index" request == some index ||
  number? "LockPCR" "index" request == some index ||
  (number? "LockPCRs" "range" request).any fun n => index < n

/-- Of some requests those that concern a register, in their order. -/
def about (index : Nat) (requests : List (Instant × Value)) : List Value :=
  (requests.map Prod.snd).filter (concerns index)

/-- What a request concerns, of those the firmware accepts. -/
def Request.concerns (index : Nat) : Request → Bool
  | .describeRegister i | .extendRegister i _ | .lockRegister i => i == index
  | .lockRegisters n => index < n
  | _ => false

section

variable {e e' : Surroundings} {s : Settings} {d d' : State} {request : Value} {index : Nat}

theorem concerns_of_ofValue_ok {r : Request} (h : Request.ofValue s request = .ok r) :
    concerns index request = r.concerns index := by
  obtain ⟨body, hparts, hread⟩ := ofValue_eq_ok h
  unfold concerns number?
  rw [body?_bind_of_parts? rfl hparts, body?_bind_of_parts? rfl hparts,
    body?_bind_of_parts? rfl hparts, body?_bind_of_parts? rfl hparts]
  cases r with
  | describeRegister i | lockRegister i =>
    have hindex := (index_eq_ok_iff.mp hread).1
    simp [Request.operation, Request.concerns, hindex]
  | extendRegister i data =>
    have hindex := (index_eq_ok_iff.mp hread.1).1
    simp [Request.operation, Request.concerns, hindex]
  | lockRegisters n =>
    have hrange := number_eq_ok_iff.mp hread.1
    simp [Request.operation, Request.concerns, hrange]
  | describe | attest _ _ _ | random => rfl

/-! ## One request -/

theorem bank_setCell {i : Nat} {c c' : Cell} (hc : d.bank[i]? = some c) :
    (d.setCell i c').bank[index]? = if i = index then some c' else d.bank[index]? := by
  have hbound : i < d.bank.length := (List.getElem?_eq_some_iff.mp hc).1
  show (d.bank.set i c')[index]? = _
  split_ifs with hi
  · subst hi
    exact List.getElem?_set_self hbound
  · exact List.getElem?_set_ne hi

/-- A request that does not concern a register leaves its cell as it is. -/
theorem getElem?_answer_of_not_concerns (h : concerns index request = false) :
    (answer e s request d).2.bank[index]? = d.bank[index]? := by
  obtain ⟨status, heq⟩ | ⟨r, v, d', hr, heq, hserved⟩ := answer_cases e s d request
  · rw [heq]
  rw [heq]
  rw [concerns_of_ofValue_ok hr] at h
  cases hserved with
  | describe | attest _ _ _ | repeated _ | drawn _ => rfl
  | read hc | extend _ _ hc | lock hc | relock _ hc =>
    show (d.setCell _ _).bank[index]? = _
    rw [bank_setCell hc, if_neg (beq_eq_false_iff_ne.mp h)]
  | lockRange n =>
    show (lockFirst n d.bank)[index]? = _
    rw [getElem?_lockFirst, if_neg (of_decide_eq_false h)]

/-- A request that does is answered from its cell alone, and leaves the same cell behind. -/
theorem answer_of_concerns (hprimitives : e.primitives = e'.primitives)
    (hcell : d.bank[index]? = d'.bank[index]?) (h : concerns index request = true) :
    (answer e s request d).1 = (answer e' s request d').1 ∧
      (answer e s request d).2.bank[index]? = (answer e' s request d').2.bank[index]? := by
  cases hr : Request.ofValue s request with
  | error status =>
    unfold answer
    rw [hr]
    exact ⟨rfl, hcell⟩
  | ok r =>
    rw [concerns_of_ofValue_ok hr] at h
    rw [answer_of_ofValue_ok hr, answer_of_ofValue_ok hr]
    cases r with
    | describe | attest _ _ _ | random => cases h
    | lockRegisters n =>
      refine ⟨rfl, ?_⟩
      show (lockFirst n d.bank)[index]? = (lockFirst n d'.bank)[index]?
      rw [getElem?_lockFirst, getElem?_lockFirst, hcell]
    | describeRegister i =>
      obtain rfl : i = index := beq_iff_eq.mp h
      simp only [serve, ← hcell]
      cases hc : d.bank[i]? with
      | none => exact ⟨rfl, hcell⟩
      | some c =>
        refine ⟨rfl, ?_⟩
        show (d.setCell i _).bank[i]? = (d'.setCell i _).bank[i]?
        rw [bank_setCell hc, bank_setCell (hcell ▸ hc), if_pos rfl, if_pos rfl]
    | extendRegister i data =>
      obtain rfl : i = index := beq_iff_eq.mp h
      simp only [serve, ← hcell, serveExtend, hprimitives]
      cases hc : d.bank[i]? with
      | none => exact ⟨rfl, hcell⟩
      | some c =>
        dsimp only
        split_ifs
        · exact ⟨rfl, hcell⟩
        all_goals
          refine ⟨rfl, ?_⟩
          rw [bank_setCell hc, bank_setCell (hcell ▸ hc), if_pos rfl, if_pos rfl]
    | lockRegister i =>
      obtain rfl : i = index := beq_iff_eq.mp h
      simp only [serve, ← hcell, serveLock]
      cases hc : d.bank[i]? with
      | none => exact ⟨rfl, hcell⟩
      | some c =>
        dsimp only
        split_ifs
        all_goals
          refine ⟨rfl, ?_⟩
          rw [bank_setCell hc, bank_setCell (hcell ▸ hc), if_pos rfl, if_pos rfl]

theorem exchange_of_concerns (hprimitives : e.primitives = e'.primitives)
    (hopen : d.isOpen = true) (hopen' : d'.isOpen = true)
    (hcell : d.bank[index]? = d'.bank[index]?) (h : concerns index request = true) :
    ((transport e s).exchange request d).result = ((transport e' s).exchange request d').result ∧
      ((transport e s).exchange request d).device.bank[index]? =
        ((transport e' s).exchange request d').device.bank[index]? := by
  let counted : State := { d with requestCount := d.requestCount + 1 }
  let counted' : State := { d' with requestCount := d'.requestCount + 1 }
  have hcounted : counted.bank[index]? = counted'.bank[index]? := hcell
  obtain ⟨hanswer, hafter⟩ := answer_of_concerns (s := s) hprimitives hcounted h
  rw [exchange_of_open hopen, exchange_of_open hopen']
  exact ⟨congrArg Except.ok hanswer, hafter⟩

theorem length_answer : (answer e s request d).2.bank.length = d.bank.length := by
  have hlength := congrArg List.length (indices_answer (e := e) (s := s) (d := d) request)
  simpa only [Bank.indices, List.length_map] using hlength

end

/-! ## Runs -/

section

variable {e e' : Surroundings} {s : Settings} {index : Nat}

theorem length_transcript (requests : List (Instant × Value)) {d : State}
    (hopen : d.isOpen = true) : (transcript e s requests d).2.bank.length = d.bank.length := by
  induction requests generalizing d with
  | nil => rfl
  | cons next later ih =>
    obtain ⟨now, request⟩ := next
    apply (ih (isOpen_exchange hopen request)).trans
    rw [exchange_of_open hopen]
    exact length_answer

/-- **A run shows of a register** what it shows when everything else is taken out of it. -/
theorem transcript_about (hprimitives : e.primitives = e'.primitives)
    (requests : List (Instant × Value)) {d d' : State} (hopen : d.isOpen = true)
    (hopen' : d'.isOpen = true) (hcell : d.bank[index]? = d'.bank[index]?) :
    let run := transcript e s requests d
    let alone := transcript e' s ((about index requests).map (0, ·)) d'
    run.1.filter (fun turn => concerns index turn.1) = alone.1 ∧
      run.2.bank[index]? = alone.2.bank[index]? := by
  induction requests generalizing d d' with
  | nil => exact ⟨rfl, hcell⟩
  | cons next later ih =>
    obtain ⟨now, request⟩ := next
    let o := (transport { e with now } s).exchange request d
    have hstillOpen : o.device.isOpen = true := isOpen_exchange hopen request
    have habout : about index ((now, request) :: later) =
        if concerns index request then request :: about index later else about index later :=
      List.filter_cons
    have hrun : transcript e s ((now, request) :: later) d =
        ((request, o.result) :: (transcript e s later o.device).1,
          (transcript e s later o.device).2) := rfl
    simp only [habout, hrun, List.filter_cons]
    cases h : concerns index request with
    | false =>
      -- the turn is not shown, and the cell is the one from before
      have hkept : o.device.bank[index]? = d.bank[index]? := by
        rw [show o = _ from exchange_of_open hopen request]
        exact getElem?_answer_of_not_concerns h
      exact ih hstillOpen hopen' (hkept.trans hcell)
    | true =>
      let o' := (transport { e' with now := 0 } s).exchange request d'
      have hsame : o.result = o'.result ∧ o.device.bank[index]? = o'.device.bank[index]? :=
        exchange_of_concerns hprimitives hopen hopen' hcell h
      have hstillOpen' : o'.device.isOpen = true := isOpen_exchange hopen' request
      obtain ⟨hlater, hcell'⟩ := ih hstillOpen hstillOpen' hsame.2
      refine ⟨?_, hcell'⟩
      show (request, o.result) :: _ = (request, o'.result) :: _
      rw [hsame.1, hlater]

/-- **Registers do not interfere.** Make a device twice, with any faults, and send it two series of
requests in which the same is asked of a register, at whatever times and with whatever else before,
between and after, and whatever random octets each draws. Then the requests that concern the
register get the same answers, one by one, and the register ends the same: with the same lock, the
same value, and the same counts of what was asked of it. -/
theorem registers_do_not_interfere (e : Surroundings) (s : Settings)
    (entropy : (draw count : Nat) → Bytes) (hindex : (index : Int) < s.registerCount)
    {requests requests' : List (Instant × Value)}
    (hsame : about index requests = about index requests') :
    let run := transcript e s requests (State.fresh e s).opened
    let run' := transcript { e with entropy } s requests' (State.fresh e s).opened
    run.1.filter (fun turn => concerns index turn.1) =
        run'.1.filter (fun turn => concerns index turn.1) ∧
      ∃ c, run.2.bank[index]? = some c ∧ run'.2.bank[index]? = some c := by
  intro run run'
  let start : State := (State.fresh e s).opened
  have hstart : start.bank[index]? = start.bank[index]? := rfl
  obtain ⟨hturns, hcell⟩ :=
    transcript_about (e := e) (s := s) (rfl : e.primitives = e.primitives) requests rfl rfl hstart
  obtain ⟨hturns', hcell'⟩ :=
    transcript_about (e := { e with entropy }) (s := s) (rfl : _ = e.primitives) requests' rfl rfl
      hstart
  rw [← hsame] at hturns' hcell'
  refine ⟨hturns.trans hturns'.symm, ?_⟩
  have hlength : run.2.bank.length = s.registerCount.toNat := by
    rw [length_transcript requests rfl]
    show (boot e.primitives s).length = _
    simp only [boot, List.length_map, List.length_range]
  have hbound : index < run.2.bank.length := by omega
  exact ⟨run.2.bank[index], List.getElem?_eq_getElem hbound,
    (hcell'.trans hcell.symm).trans (List.getElem?_eq_getElem hbound)⟩

/-- Firmware that refuses to lock a register again only once does so once of each register. -/
theorem registers_do_not_interfere_of_relocking :
    let e : Surroundings := ⟨0, fun _ n => Bytes.zeros n, .standard⟩
    let s : Settings := { faults := [.relockOnce] }
    let lock (i : Nat) : Value := (Operation.lockRegister (.int i)).request
    let requests := [(1, lock 16), (2, lock 17), (3, lock 17), (4, .text "GetRandom"),
      (5, lock 16), (6, lock 17), (7, .null), (8, lock 16)]
    let run := transcript e s requests (State.fresh e s).opened
    ((16 : Nat) : Int) < s.registerCount ∧
    about 16 requests = about 16 [(0, lock 16), (0, lock 16), (0, lock 16)] ∧
    run.1.filter (fun turn => concerns 16 turn.1) = [(lock 16, .ok (.text "LockPCR")),
      (lock 16, .ok (refuse .readOnlyIndex)), (lock 16, .ok (.text "LockPCR"))] := by
  intro e s lock requests run
  refine ⟨by decide, rfl, ?_⟩
  have hsame : about 16 requests = about 16 [(0, lock 16), (0, lock 16), (0, lock 16)] := rfl
  exact (registers_do_not_interfere e s e.entropy (by decide) hsame).1

end

end EnclaveAudit.Simulator
