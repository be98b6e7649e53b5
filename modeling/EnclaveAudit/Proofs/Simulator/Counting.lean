import EnclaveAudit.Proofs.Simulator.Isolation
import EnclaveAudit.Proofs.Simulator.Validation

/-!
# `EnclaveAudit/Proofs/Simulator/Counting.lean` — what a device counts, and what it lets show

Two of the faults look at counts: one shows a lock at every second read only, one refuses a locking
for the first time only. The counts are hidden, so what they come to is said here by the requests
that were sent: how many of a kind were sent while the register was locked (`sentWhileLocked`), and
whether it was locked is a matter of what was sent as well (`lockedBy`).

That a cell counts just this is an invariant of one cell (`Cell.Tells`), which every request keeps,
those that are refused included. What the next answer shows is then read off the cell. The counts
show in two answers only: in all others the lock is the one that the register has.
-/

set_option autoImplicit false

namespace EnclaveAudit.Simulator

/-! ## Counting in a history -/

/-- Whether a register is locked after some requests: it was from the start, or one of them locks
it, be it alone or in a range that the firmware takes. -/
def lockedBy (s : Settings) (index : Nat) (sent : List Value) : Bool :=
  index < 16 || sent.any (locks (Request.lockLimit s) index)

/-- The request reads the register. -/
def reads (index : Nat) (request : Value) : Bool :=
  number? "DescribePCR" "index" request == some index

/-- The request is to lock the register, and no other. -/
def locksAlone (index : Nat) (request : Value) : Bool :=
  number? "LockPCR" "index" request == some index

/-- How many requests of a kind were sent when the register was locked already. -/
def sentWhileLocked (s : Settings) (index : Nat) (kind : Value → Bool) (sent : List Value) : Nat :=
  (List.range sent.length).countP fun k => (sent[k]?).any kind && lockedBy s index (sent.take k)

/-- Whether the reads of a register that is locked are counted. -/
def flaps (s : Settings) (index : Nat) : Bool := s.has .lockFlap && 16 ≤ index

/-- The lock that the next read of a register shows: where locks flap, one that was set later is
shown at the odd ones of the reads that came after it was set. -/
def shownLock (s : Settings) (index : Nat) (sent : List Value) : Bool :=
  if flaps s index && lockedBy s index sent then
    (sentWhileLocked s index (reads index) sent + 1) % 2 == 1
  else lockedBy s index sent

/-- Whether the next attempt to lock a register, and no other, is refused: where it is refused once,
it is if there was none before that came after the register was locked. -/
def refusesLock (s : Settings) (index : Nat) (sent : List Value) : Bool :=
  lockedBy s index sent && !(s.has .silentRelock ||
    (s.has .relockOnce && 0 < sentWhileLocked s index (locksAlone index) sent))

section

variable {s : Settings} {index : Nat} {sent : List Value} {request : Value} {kind : Value → Bool}

theorem lockedBy_append : lockedBy s index (sent ++ [request]) =
    (lockedBy s index sent || locks (Request.lockLimit s) index request) := by
  simp [lockedBy, Bool.or_assoc]

theorem sentWhileLocked_append : sentWhileLocked s index kind (sent ++ [request]) =
    sentWhileLocked s index kind sent +
      if kind request && lockedBy s index sent then 1 else 0 := by
  unfold sentWhileLocked
  rw [List.length_append, List.length_singleton, List.range_succ, List.countP_append,
    List.countP_singleton, List.getElem?_concat_length, List.take_left]
  congr 1
  -- the earlier requests are counted as before
  refine List.countP_congr fun k hk => ?_
  have hlt : k < sent.length := List.mem_range.mp hk
  rw [List.getElem?_append_left hlt, List.take_append_of_le_length (Nat.le_of_lt hlt)]

/-! ## What a request is, of those the firmware accepts -/

theorem reads_of_ofValue_ok {r : Request} (h : Request.ofValue s request = .ok r) :
    reads index request = decide (r = .describeRegister index) := by
  obtain ⟨body, hparts, hread⟩ := ofValue_eq_ok h
  unfold reads number?
  rw [body?_bind_of_parts? rfl hparts]
  cases r with
  | describeRegister i =>
    have hindex := (index_eq_ok_iff.mp hread).1
    simp [Request.operation, hindex, beq_eq_decide]
  | _ => simp [Request.operation]

theorem locksAlone_of_ofValue_ok {r : Request} (h : Request.ofValue s request = .ok r) :
    locksAlone index request = decide (r = .lockRegister index) := by
  obtain ⟨body, hparts, hread⟩ := ofValue_eq_ok h
  unfold locksAlone number?
  rw [body?_bind_of_parts? rfl hparts]
  cases r with
  | lockRegister i =>
    have hindex := (index_eq_ok_iff.mp hread).1
    simp [Request.operation, hindex, beq_eq_decide]
  | _ => simp [Request.operation]

theorem reads_of_ofValue_error (hindex : (index : Int) < s.registerCount) {status : Status}
    (h : Request.ofValue s request = .error status) : reads index request = false := by
  rw [← Bool.not_eq_true]
  intro hreads
  cases (ofValue_of_read hindex (beq_iff_eq.mp hreads)).symm.trans h

theorem locksAlone_of_ofValue_error (hindex : (index : Int) < s.registerCount) {status : Status}
    (h : Request.ofValue s request = .error status) : locksAlone index request = false := by
  rw [← Bool.not_eq_true]
  intro hlocks
  cases (ofValue_of_lock hindex (beq_iff_eq.mp hlocks)).symm.trans h

end

/-! ## What a cell counts -/

/-- The lock of a cell, and what is counted in it, are what was sent. -/
structure Cell.Tells (s : Settings) (index : Nat) (sent : List Value) (c : Cell) : Prop where
  place : c.register.index = index
  lock : c.register.lock = lockedBy s index sent
  lockedReads : c.lockedReads =
    if flaps s index then sentWhileLocked s index (reads index) sent else 0
  relocks : c.relocks = sentWhileLocked s index (locksAlone index) sent

namespace Cell.Tells

variable {s : Settings} {index : Nat} {sent : List Value} {request : Value} {c c' : Cell}

/-- A cell goes on telling what was sent if it takes in what the request is. -/
theorem append (h : c.Tells s index sent) (hplace : c'.register.index = c.register.index)
    (hlock : c'.register.lock =
      (c.register.lock || locks (Request.lockLimit s) index request))
    (hreads : c'.lockedReads = c.lockedReads +
      if flaps s index && (reads index request && c.register.lock) then 1 else 0)
    (hrelocks : c'.relocks = c.relocks +
      if locksAlone index request && c.register.lock then 1 else 0) :
    c'.Tells s index (sent ++ [request]) where
  place := hplace.trans h.place
  lock := by rw [hlock, h.lock, lockedBy_append]
  lockedReads := by
    rw [hreads, h.lockedReads, h.lock, sentWhileLocked_append]
    cases flaps s index <;> rfl
  relocks := by rw [hrelocks, h.relocks, h.lock, sentWhileLocked_append]

/-- What is counted takes nothing in of a request that is neither a read nor a locking of the
register alone. -/
theorem append_uncounted (h : c.Tells s index sent)
    (hplace : c'.register.index = c.register.index)
    (hlock : c'.register.lock =
      (c.register.lock || locks (Request.lockLimit s) index request))
    (hreads : reads index request = false) (hrelocks : locksAlone index request = false)
    (hcounts : c'.lockedReads = c.lockedReads ∧ c'.relocks = c.relocks) :
    c'.Tells s index (sent ++ [request]) := by
  refine h.append hplace hlock ?_ ?_
  · rw [hreads, Bool.false_and, Bool.and_false]
    exact hcounts.1
  · rw [hrelocks, Bool.false_and]
    exact hcounts.2

theorem append_self (h : c.Tells s index sent)
    (hlocks : locks (Request.lockLimit s) index request = false)
    (hreads : reads index request = false) (hrelocks : locksAlone index request = false) :
    c.Tells s index (sent ++ [request]) :=
  h.append_uncounted rfl (by rw [hlocks, Bool.or_false]) hreads hrelocks ⟨rfl, rfl⟩

/-- What a read shows of the cell, and what it leaves. -/
theorem read_eq (h : c.Tells s index sent) : c.read s =
    if flaps s index && c.register.lock then
      ((c.lockedReads + 1) % 2 == 1, { c with lockedReads := c.lockedReads + 1 })
    else (c.register.lock, c) := by
  have hflaps : (s.has .lockFlap && c.register.lock &&
      decide ((bootLockedCount : Int) ≤ c.register.index)) =
        (flaps s index && c.register.lock) := by
    rw [h.place, Bool.and_right_comm]
    have hplace : (16 : Int) ≤ (index : Int) ↔ 16 ≤ index := Int.ofNat_le
    simp [flaps, bootLockedCount, hplace]
  unfold Cell.read
  rw [hflaps]

theorem read (h : c.Tells s index sent)
    (hlocks : locks (Request.lockLimit s) index request = false)
    (hreads : reads index request = true) (hrelocks : locksAlone index request = false) :
    (c.read s).2.Tells s index (sent ++ [request]) := by
  rw [h.read_eq]
  have hlock : c.register.lock =
      (c.register.lock || locks (Request.lockLimit s) index request) := by
    rw [hlocks, Bool.or_false]
  split
  · next hcounted =>
    refine h.append rfl hlock ?_ ?_
    · rw [hreads, Bool.true_and, if_pos hcounted]
    · rw [hrelocks, Bool.false_and]
      rfl
  · next hcounted =>
    refine h.append rfl hlock ?_ ?_
    · rw [hreads, Bool.true_and, if_neg hcounted]
      rfl
    · rw [hrelocks, Bool.false_and]
      rfl

theorem write (h : c.Tells s index sent)
    (hlocks : locks (Request.lockLimit s) index request = false)
    (hreads : reads index request = false) (hrelocks : locksAlone index request = false)
    (value : Bytes) : (c.write value).Tells s index (sent ++ [request]) := by
  refine h.append_uncounted rfl ?_ hreads hrelocks ⟨rfl, rfl⟩
  rw [hlocks]
  exact (Bool.or_false _).symm

/-- A locking that comes late is counted. -/
theorem relock (h : c.Tells s index sent) (hlocked : c.register.lock = true)
    (hreads : reads index request = false) (hrelocks : locksAlone index request = true) :
    ({ c with relocks := c.relocks + 1 } : Cell).Tells s index (sent ++ [request]) := by
  refine h.append rfl ?_ ?_ ?_
  · rw [hlocked, Bool.true_or]
  · rw [hreads, Bool.false_and, Bool.and_false]
    rfl
  · rw [hrelocks, hlocked]
    rfl

/-- Any other locking sets the lock, and is not counted. -/
theorem lock_of_locks (h : c.Tells s index sent)
    (hlocks : locks (Request.lockLimit s) index request = true)
    (hreads : reads index request = false)
    (hrelocks : (locksAlone index request && c.register.lock) = false) :
    c.lock.Tells s index (sent ++ [request]) := by
  refine h.append rfl ?_ ?_ ?_
  · rw [hlocks, Bool.or_true]
    rfl
  · rw [hreads, Bool.false_and, Bool.and_false]
    rfl
  · rw [hrelocks]
    rfl

end Cell.Tells

/-! ## One request, and requests in a row -/

section

variable {e : Surroundings} {s : Settings} {d : State} {index : Nat} {sent : List Value} {c : Cell}

/-- **One request** is counted in the cell, or it is not, as the history has it. -/
theorem tells_answer (hindex : (index : Int) < s.registerCount) (hc : d.bank[index]? = some c)
    (h : c.Tells s index sent) (request : Value) :
    ∃ c', (answer e s request d).2.bank[index]? = some c' ∧
      c'.Tells s index (sent ++ [request]) := by
  cases hq : Request.ofValue s request with
  | error status =>
    rw [answer_of_ofValue_error hq]
    exact ⟨c, hc, h.append_self (locks_of_ofValue_error hindex hq)
      (reads_of_ofValue_error hindex hq) (locksAlone_of_ofValue_error hindex hq)⟩
  | ok q =>
    have hlocks : locks (Request.lockLimit s) index request = q.locks index :=
      locks_of_ofValue_ok hq
    have hreads : reads index request = decide (q = .describeRegister index) :=
      reads_of_ofValue_ok hq
    have hrelocks : locksAlone index request = decide (q = .lockRegister index) :=
      locksAlone_of_ofValue_ok hq
    cases hconcerns : q.concerns index with
    | false =>
      have hkept : (answer e s request d).2.bank[index]? = d.bank[index]? :=
        getElem?_answer_of_not_concerns ((concerns_of_ofValue_ok hq).trans hconcerns)
      refine ⟨c, hkept.trans hc, h.append_self ?_ ?_ ?_⟩
      · rw [hlocks]
        cases q <;> first | rfl | exact hconcerns
      · rw [hreads, decide_eq_false_iff_not]
        rintro rfl
        simp [Request.concerns] at hconcerns
      · rw [hrelocks, decide_eq_false_iff_not]
        rintro rfl
        simp [Request.concerns] at hconcerns
    | true =>
      rw [answer_of_ofValue_ok hq]
      cases q with
      | describe | attest _ _ _ | random => cases hconcerns
      | describeRegister i =>
        obtain rfl : i = index := beq_iff_eq.mp hconcerns
        simp only [serve, hc]
        refine ⟨(c.read s).2, ?_, h.read hlocks (hreads.trans (by simp)) (hrelocks.trans (by simp))⟩
        exact (bank_setCell hc).trans (if_pos rfl)
      | extendRegister i data =>
        obtain rfl : i = index := beq_iff_eq.mp hconcerns
        have hnoRead : reads i request = false := hreads.trans (by simp)
        have hnoLocking : locksAlone i request = false := hrelocks.trans (by simp)
        simp only [serve, hc, serveExtend]
        split_ifs
        · exact ⟨c, hc, h.append_self hlocks hnoRead hnoLocking⟩
        all_goals
          exact ⟨_, (bank_setCell hc).trans (if_pos rfl), h.write hlocks hnoRead hnoLocking _⟩
      | lockRegister i =>
        obtain rfl : i = index := beq_iff_eq.mp hconcerns
        have hnoRead : reads i request = false := hreads.trans (by simp)
        simp only [serve, hc, serveLock]
        cases hlock : c.register.lock with
        | true =>
          exact ⟨_, (bank_setCell hc).trans (if_pos rfl),
            h.relock hlock hnoRead (hrelocks.trans (by simp))⟩
        | false =>
          exact ⟨_, (bank_setCell hc).trans (if_pos rfl),
            h.lock_of_locks (hlocks.trans hconcerns) hnoRead (by rw [hlock, Bool.and_false])⟩
      | lockRegisters n =>
        have hcell : (lockFirst n d.bank)[index]? = some c.lock := by
          rw [getElem?_lockFirst, if_pos (of_decide_eq_true hconcerns), hc]
          rfl
        have hnoLocking : locksAlone index request = false := hrelocks.trans (by simp)
        exact ⟨c.lock, hcell, h.lock_of_locks (hlocks.trans hconcerns) (hreads.trans (by simp))
          (by rw [hnoLocking, Bool.false_and])⟩

/-- **Requests in a row** are counted one by one. -/
theorem tells_transcript (hindex : (index : Int) < s.registerCount)
    (requests : List (Instant × Value)) (hopen : d.isOpen = true) (hc : d.bank[index]? = some c)
    (h : c.Tells s index sent) :
    ∃ c', (transcript e s requests d).2.bank[index]? = some c' ∧
      c'.Tells s index (sent ++ requests.map Prod.snd) := by
  induction requests generalizing d c sent with
  | nil => exact ⟨c, hc, by simpa using h⟩
  | cons next later ih =>
    obtain ⟨now, request⟩ := next
    let o := (transport { e with now } s).exchange request d
    obtain ⟨c', hc', h'⟩ :=
      tells_answer (e := { e with now }) (d := { d with requestCount := d.requestCount + 1 })
        hindex hc h request
    have hdevice : o.device.bank[index]? = some c' := by
      rw [show o = _ from exchange_of_open hopen request]
      exact hc'
    have hlater := ih (isOpen_exchange hopen request) hdevice h'
    rwa [List.append_assoc] at hlater

/-- **A device that was just made** counts what it is sent. -/
theorem tells_of_history (e : Surroundings) (hindex : (index : Int) < s.registerCount)
    (requests : List (Instant × Value)) :
    ∃ c, (transcript e s requests (State.fresh e s).opened).2.bank[index]? = some c ∧
      c.Tells s index (requests.map Prod.snd) := by
  have hbound : index < s.registerCount.toNat := by omega
  have hcell : (State.fresh e s).opened.bank[index]? =
      some { register := bootRegister e.primitives s index } := by
    show (boot e.primitives s)[index]? = _
    rw [boot, List.getElem?_map, List.getElem?_range hbound]
    rfl
  have hnone : Cell.Tells s index [] { register := bootRegister e.primitives s index } := by
    refine ⟨rfl, ?_, ?_, rfl⟩
    · exact (Bool.or_false _).symm
    · rw [show sentWhileLocked s index (reads index) [] = 0 from rfl, ite_self]
  exact tells_transcript hindex requests rfl hcell hnone

end

/-! ## What the next answer shows -/

section

variable {e : Surroundings} {s : Settings} {d : State} {index : Nat} {sent : List Value} {c : Cell}
  {request body : Value}

theorem answer_of_reads (hindex : (index : Int) < s.registerCount)
    (hc : d.bank[index]? = some c) (h : c.Tells s index sent)
    (hreads : reads index request = true) :
    (answer e s request d).1 = reply "DescribePCR"
      [("lock", .bool (shownLock s index sent)), ("data", .bytes c.register.value)] := by
  have hshown : (c.read s).1 = shownLock s index sent := by
    rw [h.read_eq, h.lock]
    unfold shownLock
    split
    · next hcounted => simp only [h.lockedReads, (Bool.and_eq_true _ _ ▸ hcounted).1, if_true]
    · rfl
  rw [answer_of_ofValue_ok (ofValue_of_read hindex (beq_iff_eq.mp hreads))]
  simp only [serve, hc, serveRead, hshown]

/-- An extension is refused by the lock that the register has. -/
theorem answer_of_extension (hindex : (index : Int) < s.registerCount)
    (hc : d.bank[index]? = some c) {data : Bytes} (hdata : extension? index request = some data) :
    (answer e s request d).1 = refuse .readOnlyIndex ↔
      c.register.lock = true ∧ s.has .extendLocked = false := by
  rw [answer_of_ofValue_ok (ofValue_of_extension hindex hdata)]
  simp only [serve, hc, serveExtend]
  cases c.register.lock <;> cases s.has .extendLocked <;> simp [refuse, reply, Value.record]

/-- A locking is refused by the lock that the register has, unless a fault lets it pass. -/
theorem answer_of_locksAlone (hindex : (index : Int) < s.registerCount)
    (hc : d.bank[index]? = some c) (h : c.Tells s index sent)
    (hlocks : locksAlone index request = true) :
    (answer e s request d).1 =
        (if refusesLock s index sent then refuse .readOnlyIndex else .text "LockPCR") ∧
      (lockedBy s index sent = true → (answer e s request d).2.registers = d.registers) := by
  have hsilent : Cell.relockIsSilent s (c.relocks + 1) = (s.has .silentRelock ||
      (s.has .relockOnce && 0 < sentWhileLocked s index (locksAlone index) sent)) := by
    simp only [Cell.relockIsSilent, h.relocks, Nat.lt_add_left_iff_pos]
  rw [answer_of_ofValue_ok (ofValue_of_lock hindex (beq_iff_eq.mp hlocks))]
  simp only [serve, hc, serveLock]
  unfold refusesLock
  rw [← hsilent, h.lock]
  cases hlock : lockedBy s index sent with
  | false => exact ⟨rfl, fun h => absurd h Bool.false_ne_true⟩
  | true =>
    refine ⟨?_, fun _ => Bank.map_set hc rfl⟩
    cases Cell.relockIsSilent s (c.relocks + 1) <;> rfl

/-- A range, accepted or not, is counted in no cell. -/
theorem counts_of_lockRange (hcall : Calls request "LockPCRs" body)
    (hc : d.bank[index]? = some c) : ∃ c', (answer e s request d).2.bank[index]? = some c' ∧
      c'.lockedReads = c.lockedReads ∧ c'.relocks = c.relocks := by
  obtain ⟨status, heq⟩ | ⟨r, v, d', hr, heq, hserved⟩ := answer_cases e s d request
  · rw [heq]
    exact ⟨c, hc, rfl, rfl⟩
  · rw [heq]
    obtain ⟨body', hcall', -⟩ := Calls.of_ofValue_eq_ok hr
    have hname : r.operation = "LockPCRs" := (hcall'.unique hcall).1
    cases hserved with
    | lockRange n =>
      show ∃ c', (lockFirst n d.bank)[index]? = some c' ∧ _
      rw [getElem?_lockFirst, hc]
      split_ifs
      · exact ⟨c.lock, rfl, rfl, rfl⟩
      · exact ⟨c, rfl, rfl, rfl⟩
    | describe | read _ | extend _ _ _ | lock _ | relock _ _ | attest _ _ _ | repeated _
    | drawn _ => simp [Request.operation] at hname

/-! ## What the device lists -/

/-- Of a bank with every register at its place the locked registers are listed in order. -/
theorem index_lockedRegisters {b : Bank} (hplaced : b.Placed s) {lock : Nat → Bool}
    (hlock : ∀ i c, b[i]? = some c → c.register.lock = lock i) :
    (lockedRegisters b).map Register.index =
      ((List.range s.registerCount.toNat).filter lock).map fun i : Nat => (i : Int) := by
  let entry (c : Cell) : Int × Bool := (c.register.index, c.register.lock)
  have hentries : b.map entry =
      (List.range s.registerCount.toNat).map fun i : Nat => ((i : Int), lock i) := by
    apply List.ext_getElem?
    intro i
    rw [List.getElem?_map, List.getElem?_map]
    cases hc : b[i]? with
    | none =>
      have hbeyond : (List.range s.registerCount.toNat).length ≤ i := by
        rw [List.length_range, ← hplaced.length]
        exact List.getElem?_eq_none_iff.mp hc
      rw [List.getElem?_eq_none hbeyond]
      rfl
    | some c =>
      have hbound := hplaced.lt_of_getElem? hc
      rw [List.getElem?_range (by omega)]
      exact congrArg some (Prod.ext (hplaced.index hc) (hlock i c hc))
  calc (lockedRegisters b).map Register.index
      = ((b.map entry).filter Prod.snd).map Prod.fst := by
        simp only [lockedRegisters, List.filter_map, List.map_map]
        rfl
    _ = _ := by
        rw [hentries, List.filter_map, List.map_map]
        rfl

theorem answer_describe (hcall : Calls request "DescribeNSM" body) :
    answer e s request d = (describe s d, d) := by
  cases hcall <;> rfl

theorem answer_attest (hcall : Calls request "Attestation" body)
    (haccepted : accepted (.ok (answer e s request d).1) = true)
    (hempty : s.has .emptyDocument = false) :
    ∃ userData nonce publicKey, (answer e s request d).1 = reply "Attestation"
      [("document", .bytes (document e s d.bank userData nonce publicKey))] := by
  obtain ⟨status, heq⟩ | ⟨r, v, d', hr, heq, hserved⟩ := answer_cases e s d request
  · rw [heq] at haccepted
    cases haccepted
  · rw [heq]
    obtain ⟨body', hcall', -⟩ := Calls.of_ofValue_eq_ok hr
    have hname : r.operation = "Attestation" := (hcall'.unique hcall).1
    cases hserved with
    | attest userData nonce publicKey =>
      rw [hempty]
      exact ⟨userData, nonce, publicKey, rfl⟩
    | describe | read _ | extend _ _ _ | lock _ | relock _ _ | lockRange _ | repeated _ | drawn _ =>
      simp [Request.operation] at hname

/-- The locked registers as the wire lists them. -/
def listed (s : Settings) (lock : Nat → Bool) : List Value :=
  ((List.range s.registerCount.toNat).filter lock).map fun i : Nat => .int i

/-- The answer keeps to the locks: a description and the claims of a document list those that are
set, and an extension is refused because of one, if the device does not extend locked registers. -/
structure KeepsTo (s : Settings) (lock : Nat → Bool) (request answer : Value) : Prop where
  description : ∀ body, Calls request "DescribeNSM" body →
    (Operation.body? "DescribeNSM" answer).bind (Value.field? "locked_pcrs") =
      some (.array (listed s lock))
  document : ∀ body, Calls request "Attestation" body → accepted (.ok answer) = true →
    s.has .emptyDocument = false → ∃ claims signature entries,
      answer = reply "Attestation" [("document", .bytes (Cbor.encode (.array
        [.bytes protectedHeader, .map [], .bytes (Cbor.encode claims), .bytes signature])))] ∧
      claims.field? "pcrs" = some (.map entries) ∧ entries.map Prod.fst = listed s lock
  extension : ∀ (index : Nat) data, (index : Int) < s.registerCount →
    extension? index request = some data →
      (answer = refuse .readOnlyIndex ↔ lock index = true ∧ s.has .extendLocked = false)

theorem listed_eq {b : Bank} (hplaced : b.Placed s) {lock : Nat → Bool}
    (hlock : ∀ i c, b[i]? = some c → c.register.lock = lock i) :
    listed s lock = (lockedRegisters b).map fun r => .int r.index := by
  have hindices := congrArg (List.map Value.int) (index_lockedRegisters hplaced hlock)
  rw [List.map_map, List.map_map] at hindices
  exact hindices.symm

theorem keepsTo_answer (hplaced : d.bank.Placed s) {lock : Nat → Bool}
    (hlock : ∀ i c, d.bank[i]? = some c → c.register.lock = lock i) :
    KeepsTo s lock request (answer e s request d).1 where
  description body hcall := by
    rw [answer_describe hcall, listed_eq hplaced hlock]
    rfl
  document body hcall haccepted hempty := by
    obtain ⟨userData, nonce, publicKey, hdocument⟩ := answer_attest hcall haccepted hempty
    refine ⟨_, _, _, hdocument, rfl, ?_⟩
    rw [listed_eq hplaced hlock, List.map_map]
    rfl
  extension index data hindex hdata := by
    obtain ⟨c, hc⟩ := hplaced.exists_cell hindex
    rw [answer_of_extension hindex hc hdata, hlock index c hc]

end

/-! ## The counts, and the history -/

theorem transcript_eq_after {e : Surroundings} {s : Settings} (requests : List (Instant × Value))
    (d : State) : (transcript e s requests d).2 =
      d.after e s (requests.map fun sent => .request sent.1 sent.2) := by
  induction requests generalizing d with
  | nil => rfl
  | cons next later ih => exact ih _

/-- **Counts are kept per register, and over whole runs.** Send anything to a device that was just
made, with any faults, and then one more request. A register has the lock that the history says, and
every answer keeps to that, but for two: where locks flap, a register that was locked later shows
its lock at the odd ones of the reads that came after it was locked; and where relocking is refused
once, the first attempt to lock a register that is locked is refused and the later ones pass without
a change, while without the fault all are refused. A range is counted as neither. -/
theorem counts_follow_history (e : Surroundings) (s : Settings) (requests : List (Instant × Value))
    (now : Instant) (request : Value) :
    let run := transcript e s requests (State.fresh e s).opened
    let sent := requests.map Prod.snd
    let next := (transport { e with now } s).exchange request run.2
    ∃ answer, next.result = .ok answer ∧
    KeepsTo s (fun index => lockedBy s index sent) request answer ∧
    ∀ index : Nat, (index : Int) < s.registerCount → ∃ value,
      run.2.registers[index]? = some ⟨index, lockedBy s index sent, value⟩ ∧
      (reads index request = true → answer = reply "DescribePCR"
        [("lock", .bool (shownLock s index sent)), ("data", .bytes value)]) ∧
      (locksAlone index request = true →
        answer = (if refusesLock s index sent then refuse .readOnlyIndex else .text "LockPCR") ∧
        (lockedBy s index sent = true → next.device.registers = run.2.registers)) ∧
      (∀ body, Calls request "LockPCRs" body → ∃ c c', run.2.bank[index]? = some c ∧
        next.device.bank[index]? = some c' ∧
        c'.lockedReads = c.lockedReads ∧ c'.relocks = c.relocks) := by
  intro run sent next
  let counted : State := { run.2 with requestCount := run.2.requestCount + 1 }
  let answered := answer { e with now } s request counted
  have hnext : next = ⟨.ok answered.1, [], answered.2⟩ :=
    exchange_of_open (isOpen_transcript requests rfl) request
  have hplaced : counted.bank.Placed s := by
    show run.2.bank.Placed s
    have hafter : run.2 = (State.fresh e s).after e s
        (.opening :: requests.map fun sent => .request sent.1 sent.2) :=
      transcript_eq_after requests _
    rw [hafter]
    exact placed_after e s _
  have htells : ∀ {index : Nat}, (index : Int) < s.registerCount →
      ∃ c, counted.bank[index]? = some c ∧ c.Tells s index sent :=
    fun hindex => tells_of_history e hindex requests
  have hlock : ∀ i c, counted.bank[i]? = some c → c.register.lock = lockedBy s i sent := by
    intro i c hc
    obtain ⟨c', hc', h⟩ := htells (hplaced.lt_of_getElem? hc)
    obtain rfl := Option.some.inj (hc.symm.trans hc')
    exact h.lock
  rw [hnext]
  refine ⟨answered.1, rfl, keepsTo_answer hplaced hlock, fun index hindex => ?_⟩
  obtain ⟨c, hc, h⟩ := htells hindex
  refine ⟨c.register.value, ?_, answer_of_reads hindex hc h, answer_of_locksAlone hindex hc h,
    fun body hcall => ?_⟩
  · have hcell : run.2.bank[index]? = some c := hc
    have hregister :
        (⟨index, lockedBy s index sent, c.register.value⟩ : Register) = c.register := by
      rw [← h.lock, ← h.place]
    rw [State.registers, List.getElem?_map, hcell, hregister]
    rfl
  · obtain ⟨c', hc', hcounts⟩ := counts_of_lockRange (e := { e with now }) (s := s) hcall hc
    exact ⟨c, c', hc, hc', hcounts⟩

/-- A register is read before it is locked, with a range and not alone, and once after that. The
next read shows it unlocked. An attempt to lock it passes if one was made before. -/
theorem counts_follow_history_of_a_flapping_lock :
    let e : Surroundings := ⟨0, fun _ n => Bytes.zeros n, .standard⟩
    let s : Settings := { faults := [.lockFlap, .relockOnce] }
    let read := (Operation.describeRegister (.int 16)).request
    let lock := (Operation.lockRegister (.int 16)).request
    let range := (Operation.lockRegisters (.int 17)).request
    let requests := [(1, read), (2, range), (3, read), (4, range), (5, lock)]
    let run := transcript e s requests (State.fresh e s).opened
    let next (request : Value) := ((transport { e with now := 6 } s).exchange request run.2).result
    ((16 : Nat) : Int) < s.registerCount ∧ reads 16 read = true ∧ locksAlone 16 lock = true ∧
    (∃ value, next read =
      .ok (reply "DescribePCR" [("lock", .bool false), ("data", .bytes value)])) ∧
    next lock = .ok (.text "LockPCR") := by
  intro e s read lock range requests run next
  have hindex : ((16 : Nat) : Int) < s.registerCount := by decide
  have hreads : reads 16 read = true := rfl
  have hlocks : locksAlone 16 lock = true := rfl
  have hshown : shownLock s 16 (requests.map Prod.snd) = false := by decide +kernel
  have hpasses : refusesLock s 16 (requests.map Prod.snd) = false := by decide +kernel
  refine ⟨hindex, hreads, hlocks, ?_, ?_⟩
  · obtain ⟨answer, hanswer, -, hregisters⟩ := counts_follow_history e s requests 6 read
    obtain ⟨value, -, hread, -⟩ := hregisters 16 hindex
    rw [hshown] at hread
    refine ⟨value, ?_⟩
    simp only [next, run]
    rw [hanswer, hread hreads]
  · obtain ⟨answer, hanswer, -, hregisters⟩ := counts_follow_history e s requests 6 lock
    obtain ⟨value, -, -, hlock, -⟩ := hregisters 16 hindex
    rw [hpasses] at hlock
    simp only [next, run]
    rw [hanswer, (hlock hlocks).1]
    rfl

end EnclaveAudit.Simulator
