import EnclaveAudit.Proofs.Simulator.Bank
import EnclaveAudit.Proofs.Simulator.Transcript

/-!
# `EnclaveAudit/Proofs/Simulator/Places.lean` — every register at its place

A simulated device makes its registers in the order of their indices, and nothing that is asked of
it moves one. So the bank is as long as the device says, the cell at a place is the cell of that
index, and whatever lists registers lists them in ascending order. None of that needs to know what
the cryptography does.
-/

set_option autoImplicit false

namespace EnclaveAudit.Simulator

namespace Bank

/-- The indices of the registers, in the order of the bank. -/
def indices (b : Bank) : List Int := b.map fun c => c.register.index

/-- The registers of a device, each at its place. -/
def Placed (s : Settings) (b : Bank) : Prop :=
  b.indices = (List.range s.registerCount.toNat).map fun i : Nat => (i : Int)

/-- What a cell has in common with the one in its place is not changed. -/
theorem map_set {α : Type} {f : Cell → α} {b : Bank} {i : Nat} {c c' : Cell}
    (hc : b[i]? = some c) (h : f c' = f c) : (b.set i c').map f = b.map f := by
  obtain ⟨hbound, rfl⟩ := List.getElem?_eq_some_iff.mp hc
  rw [List.map_set, h]
  apply List.ext_getElem
  · simp
  intro j _ _
  rw [List.getElem_set]
  split
  · next hij =>
    subst hij
    rw [List.getElem_map]
  · rfl

theorem indices_set {b : Bank} {i : Nat} {c c' : Cell} (hc : b[i]? = some c)
    (h : c'.register.index = c.register.index) : Bank.indices (b.set i c') = b.indices :=
  map_set hc h

theorem indices_lockFirst (n : Nat) (b : Bank) : (lockFirst n b).indices = b.indices := by
  have hlock : ∀ cells : List Cell, (cells.map Cell.lock).map (fun c => c.register.index) =
      cells.map fun c => c.register.index := by
    intro cells
    rw [List.map_map]
    rfl
  unfold lockFirst indices
  rw [List.map_append, hlock, ← List.map_append, List.take_append_drop]

end Bank

namespace Bank.Placed

variable {s : Settings} {b : Bank}

theorem length (h : b.Placed s) : b.length = s.registerCount.toNat := by
  have hlength := congrArg List.length h
  simpa [Bank.indices] using hlength

theorem index (h : b.Placed s) {i : Nat} {c : Cell} (hc : b[i]? = some c) :
    c.register.index = i := by
  have hplace : b.indices[i]? = some c.register.index := by
    rw [Bank.indices, List.getElem?_map, hc]
    rfl
  rw [h, List.getElem?_map, Option.map_eq_some_iff] at hplace
  obtain ⟨j, hj, hindex⟩ := hplace
  obtain ⟨_, rfl⟩ := List.getElem?_eq_some_iff.mp hj
  rw [← hindex, List.getElem_range]

theorem lt_of_getElem? (h : b.Placed s) {i : Nat} {c : Cell} (hc : b[i]? = some c) :
    (i : Int) < s.registerCount := by
  have hlength := h.length
  have hbound : i < b.length := (List.getElem?_eq_some_iff.mp hc).1
  omega

theorem exists_cell (h : b.Placed s) {i : Nat} (hi : (i : Int) < s.registerCount) :
    ∃ c, b[i]? = some c := by
  have hlength := h.length
  have hbound : i < b.length := by omega
  exact ⟨b[i], List.getElem?_eq_getElem hbound⟩

theorem pairwise_lockedRegisters (h : b.Placed s) :
    ((lockedRegisters b).map Register.index).Pairwise (· < ·) := by
  -- what is filtered stays in order
  have hsublist : ((lockedRegisters b).map Register.index).Sublist b.indices := by
    have hfilter : ((b.map Cell.register).filter Register.lock).Sublist (b.map Cell.register) :=
      List.filter_sublist
    have hmap := hfilter.map Register.index
    rwa [List.map_map] at hmap
  refine List.Pairwise.sublist hsublist ?_
  rw [h, List.pairwise_map]
  exact List.pairwise_lt_range.imp fun hlt => Int.ofNat_lt.mpr hlt

theorem mem_lockedRegisters_iff (h : b.Placed s) {i : Int} :
    i ∈ (lockedRegisters b).map Register.index ↔
      ∃ (n : Nat) (c : Cell), i = n ∧ b[n]? = some c ∧ c.register.lock = true := by
  simp only [lockedRegisters, List.mem_map, List.mem_filter]
  constructor
  · rintro ⟨r, ⟨⟨c, hc, rfl⟩, hlock⟩, rfl⟩
    obtain ⟨n, hn⟩ := List.mem_iff_getElem?.mp hc
    exact ⟨n, c, h.index hn, hn, hlock⟩
  · rintro ⟨n, c, rfl, hc, hlock⟩
    exact ⟨c.register, ⟨⟨c, List.mem_of_getElem? hc, rfl⟩, hlock⟩, h.index hc⟩

end Bank.Placed

variable {e : Surroundings} {s : Settings} {d d' : State}

theorem indices_serveLock {i : Nat} {c : Cell} (hc : d.bank[i]? = some c) :
    (serveLock s i c d).2.bank.indices = d.bank.indices := by
  unfold serveLock
  split <;> exact Bank.indices_set hc rfl

theorem indices_serve {r : Request} {v : Value} (h : serve e s d r = .ok (v, d')) :
    d'.bank.indices = d.bank.indices := by
  have hserved : Served e s d r v d' := served_of_serve h
  cases hserved with
  | describe | attest _ _ _ | repeated _ | drawn _ => rfl
  | read hc => exact Bank.indices_set hc (Cell.Follows.read_self (s := s) _).index
  | extend _ _ hc | lock hc => exact Bank.indices_set hc rfl
  | lockRange n => exact Bank.indices_lockFirst n d.bank
  | relock _ hc =>
    -- what an attempt leaves in the cell is said by the handler alone
    simp only [serve, hc, Except.ok.injEq] at h
    have hlock := indices_serveLock (s := s) hc
    rwa [h] at hlock

theorem indices_answer (request : Value) :
    (answer e s request d).2.bank.indices = d.bank.indices := by
  unfold answer
  split
  · rfl
  · split
    · rfl
    · next h => exact indices_serve h

theorem indices_perform (call : Call) : (call.perform e s d).bank.indices = d.bank.indices := by
  cases call with
  | opening | closing => rfl
  | request now value =>
    show ((transport { e with now } s).exchange value d).device.bank.indices = _
    cases hopen : d.isOpen with
    | true =>
      rw [exchange_of_open hopen]
      exact indices_answer value
    | false => simp [transport, hopen]

/-- **Whatever is asked**, the registers stay where they were made. -/
theorem placed_after (e : Surroundings) (s : Settings) (calls : List Call) :
    ((State.fresh e s).after e s calls).bank.Placed s := by
  -- no call moves a register, whatever device it is made on
  have hkept : ∀ d : State, (d.after e s calls).bank.indices = d.bank.indices := by
    induction calls with
    | nil => exact fun _ => rfl
    | cons call calls ih => exact fun d => (ih _).trans (indices_perform call)
  unfold Bank.Placed
  rw [hkept]
  show (boot e.primitives s).indices = _
  unfold boot Bank.indices
  rw [List.map_map]
  rfl

end EnclaveAudit.Simulator
