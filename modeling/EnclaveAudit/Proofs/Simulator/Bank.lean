import Mathlib.Tactic.SplitIfs
import EnclaveAudit.Simulator.Transport

/-!
# `EnclaveAudit/Proofs/Simulator/Bank.lean` — the bank of a simulated device, over every run

A simulated device may be opened, closed, and sent anything, as often as one likes. Whatever is
done, its bank keeps its shape; a lock that is set stays set; and what is locked does not change,
unless the device was told to extend locked registers.

All of that is said about one step by one relation: `Cell.Follows` says what any request may do to a
register, and every handler is shown to do no more. It is reflexive and transitive, so a run of any
length does no more either, and the statement about runs (`bank_over_runs`) is about any two points
of one.
-/

set_option autoImplicit false

namespace EnclaveAudit.Simulator

/-! ## What may become of a cell -/

/-- What any step may do to a cell of a bank whose values have a width. -/
structure Cell.Follows (s : Settings) (c c' : Cell) : Prop where
  index : c'.register.index = c.register.index
  lock : c.register.lock = true → c'.register.lock = true
  value : s.has .extendLocked = false → c.register.lock = true →
    c'.register.value = c.register.value
  width : c.register.value.length = s.digest.width → c'.register.value.length = s.digest.width

namespace Cell.Follows

variable {s : Settings} {c c' c'' : Cell}

theorem refl (c : Cell) : c.Follows s c := ⟨rfl, id, fun _ _ => rfl, id⟩

theorem trans (h : c.Follows s c') (h' : c'.Follows s c'') : c.Follows s c'' where
  index := h'.index.trans h.index
  lock hl := h'.lock (h.lock hl)
  value hs hl := (h'.value hs (h.lock hl)).trans (h.value hs hl)
  width hw := h'.width (h.width hw)

theorem lock_self (c : Cell) : c.Follows s c.lock := ⟨rfl, fun _ => rfl, fun _ _ => rfl, id⟩

/-- Reading may count, and changes nothing else. -/
theorem read_self (c : Cell) : c.Follows s (c.read s).2 := by
  unfold Cell.read
  split_ifs
  · exact ⟨rfl, id, fun _ _ => rfl, id⟩
  · exact refl c

/-- Writing is for free registers, unless the device extends locked ones. -/
theorem write_self {value : Bytes} (hwidth : value.length = s.digest.width)
    (h : (c.register.lock && !s.has .extendLocked) = false) : c.Follows s (c.write value) where
  index := rfl
  lock hl := hl
  value hs hl := by
    rw [hs, hl] at h
    cases h
  width _ := hwidth

end Cell.Follows

/-! ## What may become of a bank -/

/-- The banks have the same registers, and each is what may have become of the earlier one. -/
def Bank.Follows (s : Settings) (b b' : Bank) : Prop :=
  b'.length = b.length ∧
    ∀ (i : Nat) (c : Cell), b[i]? = some c → ∃ c', b'[i]? = some c' ∧ c.Follows s c'

namespace Bank.Follows

variable {s : Settings} {b b' b'' : Bank}

theorem refl (b : Bank) : Bank.Follows s b b := ⟨rfl, fun _ c hc => ⟨c, hc, .refl c⟩⟩

theorem trans (h : Bank.Follows s b b') (h' : Bank.Follows s b' b'') : Bank.Follows s b b'' := by
  refine ⟨h'.1.trans h.1, fun i c hc => ?_⟩
  obtain ⟨c', hc', hnext⟩ := h.2 i c hc
  obtain ⟨c'', hc'', hnext'⟩ := h'.2 i c' hc'
  exact ⟨c'', hc'', hnext.trans hnext'⟩

theorem set {i : Nat} {c c' : Cell} (hc : b[i]? = some c) (h : c.Follows s c') :
    Bank.Follows s b (b.set i c') := by
  refine ⟨List.length_set, fun j d hd => ?_⟩
  by_cases hij : i = j
  · subst hij
    obtain rfl : c = d := Option.some.inj (hc.symm.trans hd)
    have hbound : i < b.length := (List.getElem?_eq_some_iff.mp hc).1
    exact ⟨c', List.getElem?_set_self hbound, h⟩
  · exact ⟨d, by rw [List.getElem?_set_ne hij, hd], .refl d⟩

end Bank.Follows

/-- Locking the first registers locks those and leaves the others. -/
theorem getElem?_lockFirst (n : Nat) (b : Bank) (i : Nat) :
    (lockFirst n b)[i]? = if i < n then (b[i]?).map Cell.lock else b[i]? := by
  unfold lockFirst
  split_ifs with hi
  -- among the first, but there may be fewer than that
  · by_cases hb : i < b.length
    · rw [List.getElem?_append_left (by simp only [List.length_map, List.length_take]; omega)]
      simp [hi]
    · rw [List.getElem?_eq_none (by simp; omega), List.getElem?_eq_none (by omega)]
      rfl
  · by_cases hn : n ≤ b.length
    · rw [List.getElem?_append_right (by simp; omega)]
      simp only [List.length_map, List.length_take, Nat.min_eq_left hn, List.getElem?_drop]
      congr 1
      omega
    · rw [List.getElem?_eq_none (by simp; omega), List.getElem?_eq_none (by omega)]

theorem Bank.Follows.lockFirst {s : Settings} (n : Nat) (b : Bank) :
    Bank.Follows s b (Simulator.lockFirst n b) := by
  refine ⟨by simp only [Simulator.lockFirst, List.length_append, List.length_map, List.length_take,
    List.length_drop]; omega, fun i c hc => ?_⟩
  rw [getElem?_lockFirst, hc]
  split_ifs
  · exact ⟨c.lock, rfl, .lock_self c⟩
  · exact ⟨c, rfl, .refl c⟩

/-! ## What a request may do -/

section

variable {e : Surroundings} {s : Settings} {d d' : State}

theorem serveExtend_follows (hhash : ∀ b, (e.primitives.hash s.digest b).length = s.digest.width)
    {i : Nat} {c : Cell} (hc : d.bank[i]? = some c) {data : Bytes} {v : Value}
    (h : serveExtend e s i c data d = .ok (v, d')) : Bank.Follows s d.bank d'.bank := by
  unfold serveExtend at h
  split_ifs at h with hlock
  -- with the fault or without it, the value that is written is a hash
  all_goals
    cases h
    exact .set hc (.write_self (hhash _) (Bool.eq_false_iff.mpr hlock))

theorem serveLock_follows {i : Nat} {c : Cell} (hc : d.bank[i]? = some c) :
    Bank.Follows s d.bank (serveLock s i c d).2.bank := by
  unfold serveLock
  split_ifs
  all_goals first
    | exact .set hc (.lock_self c)
    | exact .set hc ⟨rfl, id, fun _ _ => rfl, id⟩

/-- **A request that makes sense** does to the bank what any step may. -/
theorem serve_follows (hhash : ∀ b, (e.primitives.hash s.digest b).length = s.digest.width)
    {r : Request} {v : Value} (h : serve e s d r = .ok (v, d')) :
    Bank.Follows s d.bank d'.bank := by
  cases r with
  | describe =>
    cases h
    exact .refl _
  | describeRegister i =>
    cases hc : d.bank[i]? with
    | none => simp only [serve, hc, reduceCtorEq] at h
    | some c =>
      simp only [serve, hc, serveRead, Except.ok.injEq] at h
      cases h
      exact .set hc (.read_self c)
  | extendRegister i data =>
    cases hc : d.bank[i]? with
    | none => simp only [serve, hc, reduceCtorEq] at h
    | some c =>
      simp only [serve, hc] at h
      exact serveExtend_follows hhash hc h
  | lockRegister i =>
    cases hc : d.bank[i]? with
    | none => simp only [serve, hc, reduceCtorEq] at h
    | some c =>
      simp only [serve, hc, Except.ok.injEq] at h
      have hbank : (serveLock s i c d).2 = d' := congrArg Prod.snd h
      exact hbank ▸ serveLock_follows hc
  | lockRegisters n =>
    cases h
    exact .lockFirst n _
  | attest userData nonce publicKey =>
    cases h
    exact .refl _
  | random =>
    -- a draw is remembered, in whichever way it was made
    have hbank : d'.bank = d.bank := by
      simp only [serve, serveRandom, Except.ok.injEq] at h
      split at h <;> (cases h; rfl)
    exact hbank ▸ .refl _

theorem answer_follows (hhash : ∀ b, (e.primitives.hash s.digest b).length = s.digest.width)
    (request : Value) : Bank.Follows s d.bank (answer e s request d).2.bank := by
  unfold answer
  split
  · exact .refl _
  · split
    · exact .refl _
    · next h => exact serve_follows hhash h

end

/-! ## Runs -/

/-- What can be done with a simulated device. A request arrives at some time. -/
inductive Call where
  | opening
  | closing
  | request (now : Instant) (value : Value)

/-- The device after a call. -/
def Call.perform (e : Surroundings) (s : Settings) : Call → State → State
  | .opening, d => ((transport e s).acquire d).device
  | .closing, d => ((transport e s).release d).2
  | .request now value, d => ((transport { e with now } s).exchange value d).device

/-- The device after calls, one after the other. -/
def State.after (e : Surroundings) (s : Settings) (calls : List Call) (d : State) : State :=
  calls.foldl (fun d call => call.perform e s d) d

/-- The shape of a bank: the registers that the device says it has, each at its place and with a
value of the width of the digest, and the first sixteen of them locked. -/
structure Bank.Shaped (s : Settings) (b : Bank) : Prop where
  length : b.length = s.registerCount.toNat
  index : ∀ (i : Nat) (c : Cell), b[i]? = some c → c.register.index = i
  width : ∀ c ∈ b, c.register.value.length = s.digest.width
  locked : ∀ (i : Nat) (c : Cell), i < 16 → b[i]? = some c → c.register.lock = true

section

variable {e : Surroundings} {s : Settings}

theorem length_bootValue (hhash : ∀ b, (e.primitives.hash s.digest b).length = s.digest.width)
    (i : Nat) : (bootValue e.primitives s i).length = s.digest.width := by
  unfold bootValue
  split_ifs
  · exact hhash _
  · exact Bytes.length_zeros _

theorem shaped_boot (hhash : ∀ b, (e.primitives.hash s.digest b).length = s.digest.width) :
    (boot e.primitives s).Shaped s := by
  have hget : ∀ (i : Nat) (c : Cell), (boot e.primitives s)[i]? = some c →
      c.register = bootRegister e.primitives s i := by
    intro i c hc
    simp only [boot, List.getElem?_map, Option.map_eq_some_iff] at hc
    obtain ⟨j, hj, rfl⟩ := hc
    obtain ⟨_, rfl⟩ := List.getElem?_eq_some_iff.mp hj
    rw [List.getElem_range]
  refine ⟨by simp [boot], fun i c hc => ?_, fun c hc => ?_, fun i c hi hc => ?_⟩
  · rw [hget i c hc]
    rfl
  · obtain ⟨i, hi⟩ := List.mem_iff_getElem?.mp hc
    rw [hget i c hi]
    exact length_bootValue hhash i
  · rw [hget i c hc]
    exact decide_eq_true hi

/-- A bank keeps its shape. -/
theorem Bank.Shaped.of_follows {b b' : Bank} (hb : b.Shaped s) (h : Bank.Follows s b b') :
    b'.Shaped s := by
  -- the banks are equally long, so every later cell has an earlier one
  have hprevious : ∀ (i : Nat) (c' : Cell), b'[i]? = some c' →
      ∃ c, b[i]? = some c ∧ c.Follows s c' := by
    intro i c' hc'
    have hbound : i < b.length := h.1 ▸ (List.getElem?_eq_some_iff.mp hc').1
    obtain ⟨c'', hc'', hfollows⟩ := h.2 i b[i] (List.getElem?_eq_getElem hbound)
    obtain rfl : c'' = c' := Option.some.inj (hc''.symm.trans hc')
    exact ⟨b[i], List.getElem?_eq_getElem hbound, hfollows⟩
  refine ⟨h.1.trans hb.length, fun i c' hc' => ?_, fun c' hc' => ?_, fun i c' hi hc' => ?_⟩
  · obtain ⟨c, hc, hfollows⟩ := hprevious i c' hc'
    exact hfollows.index.trans (hb.index i c hc)
  · obtain ⟨i, hi⟩ := List.mem_iff_getElem?.mp hc'
    obtain ⟨c, hc, hfollows⟩ := hprevious i c' hi
    exact hfollows.width (hb.width c (List.mem_of_getElem? hc))
  · obtain ⟨c, hc, hfollows⟩ := hprevious i c' hc'
    exact hfollows.lock (hb.locked i c hi hc)

/-- **One call** does to the bank what any step may: opening and closing nothing at all. -/
theorem perform_follows (hhash : ∀ b, (e.primitives.hash s.digest b).length = s.digest.width)
    (call : Call) (d : State) : Bank.Follows s d.bank (call.perform e s d).bank := by
  cases call with
  | opening => exact .refl _
  | closing => exact .refl _
  | request now value =>
    simp only [Call.perform, transport]
    split_ifs
    · exact answer_follows (e := { e with now })
        (d := { d with requestCount := d.requestCount + 1 }) hhash value
    · exact .refl _

/-- **Any number of calls** does no more. -/
theorem after_follows (hhash : ∀ b, (e.primitives.hash s.digest b).length = s.digest.width)
    (calls : List Call) (d : State) : Bank.Follows s d.bank (d.after e s calls).bank := by
  induction calls generalizing d with
  | nil => exact .refl _
  | cons call calls ih => exact (perform_follows hhash call d).trans (ih _)

end

/-- **The bank over a run.** Take a device that was just made, call it as often as one likes, and
look at it at two moments. At both its bank is as it must be; between them no lock was cleared; and
a register that was locked at the first has the same value at the second, unless the device extends
locked registers. -/
theorem bank_over_runs (e : Surroundings) (s : Settings)
    (hhash : ∀ b, (e.primitives.hash s.digest b).length = s.digest.width)
    (earlier later : List Call) :
    let b := ((State.fresh e s).after e s earlier).bank
    let b' := ((State.fresh e s).after e s (earlier ++ later)).bank
    b.Shaped s ∧ b'.Shaped s ∧
    ∀ (i : Nat) (c c' : Cell), b[i]? = some c → b'[i]? = some c' → c.register.lock = true →
      c'.register.lock = true ∧
        (s.has .extendLocked = false → c'.register.value = c.register.value) := by
  intro b b'
  have hfresh := shaped_boot (e := e) (s := s) hhash
  have hb : b.Shaped s := hfresh.of_follows (after_follows hhash earlier (State.fresh e s))
  have hsplit : b' = (((State.fresh e s).after e s earlier).after e s later).bank := by
    simp only [b', State.after, List.foldl_append]
  have hfollows : Bank.Follows s b b' := hsplit ▸ after_follows hhash later _
  refine ⟨hb, hb.of_follows hfollows, fun i c c' hc hc' hlock => ?_⟩
  obtain ⟨c'', hc'', hcell⟩ := hfollows.2 i c hc
  obtain rfl : c'' = c' := Option.some.inj (hc''.symm.trans hc')
  exact ⟨hcell.lock hlock, fun hs => hcell.value hs hlock⟩

/-- A device with the standard primitives: a free register is locked, and locked it stays. -/
theorem bank_over_a_run_with_locking :
    let e : Surroundings := ⟨0, fun _ n => Bytes.zeros n, .standard⟩
    let lock : Call := .request 0 (.record [("LockPCR", .record [("index", .int 16)])])
    let b := ((State.fresh e {}).after e {} [.opening, lock]).bank
    let b' := ((State.fresh e {}).after e {} ([.opening, lock] ++ [.closing, .opening, lock])).bank
    (b[16]?.map fun c => c.register.lock) = some true ∧
    b.Shaped {} ∧ b'.Shaped {} ∧
    ∀ (i : Nat) (c c' : Cell), b[i]? = some c → b'[i]? = some c' → c.register.lock = true →
      c'.register.lock = true ∧
        (Settings.has {} .extendLocked = false → c'.register.value = c.register.value) := by
  intro e lock b b'
  have hhash : ∀ m, (e.primitives.hash .sha384 m).length = Digest.sha384.width :=
    Sha2.length_hash .sha384
  exact ⟨rfl, bank_over_runs e {} hhash [.opening, lock] [.closing, .opening, lock]⟩

end EnclaveAudit.Simulator
