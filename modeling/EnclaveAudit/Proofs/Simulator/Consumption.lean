import EnclaveAudit.Proofs.Audit.LockedStart
import EnclaveAudit.Proofs.Simulator.Observing
import EnclaveAudit.Proofs.Simulator.Verdict

/-!
# `EnclaveAudit/Proofs/Simulator/Consumption.lean` — an audit that passes consumes the device

An audit that passes locks every register, and nothing unlocks one. So a device can pass once: the
next audit reads the same values, has the device describe itself with 32 locked registers, and ends
there, at the same check for every set of faults and for all parameters.

Which faults a device has is never looked at. A device passes only if its answers conform, and what
the registers hold at the end is read off the answers of the last round: nothing that comes after it
changes a register, and a lock that is shown is set. What was read first is read off the answers of
the first round in the same way, because nothing before it changes a register either. Nor does
anything that the next audit comes to, so the device it leaves is the device that it found
(`State.Has`), and the argument starts over.
-/

set_option autoImplicit false

namespace EnclaveAudit

/-! ## The places of a script, from both ends -/

/-- The places from the last round of reads to the end. -/
def Parameters.lastPlaces (p : Parameters) : List Slot :=
  (List.range 32).map (.read (p.readRounds - 1)) ++
    (Scenario.attestation.slots p ++ Scenario.randomness.slots p)

/-- The last round of reads comes after the steps that lock the bank and after the other rounds. -/
theorem Parameters.slots_locksAndExtension (p : Parameters) :
    Scenario.locksAndExtension.slots p = asked p.lockings ++
      ((List.range (p.readRounds - 1)).flatMap (fun k => (List.range 32).map (.read k)) ++
        (List.range 32).map (.read (p.readRounds - 1))) := by
  have hrounds : p.readRounds = (p.readRounds - 1) + 1 := by
    have hpos := p.readRounds_pos
    omega
  have hlast : List.range p.readRounds = List.range (p.readRounds - 1) ++ [p.readRounds - 1] := by
    rw [← List.range_succ, Nat.succ_eq_add_one, ← hrounds]
  simp only [Scenario.slots, lockings, hlast, asked_append, asked_map_ask, asked_ask,
    List.flatMap_append, List.flatMap_singleton, List.append_assoc, List.cons_append,
    List.nil_append]

theorem Parameters.exists_slots_eq (p : Parameters) :
    ∃ middle, p.slots = p.firstPlaces ++ (middle ++ p.lastPlaces) := by
  refine ⟨asked p.lockings ++
    (List.range (p.readRounds - 1)).flatMap (fun k => (List.range 32).map (.read k)), ?_⟩
  simp only [slots, Scenario.all, List.flatMap_cons, List.flatMap_nil, List.append_nil,
    slots_locksAndExtension, firstPlaces, lastPlaces, List.append_assoc]
  rfl

namespace Simulator

/-! ## What a passing audit leaves -/

/-- Registers that are all locked, with these values. -/
def lockedBank (value : Nat → Bytes) : List Register :=
  (List.range 32).map fun i : Nat => ⟨i, true, value i⟩

theorem getElem?_lockedBank (value : Nat → Bytes) {i : Nat} (hi : i < 32) :
    (lockedBank value)[i]? = some ⟨i, true, value i⟩ := by
  simp [lockedBank, hi]

theorem listed_lockedBank {value : Nat → Bytes} {d : State} (h : d.registers = lockedBank value) :
    (lockedRegisters d.bank).map Register.index = (List.range 32).map Int.ofNat := by
  have hfilter : lockedRegisters d.bank = (lockedBank value).filter Register.lock :=
    congrArg (List.filter Register.lock) h
  have hall : (lockedBank value).filter Register.lock = lockedBank value := by
    rw [List.filter_eq_self]
    intro r hr
    obtain ⟨i, -, rfl⟩ := List.mem_map.mp hr
    rfl
  rw [hfilter, hall, lockedBank, List.map_map]
  rfl

/-- A device of these settings passed an audit, with these findings. What it says in the next one
is said of any device with the registers that the first one left. -/
structure Passed (e : Surroundings) (s : Settings) (p : Parameters) (f : Findings) : Prop where
  conforms : ∃ described given, Conforms p described given f
  registerCount : s.registerCount = 32
  describes : ∀ d : State, Operation.describe.read (describe s d) = .ok { f.description with
    lockedRegisters := (lockedRegisters d.bank).map Register.index }
  certifies : ∀ d : State, d.registers = lockedBank (f.value p.extendRounds) →
    Certifies p (answer e s (Slot.bootDocument.request p) d).1

/-- A place where the device is looked at and not changed. -/
def Slot.Looks : Slot → Prop
  | .bootDocument | .firstRead _ | .read _ _ | .plainDocument | .document _ _ | .sample _ => True
  | _ => False

section

variable {e : Surroundings} {s : Settings} {p : Parameters} {f : Findings} {d d' after : State}
variable {described : Value} {given : Slot → Value}

theorem observes_of_looks {x : Slot} (h : Slot.Looks x) : Observes (x.request p) := by
  cases x with
  | firstRead i | read k i => exact ⟨"DescribePCR", _, .entry _ _, by decide⟩
  | bootDocument | plainDocument | document _ _ =>
    exact ⟨"Attestation", _, .entry _ _, by decide⟩
  | sample n => exact ⟨"GetRandom", _, .bare _, by decide⟩
  | _ => cases h

theorem looks_of_mem_slots {scenario : Scenario} (hscenario : scenario ≠ .locksAndExtension)
    {x : Slot} (hx : x ∈ scenario.slots p) : Slot.Looks x := by
  have hplace : x.scenario ≠ .locksAndExtension := by
    rwa [Scenario.scenario_of_mem_slots hx]
  -- every other place is one of that scenario
  cases x <;> trivial

theorem observes_firstPlaces : ∀ x ∈ p.firstPlaces, Observes (x.request p) := by
  intro x hx
  rcases List.mem_append.mp hx with hx | hx
  · exact observes_of_looks (looks_of_mem_slots (by decide) hx)
  · have hfirst : x ∈ Scenario.initialRegisters.slots p := hx
    exact observes_of_looks (looks_of_mem_slots (by decide) hfirst)

theorem observes_lastPlaces : ∀ x ∈ p.lastPlaces, Observes (x.request p) := by
  intro x hx
  simp only [Parameters.lastPlaces, List.mem_append] at hx
  rcases hx with hx | hx | hx
  · obtain ⟨i, -, rfl⟩ := List.mem_map.mp hx
    exact observes_of_looks trivial
  · exact observes_of_looks (looks_of_mem_slots (by decide) hx)
  · exact observes_of_looks (looks_of_mem_slots (by decide) hx)

/-- Answers at places where the device is looked at. -/
theorem said_of_replies {xs : List Slot} (hxs : ∀ x ∈ xs, Observes (x.request p))
    {registers : List Register} (hd : d.Has registers)
    (h : (transport e s).Replies d (xs.map fun x => (x.request p, given x)) d') :
    d'.Has registers ∧ ∀ x ∈ xs, ∃ seen : State, seen.Has registers ∧
      given x = (answer e s (x.request p) seen).1 := by
  obtain ⟨hd', hall⟩ := replies_of_observes (List.forall_mem_map.mpr hxs) hd h
  exact ⟨hd', fun x hx => hall (x.request p, given x) (List.mem_map_of_mem hx)⟩

theorem getElem?_registers_fresh (hs : s.registerCount = 32) {i : Nat} (hi : i < 32) :
    (State.fresh e s).registers[i]? = some (bootRegister e.primitives s i) := by
  have hcount : s.registerCount.toNat = 32 := by rw [hs]; rfl
  simp [State.registers, State.fresh, boot, hcount, hi]

/-- What is read of a device that has the registers it was made with. -/
theorem value_of_fresh (hs : s.registerCount = 32) {i : Nat} (hi : i < 32)
    (hd : d.Has (State.fresh e s).registers) {reading : Operation.Reading}
    (hread : Slot.readRegister (answer e s ((Slot.firstRead i).request p) d).1 = .ok reading) :
    reading.value = bootValue e.primitives s i := by
  obtain ⟨lock, hshown, -⟩ :=
    readRegister_answer (e := e) (p := p) hs hi (hd.2 ▸ getElem?_registers_fresh hs hi)
  rw [hread] at hshown
  rw [Except.ok.inj hshown]
  rfl

/-- A device of which every register is shown to be locked is known by what is shown. -/
theorem registers_eq_lockedBank (hs : s.registerCount = 32) (hplaced : d.bank.Placed s)
    {value : Nat → Bytes} (hreads : ∀ i < 32, ∃ seen : State, seen.Has d.registers ∧
      Slot.readRegister (answer e s ((Slot.firstRead i).request p) seen).1 = .ok ⟨true, value i⟩) :
    d.registers = lockedBank value := by
  refine List.ext_getElem? fun i => ?_
  by_cases hi : i < 32
  · obtain ⟨c, hc⟩ := hplaced.exists_cell (i := i) (by omega)
    have hr : d.registers[i]? = some c.register := by
      rw [State.registers, List.getElem?_map, hc]
      rfl
    obtain ⟨seen, ⟨-, hseen⟩, hread⟩ := hreads i hi
    obtain ⟨lock, hshown, hlock⟩ := readRegister_answer (e := e) (p := p) hs hi (hseen ▸ hr)
    obtain ⟨hset, hvalue⟩ := Operation.Reading.mk.inj (Except.ok.inj (hshown.symm.trans hread))
    have hregister : c.register = ⟨c.register.index, c.register.lock, c.register.value⟩ := rfl
    rw [hr, getElem?_lockedBank value hi, hregister, hplaced.index hc, hlock hset, hvalue]
  · have hlength : d.registers.length = 32 := by
      rw [State.registers, List.length_map, hplaced.length, hs]
      rfl
    have hlocked : (lockedBank value).length = 32 := by simp [lockedBank]
    rw [List.getElem?_eq_none (by omega), List.getElem?_eq_none (by omega)]

/-- The first reads say what a device started with. -/
theorem started_of_firstPlaces (h : Conforms p described given f) (hs : s.registerCount = 32)
    (hd : d.Has (State.fresh e s).registers)
    (hreplies : (transport e s).Replies d (p.firstPlaces.map fun x => (x.request p, given x)) d') :
    ∀ i < 32, (f.first i).value = bootValue e.primitives s i := by
  intro i hi
  have hmem : Slot.firstRead i ∈ p.firstPlaces :=
    List.mem_append_right _ (List.mem_map_of_mem (List.mem_range.mpr hi))
  obtain ⟨seen, hseen, hanswer⟩ := (said_of_replies observes_firstPlaces hd hreplies).2 _ hmem
  exact value_of_fresh hs hi hseen (hanswer ▸ (h.firstRead i hi).1)

/-- The last reads say that all registers are locked, and with which values. A document that can
come at the start of an audit has come with the same registers by then. -/
theorem locked_of_lastPlaces (h : Conforms p described given f) (hs : s.registerCount = 32)
    (hopen : d.isOpen = true) (hplaced : d.bank.Placed s)
    (hreplies : (transport e s).Replies d (p.lastPlaces.map fun x => (x.request p, given x)) d') :
    d'.registers = lockedBank (f.value p.extendRounds) ∧
      ∀ again : State, again.registers = d'.registers →
        Certifies p (answer e s (Slot.bootDocument.request p) again).1 := by
  obtain ⟨⟨-, hregisters⟩, hsaid⟩ := said_of_replies observes_lastPlaces ⟨hopen, rfl⟩ hreplies
  refine ⟨hregisters.trans ?_, fun again hagain => ?_⟩
  · refine registers_eq_lockedBank (e := e) (p := p) hs hplaced fun i hi => ?_
    have hmem : Slot.read (p.readRounds - 1) i ∈ p.lastPlaces :=
      List.mem_append_left _ (List.mem_map_of_mem (List.mem_range.mpr hi))
    obtain ⟨seen, hseen, hanswer⟩ := hsaid _ hmem
    have hround : p.readRounds - 1 < p.readRounds := by
      have hpos := p.readRounds_pos
      omega
    exact ⟨seen, hseen, hanswer ▸ h.read _ hround i hi⟩
  · have hmem : Slot.plainDocument ∈ p.lastPlaces := by
      simp [Parameters.lastPlaces, Scenario.slots]
    obtain ⟨seen, ⟨-, hseen⟩, hanswer⟩ := hsaid _ hmem
    have hcall : Calls (Slot.bootDocument.request p) "Attestation" _ := .entry _ _
    rw [answer_attest_congr hcall (hagain.trans (hregisters.trans hseen.symm))]
    exact hanswer ▸ h.plainDocument

/-- **What a passing audit leaves of a fresh device**: every register is locked, with the value that
was read last, and what was read first is what the device started with. -/
theorem passed_of_replies (h : Conforms p described given f)
    (hreplies : (transport e s).Replies (State.fresh e s).opened
      (p.exchanges described given p.slots) after) :
    Passed e s p f ∧ after.registers = lockedBank (f.value p.extendRounds) ∧
      ∀ i < 32, (f.first i).value = bootValue e.primitives s i := by
  obtain ⟨middle, hslots⟩ := p.exists_slots_eq
  have hparts : p.exchanges described given p.slots =
      [(.text "DescribeNSM", described)] ++ (p.firstPlaces.map (fun x => (x.request p, given x)) ++
        (middle.map (fun x => (x.request p, given x)) ++
          p.lastPlaces.map fun x => (x.request p, given x))) := by
    rw [Parameters.exchanges, hslots, List.map_append, List.map_append]
    rfl
  rw [hparts] at hreplies
  obtain ⟨d₁, hdescribe, hreplies⟩ := Transport.Replies.append.mp hreplies
  obtain ⟨d₂, hfirst, hreplies⟩ := Transport.Replies.append.mp hreplies
  obtain ⟨d₃, hmiddle, hlast⟩ := Transport.Replies.append.mp hreplies
  -- the description, which is that of any device but for the locked registers that it lists
  have hobserves : ∀ x ∈ [(Value.text "DescribeNSM", described)], Observes x.1 := by
    intro x hx
    rw [List.mem_singleton.mp hx]
    exact ⟨"DescribeNSM", _, .bare _, by decide⟩
  obtain ⟨hd₁, hsaid⟩ := replies_of_observes hobserves ⟨rfl, rfl⟩ hdescribe
  obtain ⟨seen, -, hdescribed⟩ := hsaid _ List.mem_cons_self
  have hdescribed : described = describe s seen := hdescribed
  obtain ⟨hcount, hdescribes⟩ := read_describe_again (hdescribed ▸ h.described)
  have hs : s.registerCount = 32 := hcount.trans h.registerCount
  -- nothing in between moves a register to another place
  have hplaced : (State.fresh e s).opened.bank.Placed s := placed_fresh
  obtain ⟨hopen, hplaced⟩ := kept_of_replies rfl hplaced hdescribe
  obtain ⟨hopen, hplaced⟩ := kept_of_replies hopen hplaced hfirst
  obtain ⟨hopen, hplaced⟩ := kept_of_replies hopen hplaced hmiddle
  obtain ⟨hlocked, hcertifies⟩ := locked_of_lastPlaces h hs hopen hplaced hlast
  exact ⟨⟨⟨described, given, h⟩, hs, hdescribes, fun d hd => hcertifies d (hd.trans hlocked.symm)⟩,
    hlocked, started_of_firstPlaces h hs hd₁ hfirst⟩

/-! ## The next audit -/

namespace Passed

/-- The description that the device gives by then, with the contract of the first audit. -/
def subjectAgain (f : Findings) : Subject where
  description := { f.description with lockedRegisters := (List.range 32).map Int.ofNat }
  contract := f.subject.contract

theorem readFrom (h : Passed e s p f) (hd : d.registers = lockedBank (f.value p.extendRounds)) :
    (subjectAgain f).ReadFrom (describe s d) := by
  obtain ⟨described, given, hconforms⟩ := h.conforms
  refine ⟨?_, Check.ofDescription_eq_ok_iff.mpr ⟨hconforms.registerCount, hconforms.moduleId,
    hconforms.moduleId_short, f.digest, hconforms.digest, rfl⟩⟩
  rw [h.describes d, listed_lockedBank hd]
  rfl

/-- What a passing audit leaves in the registers below sixteen is what it read there first. -/
theorem value_of_mem (h : Passed e s p f) :
    (∀ i ∈ [3, 5, 6, 7, 8, 9, 10, 11, 12, 13, 14, 15], f.value p.extendRounds i = f.zero) ∧
      ∀ i ∈ [0, 1, 2, 4], f.value p.extendRounds i ≠ f.zero := by
  obtain ⟨described, given, hconforms⟩ := h.conforms
  refine ⟨fun i hi => ?_, fun i hi => ?_⟩
  · have hlt : i < 16 := by revert i; decide
    rw [f.value_eq_of_lt _ hlt]
    exact hconforms.firstEmpty i hi
  · have hlt : i < 16 := by revert i; decide
    rw [f.value_eq_of_lt _ hlt]
    exact hconforms.firstMeasured i hi

theorem length_value (h : Passed e s p f) {i : Nat} (hi : i < 32) :
    (f.value p.extendRounds i).length = f.digest.width := by
  obtain ⟨described, given, hconforms⟩ := h.conforms
  exact EnclaveAudit.length_value hconforms.firstRead hconforms.extension le_rfl hi

/-- What the device says to the first requests of the next audit. -/
theorem said_again (h : Passed e s p f) (hd : d.Has (lockedBank (f.value p.extendRounds)))
    (hreplies : (transport e s).Replies d (p.firstPlaces.map fun x => (x.request p, given x)) d') :
    d'.Has (lockedBank (f.value p.extendRounds)) ∧
      (p.attestAtBoot = true → Certifies p (given .bootDocument)) ∧
      ∀ i < 32, ∃ lock, Slot.readRegister (given (.firstRead i)) =
        .ok ⟨lock, f.value p.extendRounds i⟩ := by
  obtain ⟨hd', hsaid⟩ := said_of_replies observes_firstPlaces hd hreplies
  refine ⟨hd', fun hboot => ?_, fun i hi => ?_⟩
  · obtain ⟨seen, ⟨-, hseen⟩, hanswer⟩ := hsaid .bootDocument
      (by simp [Parameters.firstPlaces, Scenario.slots, hboot])
    exact hanswer ▸ h.certifies seen hseen
  · obtain ⟨seen, ⟨-, hseen⟩, hanswer⟩ := hsaid (.firstRead i)
      (List.mem_append_right _ (List.mem_map_of_mem (List.mem_range.mpr hi)))
    obtain ⟨lock, hshown, -⟩ := readRegister_answer (e := e) (p := p) h.registerCount hi
      (hseen ▸ getElem?_lockedBank _ hi)
    exact ⟨lock, hanswer ▸ hshown⟩

/-- **The course of the next audit** ends when the last register was read, at the list of locked
registers, and leaves the device as it was. -/
theorem whole_eq (h : Passed e s p f) (hd : d.Has (lockedBank (f.value p.extendRounds))) :
    ∃ d' l, Course.whole (transport e s) p ⟨d, .empty⟩ =
        .error (.violated .initialRegisters allLocked) ⟨d', l⟩ ∧
      d'.Has (lockedBank (f.value p.extendRounds)) ∧
      l.checks = 35 + if p.attestAtBoot then 1 else 0 := by
  have hdescribe := replies_answer (e := e) (s := s) (.text "DescribeNSM") hd.1
  rw [answer_describe (.bare "DescribeNSM")] at hdescribe
  have hd₁ : d.requested.Has (lockedBank (f.value p.extendRounds)) := hd
  have hread := h.readFrom hd₁.2
  obtain ⟨given, d₃, hreplies⟩ := exists_replies_of_observes (e := e) (s := s) p.nodup_firstPlaces
    observes_firstPlaces hd₁
  obtain ⟨hd₃, hdocument, hreads⟩ := h.said_again hd₁ hreplies
  obtain ⟨l, l', hexamine, hreview⟩ := examine_of_allLocked hread hdocument hreads
    (fun i hi => h.length_value hi) h.value_of_mem.1 h.value_of_mem.2 rfl
  -- the last of the first reads is a step of its own
  rw [← p.asked_stepsBeforeLastFirstRead, List.map_append] at hreplies
  obtain ⟨d₂, hearlier, hlast⟩ := Transport.Replies.append.mp hreplies
  obtain ⟨later, hsteps⟩ := p.exists_stepsBeforeLastFirstRead_eq
  have hidentify : Course.identify (transport e s) ⟨d, .empty⟩ =
      .ok (subjectAgain f) ⟨d.requested, .identified (subjectAgain f).description⟩ :=
    Course.identify_eq_ok_iff.mpr ⟨_, hdescribe, hread, rfl⟩
  have hstep : Course.step (transport e s) p (subjectAgain f) (.ask (.firstRead 31)) ⟨d₂, l⟩ =
      .error (.violated .initialRegisters allLocked) ⟨d₃, l'⟩ :=
    Course.step_ask_eq_error_iff.mpr (.inr ⟨_, _, hlast, rfl, hreview⟩)
  refine ⟨d₃, l', Course.whole_of_step_error hsteps hidentify
    (Course.steps_of_replies hearlier hexamine) hstep, hd₃, ?_⟩
  have hprecedence : allLocked.check.precedence = 2 := rfl
  rw [checks_of_lastFirstRead hexamine hreview, hprecedence]
  omega

/-- **The next audit** fails at the list of locked registers, and changes none. -/
theorem run_again {a : Auditor} (h : Passed e s a.parameters f)
    (hd : d.registers = lockedBank (f.value a.parameters.extendRounds)) (runId : String)
    (now : Instant) :
    (∃ r, (a.run (transport e s) runId now d).outcome = .ok r ∧ r.FindsAllLocked a.parameters) ∧
      (a.run (transport e s) runId now d).device.registers = d.registers := by
  have hopened : d.opened.Has (lockedBank (f.value a.parameters.extendRounds)) := ⟨rfl, hd⟩
  obtain ⟨d', l, hwhole, hd', hchecks⟩ := h.whole_eq hopened
  have hacquire : ((transport e s).acquire d).result = .ok () := rfl
  have hends := a.run_ends runId now hacquire
  have hcourse : Course.whole (transport e s) a.parameters
      ⟨((transport e s).acquire d).device, .empty⟩ = _ := hwhole
  rw [hcourse] at hends
  obtain ⟨hdevice, r, houtcome, hphase, hfailure, hcount⟩ := hends
  refine ⟨⟨r, houtcome, ?_⟩, ?_⟩
  · -- the scenarios that passed are those before the one that failed
    obtain ⟨r', houtcome', haccounted, -⟩ : (a.run (transport e s) runId now d).Accounted
        a.parameters (transport e s) := by
      rcases a.run_account runId now hacquire with h' | ⟨fault, h', -⟩ | h' | ⟨i, h'⟩
      · exact h'
      all_goals cases houtcome.symm.trans h'
    obtain rfl : r = r' := Except.ok.inj (houtcome.symm.trans houtcome')
    have hpassed : r.scenariosPassed = [.description] := by
      rcases haccounted.ends with ⟨hdone, -⟩ | ⟨scenario, later, v, -, hall, hfailure', -⟩
      · cases hphase.symm.trans hdone
      · obtain ⟨rfl, -⟩ := Prod.mk.inj (Option.some.inj (hfailure.symm.trans hfailure'))
        exact before_initialRegisters hall
    refine ⟨hphase, hfailure, ?_, hpassed, hcount.trans hchecks⟩
    rw [haccounted.history, hpassed, hphase]
    rfl
  · rw [hdevice, hd]
    exact hd'.2

end Passed

/-! ## Runs -/

/-- The device after audits, each by its auditor, under its name and at its time. -/
def State.audited (e : Surroundings) (s : Settings) (d : State)
    (audits : List (Auditor × String × Instant)) : State :=
  audits.foldl (fun d x => (x.1.run (transport e s) x.2.1 x.2.2 d).device) d

/-- No audit that comes after one that passed changes a register. -/
theorem Passed.registers_audited (h : Passed e s p f)
    (hd : d.registers = lockedBank (f.value p.extendRounds))
    (audits : List (Auditor × String × Instant)) (hp : ∀ x ∈ audits, x.1.parameters = p) :
    (d.audited e s audits).registers = d.registers := by
  induction audits generalizing d with
  | nil => rfl
  | cons x audits ih =>
    obtain ⟨hx, hp⟩ := List.forall_mem_cons.mp hp
    subst hx
    have hsame := (h.run_again hd x.2.1 x.2.2).2
    exact (ih (hsame.trans hd) hp).trans hsame

end

/-- An audit that is done was answered by a device that conforms. -/
theorem exists_conforms (a : Auditor) {e : Surroundings} {s : Settings} {d : State} (runId : String)
    (now : Instant)
    (h : ∃ r, (a.run (transport e s) runId now d).outcome = .ok r ∧ r.phase = .done) :
    ∃ described given after f, (transport e s).Replies d.opened
        (a.parameters.exchanges described given a.parameters.slots) after ∧
      Conforms a.parameters described given f ∧
      (a.run (transport e s) runId now d).device = after.released := by
  have hacquire : ((transport e s).acquire d).result = .ok () := rfl
  obtain ⟨st, hwhole⟩ := (a.exists_done_iff runId now hacquire).mp h
  have hends := a.run_ends runId now hacquire
  rw [hwhole] at hends
  obtain ⟨u, described, given, l, hreplies, hread, hexamine, -⟩ :=
    Course.whole_eq_ok_iff.mp hwhole
  have hsubject := Findings.subject_of a.parameters given hread
  have hconforms := (exists_examine_iff (Findings.of_covers u a.parameters given)
    (hsubject.symm ▸ hread)).mp ⟨l, hsubject.symm ▸ hexamine⟩
  exact ⟨described, given, st.device, _, hreplies, hconforms, hends.1⟩

/-- **An audit that passes consumes the device**, whatever its settings and its faults are, and for
all parameters. When an audit of a fresh device is done, every register is locked: those below
sixteen hold what they held when the machine started, and each of the others what its last extension
returned. Every audit after that, with the same parameters and in the same surroundings, fails at
the number of locked registers in the description, and leaves the registers as they are. -/
theorem passing_run_consumes (a : Auditor) (e : Surroundings) (s : Settings) (runId : String)
    (now : Instant)
    (hdone : ∃ r, (a.run (transport e s) runId now (State.fresh e s)).outcome = .ok r ∧
      r.phase = .done) :
    let p := a.parameters
    let d := (a.run (transport e s) runId now (State.fresh e s)).device
    (∃ (described : Value) (given : Slot → Value) (after : State) (v : Nat → Bytes),
      (transport e s).Replies (State.fresh e s).opened (p.exchanges described given p.slots) after ∧
      d = after.released ∧
      d.registers = (List.range 32).map (fun i : Nat =>
        ⟨i, true, if i < 16 then bootValue e.primitives s i else v i⟩) ∧
      ∀ i, 16 ≤ i → i < 32 →
        Slot.readExtension (given (.extension (p.extendRounds - 1) i)) = .ok (v i)) ∧
    ∀ earlier : List (Auditor × String × Instant), (∀ x ∈ earlier, x.1.parameters = p) →
      ∀ b : Auditor, b.parameters = p → ∀ (runId' : String) (now' : Instant),
        let c := b.run (transport e s) runId' now' (d.audited e s earlier)
        (∃ r, c.outcome = .ok r ∧ r.FindsAllLocked p) ∧
          (d.audited e s earlier).registers = d.registers ∧ c.device.registers = d.registers := by
  intro p d
  obtain ⟨described, given, after, f, hreplies, hconforms, hdevice⟩ :=
    exists_conforms a runId now hdone
  obtain ⟨hpassed, hlocked, hstarted⟩ := passed_of_replies hconforms hreplies
  have hregisters : d.registers = lockedBank (f.value p.extendRounds) := by
    have hd : d = after.released := hdevice
    rw [hd]
    exact hlocked
  refine ⟨⟨described, given, after, f.value p.extendRounds, hreplies, hdevice, ?bank, ?last⟩,
    ?again⟩
  case bank =>
    rw [hregisters, lockedBank]
    refine List.map_congr_left fun i hi => ?_
    split_ifs with hlt
    · rw [f.value_eq_of_lt _ hlt, hstarted i (List.mem_range.mp hi)]
    · rfl
  case last =>
    intro i hge hi
    have hpos := p.extendRounds_pos
    obtain ⟨k, hk⟩ : ∃ k, p.extendRounds = k + 1 := ⟨p.extendRounds - 1, by omega⟩
    have hfree : ¬i < 16 := by omega
    rw [hk, Nat.add_sub_cancel, Findings.value, if_neg hfree]
    exact (hconforms.extension k (hk ▸ Nat.lt_succ_self k) i hge hi).1
  case again =>
    intro earlier hp b hb runId' now'
    have hsame := hpassed.registers_audited hregisters earlier hp
    have hagain := (hb.symm ▸ hpassed : Passed e s b.parameters f).run_again
      (d := d.audited e s earlier) (by rw [hsame, hregisters, hb]) runId' now'
    rw [hb] at hagain
    exact ⟨hagain.1, hsame, hagain.2.trans hsame⟩

/-- A device with a lock that flaps passes if each register is read once, and is consumed by it. -/
theorem passing_run_consumes_a_flapping_device :
    let a : Auditor := ⟨{ brief with readRounds := 1, readRounds_pos := Nat.one_pos }, .empty⟩
    let s : Settings := { faults := [.lockFlap] }
    let first := a.run (transport numbered s) "" (0 : Int) (State.fresh numbered s)
    let second := a.run (transport numbered s) "" (0 : Int) first.device
    (∃ r, first.outcome = .ok r ∧ r.phase = .done) ∧
      (∀ r ∈ first.device.registers, r.lock = true) ∧
      (∃ r, second.outcome = .ok r ∧ r.FindsAllLocked a.parameters) ∧
      second.device.registers = first.device.registers := by
  intro a s first second
  have husual : s.Usual :=
    ⟨rfl, rfl, Int.le_of_lt Int.one_pos, Int.le_refl 0, Int.le_refl 0, by decide, by decide⟩
  have hfortunate : Fortunate numbered s a.parameters := {
    measured := by decide +kernel
    extended := fun _ => by decide +kernel
    changed := fun _ _ => by decide +kernel
    drawn := fun _ n hn => by
      have hlt : n < 15 := Nat.lt_of_succ_lt_succ hn
      clear hn
      revert n
      decide +kernel }
  obtain ⟨d, hreplies, hd⟩ := exists_replies_describe (e := numbered) (p := a.parameters)
    husual.registerCount
  have hsteps : Comes numbered s a.parameters
      (· = ⟨d, .identified (findings numbered s a.parameters).subject.description⟩)
      a.parameters.steps (verdict s a.parameters) fun _ => True := by
    refine (comes_steps numbered_usual husual hfortunate (by decide)).imp ?_ fun _ _ => trivial
    rintro _ rfl
    exact ⟨hd, rfl, rfl⟩
  have hverdict : verdict s a.parameters = none := by decide
  rw [hverdict] at hsteps
  obtain ⟨r, houtcome, hphase, -⟩ := a.run_of_brings "" (0 : Int) rfl hreplies
    (readFrom_describe husual) hsteps
  have hdone : ∃ r, first.outcome = .ok r ∧ r.phase = .done := ⟨r, houtcome, hphase⟩
  obtain ⟨⟨_, _, _, _, -, -, hregisters, -⟩, hagain⟩ :=
    passing_run_consumes a numbered s "" (0 : Int) hdone
  obtain ⟨hfails, -, hsame⟩ := hagain [] nofun a rfl "" (0 : Int)
  refine ⟨hdone, fun r hr => ?_, hfails, hsame⟩
  rw [hregisters] at hr
  obtain ⟨i, -, rfl⟩ := List.mem_map.mp hr
  rfl

end Simulator

end EnclaveAudit
