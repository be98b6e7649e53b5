import EnclaveAudit.CommandLine.Program
import EnclaveAudit.Proofs.Audit.Consistency
import EnclaveAudit.Proofs.Audit.Documents
import EnclaveAudit.Proofs.Simulator.Findings
import EnclaveAudit.Proofs.Simulator.Observing

/-!
# `EnclaveAudit/Proofs/CommandLine/ExitCodes.lean` — what the program says about an audit

Someone who runs the program in a script sees an exit code and an output. Both tell how the audit
went: the code is that of the setup exactly if there was no audit to judge by, and otherwise says
whether the device conforms; the output is empty, or the report as one document.

The devices that the program can be pointed at are `Fit` for that: one that cannot be acquired is
unavailable, which is a matter of the setup, and one that was acquired always answers. The one thing
asked of an operating system is that no integer in a reply is too long to be written.

A simulated device of a digest or with a fault that there is not is no device at all; asking for one
ends the program without an exit code of its own (`program_escapes`).
-/

set_option autoImplicit false

namespace EnclaveAudit

/-! ## Devices that can be audited -/

/-- A device that cannot be had is unavailable, and one that was acquired always answers, in numbers
that are short. -/
structure Transport.Fit {σ : Type} (t : Transport σ) (device : σ) : Prop where
  unavailable : ∀ i, (t.acquire device).result = .error i → i.isUnavailable = true
  answers : (t.acquire device).result = .ok () →
    ∃ I : σ → Prop, I (t.acquire device).device ∧ t.Answers I

namespace Simulator

/-- A simulated device with its registers in their places, and no more of them than there should be,
describes itself in short numbers. -/
theorem answers_placed (e : Surroundings) (digest : Digest) (faults : List Fault) (seed : Bytes) :
    (transport e { digest, faults, seed }).Answers fun d =>
      d.isOpen = true ∧ d.bank.Placed { digest, faults, seed } where
  answers _ request hd := ⟨_, result_exchange hd.1 request⟩
  lasts d request hd := by
    refine ⟨isOpen_exchange hd.1 request, ?_⟩
    rw [exchange_of_open hd.1]
    exact (indices_answer request).trans hd.2
  short d answer description hd hanswer hread := by
    obtain ⟨hopen, hplaced⟩ := hd
    have hdescribe : answer = describe { digest, faults, seed } d := by
      rw [result_exchange hopen] at hanswer
      exact (Except.ok.inj hanswer).symm
    rw [hdescribe] at hread
    have hone : (0 : Int) ≤ 1 ∧ (1 : Int) < 2 ^ 64 := by decide
    have hzero : (0 : Int) ≤ 0 ∧ (0 : Int) < 2 ^ 64 := by decide
    refine isWritable_of_read_describe rfl rfl hone hzero hzero ?_ hread
    intro r hr
    obtain ⟨i, c, hindex, hc, -⟩ := hplaced.mem_lockedRegisters_iff.mp (List.mem_map_of_mem hr)
    exact ⟨i, Int.ofNat_lt.mp (hplaced.lt_of_getElem? hc), hindex⟩

theorem fit_fresh (e : Surroundings) (digest : Digest) (faults : List Fault) (seed : Bytes) :
    (transport e { digest, faults, seed }).Fit (.fresh e { digest, faults, seed }) where
  unavailable _ h := nomatch h
  answers _ := ⟨_, ⟨rfl, placed_fresh⟩, answers_placed e digest faults seed⟩

end Simulator

namespace DeviceFile

variable {φ : Type} {system : System φ}

/-- Whatever a reply decodes to has integers that can be written. -/
def System.RepliesBriefly (system : System φ) : Prop :=
  ∀ descriptor octets s reply v, (system.control descriptor octets s).1 = .ok reply →
    system.decode (window reply) = .ok v → v.isBrief = true

theorem answersBriefly (h : system.RepliesBriefly) (path : String) :
    (transport system path).AnswersBriefly fun d => d.descriptor.isSome = true where
  answers d request hd := by
    obtain ⟨descriptor, hdescriptor⟩ := Option.isSome_iff_exists.mp hd
    show ∃ answer, (exchange system path request d).result = .ok answer ∧ _
    simp only [exchange, hdescriptor]
    split_ifs
    · exact ⟨_, rfl, rfl⟩
    · refine ⟨_, rfl, ?_⟩
      cases hcontrol : (system.control descriptor (Cbor.encode request) d.system).1 with
      | error number => rfl
      | ok reply =>
        simp only [answerOf]
        cases hdecode : system.decode (window reply) with
        | ok v => exact h _ _ _ reply v hcontrol hdecode
        | error cause => rfl
  lasts d request hd := by
    obtain ⟨descriptor, hdescriptor⟩ := Option.isSome_iff_exists.mp hd
    show (exchange system path request d).device.descriptor.isSome = true
    simp only [exchange, hdescriptor]
    split_ifs
    · exact hd
    · rfl

theorem fit_closed (h : system.RepliesBriefly) (path : String) (s : φ) :
    (transport system path).Fit { system := s } where
  unavailable i hi := by
    have hacquire : (acquire system path { system := s }).result = .error i := hi
    unfold acquire at hacquire
    split at hacquire
    · cases hacquire
    · cases hacquire
      rfl
  answers hok := by
    have hacquire : (acquire system path { system := s }).result = .ok () := hok
    refine ⟨_, ?_, (answersBriefly h path).toAnswers⟩
    show (acquire system path { system := s }).device.descriptor.isSome = true
    unfold acquire at hacquire ⊢
    split at hacquire <;> simp_all

end DeviceFile

/-! ## Audits of such devices -/

namespace Auditor

variable {σ : Type} (a : Auditor) {t : Transport σ} {device : σ} (runId : String) (now : Instant)

/-- A run on a fit device has a report, or it is the setup that is at fault. -/
theorem run_of_fit (hfit : t.Fit device) :
    (∃ r, (a.run t runId now device).outcome = .ok r) ∨
      ∃ cause, (a.run t runId now device).outcome = .error cause ∧ cause.isSetup = true := by
  cases hacquire : (t.acquire device).result with
  | error i =>
    exact .inr ⟨_, (a.run_of_not_acquired runId now hacquire).1, hfit.unavailable i hacquire⟩
  | ok u =>
    obtain ⟨I, hI, ht⟩ := hfit.answers hacquire
    rcases a.run_reports runId now hacquire hI ht with hr | ⟨fault, hfault⟩
    · exact .inl hr
    · exact .inr ⟨_, hfault, rfl⟩

/-- The setup is at fault exactly if the device cannot be had, or describes itself as one that no bank
can be modelled on. -/
theorem exists_setback_iff (hfit : t.Fit device) :
    (∃ cause, (a.run t runId now device).outcome = .error cause) ↔
      (∃ i, (t.acquire device).result = .error i) ∨
        ∃ answer description fault, t.FirstAnswer device answer ∧
          Operation.describe.read answer = .ok description ∧
          Contract.ofDescription description = .error fault := by
  constructor
  · rintro ⟨cause, hcause⟩
    cases hacquire : (t.acquire device).result with
    | error i => exact .inl ⟨i, rfl⟩
    | ok u =>
      obtain ⟨I, hI, ht⟩ := hfit.answers hacquire
      rcases a.run_reports runId now hacquire hI ht with ⟨r, hr⟩ | ⟨fault, hfault⟩
      · cases hcause.symm.trans hr
      · obtain ⟨answer, description, hanswer, hread, hof, -⟩ := a.run_unusable_iff.mp hfault
        exact .inr ⟨answer, description, fault, hanswer, hread, hof⟩
  · rintro (⟨i, hi⟩ | ⟨answer, description, fault, hanswer, hread, hof⟩)
    · exact ⟨_, (a.run_of_not_acquired runId now hi).1⟩
    · obtain ⟨I, hI, ht⟩ := hfit.answers hanswer.1
      have hshort := ht.short _ answer description hI hanswer.2 hread
      have hwritable := Course.isWritable_observed hshort hof
      exact ⟨_, a.run_unusable_iff.mpr ⟨answer, description, hanswer, hread, hof, hwritable⟩⟩

variable {runId now} {r : Report}

/-- A report is of a run that is over. -/
theorem run_report_is_final (h : (a.run t runId now device).outcome = .ok r) :
    r.phase = .done ∨ r.phase = .failed := by
  obtain ⟨-, ⟨st, hwhole, rfl⟩ | ⟨s, v, st, -, -, rfl⟩⟩ := a.run_eq_ok h
  · obtain ⟨_, _, _, l, -, -, -, hl⟩ := Course.whole_eq_ok_iff.mp hwhole
    exact .inl (by rw [Ledger.report, hl, l.phase_finish])
  · exact .inr st.ledger.phase_fail

theorem run_report_is_writable (hfit : t.Fit device)
    (h : (a.run t runId now device).outcome = .ok r) : r.isWritable = true := by
  unfold Report.isWritable
  cases hd : r.description with
  | none => rfl
  | some d =>
    obtain ⟨answer, ⟨hacquire, hanswer⟩, hread⟩ := a.run_describes h hd
    obtain ⟨I, hI, ht⟩ := hfit.answers hacquire
    rw [Option.map_some, Option.getD_some]
    exact ht.short _ answer d hI hanswer hread

end Auditor

namespace CommandLine

/-! ## What is printed -/

/-- What is printed tells how a run ended. -/
structure Printed.Tells (printed : Printed) (json : Bool) (outcome : Except Setback Report) :
    Prop where
  setup : printed.exit = 2 ↔ ∃ cause, outcome = .error cause
  failed : printed.exit = 1 ↔ ∃ r, outcome = .ok r ∧ r.phase = .failed
  done : printed.exit = 0 ↔ ∃ r, outcome = .ok r ∧ r.phase = .done
  document : ∀ r, json = true → outcome = .ok r → Json.read? printed.output = some r.document
  silent : (json = true → ∀ r, outcome ≠ .ok r) → printed.output = ""

theorem Printed.tells_setup (json : Bool) (reason : String) (cause : Setback) :
    (Printed.setup reason).Tells json (.error cause) where
  setup := iff_of_true rfl ⟨cause, rfl⟩
  failed := iff_of_false nofun (by rintro ⟨r, hr, -⟩; cases hr)
  done := iff_of_false nofun (by rintro ⟨r, hr, -⟩; cases hr)
  document _ _ hr := nomatch hr
  silent _ := rfl

/-- The exit code by a report is that of a device that conforms exactly if the audit is done. -/
theorem exit_eq_conformant_iff (r : Report) :
    (if r.passed then exitConformant else exitViolation) = 0 ↔ r.phase = .done := by
  unfold Report.passed
  by_cases hdone : r.phase = .done
  · rw [decide_eq_true hdone]
    exact iff_of_true rfl hdone
  · rw [decide_eq_false hdone]
    exact iff_of_false nofun hdone

/-- Of a report that is final, it is that of a violation exactly if the audit failed. -/
theorem exit_eq_violation_iff {r : Report} (hfinal : r.phase = .done ∨ r.phase = .failed) :
    (if r.passed then exitConformant else exitViolation) = 1 ↔ r.phase = .failed := by
  unfold Report.passed
  rcases hfinal with hdone | hfailed
  · rw [hdone]
    exact iff_of_false nofun nofun
  · rw [hfailed]
    exact iff_of_true rfl rfl

/-- It is never that of the setup. -/
theorem exit_ne_setup (r : Report) :
    (if r.passed then exitConformant else exitViolation) ≠ exitSetup := by
  split_ifs <;> decide

/-- What is printed of a report that is final tells that there is one and what it says, if the output
is its document where that was asked for, and otherwise empty. -/
theorem Printed.tells_report {json : Bool} {r : Report}
    (hfinal : r.phase = .done ∨ r.phase = .failed) {output : String} (errors : String)
    (houtput : if json then Json.read? output = some r.document else output = "") :
    Printed.Tells ⟨if r.passed then exitConformant else exitViolation, output, errors⟩ json
      (.ok r) := by
  have hphase : ∀ phase : Phase, (∃ r', (Except.ok r : Except Setback Report) = .ok r' ∧
      r'.phase = phase) ↔ r.phase = phase := by
    intro phase
    constructor
    · rintro ⟨r', hr', hphase⟩
      cases hr'
      exact hphase
    · exact fun hphase => ⟨r, rfl, hphase⟩
  refine { setup := iff_of_false (exit_ne_setup r) nofun
           failed := (exit_eq_violation_iff hfinal).trans (hphase .failed).symm
           done := (exit_eq_conformant_iff r).trans (hphase .done).symm
           document := ?_
           silent := ?_ }
  · rintro r' rfl hr'
    cases hr'
    exact houtput
  · intro hnone
    cases json with
    | false => exact houtput
    | true => exact absurd rfl (hnone rfl r)

theorem printReport_tells {json : Bool} {r : Report}
    (hfinal : r.phase = .done ∨ r.phase = .failed) (hplain : r.document.Plain)
    (hwritable : r.isWritable = true) :
    ∃ printed, printReport json r = .ok printed ∧ printed.Tells json (.ok r) := by
  cases json with
  | false => exact ⟨_, rfl, Printed.tells_report hfinal (verdictText r) rfl⟩
  | true =>
    obtain ⟨text, htext, hread⟩ := hplain.json (.indented 2)
    have hbreak : ∀ c ∈ "\n".toList, Json.isBlank c = true := List.forall_mem_singleton.mpr rfl
    have hline := hread "\n" hbreak
    refine ⟨_, ?_, Printed.tells_report hfinal (verdictText r) hline⟩
    simp only [printReport, hwritable, documentText, htext]
    rfl

section

variable {φ : Type} (m : Machine φ)

/-- An audit of a fit device ends with an exit code, which tells how. -/
theorem auditOn_tells {σ : Type} {t : Transport σ} {device : σ} (hfit : t.Fit device)
    (p : Parameters) (json : Bool) (log : Logbook) :
    ∃ printed, (auditOn m t device p json log).1 = .ok printed ∧
      printed.Tells json (({ parameters := p } : Auditor).run t (m.runName (log.made + 1))
        m.surroundings.now device).outcome := by
  rcases Auditor.run_of_fit { parameters := p } (m.runName (log.made + 1)) m.surroundings.now
    hfit with ⟨r, hr⟩ | ⟨cause, hcause, hsetup⟩
  · simp only [auditOn, hr]
    exact printReport_tells (Auditor.run_report_is_final _ hr) (Auditor.run_report_is_plain _ hr)
      (Auditor.run_report_is_writable _ hfit hr)
  · simp only [auditOn, hcause]
    cases cause with
    | unusable fault => exact ⟨_, rfl, Printed.tells_setup json fault.message _⟩
    | interrupted i => exact ⟨_, if_pos hsetup, Printed.tells_setup json i.message _⟩
    | unwritable => cases hsetup

end

/-! ## The program -/

/-- A device that the program can be pointed at. -/
structure Device where
  State : Type
  transport : Transport State
  start : State

/-- The device that is asked for, if there is one. -/
def Source.device? {φ : Type} (m : Machine φ) (settings : Settings) (system : φ) :
    Source → Option Device
  | .file path =>
    some ⟨_, DeviceFile.transport m.system (path.getD settings.devicePath), { system }⟩
  | .simulated digest faults =>
    let made : Simulator.Settings := { digest, faults, seed := m.seed }
    some ⟨_, Simulator.transport m.surroundings made, .fresh m.surroundings made⟩
  | .impossible _ => none

theorem Source.fit_of_device? {φ : Type} {m : Machine φ} (hbrief : m.system.RepliesBriefly)
    {settings : Settings} {system : φ} {source : Source} {d : Device}
    (h : source.device? m settings system = some d) : d.transport.Fit d.start := by
  cases source with
  | file path =>
    cases h
    exact DeviceFile.fit_closed hbrief _ system
  | simulated digest faults =>
    cases h
    exact Simulator.fit_fresh m.surroundings digest faults m.seed
  | impossible cause => cases h

theorem made_of_configured {c : LogConfiguration} {log : Logbook}
    (h : Logbook.configured {} c = .ok log) : log.made = 0 := by
  unfold Logbook.configured at h
  cases hlevel : Level.ofName c.level with
  | error u =>
    rw [hlevel] at h
    cases h
  | ok level =>
    rw [hlevel] at h
    cases h
    rfl

/-- What a run on a device that there is prints, is what the audit of that device does. -/
theorem withDevice_of_device? {φ : Type} {m : Machine φ} {settings : Settings} {system : φ}
    {source : Source} {d : Device} (h : source.device? m settings system = some d) (log : Logbook)
    (task : DeviceTask) :
    (source.withDevice m settings system log task).1 =
      (task d.State d.transport d.start log).1 := by
  cases source with
  | file path =>
    cases h
    rfl
  | simulated digest faults =>
    cases h
    rfl
  | impossible cause => cases h

section

variable {φ : Type} {m : Machine φ} {arguments : List String} {system : φ} {log : Logbook}
  {invocation : Invocation}

/-- Arguments behind the word for it that are all taken up are read as a run. -/
theorem read_of_run {said : Said}
    (hprogram : readScope .program ("run" :: arguments) = .ok ({}, some ("run", arguments)))
    (hrun : readScope .run arguments = .ok (said, none)) (hstrays : said.strays = []) :
    read ("run" :: arguments) = .ok ⟨none, none, .run said.source (said.has .json)⟩ := by
  have hname : Scope.ofName? "run" = some .run := by decide
  refine Check.bind_eq_ok_iff.mpr ⟨_, hprogram, ?_⟩
  simp only [hname, hrun]
  refine Check.bind_eq_ok_iff.mpr ⟨(said, none), rfl, ?_⟩
  refine Check.bind_eq_ok_iff.mpr ⟨(.run, said), rfl, ?_⟩
  rw [hstrays]
  rfl

/-- What the program prints is what its command prints, the log aside. -/
theorem program_of_read (hread : read arguments = .ok invocation)
    (hlog : Logbook.configured {}
      (invocation.logConfiguration (.ofEnvironment m.environment)) = .ok log) :
    let performed := invocation.command.perform m (.ofEnvironment m.environment) system log
    program m arguments system =
      (performed.1.map fun p => { p with errors := performed.2.1.text ++ p.errors },
        performed.2.1, performed.2.2) := by
  unfold program
  rw [hread]
  dsimp only
  rw [hlog]

theorem Printed.Tells.withErrors {printed : Printed} {json : Bool}
    {outcome : Except Setback Report} (h : printed.Tells json outcome) (errors : String) :
    Printed.Tells { printed with errors } json outcome :=
  ⟨h.setup, h.failed, h.done, h.document, h.silent⟩

variable {level : Option String} {style : Option LineStyle} {source : Source} {json : Bool}

/-- The program when the parameters are refused. -/
theorem program_of_refused {problems : List Problem}
    (hread : read arguments = .ok ⟨level, style, .run source json⟩)
    (hlog : Logbook.configured {} (Invocation.logConfiguration ⟨level, style, .run source json⟩
      (.ofEnvironment m.environment)) = .ok log)
    (hparameters : m.environment.parameters = .error problems) :
    ∃ printed, (program m arguments system).1 = .ok printed ∧ printed.exit = 2 ∧
      printed.output = "" ∧ (program m arguments system).2.2 = system := by
  rw [program_of_read hread hlog]
  simp only [Command.perform, hparameters]
  exact ⟨_, rfl, rfl, rfl, trivial⟩

/-- The program when there is an audit. -/
theorem program_of_audit {p : Parameters} {d : Device}
    (hread : read arguments = .ok ⟨level, style, .run source json⟩)
    (hlog : Logbook.configured {} (Invocation.logConfiguration ⟨level, style, .run source json⟩
      (.ofEnvironment m.environment)) = .ok log)
    (hparameters : m.environment.parameters = .ok p)
    (hdevice : source.device? m (.ofEnvironment m.environment) system = some d)
    (hfit : d.transport.Fit d.start) :
    ∃ printed, (program m arguments system).1 = .ok printed ∧
      printed.Tells json (({ parameters := p } : Auditor).run d.transport (m.runName 1)
        m.surroundings.now d.start).outcome := by
  obtain ⟨printed, hprinted, htells⟩ := auditOn_tells m hfit p json log
  rw [made_of_configured hlog] at htells
  rw [program_of_read hread hlog]
  simp only [Command.perform, hparameters, withDevice_of_device? hdevice, hprinted]
  exact ⟨_, rfl, htells.withErrors _⟩

/-- A device that there is not ends the program without an exit code. -/
theorem program_of_impossible {p : Parameters} {cause : NoChoice}
    (hread : read arguments = .ok ⟨level, style, .run (.impossible cause) json⟩)
    (hlog : Logbook.configured {}
      (Invocation.logConfiguration ⟨level, style, .run (.impossible cause) json⟩
        (.ofEnvironment m.environment)) = .ok log)
    (hparameters : m.environment.parameters = .ok p) :
    (program m arguments system).1 = .error (.impossible cause) := by
  rw [program_of_read hread hlog]
  simp only [Command.perform, hparameters]
  rfl

theorem exists_ok_of_isOk {ε α : Type} {x : Except ε α} (h : x.isOk = true) : ∃ a, x = .ok a := by
  cases x with
  | ok a => exact ⟨a, rfl⟩
  | error e => cases h

/-- **Exit code and output tell how the audit went.** For every command line that asks for an audit of
a device that there is, under every environment, and whatever the device does, the program ends with
an exit code. It is the code of the setup exactly if the parameters are refused, the device cannot be
acquired, or its first answer is a description that no bank can be modelled on; it is that of a
violation exactly if the report of the run says that the audit failed, and that of a device that
conforms exactly if the report says that it is done. Parameters that are refused leave the operating
system alone. Whatever violation a report holds, it can be printed; where it was asked for, the output
is a document that is read as the report, and in all other cases the output is empty. -/
theorem program_run_tells {d : Device}
    (hread : read arguments = .ok ⟨level, style, .run source json⟩)
    (hlog : Logbook.configured {} (Invocation.logConfiguration ⟨level, style, .run source json⟩
      (.ofEnvironment m.environment)) = .ok log)
    (hdevice : source.device? m (.ofEnvironment m.environment) system = some d)
    (hbrief : m.system.RepliesBriefly) :
    let reported (r : Report) := ∃ p, m.environment.parameters = .ok p ∧
      (({ parameters := p } : Auditor).run d.transport (m.runName 1) m.surroundings.now
        d.start).outcome = .ok r
    ∃ printed, (program m arguments system).1 = .ok printed ∧
      (printed.exit = 2 ↔ (∃ problems, m.environment.parameters = .error problems) ∨
        (∃ i, (d.transport.acquire d.start).result = .error i) ∨
        ∃ answer description fault, d.transport.FirstAnswer d.start answer ∧
          Operation.describe.read answer = .ok description ∧
          Contract.ofDescription description = .error fault) ∧
      (printed.exit = 1 ↔ ∃ r, reported r ∧ r.phase = .failed) ∧
      (printed.exit = 0 ↔ ∃ r, reported r ∧ r.phase = .done) ∧
      (∀ problems, m.environment.parameters = .error problems →
        (program m arguments system).2.2 = system) ∧
      (∀ r, reported r →
        r.document.Plain ∧ (json = true → Json.read? printed.output = some r.document)) ∧
      ((json = true → ∀ r, ¬reported r) → printed.output = "") := by
  intro reported
  have hfit := Source.fit_of_device? hbrief hdevice
  cases hparameters : m.environment.parameters with
  | error problems =>
    obtain ⟨printed, hprinted, hexit, houtput, hsystem⟩ :=
      program_of_refused hread hlog hparameters
    have hnone : ∀ r, ¬reported r := by
      rintro r ⟨p, hp, -⟩
      cases hparameters.symm.trans hp
    refine ⟨printed, hprinted, iff_of_true hexit (.inl ⟨problems, rfl⟩), ?_, ?_,
      fun _ _ => hsystem, fun r hr => (hnone r hr).elim, fun _ => houtput⟩
    · exact iff_of_false (by rw [hexit]; decide) fun ⟨r, hr, _⟩ => hnone r hr
    · exact iff_of_false (by rw [hexit]; decide) fun ⟨r, hr, _⟩ => hnone r hr
  | ok p =>
    obtain ⟨printed, hprinted, htells⟩ := program_of_audit hread hlog hparameters hdevice hfit
    let a : Auditor := { parameters := p }
    have hreported : ∀ r, reported r ↔
        (a.run d.transport (m.runName 1) m.surroundings.now d.start).outcome = .ok r := by
      intro r
      constructor
      · rintro ⟨p', hp', hr⟩
        cases hparameters.symm.trans hp'
        exact hr
      · exact fun hr => ⟨p, hparameters, hr⟩
    simp only [hreported]
    have hdocument : ∀ r, (a.run d.transport (m.runName 1) m.surroundings.now d.start).outcome =
        .ok r → r.document.Plain ∧ (json = true → Json.read? printed.output = some r.document) :=
      fun r hr => ⟨a.run_report_is_plain hr, fun hjson => htells.document r hjson hr⟩
    refine ⟨printed, hprinted, ?_, htells.failed, htells.done, (fun _ h => nomatch h), hdocument,
      htells.silent⟩
    rw [htells.setup, a.exists_setback_iff _ _ hfit]
    simp only [reduceCtorEq, exists_false, false_or]

/-- A file behind which nothing answers is audited, and the output is the report that it failed. -/
theorem program_run_tells_of_a_dead_file :
    let dead : DeviceFile.System Unit :=
      ⟨fun _ s => (.ok 3, s), fun _ s => (.ok (), s), fun _ _ s => (.error 5, s), Cbor.decode⟩
    let m : Machine Unit := ⟨[], ⟨(0 : Int), fun _ n => Bytes.zeros n, .standard⟩, dead, [],
      fun _ => "run"⟩
    ∃ (printed : Printed) (r : Report), (program m ["run", "--json"] ()).1 = .ok printed ∧
      printed.exit = 1 ∧ r.phase = .failed ∧ Json.read? printed.output = some r.document := by
  intro dead m
  have hrun : readScope .run ["--json"] = .ok (⟨[(.json, none)], []⟩, none) := by decide +kernel
  have hread : read ["run", "--json"] = .ok ⟨none, none, .run (.file none) true⟩ :=
    read_of_run (by decide +kernel) hrun rfl
  obtain ⟨log, hlog⟩ : ∃ log, Logbook.configured {}
      (Invocation.logConfiguration ⟨none, none, .run (.file none) true⟩
        (.ofEnvironment m.environment)) = .ok log := exists_ok_of_isOk (by decide +kernel)
  obtain ⟨p, hp⟩ : ∃ p, m.environment.parameters = .ok p :=
    exists_ok_of_isOk (by decide +kernel)
  let d : Device := ⟨_, DeviceFile.transport dead "/dev/nsm", { system := () }⟩
  have hdevice : Source.device? m (.ofEnvironment m.environment) () (.file none) = some d := rfl
  have hbrief : m.system.RepliesBriefly := nofun
  obtain ⟨printed, hprinted, -, hfailed, -, -, hdocument, -⟩ :=
    program_run_tells hread hlog hdevice hbrief
  -- the control call fails, which is an answer that is no description
  have hanswer : d.transport.FirstAnswer d.start (DeviceFile.errorAnswer .internalError) :=
    ⟨rfl, rfl⟩
  obtain ⟨r, hr, hphase, -⟩ :=
    Auditor.run_of_unread { parameters := p } (m.runName 1) m.surroundings.now hanswer rfl
  exact ⟨printed, r, hprinted, hfailed.mpr ⟨r, ⟨p, hp, hr⟩, hphase⟩, hphase,
    (hdocument r ⟨p, hp, hr⟩).2 rfl⟩

/-- A digest that is the mark in front of words is one that there is not, and the program does not
end with an exit code. -/
theorem program_escapes_a_marked_digest :
    let m : Machine Unit := ⟨[], ⟨(0 : Int), fun _ n => Bytes.zeros n, .standard⟩,
      ⟨fun _ s => (.ok 3, s), fun _ s => (.ok (), s), fun _ _ s => (.error 5, s), Cbor.decode⟩, [],
      fun _ => "run"⟩
    ∃ escape, (program m ["run", "--simulate", "--digest=--"] ()).1 = .error escape ∧
      escape.message = "[] is not a valid Digest" := by
  intro m
  have hrun : readScope .run ["--simulate", "--digest=--"] =
      .ok (⟨[(.simulate, none), (.digest, none)], []⟩, none) := by decide +kernel
  have hread : read ["run", "--simulate", "--digest=--"] =
      .ok ⟨none, none, .run (.impossible (.digest (.array []))) false⟩ :=
    read_of_run (by decide +kernel) hrun rfl
  obtain ⟨log, hlog⟩ : ∃ log, Logbook.configured {}
      (Invocation.logConfiguration
        ⟨none, none, .run (.impossible (.digest (.array []))) false⟩
        (.ofEnvironment m.environment)) = .ok log := exists_ok_of_isOk (by decide +kernel)
  obtain ⟨p, hp⟩ : ∃ p, m.environment.parameters = .ok p :=
    exists_ok_of_isOk (by decide +kernel)
  exact ⟨_, program_of_impossible hread hlog hp, by decide +kernel⟩

end

end CommandLine

end EnclaveAudit
