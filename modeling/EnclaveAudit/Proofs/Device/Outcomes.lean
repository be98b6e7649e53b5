import Mathlib.Tactic.ByContra
import EnclaveAudit.Proofs.Device.Answer
import EnclaveAudit.Proofs.Device.Session

/-!
# `EnclaveAudit/Proofs/Device/Outcomes.lean` — what comes of an operation

A device may answer anything. What an operation makes of the answer is one of three things, and the
answer alone decides which. It is an error, and the operation is refused with the status that the
error signals. Or it is an answer to that operation, and is read. Or it is neither, and invalid.

Both kinds are said here without the reader: `Signals` is about what an error carries, `AnsweredBy`
about the answers to the seven operations, in which every field is of one kind exactly. A field is
what a map of either kind holds under its name; whatever else a body holds is left alone.

The reader is as exact, but for one field. The locked registers of a description have to be an array,
and a set is taken for one as well, and so are other values that hold integers one after the other.
`AnsweredLoosely` is about those answers.
-/

set_option autoImplicit false

namespace EnclaveAudit

/-! ## Values of a kind -/

namespace Value

variable {v : Value}

theorem int?_eq_some_iff {n : Int} : v.int? = some n ↔ v = .int n := by
  cases v <;> simp [int?]

theorem text?_eq_some_iff {s : String} : v.text? = some s ↔ v = .text s := by
  cases v <;> simp [text?]

theorem bool?_eq_some_iff {b : Bool} : v.bool? = some b ↔ v = .bool b := by
  cases v <;> simp [bool?]

theorem bytes?_eq_some_iff {b : Bytes} : v.bytes? = some b ↔ v = .bytes b := by
  cases v <;> simp [bytes?]

theorem map_text_eq_map_int_iff {texts : List String} {ns : List Int} :
    texts.map Value.text = ns.map Value.int ↔ texts = [] ∧ ns = [] := by
  cases texts <;> cases ns <;> simp

theorem mapM_int?_eq_some_iff {items : List Value} {ns : List Int} :
    items.mapM int? = some ns ↔ items = ns.map .int := by
  induction items generalizing ns with
  | nil => cases ns <;> simp
  | cons item items ih =>
    simp only [List.mapM_cons, Option.bind_eq_bind, Option.bind_eq_some_iff, int?_eq_some_iff, ih,
      Option.pure_def, Option.some.injEq]
    constructor
    · rintro ⟨n, rfl, later, rfl, rfl⟩
      rfl
    · intro h
      cases ns with
      | nil => cases h
      | cons n ns =>
        cases h
        exact ⟨n, rfl, ns, rfl, rfl⟩

end Value

namespace Operation

/-! ## Errors -/

/-- What the status in an error is taken for: a known one for itself, but success for an invalid
response, and a value of any kind that names no status for an internal error. -/
inductive Signals : Value → Status → Prop
  | known {status : Status} (h : status ≠ .success) : Signals (.text status.name) status
  | success : Signals (.text Status.success.name) .invalidResponse
  | unknown {wire : Value} (h : ∀ status : Status, wire ≠ .text status.name) :
    Signals wire .internalError

section

variable {wire answer : Value} {status : Status}

theorem signals_iff : Signals wire status ↔
    (if Status.ofWire wire = .success then .invalidResponse else Status.ofWire wire) = status := by
  constructor
  · intro h
    cases h with
    | known h => rw [Status.ofWire_name, if_neg h]
    | success => rw [Status.ofWire_name, if_pos rfl]
    | unknown h =>
      -- a value that is taken for another status is its name
      have hwire : Status.ofWire wire = .internalError := by
        by_contra hne
        exact h _ ((Status.ofWire_eq_iff hne).mp rfl)
      rw [hwire]
      rfl
  · rintro rfl
    by_cases hwire : ∃ status : Status, wire = .text status.name
    · obtain ⟨status, rfl⟩ := hwire
      rw [Status.ofWire_name]
      split
      · next h =>
        subst h
        exact .success
      · next h => exact .known h
    · have hnone : ∀ status : Status, wire ≠ .text status.name := fun status h => hwire ⟨status, h⟩
      have hinternal : Status.ofWire wire = .internalError := by
        by_contra hne
        exact hnone _ ((Status.ofWire_eq_iff hne).mp rfl)
      rw [hinternal]
      exact .unknown hnone

theorem exists_signals (wire : Value) : ∃ status, Signals wire status :=
  ⟨_, signals_iff.mpr rfl⟩

theorem refusal?_of_error (h : Signals wire status) :
    refusal? (.map [(.text "Error", wire)]) = some status :=
  congrArg some (signals_iff.mp h)

theorem refusal?_eq_none_iff :
    refusal? answer = none ↔ ∀ wire, answer ≠ .map [(.text "Error", wire)] := by
  constructor
  · rintro h wire rfl
    cases h
  · intro h
    unfold refusal?
    split
    · next wire => exact absurd rfl (h wire)
    · rfl

end

/-! ## Answers to the operations -/

/-- The registers that a description lists as locked: those of an array, or none if there is no
list. -/
inductive Listed : Option Value → List Int → Prop
  | absent : Listed none []
  | array (ns : List Int) : Listed (some (.array (ns.map .int))) ns

/-- The registers that a description is taken to list although what it holds is no array that can be
changed. A mail holds the names of its headers, so it must have none. -/
inductive ListedLoosely : Option Value → List Int → Prop
  | tuple (ns : List Int) : ListedLoosely (some (.tuple (ns.map .int))) ns
  | set ( frozen : Bool) (ns : List Int) : ListedLoosely (some (.set frozen (ns.map .int))) ns
  | mail (text : String) (h : Mail.headers text = []) :
    ListedLoosely (some (.denoted (.mail text))) []

/-- The body describes the device: every field is there and of its kind, no number but those of the
locked registers is negative, and these are listed as `Lists` says. -/
structure Describes (Lists : Option Value → List Int → Prop) (body : Value) (d : Description) :
    Prop where
  versionMajor : body.entry? "version_major" = some (.int d.versionMajor) ∧ 0 ≤ d.versionMajor
  versionMinor : body.entry? "version_minor" = some (.int d.versionMinor) ∧ 0 ≤ d.versionMinor
  versionPatch : body.entry? "version_patch" = some (.int d.versionPatch) ∧ 0 ≤ d.versionPatch
  moduleId : body.entry? "module_id" = some (.text d.moduleId)
  registerCount : body.entry? "max_pcrs" = some (.int d.registerCount) ∧ 0 ≤ d.registerCount
  lockedRegisters : Lists (body.entry? "locked_pcrs") d.lockedRegisters
  digest : body.entry? "digest" = some (.text d.digest)

/-- The value answers the operation, and this is the result. -/
def AnsweredBy : (operation : Operation) → Value → operation.Result → Prop
  | .describe, answer, d =>
    ∃ body, answer = .map [(.text "DescribeNSM", body)] ∧ Describes Listed body d
  | .describeRegister _, answer, reading =>
    ∃ body, answer = .map [(.text "DescribePCR", body)] ∧
      body.entry? "lock" = some (.bool reading.lock) ∧
      body.entry? "data" = some (.bytes reading.value)
  | .extendRegister _ _, answer, value =>
    ∃ body, answer = .map [(.text "ExtendPCR", body)] ∧ body.entry? "data" = some (.bytes value)
  | .lockRegister _, answer, _ => answer = .text "LockPCR"
  | .lockRegisters _, answer, _ => answer = .text "LockPCRs"
  | .attest _ _ _, answer, document =>
    ∃ body, answer = .map [(.text "Attestation", body)] ∧
      body.entry? "document" = some (.bytes document)
  | .random length, answer, sample =>
    ∃ body chunk, answer = .map [(.text "GetRandom", body)] ∧
      body.entry? "random" = some (.bytes chunk) ∧ sample = chunk.take length.toNat

/-- The value does not answer the operation but is taken for an answer with this result. Only
descriptions are taken so. -/
def AnsweredLoosely : (operation : Operation) → Value → operation.Result → Prop
  | .describe, answer, d =>
    ∃ body, answer = .map [(.text "DescribeNSM", body)] ∧ Describes ListedLoosely body d
  | _, _, _ => False

section

variable {body answer : Value} {name : String}

theorem natural?_eq_some_iff {n : Int} :
    natural? name body = some n ↔ body.entry? name = some (.int n) ∧ 0 ≤ n := by
  simp only [natural?, Option.bind_eq_bind, Option.bind_eq_some_iff, Value.int?_eq_some_iff]
  constructor
  · rintro ⟨_, hentry, m, rfl, hm⟩
    split at hm
    · next hnegative =>
      cases hm
      exact ⟨hentry, hnegative⟩
    · cases hm
  · intro ⟨hentry, hn⟩
    exact ⟨_, hentry, n, rfl, if_pos hn⟩

theorem lockedRegisters?_eq_some_iff {indices : List Int} :
    lockedRegisters? body = some indices ↔ Listed (body.entry? "locked_pcrs") indices ∨
      ListedLoosely (body.entry? "locked_pcrs") indices := by
  unfold lockedRegisters?
  generalize body.entry? "locked_pcrs" = found
  constructor
  · intro h
    cases found with
    | none =>
      cases h
      exact .inl .absent
    | some listed =>
      obtain ⟨items, hitems, hindices⟩ := Option.bind_eq_some_iff.mp h
      obtain rfl := Value.mapM_int?_eq_some_iff.mp hindices
      cases listed with
      | array _ =>
        cases hitems
        exact .inl (.array indices)
      | tuple _ =>
        cases hitems
        exact .inr (.tuple indices)
      | set isFrozen _ =>
        cases hitems
        exact .inr (.set isFrozen indices)
      | denoted d =>
        cases d with
        | mail text =>
          obtain ⟨hnone, rfl⟩ := Value.map_text_eq_map_int_iff.mp (Option.some.inj hitems)
          exact .inr (.mail text hnone)
        | _ => cases hitems
      | _ => cases hitems
  · rintro (hlisted | hlisted)
    · cases hlisted with
      | absent => rfl
      | array => exact Value.mapM_int?_eq_some_iff.mpr rfl
    · cases hlisted with
      | tuple | set => exact Value.mapM_int?_eq_some_iff.mpr rfl
      | mail text hnone =>
        show (((Mail.headers text).map Value.text).mapM Value.int?) = some []
        rw [hnone]
        rfl

theorem description?_eq_some_iff {d : Description} :
    description? body = some d ↔ Describes Listed body d ∨ Describes ListedLoosely body d := by
  simp only [description?, Option.bind_eq_bind, Option.bind_eq_some_iff, natural?_eq_some_iff,
    Value.text?_eq_some_iff, lockedRegisters?_eq_some_iff, Option.pure_def, Option.some.injEq]
  constructor
  · rintro ⟨_, hmajor, _, hminor, _, hpatch, _, hid, _, rfl, _, hcount, _, hlocked,
      _, hdigest, _, rfl, rfl⟩
    exact hlocked.imp (⟨hmajor, hminor, hpatch, hid, hcount, ·, hdigest⟩)
      (⟨hmajor, hminor, hpatch, hid, hcount, ·, hdigest⟩)
  · rintro (h | h)
    · exact ⟨_, h.versionMajor, _, h.versionMinor, _, h.versionPatch, _, h.moduleId, _, rfl,
        _, h.registerCount, _, .inl h.lockedRegisters, _, h.digest, _, rfl, rfl⟩
    · exact ⟨_, h.versionMajor, _, h.versionMinor, _, h.versionPatch, _, h.moduleId, _, rfl,
        _, h.registerCount, _, .inr h.lockedRegisters, _, h.digest, _, rfl, rfl⟩

theorem reading?_eq_some_iff {reading : Reading} :
    reading? body = some reading ↔ body.entry? "lock" = some (.bool reading.lock) ∧
      body.entry? "data" = some (.bytes reading.value) := by
  simp only [reading?, Option.bind_eq_bind, Option.bind_eq_some_iff, Value.bool?_eq_some_iff,
    Value.bytes?_eq_some_iff, Option.pure_def, Option.some.injEq]
  constructor
  · rintro ⟨_, hlock, _, rfl, _, hdata, _, rfl, rfl⟩
    exact ⟨hlock, hdata⟩
  · intro ⟨hlock, hdata⟩
    exact ⟨_, hlock, _, rfl, _, hdata, _, rfl, rfl⟩

theorem octets?_eq_some_iff {b : Bytes} :
    octets? name body = some b ↔ body.entry? name = some (.bytes b) := by
  simp [octets?, Option.bind_eq_some_iff, Value.bytes?_eq_some_iff]

theorem body?_eq_some_iff :
    body? name answer = some body ↔ answer = .map [(.text name, body)] := by
  constructor
  · intro h
    unfold body? at h
    split at h
    · split at h
      · next hname =>
        cases h
        rw [hname]
      · cases h
    · cases h
  · rintro rfl
    exact if_pos rfl

/-- A body is read when it is the only thing in the answer and makes sense. -/
theorem readBody_eq_ok_iff {α : Type} {read : Value → Option α} {result : α} (h : name ≠ "Error") :
    readBody name read answer = .ok result ↔
      ∃ body, answer = .map [(.text name, body)] ∧ read body = some result := by
  simp only [← body?_eq_some_iff, ← Option.bind_eq_some_iff]
  unfold readBody
  cases hrefusal : refusal? answer with
  | some status =>
    -- an error has no other name
    have hnone : body? name answer = none := by
      by_contra hbody
      obtain ⟨body, hbody⟩ := Option.ne_none_iff_exists'.mp hbody
      rw [body?_eq_some_iff.mp hbody, refusal?_eq_none_iff.mpr] at hrefusal
      · cases hrefusal
      · intro wire herror
        cases herror
        exact h rfl
    simp [hnone]
  | none => cases (body? name answer).bind read <;> simp

/-- **What is read as an answer** is one, or a description whose registers are listed loosely. -/
theorem read_eq_ok_iff {operation : Operation} {result : operation.Result} :
    operation.read answer = .ok result ↔
      operation.AnsweredBy answer result ∨ operation.AnsweredLoosely answer result := by
  cases operation with
  | describe =>
    refine (readBody_eq_ok_iff (by decide)).trans ?_
    simp only [description?_eq_some_iff, and_or_left, exists_or]
    rfl
  | describeRegister _ =>
    refine (readBody_eq_ok_iff (by decide)).trans (Iff.trans ?_ (iff_of_eq (or_false _)).symm)
    simp only [reading?_eq_some_iff]
    rfl
  | extendRegister _ _ | attest _ _ _ =>
    refine (readBody_eq_ok_iff (by decide)).trans (Iff.trans ?_ (iff_of_eq (or_false _)).symm)
    simp only [octets?_eq_some_iff]
    rfl
  | lockRegister _ | lockRegisters _ => exact readUnit_eq_ok_iff.trans (iff_of_eq (or_false _)).symm
  | random length =>
    have hbody : ∀ chunk, readBody "GetRandom" (octets? "random") answer = .ok chunk ↔ _ :=
      fun chunk => readBody_eq_ok_iff (by decide)
    simp only [octets?_eq_some_iff] at hbody
    show (readBody "GetRandom" (octets? "random") answer).map _ = _ ↔ _
    constructor
    · intro h
      cases hread : readBody "GetRandom" (octets? "random") answer with
      | error status =>
        rw [hread] at h
        cases h
      | ok chunk =>
        rw [hread] at h
        cases h
        obtain ⟨body, hanswer, hchunk⟩ := (hbody chunk).mp hread
        exact .inl ⟨body, chunk, hanswer, hchunk, rfl⟩
    · rintro (⟨body, chunk, hanswer, hchunk, rfl⟩ | hnever)
      · rw [(hbody chunk).mpr ⟨body, hanswer, hchunk⟩]
        rfl
      · exact hnever.elim

/-- An error refuses every operation. -/
theorem read_of_refusal? (operation : Operation) {status : Status}
    (h : refusal? answer = some status) : operation.read answer = .error status := by
  cases operation with
  | random _ =>
    simp only [read, readBody, h]
    rfl
  | _ => simp only [read, readBody, readUnit, h]

/-- What is neither an error nor taken for an answer is invalid. -/
theorem read_of_neither {operation : Operation} (herror : refusal? answer = none)
    (h : ¬∃ result, operation.AnsweredBy answer result ∨ operation.AnsweredLoosely answer result) :
    operation.read answer = .error .invalidResponse := by
  cases hread : operation.read answer with
  | ok result => exact absurd ⟨result, read_eq_ok_iff.mp hread⟩ h
  | error status =>
    by_contra hne
    have hstatus : status ≠ .invalidResponse := fun hs => hne (congrArg Except.error hs)
    rw [(read_eq_error_iff_refusal? hstatus).mp hread] at herror
    cases herror

end

/-! ## Operations -/

/-- Random octets are asked for in a number that no chunk has. -/
def OutOfRange (operation : Operation) : Prop :=
  ∃ length, operation = .random length ∧ (length < 1 ∨ 256 < length)

theorem sendable_eq_false_iff {operation : Operation} :
    operation.sendable = false ↔ operation.OutOfRange := by
  cases operation with
  | random length =>
    have hlengths : (random length).sendable = false ↔ length < 1 ∨ 256 < length := by
      have hchunk : (randomChunk : Int) = 256 := rfl
      simp only [sendable, Bool.and_eq_false_iff, decide_eq_false_iff_not]
      omega
    rw [hlengths]
    simp [OutOfRange]
  | _ => simp [sendable, OutOfRange]

end Operation

namespace Session

open Operation (Signals)

variable {σ : Type}

/-- **What comes of an operation.** One that asks for too few or too many random octets is refused
at once, and nothing happens. On a session that is closed any other is interrupted, and nothing
happens either. On one that is open exactly its request is sent. If the answer is an error, the
operation is refused with what that signals; if not, its result is the one that the answer is an
answer with, or is taken for one with, and if there is none, the operation is refused for an invalid
response. -/
theorem perform_classifies (t : Transport σ) (operation : Operation)
    (s : Session (Recorded σ)) :
    let outcome := (s.perform t.recorded operation).1
    let after := (s.perform t.recorded operation).2
    (operation.OutOfRange → outcome = .ok (.error .invalidArgument) ∧ after = s) ∧
    (¬operation.OutOfRange → s.closed = true →
      outcome = .error (.sessionClosed t.name) ∧ after = s) ∧
    (¬operation.OutOfRange → s.closed = false →
      after.device.requests = s.device.requests ++ [operation.request] ∧
      ∀ answer, (t.exchange operation.request s.device.device).result = .ok answer →
        (∀ wire, answer = .map [(.text "Error", wire)] →
          ∃ status, Signals wire status ∧ outcome = .ok (.error status)) ∧
        ((∀ wire, answer ≠ .map [(.text "Error", wire)]) →
          (∀ result, outcome = .ok (.ok result) ↔
            operation.AnsweredBy answer result ∨ operation.AnsweredLoosely answer result) ∧
          ((¬∃ result,
              operation.AnsweredBy answer result ∨ operation.AnsweredLoosely answer result) →
            outcome = .ok (.error .invalidResponse)))) := by
  intro outcome after
  have hsendable : ¬operation.OutOfRange → operation.sendable = true := by
    intro h
    rwa [← Operation.sendable_eq_false_iff, Bool.not_eq_false] at h
  refine ⟨fun hrange => ?_, fun hrange hclosed => ?_, fun hrange hopen => ?_⟩
  · have hperform := perform_of_not_sendable (t := t.recorded) (s := s)
      (Operation.sendable_eq_false_iff.mpr hrange)
    exact ⟨congrArg Prod.fst hperform, congrArg Prod.snd hperform⟩
  · have hperform := perform_of_closed (t := t.recorded) hclosed (hsendable hrange)
    exact ⟨congrArg Prod.fst hperform, congrArg Prod.snd hperform⟩
  have hresult := result_perform (t := t.recorded) hopen (hsendable hrange)
  have hdevice := device_perform (t := t.recorded) hopen (hsendable hrange)
  refine ⟨?_, fun answer hanswer => ?_⟩
  · show (s.perform t.recorded operation).2.device.requests = _
    rw [hdevice, Recorded.requests_exchange]
  have houtcome : outcome = .ok (operation.read answer) := by
    show (s.perform t.recorded operation).1 = _
    rw [hresult]
    show (t.exchange operation.request s.device.device).result.map operation.read = _
    rw [hanswer]
    rfl
  rw [houtcome]
  refine ⟨?_, fun hother => ⟨fun result => ?_, fun hnone => ?_⟩⟩
  · rintro wire rfl
    obtain ⟨status, hsignals⟩ := Operation.exists_signals wire
    exact ⟨status, hsignals, congrArg Except.ok
      (Operation.read_of_refusal? operation (Operation.refusal?_of_error hsignals))⟩
  · rw [Except.ok.injEq]
    exact Operation.read_eq_ok_iff
  · exact congrArg Except.ok
      (Operation.read_of_neither (Operation.refusal?_eq_none_iff.mpr hother) hnone)

/-- A register is read from a body that holds more than it must. -/
theorem perform_classifies_of_a_read :
    let answer : Value := .record [("DescribePCR", .record
      [("note", .null), ("data", .bytes [1]), ("lock", .bool true)])]
    let t : Transport Unit := ⟨"constant", fun _ => ⟨.ok (), [], ()⟩, fun _ => ([], ()), fun _ _ =>
      ⟨.ok answer, [], ()⟩⟩
    let operation : Operation := .describeRegister (.int 16)
    let s : Session (Recorded Unit) := { device := ⟨(), #[]⟩ }
    ¬operation.OutOfRange ∧ s.closed = false ∧
    (t.exchange operation.request ()).result = .ok answer ∧
    (∀ wire, answer ≠ .map [(.text "Error", wire)]) ∧
    (s.perform t.recorded operation).1 = .ok (.ok ⟨true, [1]⟩) := by
  intro answer t operation s
  have hrange : ¬(Operation.describeRegister (.int 16)).OutOfRange := by
    rintro ⟨length, h, -⟩
    cases h
  have hother : ∀ wire, answer ≠ .map [(.text "Error", wire)] := by
    intro wire
    simp [answer, Value.record]
  have hopen := (perform_classifies t operation s).2.2 hrange rfl
  have hresult := ((hopen.2 answer rfl).2 hother).1 ⟨true, [1]⟩
  exact ⟨hrange, rfl, rfl, hother, hresult.mpr (.inl ⟨_, rfl, rfl, rfl⟩)⟩

/-- A set of locked registers is no list, and the description that holds it answers nothing; but it
is read. -/
theorem perform_reads_a_set :
    let answer : Value := .record [("DescribeNSM", .record
      [("version_major", .int 1), ("version_minor", .int 0), ("version_patch", .int 0),
        ("module_id", .text "m"), ("max_pcrs", .int 32), ("locked_pcrs", .set false [.int 5]),
        ("digest", .text "SHA256")])]
    let t : Transport Unit := ⟨"constant", fun _ => ⟨.ok (), [], ()⟩, fun _ => ([], ()), fun _ _ =>
      ⟨.ok answer, [], ()⟩⟩
    let s : Session (Recorded Unit) := { device := ⟨(), #[]⟩ }
    (∀ wire, answer ≠ .map [(.text "Error", wire)]) ∧
    (¬∃ d, Operation.describe.AnsweredBy answer d) ∧
    ∃ d : Description, d.lockedRegisters = [5] ∧
      (s.perform t.recorded .describe).1 = .ok (.ok d) := by
  intro answer t s
  refine ⟨by simp [answer, Value.record], ?_, ⟨1, 0, 0, "m", 32, "SHA256", [5]⟩, rfl, rfl⟩
  rintro ⟨d, body, hbody, hdescribes⟩
  simp only [answer, Value.record, List.map, Value.map.injEq, List.cons.injEq, and_true,
    Prod.mk.injEq, true_and] at hbody
  subst hbody
  exact nomatch hdescribes.lockedRegisters

end Session

end EnclaveAudit
