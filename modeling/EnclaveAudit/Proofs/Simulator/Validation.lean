import Mathlib.Tactic.ByContra
import EnclaveAudit.Device.Operation
import EnclaveAudit.Proofs.Simulator.Machine
import EnclaveAudit.Proofs.Simulator.Places

/-!
# `EnclaveAudit/Proofs/Simulator/Validation.lean` — which status a request is refused with

A simulated device answers anything. What it cannot make sense of is an invalid operation, what is
meant for a register that is not there has an invalid index, what is too much to be attested is too
large, and what is meant for a register that is locked is refused as that. Several of these may be
wrong with one request, so each is said here of the request itself (`Senseless`, `OutOfBank`,
`TooLarge`, `ReadOnly`), and the device goes by the first of them.

A refusal leaves the registers alone. What it leaves behind are counts: of the request, and of an
attempt to lock a register again.
-/

set_option autoImplicit false

namespace EnclaveAudit

theorem Value.nat?_eq_some_iff {v : Value} {n : Nat} : v.nat? = some n ↔ v = .int n := by
  unfold nat?
  split
  · simp only [Option.some.injEq, int.injEq, Int.ofNat_eq_natCast, Int.natCast_inj]
  · next hnat =>
    simp only [reduceCtorEq, false_iff]
    rintro rfl
    exact hnat n rfl

namespace Simulator

/-! ## What can be wrong with a request -/

/-- The request names an operation, and has a body, which is null if there is only the name. -/
inductive Calls : (request : Value) → (name : String) → (body : Value) → Prop
  | bare (name : String) : Calls (.text name) name .null
  | entry (name : String) (body : Value) : Calls (.map [(.text name, body)]) name body

/-- The operations on one register. -/
def registerOperations : List String := ["DescribePCR", "ExtendPCR", "LockPCR"]

/-- The body holds no number under the name. A truth value is no number. -/
def Unnumbered (body : Value) (field : String) : Prop :=
  ∀ n : Nat, body.field? field ≠ some (.int n)

/-- A value can be attested. -/
def Attestable (v : Value) : Prop := v = .null ∨ ∃ b, v = .bytes b ∧ b.length ≤ 1024

/-- The value is the first in the body that was to be attested and cannot be. -/
inductive Offends (body v : Value) : Prop
  | userData (h : body.field? "user_data" = some v) (hv : ¬Attestable v)
  | nonce (hu : ∀ u ∈ body.field? "user_data", Attestable u) (h : body.field? "nonce" = some v)
    (hv : ¬Attestable v)
  | publicKey (hu : ∀ u ∈ body.field? "user_data", Attestable u)
    (hn : ∀ n ∈ body.field? "nonce", Attestable n) (h : body.field? "public_key" = some v)
    (hv : ¬Attestable v)

/-- The request makes no sense. -/
inductive Senseless (s : Settings) (request : Value) : Prop
  | nameless (h : ∀ (operation : Operation) (body : Value), ¬Calls request operation.name body)
  | unindexed {name : String} {body : Value} (hcall : Calls request name body)
    (hname : name ∈ registerOperations) (h : Unnumbered body "index")
  | unranged {body : Value} (hcall : Calls request "LockPCRs" body) (h : Unnumbered body "range")
  /-- there is nothing to extend a register of the bank with -/
  | dataless {body : Value} {i : Nat} (hcall : Calls request "ExtendPCR" body)
    (hindex : body.field? "index" = some (.int i)) (hi : (i : Int) < s.registerCount)
    (h : ∀ b, body.field? "data" ≠ some (.bytes b))
  | bodiless {body : Value} (hcall : Calls request "Attestation" body) (hnull : body ≠ .null)
    (hmap : ∀ entries, body ≠ .map entries)
  | unattestable {body v : Value} (hcall : Calls request "Attestation" body) (h : Offends body v)
    (hv : ∀ b, v ≠ .bytes b)

/-- The request is for a register that is not there, or for more than there are. -/
inductive OutOfBank (s : Settings) (request : Value) : Prop
  | register {name : String} {body : Value} {i : Nat} (hcall : Calls request name body)
    (hname : name ∈ registerOperations) (hindex : body.field? "index" = some (.int i))
    (hi : s.registerCount ≤ i)
  | range {body : Value} {n : Nat} (hcall : Calls request "LockPCRs" body)
    (hrange : body.field? "range" = some (.int n))
    (hn : (if s.has .looseLockRange then s.registerCount + 1 else s.registerCount) < n)

/-- The first value that cannot be attested is an octet string that is too long. -/
def TooLarge (request : Value) : Prop :=
  ∃ body b, Calls request "Attestation" body ∧ Offends body (.bytes b) ∧ 1024 < b.length

/-- The operation is called for a register that is there. -/
structure CallsOn (request : Value) (name : String) (bank : Bank) (i : Nat) (c : Cell) : Prop where
  call : ∃ body, Calls request name body ∧ body.field? "index" = some (.int i)
  cell : bank[i]? = some c

/-- The request is to change a register that is locked, and the device has no fault that lets it
pass. -/
inductive ReadOnly (s : Settings) (bank : Bank) (request : Value) : Prop
  | extend {i : Nat} {c : Cell} (hcell : CallsOn request "ExtendPCR" bank i c)
    (hlock : c.register.lock = true) (hfault : s.has .extendLocked = false)
  | lock {i : Nat} {c : Cell} (hcell : CallsOn request "LockPCR" bank i c)
    (hlock : c.register.lock = true) (hfault : s.has .silentRelock = false)
    (honce : s.has .relockOnce = true → c.relocks = 0)

/-- The answer is that of an operation which was carried out: what it returns under its name, or the
bare name if it returns nothing. -/
def Grants (request answer : Value) : Prop :=
  ∃ (operation : Operation) (body : Value), Calls request operation.name body ∧
    match operation with
    | .lockRegister _ | .lockRegisters _ => answer = .text operation.name
    | _ => ∃ fields, answer = reply operation.name fields

/-- What a refused request leaves behind: nothing, or the count of an attempt to lock a register
again. -/
inductive Leaves (request : Value) (d : State) : State → Prop
  | nothing : Leaves request d d
  | attempt {i : Nat} {c : Cell} (hcell : CallsOn request "LockPCR" d.bank i c)
    (hlock : c.register.lock = true) :
    Leaves request d (d.setCell i { c with relocks := c.relocks + 1 })

/-- The answer is the one that is due: what is wrong with the request is looked for in this order,
and where nothing is, the operation is carried out. -/
structure Due (s : Settings) (bank : Bank) (request answer : Value) : Prop where
  invalidOperation : answer = refuse .invalidOperation ↔ Senseless s request
  invalidIndex : answer = refuse .invalidIndex ↔ ¬Senseless s request ∧ OutOfBank s request
  inputTooLarge : answer = refuse .inputTooLarge ↔
    ¬Senseless s request ∧ ¬OutOfBank s request ∧ TooLarge request
  readOnlyIndex : answer = refuse .readOnlyIndex ↔
    ¬Senseless s request ∧ ¬OutOfBank s request ∧ ¬TooLarge request ∧ ReadOnly s bank request
  grants : Grants request answer ↔
    ¬Senseless s request ∧ ¬OutOfBank s request ∧ ¬TooLarge request ∧ ¬ReadOnly s bank request

variable {s : Settings} {request body v : Value} {name field : String}

/-! ## Names and bodies -/

theorem parts?_eq_some_iff : Request.parts? request = some (name, body) ↔
    Calls request name body := by
  constructor
  · intro h
    unfold Request.parts? at h
    split at h
    · cases h
      exact .bare name
    · cases h
      exact .entry name body
    · cases h
  · intro h
    cases h <;> rfl

theorem Calls.unique {name' : String} {body' : Value} (h : Calls request name body)
    (h' : Calls request name' body') : name = name' ∧ body = body' := by
  have hparts := (parts?_eq_some_iff.mpr h).symm.trans (parts?_eq_some_iff.mpr h')
  cases hparts
  exact ⟨rfl, rfl⟩

theorem Calls.of_ofValue_eq_ok {r : Request} (h : Request.ofValue s request = .ok r) :
    ∃ body, Calls request r.operation body ∧ r.ReadFrom s body := by
  obtain ⟨body, hparts, hread⟩ := ofValue_eq_ok h
  exact ⟨body, parts?_eq_some_iff.mp hparts, hread⟩

theorem Calls.ofValue_extend (h : Calls request "ExtendPCR" body) :
    Request.ofValue s request = Request.index s body >>= fun i =>
      match (body.field? "data").bind Value.bytes? with
      | some data => pure (.extendRegister i data)
      | none => throw .invalidOperation := by
  cases h <;> rfl

theorem Calls.ofValue_lockRange (h : Calls request "LockPCRs" body) :
    Request.ofValue s request = Request.number "range" body >>= fun n =>
      if (n : Int) ≤ Request.lockLimit s then pure (.lockRegisters n) else throw .invalidIndex := by
  cases h <;> rfl

theorem Calls.ofValue_attest (h : Calls request "Attestation" body) :
    Request.ofValue s request =
      if Request.isAttestationBody body then do
        let userData ← Request.attested "user_data" body
        let nonce ← Request.attested "nonce" body
        let publicKey ← Request.attested "public_key" body
        pure (.attest userData nonce publicKey)
      else throw .invalidOperation := by
  cases h <;> rfl

/-! ## Fields -/

theorem bind_nat?_eq_some_iff {n : Nat} :
    (body.field? field).bind Value.nat? = some n ↔ body.field? field = some (.int n) := by
  simp only [Option.bind_eq_some_iff, Value.nat?_eq_some_iff, exists_eq_right]

theorem number_of_unnumbered (h : Unnumbered body field) :
    Request.number field body = .error .invalidOperation := by
  cases hnumber : Request.number field body with
  | ok n => exact absurd (bind_nat?_eq_some_iff.mp (number_eq_ok_iff.mp hnumber)) (h n)
  | error status =>
    unfold Request.number at hnumber
    split at hnumber <;> cases hnumber
    rfl

theorem number_of_field {n : Nat} (h : body.field? field = some (.int n)) :
    Request.number field body = .ok n := number_eq_ok_iff.mpr (bind_nat?_eq_some_iff.mpr h)

theorem exists_number (h : ¬Unnumbered body field) :
    ∃ n : Nat, body.field? field = some (.int n) := by
  by_contra hnone
  exact h fun n hn => hnone ⟨n, hn⟩

theorem index_of_unnumbered (h : Unnumbered body "index") :
    Request.index s body = .error .invalidOperation := by
  unfold Request.index
  rw [number_of_unnumbered h]
  rfl

theorem index_of_le {i : Nat} (hindex : body.field? "index" = some (.int i))
    (hi : s.registerCount ≤ i) : Request.index s body = .error .invalidIndex := by
  unfold Request.index
  rw [number_of_field hindex]
  exact if_neg (Int.not_lt.mpr hi)

theorem index_of_lt {i : Nat} (hindex : body.field? "index" = some (.int i))
    (hi : (i : Int) < s.registerCount) : Request.index s body = .ok i :=
  index_eq_ok_iff.mpr ⟨bind_nat?_eq_some_iff.mpr hindex, hi⟩

theorem attested_of_attestable (h : ∀ v ∈ body.field? field, Attestable v) :
    ∃ b, Request.attested field body = .ok b := by
  unfold Request.attested
  cases hfield : body.field? field with
  | none => exact ⟨none, rfl⟩
  | some v =>
    obtain rfl | ⟨b, rfl, hb⟩ := h v hfield
    · exact ⟨none, rfl⟩
    · exact ⟨some b, if_neg (Nat.not_lt.mpr hb)⟩

theorem attested_of_large {b : Bytes} (h : body.field? field = some (.bytes b))
    (hb : 1024 < b.length) : Request.attested field body = .error .inputTooLarge := by
  unfold Request.attested
  rw [h]
  exact if_pos hb

theorem attested_of_kind (h : body.field? field = some v) (hnull : v ≠ .null)
    (hv : ∀ b, v ≠ .bytes b) : Request.attested field body = .error .invalidOperation := by
  unfold Request.attested
  rw [h]
  cases v with
  | null => exact absurd rfl hnull
  | bytes b => exact absurd rfl (hv b)
  | _ => rfl

/-! ## Refusals before the device is touched -/

theorem ofValue_of_index_error (hcall : Calls request name body)
    (hname : name ∈ registerOperations) {status : Status}
    (h : Request.index s body = .error status) : Request.ofValue s request = .error status := by
  have hparts := parts?_eq_some_iff.mpr hcall
  simp only [registerOperations, List.mem_cons, List.not_mem_nil, or_false] at hname
  unfold Request.ofValue
  obtain rfl | rfl | rfl := hname
  all_goals
    rw [hparts]
    show (Request.index s body >>= _) = _
    rw [h]
    rfl

theorem Offends.isAttestationBody (h : Offends body v) :
    Request.isAttestationBody body = true := by
  -- nothing but a map has fields
  have hmap : ∀ field, body.field? field = some v → Request.isAttestationBody body = true := by
    intro field hfield
    cases body <;> first | rfl | cases hfield
  cases h with
  | userData h _ | nonce _ h _ | publicKey _ _ h _ => exact hmap _ h

theorem Offends.not_attestable (h : Offends body v) : ¬Attestable v := by
  cases h with
  | userData _ hv | nonce _ _ hv | publicKey _ _ _ hv => exact hv

theorem Offends.ne_null (h : Offends body v) : v ≠ .null :=
  fun hnull => h.not_attestable (.inl hnull)

/-- The device stops at the first value that it cannot attest. -/
theorem ofValue_of_offends (hcall : Calls request "Attestation" body) (h : Offends body v)
    {status : Status}
    (hv : ∀ field, body.field? field = some v → Request.attested field body = .error status) :
    Request.ofValue s request = .error status := by
  rw [hcall.ofValue_attest, if_pos h.isAttestationBody]
  cases h with
  | userData h _ =>
    rw [hv _ h]
    rfl
  | nonce hu h _ =>
    obtain ⟨userData, huserData⟩ := attested_of_attestable hu
    rw [huserData, hv _ h]
    rfl
  | publicKey hu hn h _ =>
    obtain ⟨userData, huserData⟩ := attested_of_attestable hu
    obtain ⟨nonce, hnonce⟩ := attested_of_attestable hn
    rw [huserData, hnonce, hv _ h]
    rfl

theorem ofValue_of_senseless (h : Senseless s request) :
    Request.ofValue s request = .error .invalidOperation := by
  cases h with
  | nameless h =>
    -- the reader looks for the seven names and finds none
    unfold Request.ofValue
    split
    case h_1 hparts => exact absurd (parts?_eq_some_iff.mp hparts) (h .describe _)
    case h_2 hparts => exact absurd (parts?_eq_some_iff.mp hparts) (h (.describeRegister .null) _)
    case h_3 hparts => exact absurd (parts?_eq_some_iff.mp hparts) (h (.extendRegister .null []) _)
    case h_4 hparts => exact absurd (parts?_eq_some_iff.mp hparts) (h (.lockRegister .null) _)
    case h_5 hparts => exact absurd (parts?_eq_some_iff.mp hparts) (h (.lockRegisters .null) _)
    case h_6 hparts => exact absurd (parts?_eq_some_iff.mp hparts) (h (.attest .null .null .null) _)
    case h_7 hparts => exact absurd (parts?_eq_some_iff.mp hparts) (h (.random 0) _)
    case h_8 => rfl
  | unindexed hcall hname h => exact ofValue_of_index_error hcall hname (index_of_unnumbered h)
  | unranged hcall h =>
    rw [hcall.ofValue_lockRange, number_of_unnumbered h]
    rfl
  | @dataless body i hcall hindex hi h =>
    have hdata : (body.field? "data").bind Value.bytes? = none := by
      rw [Option.bind_eq_none_iff]
      intro v hv
      cases v with
      | bytes b => exact absurd hv (h b)
      | _ => rfl
    rw [hcall.ofValue_extend, index_of_lt hindex hi, hdata]
    rfl
  | @bodiless body hcall hnull hmap =>
    have hbody : Request.isAttestationBody body = false := by
      cases body with
      | null => exact absurd rfl hnull
      | map entries => exact absurd rfl (hmap entries)
      | _ => rfl
    rw [hcall.ofValue_attest, hbody]
    rfl
  | unattestable hcall h hv =>
    exact ofValue_of_offends hcall h fun field hfield => attested_of_kind hfield h.ne_null hv

theorem ofValue_of_outOfBank (h : OutOfBank s request) :
    Request.ofValue s request = .error .invalidIndex := by
  cases h with
  | register hcall hname hindex hi =>
    exact ofValue_of_index_error hcall hname (index_of_le hindex hi)
  | range hcall hrange hn =>
    rw [hcall.ofValue_lockRange, number_of_field hrange]
    exact if_neg (Int.not_le.mpr hn)

theorem ofValue_of_tooLarge (h : TooLarge request) :
    Request.ofValue s request = .error .inputTooLarge := by
  obtain ⟨body, b, hcall, hoffends, hb⟩ := h
  exact ofValue_of_offends hcall hoffends fun field hfield => attested_of_large hfield hb

/-! ## Requests with nothing wrong -/

theorem Calls.number?_eq_some_iff (hcall : Calls request name body) {n : Nat} :
    number? name field request = some n ↔ body.field? field = some (.int n) := by
  have hnull : (Value.field? field .null).bind Value.nat? = none := rfl
  unfold number?
  rw [body?_bind_of_parts? hnull (parts?_eq_some_iff.mpr hcall), if_pos rfl]
  exact bind_nat?_eq_some_iff

/-- What is to be attested can be, or there is a first that cannot. -/
theorem attestable_of_not_offends (h : ∀ v, ¬Offends body v) :
    (∀ u ∈ body.field? "user_data", Attestable u) ∧ (∀ n ∈ body.field? "nonce", Attestable n) ∧
      ∀ k ∈ body.field? "public_key", Attestable k := by
  -- a value can only be the first that cannot be attested if those before it can
  have huserData : ∀ u ∈ body.field? "user_data", Attestable u := by
    intro u hu
    by_contra hv
    exact h u (.userData hu hv)
  have hnonce : ∀ n ∈ body.field? "nonce", Attestable n := by
    intro n hn
    by_contra hv
    exact h n (.nonce huserData hn hv)
  refine ⟨huserData, hnonce, fun k hk => ?_⟩
  by_contra hv
  exact h k (.publicKey huserData hnonce hk hv)

theorem exists_attest (hcall : Calls request "Attestation" body)
    (hbody : Request.isAttestationBody body = true) (h : ∀ v, ¬Offends body v) :
    ∃ r, Request.ofValue s request = .ok r := by
  obtain ⟨hu, hn, hk⟩ := attestable_of_not_offends h
  obtain ⟨userData, huserData⟩ := attested_of_attestable hu
  obtain ⟨nonce, hnonce⟩ := attested_of_attestable hn
  obtain ⟨publicKey, hpublicKey⟩ := attested_of_attestable hk
  refine ⟨.attest userData nonce publicKey, ?_⟩
  rw [hcall.ofValue_attest, if_pos hbody, huserData, hnonce, hpublicKey]
  rfl

/-- **There is nothing else that can be wrong** before the device is touched. -/
theorem exists_ofValue_eq_ok (hsense : ¬Senseless s request) (hbank : ¬OutOfBank s request)
    (hsize : ¬TooLarge request) : ∃ r, Request.ofValue s request = .ok r := by
  obtain ⟨operation, body, hcall⟩ :
      ∃ (operation : Operation) (body : Value), Calls request operation.name body := by
    by_contra hnone
    exact hsense (.nameless fun operation body h => hnone ⟨operation, body, h⟩)
  have hplace : operation.name ∈ registerOperations →
      ∃ i : Nat, body.field? "index" = some (.int i) ∧ (i : Int) < s.registerCount := by
    intro hname
    obtain ⟨i, hi⟩ := exists_number fun h => hsense (.unindexed hcall hname h)
    refine ⟨i, hi, ?_⟩
    by_contra hle
    exact hbank (.register hcall hname hi (Int.not_lt.mp hle))
  cases operation with
  | describe => exact ⟨.describe, by cases hcall <;> rfl⟩
  | random length => exact ⟨.random, by cases hcall <;> rfl⟩
  | describeRegister index =>
    obtain ⟨i, hindex, hi⟩ := hplace (by simp [registerOperations, Operation.name])
    exact ⟨_, ofValue_of_read hi (hcall.number?_eq_some_iff.mpr hindex)⟩
  | lockRegister index =>
    obtain ⟨i, hindex, hi⟩ := hplace (by simp [registerOperations, Operation.name])
    exact ⟨_, ofValue_of_lock hi (hcall.number?_eq_some_iff.mpr hindex)⟩
  | extendRegister index data =>
    obtain ⟨i, hindex, hi⟩ := hplace (by simp [registerOperations, Operation.name])
    obtain ⟨b, hb⟩ : ∃ b, body.field? "data" = some (.bytes b) := by
      by_contra hnone
      exact hsense (.dataless hcall hindex hi fun b hb => hnone ⟨b, hb⟩)
    refine ⟨.extendRegister i b, ?_⟩
    rw [Calls.ofValue_extend hcall, index_of_lt hindex hi, hb]
    rfl
  | lockRegisters count =>
    obtain ⟨n, hrange⟩ := exists_number fun h => hsense (.unranged hcall h)
    have hn : (n : Int) ≤ Request.lockLimit s := by
      by_contra hlt
      exact hbank (.range hcall hrange (Int.not_le.mp hlt))
    refine ⟨.lockRegisters n, ?_⟩
    rw [Calls.ofValue_lockRange hcall, number_of_field hrange]
    exact if_pos hn
  | attest userData nonce publicKey =>
    have hbody : Request.isAttestationBody body = true := by
      by_contra hother
      refine hsense (.bodiless hcall ?_ ?_)
      · rintro rfl
        exact hother rfl
      · rintro entries rfl
        exact hother rfl
    refine exists_attest hcall hbody fun v hv => ?_
    by_cases hbytes : ∃ b, v = .bytes b
    · obtain ⟨b, rfl⟩ := hbytes
      refine hsize ⟨body, b, hcall, hv, ?_⟩
      by_contra hb
      exact hv.not_attestable (.inr ⟨b, rfl, Nat.not_lt.mp hb⟩)
    · exact hsense (.unattestable hcall hv fun b hb => hbytes ⟨b, hb⟩)

/-! ## What the registers decide -/

section

variable {e : Surroundings} {d : State} {bank : Bank} {i : Nat} {c : Cell}

theorem CallsOn.unique {name' : String} {i' : Nat} {c' : Cell} (h : CallsOn request name bank i c)
    (h' : CallsOn request name' bank i' c') : name = name' ∧ c = c' := by
  obtain ⟨⟨body, hcall, hindex⟩, hc⟩ := h
  obtain ⟨⟨body', hcall', hindex'⟩, hc'⟩ := h'
  obtain ⟨hname, rfl⟩ := hcall.unique hcall'
  have hplace : (i : Int) = i' := Value.int.inj (Option.some.inj (hindex.symm.trans hindex'))
  obtain rfl := Int.ofNat_inj.mp hplace
  exact ⟨hname, Option.some.inj (hc.symm.trans hc')⟩

theorem readOnly_extend_iff (h : CallsOn request "ExtendPCR" bank i c) :
    ReadOnly s bank request ↔ (c.register.lock && !s.has .extendLocked) = true := by
  rw [Bool.and_eq_true, Bool.not_eq_true']
  constructor
  · intro hreadOnly
    cases hreadOnly with
    | extend h' hlock hfault =>
      obtain ⟨-, rfl⟩ := h.unique h'
      exact ⟨hlock, hfault⟩
    | lock h' _ _ _ => exact absurd (h.unique h').1 (by decide)
  · rintro ⟨hlock, hfault⟩
    exact .extend h hlock hfault

theorem relockIsSilent_eq_false_iff : Cell.relockIsSilent s (c.relocks + 1) = false ↔
    s.has .silentRelock = false ∧ (s.has .relockOnce = true → c.relocks = 0) := by
  unfold Cell.relockIsSilent
  cases s.has .silentRelock <;> cases s.has .relockOnce <;> simp

theorem readOnly_lock_iff (h : CallsOn request "LockPCR" bank i c) : ReadOnly s bank request ↔
    c.register.lock = true ∧ Cell.relockIsSilent s (c.relocks + 1) = false := by
  rw [relockIsSilent_eq_false_iff]
  constructor
  · intro hreadOnly
    cases hreadOnly with
    | extend h' _ _ => exact absurd (h.unique h').1 (by decide)
    | lock h' hlock hfault honce =>
      obtain ⟨-, rfl⟩ := h.unique h'
      exact ⟨hlock, hfault, honce⟩
  · rintro ⟨hlock, hfault, honce⟩
    exact .lock h hlock hfault honce

theorem not_readOnly (hcall : Calls request name body) (hname : name ∉ ["ExtendPCR", "LockPCR"]) :
    ¬ReadOnly s bank request := by
  have hother : ∀ {name' : String} {i : Nat} {c : Cell}, CallsOn request name' bank i c →
      name' ∉ ["ExtendPCR", "LockPCR"] := by
    intro name' i c h
    obtain ⟨body', hcall', -⟩ := h.call
    rwa [← (hcall.unique hcall').1]
  intro h
  cases h with
  | extend h _ _ | lock h _ _ _ => exact hother h (by simp)

theorem serveExtend_cases (h : CallsOn request "ExtendPCR" d.bank i c) (data : Bytes) :
    (ReadOnly s d.bank request ∧ serveExtend e s i c data d = .error .readOnlyIndex) ∨
      (¬ReadOnly s d.bank request ∧
        ∃ answered, serveExtend e s i c data d = .ok answered ∧ Grants request answered.1) := by
  obtain ⟨body, hcall, -⟩ := h.call
  rw [readOnly_extend_iff h]
  unfold serveExtend
  cases c.register.lock && !s.has .extendLocked with
  | true => exact .inl ⟨rfl, rfl⟩
  | false =>
    exact .inr ⟨Bool.false_ne_true, _, rfl, .extendRegister .null data, body, hcall, _, rfl⟩

theorem serveLock_cases (h : CallsOn request "LockPCR" d.bank i c) :
    (ReadOnly s d.bank request ∧ (serveLock s i c d).1 = refuse .readOnlyIndex ∧
      Leaves request d (serveLock s i c d).2) ∨
      (¬ReadOnly s d.bank request ∧ Grants request (serveLock s i c d).1) := by
  obtain ⟨body, hcall, -⟩ := h.call
  have hgrants : Grants request (.text "LockPCR") := ⟨.lockRegister .null, body, hcall, rfl⟩
  rw [readOnly_lock_iff h]
  unfold serveLock
  cases hlock : c.register.lock with
  | false => exact .inr ⟨fun h => Bool.false_ne_true h.1, hgrants⟩
  | true =>
    dsimp only
    cases Cell.relockIsSilent s (c.relocks + 1) with
    | false => exact .inl ⟨⟨rfl, rfl⟩, rfl, .attempt h hlock⟩
    | true => exact .inr ⟨fun h => Bool.false_ne_true h.2.symm, hgrants⟩

/-- **A request with nothing wrong** is carried out, unless it is for a register that is locked. -/
theorem answer_of_ofValue (hplaced : d.bank.Placed s) {r : Request}
    (hr : Request.ofValue s request = .ok r) :
    (ReadOnly s d.bank request ∧ (answer e s request d).1 = refuse .readOnlyIndex ∧
      Leaves request d (answer e s request d).2) ∨
      (¬ReadOnly s d.bank request ∧ Grants request (answer e s request d).1) := by
  obtain ⟨body, hcall, hread⟩ := Calls.of_ofValue_eq_ok hr
  have hcell : ∀ {i : Nat}, Request.index s body = .ok i →
      ∃ c, d.bank[i]? = some c ∧ CallsOn request r.operation d.bank i c := by
    intro i hindex
    obtain ⟨hfield, hi⟩ := index_eq_ok_iff.mp hindex
    obtain ⟨c, hc⟩ := hplaced.exists_cell hi
    exact ⟨c, hc, ⟨body, hcall, bind_nat?_eq_some_iff.mp hfield⟩, hc⟩
  have hother : r.operation ∉ ["ExtendPCR", "LockPCR"] → ¬ReadOnly s d.bank request :=
    not_readOnly hcall
  rw [answer_of_ofValue_ok hr]
  cases r with
  | describe => exact .inr ⟨hother (by simp [Request.operation]), .describe, body, hcall, _, rfl⟩
  | describeRegister i =>
    obtain ⟨c, hc, -⟩ := hcell hread
    simp only [serve, hc]
    exact .inr ⟨hother (by simp [Request.operation]), .describeRegister .null, body, hcall, _, rfl⟩
  | extendRegister i data =>
    obtain ⟨c, hc, hon⟩ := hcell hread.1
    simp only [serve, hc]
    obtain ⟨hreadOnly, h⟩ | ⟨hreadOnly, answered, h, hgrants⟩ := serveExtend_cases hon data
    · rw [h]
      exact .inl ⟨hreadOnly, rfl, .nothing⟩
    · rw [h]
      exact .inr ⟨hreadOnly, hgrants⟩
  | lockRegister i =>
    obtain ⟨c, hc, hon⟩ := hcell hread
    simp only [serve, hc]
    exact serveLock_cases hon
  | lockRegisters n =>
    exact .inr ⟨hother (by simp [Request.operation]), .lockRegisters .null, body, hcall, rfl⟩
  | attest userData nonce publicKey =>
    refine .inr ⟨hother (by simp [Request.operation]), .attest .null .null .null, body, hcall, ?_⟩
    exact ⟨_, rfl⟩
  | random =>
    have hrandom : ∃ fields, (serveRandom e s d).1 = reply "GetRandom" fields := by
      unfold serveRandom
      split <;> exact ⟨_, rfl⟩
    exact .inr ⟨hother (by simp [Request.operation]), .random 0, body, hcall, hrandom⟩

theorem answer_of_ofValue_error {status : Status} (h : Request.ofValue s request = .error status) :
    answer e s request d = (refuse status, d) := by
  unfold answer
  rw [h]

end

/-! ## Every request -/

theorem refuse_inj {status status' : Status} :
    refuse status = refuse status' ↔ status = status' := by
  constructor
  · intro h
    have hname : status.name = status'.name := by simpa [refuse, Value.record] using h
    exact (Status.ofWire_name status).symm.trans (hname ▸ Status.ofWire_name status')
  · rintro rfl
    rfl

theorem not_grants_refuse (status : Status) : ¬Grants request (refuse status) := by
  rintro ⟨operation, body, -, h⟩
  cases operation with
  | lockRegister index | lockRegisters count => cases h
  | _ =>
    obtain ⟨fields, h⟩ := h
    simp [refuse, reply, Value.record, Operation.name] at h

variable {e : Surroundings} {d d' : State}

theorem Leaves.registers (h : Leaves request d d') : d'.registers = d.registers := by
  cases h with
  | nothing => rfl
  | attempt hcell hlock => exact Bank.map_set hcell.cell rfl

/-- The device looks at a request in the order in which its answer is due. -/
theorem due_answer (hplaced : d.bank.Placed s) (request : Value) :
    Due s d.bank request (answer e s request d).1 ∧
      (¬Grants request (answer e s request d).1 → Leaves request d (answer e s request d).2) := by
  have hrefused : ∀ {status}, Request.ofValue s request = .error status →
      answer e s request d = (refuse status, d) := answer_of_ofValue_error
  -- the first thing that is wrong decides, so what comes later may be wrong or not
  by_cases hsense : Senseless s request
  · rw [hrefused (ofValue_of_senseless hsense)]
    refine ⟨?_, fun _ => .nothing⟩
    constructor <;> simp [refuse_inj, not_grants_refuse, hsense]
  by_cases hbank : OutOfBank s request
  · rw [hrefused (ofValue_of_outOfBank hbank)]
    refine ⟨?_, fun _ => .nothing⟩
    constructor <;> simp [refuse_inj, not_grants_refuse, hsense, hbank]
  by_cases hsize : TooLarge request
  · rw [hrefused (ofValue_of_tooLarge hsize)]
    refine ⟨?_, fun _ => .nothing⟩
    constructor <;> simp [refuse_inj, not_grants_refuse, hsense, hbank, hsize]
  obtain ⟨r, hr⟩ := exists_ofValue_eq_ok hsense hbank hsize
  obtain ⟨hreadOnly, h, hleaves⟩ | ⟨hreadOnly, hgrants⟩ := answer_of_ofValue hplaced hr
  · rw [h]
    refine ⟨?_, fun _ => hleaves⟩
    constructor <;> simp [refuse_inj, not_grants_refuse, hsense, hbank, hsize, hreadOnly]
  · have hne : ∀ status, (answer e s request d).1 ≠ refuse status :=
      fun status h => not_grants_refuse status (h ▸ hgrants)
    refine ⟨?_, fun h => absurd hgrants h⟩
    constructor <;> simp [hne, hgrants, hsense, hbank, hsize, hreadOnly]

/-- That a register is not there is said before the data is missed. -/
example (e : Surroundings) (d : State) :
    (answer e {} (.record [("ExtendPCR", .record [("index", .int 40)])]) d).1 =
      refuse .invalidIndex := rfl

/-- **Every request is answered**, and with what is due. Take a device that was just made, with any
faults, call it as often as one likes, and send it anything while it is open. If the operation is
not carried out, the registers are what they were, and the rest of the device too, apart from the
counts. -/
theorem every_request_is_answered (e : Surroundings) (s : Settings) (calls : List Call)
    (now : Instant) (request : Value)
    (hopen : ((State.fresh e s).after e s calls).isOpen = true) :
    let d := (State.fresh e s).after e s calls
    let o := (transport { e with now } s).exchange request d
    ∃ answer, o.result = .ok answer ∧ Due s d.bank request answer ∧
      (¬Grants request answer → o.device.registers = d.registers ∧
        Leaves request { d with requestCount := d.requestCount + 1 } o.device) := by
  intro d o
  let counted : State := { d with requestCount := d.requestCount + 1 }
  have hplaced : counted.bank.Placed s := placed_after e s calls
  obtain ⟨hdue, hleaves⟩ := due_answer (e := { e with now }) hplaced request
  have ho : o = ⟨.ok (answer { e with now } s request counted).1, [],
      (answer { e with now } s request counted).2⟩ := exchange_of_open hopen request
  rw [ho]
  exact ⟨_, rfl, hdue, fun h => ⟨(hleaves h).registers, hleaves h⟩⟩

/-- Firmware that refuses to lock a register again only once does so the first time. -/
theorem every_request_is_answered_of_relocking :
    let e : Surroundings := ⟨0, fun _ n => Bytes.zeros n, .standard⟩
    let s : Settings := { faults := [.relockOnce] }
    let lock : Value := (Operation.lockRegister (.int 16)).request
    let calls : List Call := [.opening, .request 1 lock]
    let d := (State.fresh e s).after e s calls
    d.isOpen = true ∧ ((transport { e with now := 2 } s).exchange lock d).result =
      .ok (refuse .readOnlyIndex) ∧ ReadOnly s d.bank lock := by
  intro e s lock calls d
  have hopen : d.isOpen = true := rfl
  obtain ⟨answer, hanswer, hdue, -⟩ := every_request_is_answered e s calls 2 lock hopen
  have hrefused : ((transport { e with now := 2 } s).exchange lock d).result =
      .ok (refuse .readOnlyIndex) := rfl
  have hsame : answer = refuse .readOnlyIndex :=
    Except.ok.inj (hanswer.symm.trans hrefused)
  exact ⟨hopen, hrefused, (hdue.readOnlyIndex.mp hsame).2.2.2⟩

end Simulator

end EnclaveAudit
