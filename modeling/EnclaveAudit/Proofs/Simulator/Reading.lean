import EnclaveAudit.Device.Answer
import EnclaveAudit.Proofs.Check.Passing
import EnclaveAudit.Simulator.Firmware

/-!
# `EnclaveAudit/Proofs/Simulator/Reading.lean` — which requests make sense

The firmware reads a request part by part and refuses it at the first that is wrong. What it accepts
has the name of an operation, and every argument is what the request holds in its place
(`ofValue_eq_ok`). Nothing that is said about an accepted request needs the order of the parts.
-/

set_option autoImplicit false

namespace EnclaveAudit.Simulator

namespace Request

/-- The name of the operation. -/
def operation : Request → String
  | .describe => "DescribeNSM"
  | .describeRegister _ => "DescribePCR"
  | .extendRegister _ _ => "ExtendPCR"
  | .lockRegister _ => "LockPCR"
  | .lockRegisters _ => "LockPCRs"
  | .attest _ _ _ => "Attestation"
  | .random => "GetRandom"

/-- The arguments are those that the request gives. -/
def ReadFrom (s : Settings) (body : Value) : Request → Prop
  | .describeRegister i | .lockRegister i => index s body = .ok i
  | .extendRegister i data =>
    index s body = .ok i ∧ (body.field? "data").bind Value.bytes? = some data
  | .lockRegisters n => number "range" body = .ok n ∧ (n : Int) ≤ lockLimit s
  | .attest userData nonce publicKey =>
    attested "user_data" body = .ok userData ∧ attested "nonce" body = .ok nonce ∧
      attested "public_key" body = .ok publicKey
  | .describe | .random => True

end Request

variable {s : Settings} {request body : Value} {name : String}

theorem body?_bind_of_parts? {α : Type} {f : Value → Option α} (hf : f .null = none)
    (hparts : Request.parts? request = some (name, body)) (operation : String) :
    (Operation.body? operation request).bind f = if name = operation then f body else none := by
  unfold Request.parts? at hparts
  split at hparts
  -- a bare name has no arguments
  · cases hparts
    simp [Operation.body?, hf]
  · cases hparts
    simp only [Operation.body?]
    split <;> rfl
  · cases hparts

theorem number_eq_ok_iff {field : String} {n : Nat} :
    Request.number field body = .ok n ↔ (body.field? field).bind Value.nat? = some n := by
  unfold Request.number
  cases (body.field? field).bind Value.nat? <;> simp

theorem index_eq_ok_iff {i : Nat} : Request.index s body = .ok i ↔
    (body.field? "index").bind Value.nat? = some i ∧ (i : Int) < s.registerCount := by
  rw [← number_eq_ok_iff]
  unfold Request.index
  constructor
  · intro h
    obtain ⟨n, hn, hlt⟩ := Check.bind_eq_ok_iff.mp h
    split_ifs at hlt with hbound
    cases hlt
    exact ⟨hn, hbound⟩
  · rintro ⟨hn, hbound⟩
    refine Check.bind_eq_ok_iff.mpr ⟨i, hn, ?_⟩
    rw [if_pos hbound]
    rfl

/-- **A request that makes sense** has the name of its operation, and its arguments. -/
theorem ofValue_eq_ok {r : Request} (h : Request.ofValue s request = .ok r) :
    ∃ body, Request.parts? request = some (r.operation, body) ∧ r.ReadFrom s body := by
  unfold Request.ofValue at h
  split at h
  case h_1 hparts =>
    cases h
    exact ⟨_, hparts, trivial⟩
  case h_2 hparts =>
    obtain ⟨i, hi, hr⟩ := Check.bind_eq_ok_iff.mp h
    cases hr
    exact ⟨_, hparts, hi⟩
  case h_3 hparts =>
    obtain ⟨i, hi, hr⟩ := Check.bind_eq_ok_iff.mp h
    split at hr
    · next hdata =>
      cases hr
      exact ⟨_, hparts, hi, hdata⟩
    · cases hr
  case h_4 hparts =>
    obtain ⟨i, hi, hr⟩ := Check.bind_eq_ok_iff.mp h
    cases hr
    exact ⟨_, hparts, hi⟩
  case h_5 hparts =>
    obtain ⟨n, hn, hr⟩ := Check.bind_eq_ok_iff.mp h
    split_ifs at hr with hlimit
    cases hr
    exact ⟨_, hparts, hn, hlimit⟩
  case h_6 hparts =>
    split_ifs at h
    obtain ⟨userData, hu, h⟩ := Check.bind_eq_ok_iff.mp h
    obtain ⟨nonce, hn, h⟩ := Check.bind_eq_ok_iff.mp h
    obtain ⟨publicKey, hk, h⟩ := Check.bind_eq_ok_iff.mp h
    cases h
    exact ⟨_, hparts, hu, hn, hk⟩
  case h_7 hparts =>
    cases h
    exact ⟨_, hparts, trivial⟩
  case h_8 => cases h

/-- Nothing is attested that is longer than the limit. -/
theorem length_le_of_attested {field : String} {b : Option Bytes}
    (h : Request.attested field body = .ok b) : ∀ x ∈ b, x.length ≤ attestationLimit := by
  unfold Request.attested at h
  split at h
  · cases h
    intro x hx
    cases hx
  · cases h
    intro x hx
    cases hx
  · split_ifs at h with hlong
    cases h
    rintro x ⟨⟩
    exact Nat.not_lt.mp hlong
  · cases h

end EnclaveAudit.Simulator
