import Mathlib.Algebra.Order.BigOperators.Group.Finset
import EnclaveAudit.Proofs.Audit.Messages
import EnclaveAudit.Proofs.Check.Passing
import EnclaveAudit.Proofs.DeviceFile.Exchange
import EnclaveAudit.Proofs.Simulator.Attestation

/-!
# `EnclaveAudit/Proofs/Simulator/Outline.lean` — how long a document is

A document holds a value for each locked register, and what the caller hands in; everything else in
it has a length that is fixed. So its length is a function of its *outline*: which registers are
locked, the digest, and the lengths of the identifier, of the time and of the three inputs. Neither
the values of the registers nor the signature nor the key enter.

The function grows with each part of the outline. That is what carries the bounds: the longest
document there can be is the one of the largest outline, and its length is a number.
-/

set_option autoImplicit false

namespace EnclaveAudit

namespace Cbor

/-! ## Exact lengths -/

/-- How many octets a head has: the least of five widths that holds the number. -/
def headLength (n : Nat) : Nat :=
  if n < 24 then 1
  else if n < 0x100 then 2
  else if n < 0x10000 then 3
  else if n < 0x100000000 then 5
  else 9

/-- How many octets an octet string or a text has, with its head. -/
def stringLength (n : Nat) : Nat := headLength n + n

theorem length_head (kind n : Nat) : (head kind n).length = headLength n := by
  unfold head headLength
  split_ifs <;> simp

theorem length_octets (b : Bytes) : (octets b).length = stringLength b.length := by
  rw [octets, List.length_append, length_head, stringLength]

theorem length_text (s : String) : (text s).length = stringLength (Bytes.ofString s).length := by
  rw [text, List.length_append, length_head, stringLength]

theorem headLength_mono {n m : Nat} (h : n ≤ m) : headLength n ≤ headLength m := by
  unfold headLength
  split_ifs <;> omega

theorem stringLength_mono {n m : Nat} (h : n ≤ m) : stringLength n ≤ stringLength m :=
  Nat.add_le_add (headLength_mono h) h

theorem length_encodeEntries (entries : List (Value × Value)) :
    (encodeEntries entries).length =
      (entries.map fun x => (encode x.1).length + (encode x.2).length).sum := by
  induction entries with
  | nil => rfl
  | cons entry entries ih =>
    rw [encodeEntries, encodeEntry, List.length_append, List.length_append, ih, List.map_cons,
      List.sum_cons]

/-- An integer that is not negative and has 64 bits is a head. -/
theorem length_integer_of_nonneg {n : Int} (hn : 0 ≤ n) (h : n < 2 ^ 64) :
    (integer n).length ≤ 9 := by
  obtain ⟨m, rfl⟩ := Int.eq_ofNat_of_zero_le hn
  exact length_integer_le m (by omega)

end Cbor

namespace Simulator

open Cbor

/-! ## Outlines -/

/-- The indices of the locked registers. -/
def Bank.locked (b : Bank) : Finset Int := ((lockedRegisters b).map Register.index).toFinset

/-- What the length of a document depends on. -/
structure Outline where
  /-- which registers are locked -/
  locked : Finset Int
  digest : Digest
  /-- how many octets the identifier of the device has -/
  moduleId : Nat
  /-- how many octets the time has, encoded -/
  timestamp : Nat
  /-- how many octets each input has, if there is one -/
  userData : Option Nat
  nonce : Option Nat
  publicKey : Option Nat

/-- The outline of what a device attests. -/
def outline (e : Surroundings) (s : Settings) (bank : Bank)
    (userData nonce publicKey : Option Bytes) : Outline where
  locked := bank.locked
  digest := s.digest
  moduleId := (Bytes.ofString s.moduleId).length
  timestamp := (integer e.now.milliseconds).length
  userData := userData.map List.length
  nonce := nonce.map List.length
  publicKey := publicKey.map List.length

namespace Outline

/-- An input, or the one octet that says that there is none. -/
def inputLength : Option Nat → Nat
  | none => 1
  | some n => stringLength n

/-- The locked registers: a head, and for each of them its index and its value. -/
def registersLength (o : Outline) : Nat :=
  headLength o.locked.card + ∑ i ∈ o.locked, ((integer i).length + stringLength o.digest.width)

/-- What is signed. The names of the nine fields, the digest, the key and the empty list of
certificates have 123 octets together. -/
def bodyLength (o : Outline) : Nat :=
  123 + stringLength o.moduleId + o.timestamp + o.registersLength + inputLength o.publicKey +
    inputLength o.userData + inputLength o.nonce

/-- The document: what is signed, and 72 octets for the two headers and the signature. -/
def length (o : Outline) : Nat := 72 + stringLength o.bodyLength

/-- One outline is within another if no part of it is larger. -/
structure Within (o o' : Outline) : Prop where
  locked : o.locked ⊆ o'.locked
  width : o.digest.width ≤ o'.digest.width
  moduleId : o.moduleId ≤ o'.moduleId
  timestamp : o.timestamp ≤ o'.timestamp
  userData : inputLength o.userData ≤ inputLength o'.userData
  nonce : inputLength o.nonce ≤ inputLength o'.nonce
  publicKey : inputLength o.publicKey ≤ inputLength o'.publicKey

variable {o o' : Outline}

theorem registersLength_mono (h : o.Within o') : o.registersLength ≤ o'.registersLength := by
  have hentry : ∀ i ∈ o.locked, (integer i).length + stringLength o.digest.width ≤
      (integer i).length + stringLength o'.digest.width :=
    fun i _ => Nat.add_le_add_left (stringLength_mono h.width) _
  have hentries : ∑ i ∈ o.locked, ((integer i).length + stringLength o.digest.width) ≤
      ∑ i ∈ o'.locked, ((integer i).length + stringLength o'.digest.width) :=
    (Finset.sum_le_sum hentry).trans (Finset.sum_le_sum_of_subset h.locked)
  exact Nat.add_le_add (headLength_mono (Finset.card_le_card h.locked)) hentries

/-- **The length grows with the outline.** -/
theorem length_mono (h : o.Within o') : o.length ≤ o'.length := by
  have hbody : o.bodyLength ≤ o'.bodyLength := by
    have hid := stringLength_mono h.moduleId
    have htime := h.timestamp
    have hregisters := registersLength_mono h
    have huser := h.userData
    have hnonce := h.nonce
    have hkey := h.publicKey
    unfold bodyLength
    omega
  exact Nat.add_le_add_left (stringLength_mono hbody) 72

/-- Locking more registers makes no document shorter. -/
theorem length_le_of_locked {locked : Finset Int} (h : o.locked ⊆ locked) :
    o.length ≤ { o with locked }.length :=
  length_mono ⟨h, le_rfl, le_rfl, le_rfl, le_rfl, le_rfl, le_rfl⟩

/-- The largest outline: all 32 registers are locked, with the widest digest, an identifier of a
hundred octets, a time of 64 bits, and inputs of a kibibyte each. -/
def largest : Outline where
  locked := (Finset.range 32).image fun i : Nat => (i : Int)
  digest := .sha512
  moduleId := 100
  timestamp := 9
  userData := some attestationLimit
  nonce := some attestationLimit
  publicKey := some attestationLimit

theorem length_largest : largest.length = 5544 := by decide +kernel

theorem inputLength_le {b : Option Bytes} (h : ∀ x ∈ b, x.length ≤ attestationLimit) :
    inputLength (b.map List.length) ≤ inputLength (some attestationLimit) := by
  cases b with
  | none => decide
  | some x => exact stringLength_mono (h x rfl)

end Outline

/-! ## A document has the length of its outline -/

variable {e : Surroundings} {s : Settings} {bank : Bank} {userData nonce publicKey : Option Bytes}

theorem length_encode_ofBytes? (b : Option Bytes) :
    (encode (.ofBytes? b)).length = Outline.inputLength (b.map List.length) := by
  cases b with
  | none => rfl
  | some b => exact length_octets b

theorem length_registers (hplaced : bank.Placed s) (hshaped : bank.Shaped s) :
    (encode (.map ((lockedRegisters bank).map fun r => (.int r.index, .bytes r.value)))).length =
      (outline e s bank userData nonce publicKey).registersLength := by
  have hnodup : ((lockedRegisters bank).map Register.index).Nodup :=
    hplaced.pairwise_lockedRegisters.imp fun hlt => Int.ne_of_lt hlt
  have hcard : bank.locked.card = (lockedRegisters bank).length := by
    rw [Bank.locked, List.toFinset_card_of_nodup hnodup, List.length_map]
  have hwidth : ∀ r ∈ lockedRegisters bank, r.value.length = s.digest.width := by
    intro r hr
    obtain ⟨c, hc, rfl⟩ := List.mem_map.mp (List.mem_filter.mp hr).1
    exact hshaped.width c hc
  have hentry : ∀ r ∈ lockedRegisters bank,
      (encode (.int r.index)).length + (encode (.bytes r.value)).length =
        (integer r.index).length + stringLength s.digest.width := by
    intro r hr
    rw [encode, encode, length_octets, hwidth r hr]
  rw [encode, List.length_append, length_head, List.length_map, length_encodeEntries, List.map_map,
    Outline.registersLength, outline, hcard, Bank.locked, List.sum_toFinset _ hnodup, List.map_map]
  exact congrArg (headLength _ + ·) (congrArg List.sum (List.map_congr_left hentry))

theorem length_body (hsized : e.primitives.Sized) (hplaced : bank.Placed s)
    (hshaped : bank.Shaped s) :
    (encode (payload e s bank userData nonce publicKey)).length =
      (outline e s bank userData nonce publicKey).bodyLength := by
  have hnames : (text "module_id").length = 10 ∧ (text "digest").length = 7 ∧
      (text "timestamp").length = 10 ∧ (text "pcrs").length = 5 ∧
      (text "certificate").length = 12 ∧ (text "cabundle").length = 9 ∧
      (text "public_key").length = 11 ∧ (text "user_data").length = 10 ∧
      (text "nonce").length = 6 ∧ (head 5 9).length = 1 ∧ (encode (.array [])).length = 1 := by
    decide +kernel
  have htag : (encode (.text s.digest.tag)).length = 7 := by cases s.digest <;> decide +kernel
  have hid : (encode (.text s.moduleId)).length = _ := length_text s.moduleId
  have hkey : (encode (.bytes (e.primitives.verificationKey s.seed))).length = 34 := by
    rw [encode, length_octets, hsized.length_verificationKey]
    rfl
  have htime : encode (.int e.now.milliseconds) = integer e.now.milliseconds := rfl
  have hregisters : _ = (outline e s bank userData nonce publicKey).registersLength :=
    length_registers hplaced hshaped
  rw [payload, length_encode_record, Outline.bodyLength, ← hregisters]
  simp only [List.map_cons, List.map_nil, List.sum_cons, List.sum_nil, List.length_cons,
    List.length_nil, Nat.zero_add, Nat.reduceAdd, htag, hid, hkey, htime, length_encode_ofBytes?,
    outline]
  omega

/-- **The length of a document** is that of its outline. -/
theorem length_document (hsized : e.primitives.Sized) (hplaced : bank.Placed s)
    (hshaped : bank.Shaped s) :
    (document e s bank userData nonce publicKey).length =
      (outline e s bank userData nonce publicKey).length := by
  have hbody : (encode (payload e s bank userData nonce publicKey)).length = _ :=
    length_body hsized hplaced hshaped
  have hfixed : (head 4 4).length = 1 ∧ (octets protectedHeader).length = 4 ∧
      (head 5 0).length = 1 ∧ stringLength 64 = 66 := by
    decide +kernel
  unfold document Outline.length
  simp only [encode, encodeItems, encodeEntries, List.length_append, List.length_cons,
    List.length_nil, length_octets, hsized.length_sign, hbody, Nat.zero_add, Nat.reduceAdd]
  rw [length_octets] at hfixed
  omega

/-! ## The ceilings -/

/-- Locks stay set, so the set of locked registers grows. -/
theorem Bank.locked_subset {bank' : Bank} (hplaced : bank.Placed s) (hplaced' : bank'.Placed s)
    (h : Bank.Follows s bank bank') : bank.locked ⊆ bank'.locked := by
  intro i hi
  rw [Bank.locked, List.mem_toFinset, hplaced.mem_lockedRegisters_iff] at hi
  obtain ⟨n, c, rfl, hc, hlock⟩ := hi
  obtain ⟨c', hc', hcell⟩ := h.2 n c hc
  rw [Bank.locked, List.mem_toFinset, hplaced'.mem_lockedRegisters_iff]
  exact ⟨n, c', rfl, hc', hcell.lock hlock⟩

theorem within_largest (hplaced : bank.Placed s) (hcount : s.registerCount ≤ 32)
    (hid : (Bytes.ofString s.moduleId).length ≤ 100)
    (htime : 0 ≤ e.now.milliseconds ∧ e.now.milliseconds < 2 ^ 63)
    (hu : ∀ b ∈ userData, b.length ≤ 1024) (hn : ∀ b ∈ nonce, b.length ≤ 1024)
    (hk : ∀ b ∈ publicKey, b.length ≤ 1024) :
    (outline e s bank userData nonce publicKey).Within .largest where
  locked := by
    intro i hi
    obtain ⟨n, c, rfl, hc, -⟩ := hplaced.mem_lockedRegisters_iff.mp (List.mem_toFinset.mp hi)
    have hlt := hplaced.lt_of_getElem? hc
    exact Finset.mem_image.mpr ⟨n, Finset.mem_range.mpr (by omega), rfl⟩
  width := by
    show s.digest.width ≤ 64
    cases s.digest <;> decide
  moduleId := hid
  timestamp := length_integer_of_nonneg htime.1 (htime.2.trans (by decide))
  userData := Outline.inputLength_le hu
  nonce := Outline.inputLength_le hn
  publicKey := Outline.inputLength_le hk

/-- Nothing cuts or refuses a document, on its way from the device to the verdict. -/
structure Fits (request answer : Value) (document : Bytes) : Prop where
  nonempty : document ≠ []
  length_document : document.length ≤ 16384
  length_answer : (encode answer).length ≤ 12288
  length_request : (encode request).length ≤ 4096
  /-- it passes the check of its size, if nobody set another ceiling -/
  judged : Check.judgeDocument ({} : Parameters).maxDocumentSize (.ok document) = .ok document
  /-- the request may be sent to a device file -/
  sent : (encode request).length ≤ DeviceFile.requestLimit
  /-- and what such a file leaves in its buffer is read as the answer -/
  received : DeviceFile.answerOf decode (.ok ⟨encode answer, (encode answer).length⟩) = (answer, [])

/-- **A document fits every ceiling.** Take a device with 32 registers at most, any digest, any
faults but that of empty documents, an identifier of a hundred octets at most and a clock that is
not before 1970. Call it as often as one likes, and have it attest anything that can be attested.
Then the document, the answer and the request fit. The document is as long as its outline says; it
would be no shorter if more registers were locked, and whatever is done with the device, it does not
become shorter. -/
theorem attestation_fits (e : Surroundings) (s : Settings) (calls : List Call)
    (userData nonce publicKey : Option Bytes) (hsized : e.primitives.Sized)
    (hcount : s.registerCount ≤ 32) (hempty : s.has .emptyDocument = false)
    (hid : (Bytes.ofString s.moduleId).length ≤ 100)
    (htime : 0 ≤ e.now.milliseconds ∧ e.now.milliseconds < 2 ^ 63)
    (hu : ∀ b ∈ userData, b.length ≤ 1024) (hn : ∀ b ∈ nonce, b.length ≤ 1024)
    (hk : ∀ b ∈ publicKey, b.length ≤ 1024) :
    let d := (State.fresh e s).after e s calls
    let request :=
      (Operation.attest (.ofBytes? userData) (.ofBytes? nonce) (.ofBytes? publicKey)).request
    let octets := document e s d.bank userData nonce publicKey
    let o := outline e s d.bank userData nonce publicKey
    let answer := reply "Attestation" [("document", .bytes octets)]
    (d.isOpen = true → ((transport e s).exchange request d).result = .ok answer) ∧
    Fits request answer octets ∧ octets.length = o.length ∧
    (∀ locked, o.locked ⊆ locked → octets.length ≤ { o with locked }.length) ∧
    ∀ later, octets.length ≤
      (document e s (d.after e s later).bank userData nonce publicKey).length := by
  intro d request octets o answer
  have hhash := hsized.length_hash s.digest
  have hplaced : d.bank.Placed s := placed_after e s calls
  have hshaped : d.bank.Shaped s := (shaped_boot hhash).of_follows (after_follows hhash calls _)
  have hlength : octets.length = o.length := length_document hsized hplaced hshaped
  have hwithin : o.Within .largest := within_largest hplaced hcount hid htime hu hn hk
  have hdocument : octets.length ≤ 5544 := by
    rw [hlength, ← Outline.length_largest]
    exact Outline.length_mono hwithin
  have hne : octets ≠ [] := document_ne_nil
  have hanswer : (encode answer).length ≤ 12288 := by
    have hreply : (encode answer).length ≤ 67 + octets.length :=
      length_reply_bytes_le (by decide +kernel) (by decide +kernel)
    omega
  have hrequest : (encode request).length ≤ DeviceFile.requestLimit := length_attest_le hu hn hk
  refine ⟨fun hopen => ?_, ?_, hlength, fun locked hlocked => ?_, fun later => ?_⟩
  · exact congrArg Outcome.result (exchange_attest hopen hempty hu hn hk)
  · refine ⟨hne, by omega, hanswer, hrequest, ?_, hrequest, ?_⟩
    · rw [Check.judgeDocument_eq_ok_iff]
      exact ⟨rfl, hne, Int.ofNat_le.mpr (hdocument.trans (by decide))⟩
    · have hread : decode (encode answer) = .ok answer :=
        decode_of_portable (portable_reply_bytes _ _ _) (hanswer.trans_lt (by decide))
      rw [DeviceFile.answerOf, DeviceFile.window_of_length_le hanswer, hread]
  · rw [hlength]
    exact Outline.length_le_of_locked hlocked
  · -- the banks are those of one run, and the later one has all the locks of the earlier
    have hlater : (d.after e s later).bank.Placed s := by
      have hrun : d.after e s later = (State.fresh e s).after e s (calls ++ later) := by
        simp only [d, State.after, List.foldl_append]
      rw [hrun]
      exact placed_after e s _
    have hfollows : Bank.Follows s d.bank (d.after e s later).bank := after_follows hhash later d
    rw [hlength, length_document hsized hlater (hshaped.of_follows hfollows)]
    exact Outline.length_le_of_locked (Bank.locked_subset hplaced hlater hfollows)

/-- A device on which a seventeenth register was locked: its document has 1113 octets. -/
theorem attestation_fits_after_a_locking :
    let e : Surroundings := ⟨(0 : Int), fun _ n => Bytes.zeros n, .standard⟩
    let calls : List Call :=
      [.opening, .request (0 : Int) (Operation.lockRegister (.int 16)).request]
    let d := (State.fresh e {}).after e {} calls
    let octets := document e {} d.bank (some [4, 5]) none none
    (outline e {} d.bank (some [4, 5]) none none).length = 1113 ∧ d.isOpen = true ∧
      Fits (Operation.attest (.bytes [4, 5]) .null .null).request
        (reply "Attestation" [("document", .bytes octets)]) octets ∧ octets.length = 1113 := by
  intro e calls d octets
  have hshort : ∀ b ∈ (some [4, 5] : Option Bytes), b.length ≤ 1024 := by simp
  have hnone : ∀ b ∈ (none : Option Bytes), b.length ≤ 1024 := by simp
  obtain ⟨-, hfits, hlength, -⟩ := attestation_fits e {} calls (some [4, 5]) none none
    Primitives.sized_standard (by decide) rfl (by decide +kernel) (by decide +kernel) hshort hnone
    hnone
  have houtline : (outline e {} d.bank (some [4, 5]) none none).length = 1113 := by decide +kernel
  exact ⟨houtline, rfl, hfits, hlength.trans houtline⟩

end Simulator

end EnclaveAudit
