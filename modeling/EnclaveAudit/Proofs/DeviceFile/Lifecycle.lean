import Mathlib.Data.List.Induction
import EnclaveAudit.Proofs.DeviceFile.Exchange
import EnclaveAudit.Proofs.Wire.Front
import EnclaveAudit.Rehearsal.Replay

/-!
# `EnclaveAudit/Proofs/DeviceFile/Lifecycle.lean` — a device file over any uses

A device file can be opened, closed and asked in any order, and every call of the operating system
may fail. What each use calls, and what comes of it, is said by the uses before it: a descriptor is
held from the opening that gave it until the next closing, or the next opening that succeeds
(`Holds`). `Turn.Lawful` is the law of one turn after others.

The state of a device file is the descriptor that it holds, and that invariant carries the file. A
turn is lawful because it begins with the descriptor that the history says, and it ends with the one
that the history says then, whichever way its calls went.
-/

set_option autoImplicit false

namespace EnclaveAudit.DeviceFile

open Rehearsal (Replay)

/-! ## Turns -/

/-- A call of the operating system, and what came of it. -/
inductive Called where
  | openFile (path : String) (outcome : Except Int Nat)
  | closeFile (descriptor : Nat) (outcome : Except Int Unit)
  | control (descriptor : Nat) (request : Bytes) (outcome : Except Int Reply)

/-- An operating system, and the calls that were made of it. -/
structure Logged (φ : Type) where
  system : φ
  calls : List Called := []

/-- The system with a log of its calls. -/
def System.logged {φ : Type} (system : System φ) : System (Logged φ) where
  openFile path l :=
    let (outcome, after) := system.openFile path l.system
    (outcome, ⟨after, l.calls ++ [.openFile path outcome]⟩)
  closeFile descriptor l :=
    let (outcome, after) := system.closeFile descriptor l.system
    (outcome, ⟨after, l.calls ++ [.closeFile descriptor outcome]⟩)
  control descriptor request l :=
    let (outcome, after) := system.control descriptor request l.system
    (outcome, ⟨after, l.calls ++ [.control descriptor request outcome]⟩)
  decode := system.decode

/-- One use of a device file: what it called, and what it gave, an answer if it was a request. -/
structure Turn where
  use : Use
  calls : List Called
  result : Except Interruption (Option Value)

/-- What a use of a transport gives, and what it leaves. -/
def useOf {σ : Type} (t : Transport σ) : Use → σ → Except Interruption (Option Value) × σ
  | .acquire, d => ((t.acquire d).result.map fun _ => none, (t.acquire d).device)
  | .release, d => (.ok none, (t.release d).2)
  | .exchange request, d =>
    ((t.exchange request d).result.map some, (t.exchange request d).device)

/-- What uses give, one after the other, and what they leave. -/
def usesOf {σ : Type} (t : Transport σ) : List Use → σ →
    List (Except Interruption (Option Value)) × σ
  | [], d => ([], d)
  | use :: later, d =>
    let (result, after) := useOf t use d
    let (rest, last) := usesOf t later after
    (result :: rest, last)

section

variable {φ : Type} (system : System φ) (path : String)

/-- One turn, and the device file after it. -/
def turn (use : Use) (d : State φ) : Turn × State φ :=
  let (result, after) := useOf (transport system.logged path) use ⟨⟨d.system, []⟩, d.descriptor⟩
  (⟨use, after.system.calls, result⟩, ⟨after.system.system, after.descriptor⟩)

/-- Turns, one after the other, and the device file after the last. -/
def turns : List Use → State φ → List Turn × State φ
  | [], d => ([], d)
  | use :: later, d =>
    let (first, after) := turn system path use d
    let (rest, last) := turns later after
    (first :: rest, last)

/-- Keeping a log of the calls changes nothing: the turns are those of the device file. -/
theorem turn_eq (use : Use) (d : State φ) :
    ((turn system path use d).1.result, (turn system path use d).2) =
      useOf (transport system path) use d := by
  obtain ⟨kernel, held⟩ := d
  cases use with
  | acquire =>
    rcases h : system.openFile path kernel with ⟨_ | _, after⟩ <;>
      simp only [turn, useOf, transport, acquire, System.logged, h]
  | release =>
    cases held with
    | none => rfl
    | some descriptor =>
      rcases h : system.closeFile descriptor kernel with ⟨_ | _, after⟩ <;>
        simp only [turn, useOf, transport, release, System.logged, h]
  | exchange request =>
    cases held with
    | none => rfl
    | some descriptor =>
      simp only [turn, useOf, transport, exchange, System.logged]
      split <;> rfl

theorem turns_eq (uses : List Use) (d : State φ) :
    ((turns system path uses d).1.map Turn.result, (turns system path uses d).2) =
      usesOf (transport system path) uses d := by
  induction uses generalizing d with
  | nil => rfl
  | cons use uses ih =>
    simp only [usesOf, ← turn_eq system path use d, ← ih]
    rfl

end

/-! ## What the history says -/

/-- The turn opened the file, and got this descriptor. -/
def Turn.Opens (descriptor : Nat) (t : Turn) : Prop :=
  t.use = .acquire ∧ ∃ path, t.calls = [.openFile path (.ok descriptor)]

/-- After the turns the descriptor is held: an opening gave it, and since then none gave another and
the file was not closed. -/
def Holds (descriptor : Nat) (history : List Turn) : Prop :=
  ∃ earlier opening later, history = earlier ++ opening :: later ∧ opening.Opens descriptor ∧
    ∀ t ∈ later, t.use ≠ .release ∧ ∀ other, ¬t.Opens other

/-- What is seen of a reply: of the buffer, which is as long as it is and was filled with zeros, as
many octets as the reply reports. -/
def seen (reply : Reply) : Bytes :=
  (List.range (min reply.length 12288)).map fun i => reply.octets.getD i 0

/-- The decoder reads the item that octets begin with, whatever comes after it. -/
def Decoder.ReadsFirst (decode : Decoder) : Prop :=
  ∀ first later v, decode first = .ok v → decode (first ++ later) = .ok v

theorem readsFirst_decode : Decoder.ReadsFirst Cbor.decode :=
  fun _ later _ h => Cbor.decode_append h later

/-- The answer is the one that is due for what came of the control call. -/
inductive Answers (decode : Decoder) : Except Int Reply → Value → Prop
  | tooLong : Answers decode (.error Errno.messageTooLong) (errorAnswer .inputTooLarge)
  | failed {number : Int} (h : number ≠ Errno.messageTooLong) :
    Answers decode (.error number) (errorAnswer .internalError)
  | item {reply : Reply} {first later : Bytes} {v : Value} (hseen : seen reply = first ++ later)
    (h : decode first = .ok v) : Answers decode (.ok reply) v
  | noItem {reply : Reply}
    (h : ∀ first later v, seen reply = first ++ later → decode first ≠ .ok v) :
    Answers decode (.ok reply) (errorAnswer .internalError)

/-- The law of a turn after others. -/
inductive Turn.Lawful (decode : Decoder) (path : String) (history : List Turn) : Turn → Prop
  | opened (descriptor : Nat) :
    Lawful decode path history ⟨.acquire, [.openFile path (.ok descriptor)], .ok none⟩
  | notOpened (number : Int) :
    Lawful decode path history ⟨.acquire, [.openFile path (.error number)],
      .error (.unavailable path (Errno.messageAbout number path))⟩
  | closed {descriptor : Nat} (h : Holds descriptor history) (outcome : Except Int Unit) :
    Lawful decode path history ⟨.release, [.closeFile descriptor outcome], .ok none⟩
  | notClosed (h : ∀ descriptor, ¬Holds descriptor history) :
    Lawful decode path history ⟨.release, [], .ok none⟩
  | notAsked (h : ∀ descriptor, ¬Holds descriptor history) (request : Value) :
    Lawful decode path history ⟨.exchange request, [], .error (.fileClosed path)⟩
  | tooLong {descriptor : Nat} (h : Holds descriptor history) {request : Value}
    (hlong : 4096 < (Cbor.encode request).length) :
    Lawful decode path history ⟨.exchange request, [], .ok (errorAnswer .inputTooLarge)⟩
  | asked {descriptor : Nat} (h : Holds descriptor history) {request answer : Value}
    (hshort : (Cbor.encode request).length ≤ 4096) {outcome : Except Int Reply}
    (hanswer : Answers decode outcome answer) :
    Lawful decode path history
      ⟨.exchange request, [.control descriptor (Cbor.encode request) outcome], .ok answer⟩

/-! ## What is held -/

section

variable {descriptor : Nat} {history : List Turn} {t : Turn}

theorem not_holds_nil : ¬Holds descriptor [] := by
  rintro ⟨earlier, opening, later, h, -⟩
  simp at h

/-- What is held after one more turn is what it opened, or what was held before if it neither closed
nor opened the file. -/
theorem holds_append_iff : Holds descriptor (history ++ [t]) ↔
    t.Opens descriptor ∨
      ((t.use ≠ .release ∧ ∀ other, ¬t.Opens other) ∧ Holds descriptor history) := by
  constructor
  · rintro ⟨earlier, opening, later, h, hopens, hlater⟩
    rcases List.eq_nil_or_concat later with rfl | ⟨later, last, rfl⟩
    · obtain ⟨-, hlast⟩ := List.append_inj' h rfl
      obtain rfl := List.head_eq_of_cons_eq hlast
      exact .inl hopens
    · rw [List.concat_eq_append, ← List.cons_append, ← List.append_assoc] at h
      obtain ⟨rfl, hlast⟩ := List.append_inj' h rfl
      obtain rfl := List.head_eq_of_cons_eq hlast
      simp only [List.concat_eq_append, List.forall_mem_append, List.forall_mem_singleton] at hlater
      exact .inr ⟨hlater.2, earlier, opening, later, rfl, hopens, hlater.1⟩
  · rintro (hopens | ⟨hkeeps, earlier, opening, later, rfl, hopens, hlater⟩)
    · exact ⟨history, t, [], rfl, hopens, by simp⟩
    · refine ⟨earlier, opening, later ++ [t], by simp, hopens, ?_⟩
      simp only [List.forall_mem_append, List.forall_mem_singleton]
      exact ⟨hlater, hkeeps⟩

/-- An opening is of one descriptor. -/
theorem Turn.Opens.unique {other : Nat} (h : t.Opens descriptor) (h' : t.Opens other) :
    other = descriptor := by
  obtain ⟨-, path, hcalls⟩ := h
  obtain ⟨-, path', hcalls'⟩ := h'
  rw [hcalls] at hcalls'
  cases hcalls'
  rfl

/-- What is held was opened after every closing. -/
theorem Holds.exists_opening {before between : List Turn}
    (h : Holds descriptor (before ++ t :: between)) (hrelease : t.use = .release) :
    ∃ opening ∈ between, opening.Opens descriptor := by
  induction between using List.reverseRecOn with
  | nil =>
    rcases holds_append_iff.mp h with ⟨hacquire, -⟩ | ⟨⟨hkeeps, -⟩, -⟩
    · rw [hrelease] at hacquire
      cases hacquire
    · exact absurd hrelease hkeeps
  | append_singleton between last ih =>
    rw [← List.cons_append, ← List.append_assoc, holds_append_iff] at h
    rcases h with hopens | ⟨-, hheld⟩
    · exact ⟨last, by simp, hopens⟩
    · obtain ⟨opening, hmem, hopens⟩ := ih hheld
      exact ⟨opening, List.mem_append_left _ hmem, hopens⟩

end

/-! ## What is answered -/

theorem window_eq_seen (reply : Reply) : window reply = seen reply := by
  unfold window seen responseLimit
  apply List.ext_getElem
  · simp only [List.length_take, List.length_append, Bytes.length_zeros, List.length_map,
      List.length_range]
    omega
  intro i hi hi'
  have hbound : i < 12288 := by
    simp only [List.length_map, List.length_range] at hi'
    omega
  simp only [List.getElem_take, List.getElem_map, List.getElem_range, List.getD_eq_getElem?_getD]
  by_cases hlength : i < reply.octets.length
  · rw [List.getElem_append_left (by rw [List.length_take]; omega), List.getElem_take,
      List.getElem?_eq_getElem hlength]
    rfl
  · rw [List.getElem_append_right (by rw [List.length_take]; omega),
      List.getElem?_eq_none (by omega)]
    simp [Bytes.zeros]

section

variable {decode : Decoder} (hfirst : decode.ReadsFirst)
include hfirst

theorem answers_answerOf (outcome : Except Int Reply) :
    Answers decode outcome (answerOf decode outcome).1 := by
  cases outcome with
  | error number =>
    by_cases h : number = Errno.messageTooLong
    · subst h
      exact .tooLong
    · simp only [answerOf, if_neg h]
      exact .failed h
  | ok reply =>
    simp only [answerOf, window_eq_seen]
    cases hread : decode (seen reply) with
    | ok v => exact .item (List.append_nil _).symm hread
    | error cause =>
      refine .noItem fun first later v hseen hitem => ?_
      have hwhole := hfirst first later v hitem
      rw [← hseen, hread] at hwhole
      cases hwhole

/-- There is one answer that is due. -/
theorem Answers.eq_answerOf {outcome : Except Int Reply} {answer : Value}
    (h : Answers decode outcome answer) : answer = (answerOf decode outcome).1 := by
  cases h with
  | tooLong => rfl
  | failed h => simp only [answerOf, if_neg h]
  | @item reply first later _ hseen h =>
    have hwhole := hfirst first later _ h
    rw [← hseen] at hwhole
    simp only [answerOf, window_eq_seen, hwhole]
  | @noItem reply h =>
    simp only [answerOf, window_eq_seen]
    cases hread : decode (seen reply) with
    | ok v => exact absurd hread (h _ [] v (List.append_nil _).symm)
    | error cause => rfl

end

/-! ## The law -/

section

variable {φ : Type} {system : System φ} {path : String}

/-- The device file holds the descriptor that the history says, if it says one. -/
def Agrees (d : State φ) (history : List Turn) : Prop :=
  ∀ descriptor, d.descriptor = some descriptor ↔ Holds descriptor history

theorem agrees_start (kernel : φ) : Agrees (φ := φ) { system := kernel } [] := by
  intro descriptor
  exact iff_of_false (by simp) not_holds_nil

namespace Agrees

variable {d : State φ} {history : List Turn} {t : Turn}

theorem not_holds (h : Agrees d history) (hnone : d.descriptor = none) (descriptor : Nat) :
    ¬Holds descriptor history := by
  rw [← h, hnone]
  simp

/-- A turn that neither closes nor opens the file leaves held what was held. -/
theorem append_kept (h : Agrees d history) (hrelease : t.use ≠ .release)
    (hopens : ∀ other, ¬t.Opens other) {after : φ} :
    Agrees ⟨after, d.descriptor⟩ (history ++ [t]) := by
  intro descriptor
  rw [holds_append_iff, ← h]
  simp [hrelease, hopens]

theorem append_opened {path : String} {descriptor : Nat} {after : φ}
    {result : Except Interruption (Option Value)} :
    Agrees ⟨after, some descriptor⟩
      (history ++ [⟨.acquire, [.openFile path (.ok descriptor)], result⟩]) := by
  intro other
  have hopens : Turn.Opens descriptor ⟨.acquire, [.openFile path (.ok descriptor)], result⟩ :=
    ⟨rfl, path, rfl⟩
  rw [holds_append_iff, Option.some.injEq]
  constructor
  · rintro rfl
    exact .inl hopens
  · rintro (hother | ⟨⟨-, hnone⟩, -⟩)
    · exact hother.unique hopens
    · exact absurd hopens (hnone descriptor)

theorem append_closed {after : φ} {calls : List Called}
    {result : Except Interruption (Option Value)} :
    Agrees ⟨after, none⟩ (history ++ [⟨.release, calls, result⟩]) := by
  intro descriptor
  rw [holds_append_iff]
  simp [Turn.Opens]

end Agrees

variable (system path) (hfirst : system.decode.ReadsFirst)

include hfirst in
/-- **One turn** is lawful after what came before, and what is held agrees with the history then. -/
theorem lawful_turn {d : State φ} {history : List Turn} (h : Agrees d history) (use : Use) :
    (turn system path use d).1.Lawful system.decode path history ∧
      Agrees (turn system path use d).2 (history ++ [(turn system path use d).1]) := by
  obtain ⟨kernel, held⟩ := d
  cases use with
  | acquire =>
    rcases hcall : system.openFile path kernel with ⟨number | descriptor, after⟩ <;>
      simp only [turn, useOf, transport, acquire, System.logged, hcall]
    · refine ⟨.notOpened number, h.append_kept (by simp) ?_⟩
      rintro other ⟨-, path', hcalls⟩
      simp at hcalls
    · exact ⟨.opened descriptor, .append_opened⟩
  | release =>
    cases held with
    | none => exact ⟨.notClosed (h.not_holds rfl), .append_closed⟩
    | some descriptor =>
      rcases hcall : system.closeFile descriptor kernel with ⟨_ | _, after⟩ <;>
        simp only [turn, useOf, transport, release, System.logged, hcall]
      all_goals exact ⟨.closed ((h descriptor).mp rfl) _, .append_closed⟩
  | exchange request =>
    have hkept : ∀ {calls result} {after : φ}, Agrees ⟨after, held⟩
        (history ++ [⟨.exchange request, calls, result⟩]) := by
      intro calls result after
      refine h.append_kept (by simp) ?_
      rintro other ⟨huse, -⟩
      simp at huse
    cases held with
    | none => exact ⟨.notAsked (h.not_holds rfl) request, hkept⟩
    | some descriptor =>
      have hholds := (h descriptor).mp rfl
      simp only [turn, useOf, transport]
      by_cases hlong : requestLimit < (Cbor.encode request).length
      · rw [exchange_of_limit_lt rfl hlong]
        exact ⟨.tooLong hholds hlong, hkept⟩
      · have hshort := Nat.not_lt.mp hlong
        rw [exchange_of_length_le rfl hshort]
        exact ⟨.asked hholds hshort (answers_answerOf hfirst _), hkept⟩

include hfirst in
/-- **Turns in a row** are lawful, each after those before it. -/
theorem lawful_turns {d : State φ} {history : List Turn} (h : Agrees d history) (uses : List Use) :
    let run := turns system path uses d
    (∀ before t later, run.1 = before ++ t :: later →
      t.Lawful system.decode path (history ++ before)) ∧
      Agrees run.2 (history ++ run.1) := by
  induction uses generalizing d history with
  | nil =>
    refine ⟨fun before t later hrun => ?_, ?_⟩
    · simp [turns] at hrun
    · rwa [show (turns system path [] d).1 = [] from rfl, List.append_nil]
  | cons use uses ih =>
    obtain ⟨hlawful, hagrees⟩ := lawful_turn system path hfirst h use
    obtain ⟨hlater, hlast⟩ := ih hagrees
    refine ⟨fun before t later hrun => ?_, ?_⟩
    · cases before with
      | nil =>
        rw [List.append_nil]
        obtain rfl := List.head_eq_of_cons_eq hrun
        exact hlawful
      | cons first before =>
        obtain rfl := List.head_eq_of_cons_eq hrun
        have hrest := hlater before t later (List.tail_eq_of_cons_eq hrun)
        rwa [List.append_assoc] at hrest
    · rwa [List.append_assoc] at hlast

theorem map_use_turns (uses : List Use) (d : State φ) :
    (turns system path uses d).1.map Turn.use = uses := by
  induction uses generalizing d with
  | nil => rfl
  | cons use uses ih => exact congrArg (use :: ·) (ih _)

end

/-- A descriptor is closed by the law only while it is held. -/
theorem Turn.Lawful.holds_of_closes {decode : Decoder} {path : String} {history : List Turn}
    {t : Turn} {descriptor : Nat} {outcome : Except Int Unit} (h : t.Lawful decode path history)
    (hcalls : t.calls = [.closeFile descriptor outcome]) :
    t.use = .release ∧ Holds descriptor history := by
  cases h with
  | closed h outcome =>
    cases hcalls
    exact ⟨rfl, h⟩
  | opened _ | notOpened _ | notClosed _ | notAsked _ _ | tooLong _ _ | asked _ _ _ => cases hcalls

/-- **A device file over any uses**, with any outcome of each call of the operating system. Every
use is lawful after those before it: it is answered, or not, as the transport does, and makes no
other calls than it may. At the end that descriptor is held which the history says. No descriptor is
closed twice unless an opening gave it again in between, and octets of a reply beyond the reported
length or beyond the buffer make no difference to an answer. Of the decoder no more is used than that
it reads the first item. -/
theorem every_use_is_lawful {φ : Type} (system : System φ) (hfirst : system.decode.ReadsFirst)
    (path : String) (kernel : φ) (uses : List Use) :
    let run := turns system path uses { system := kernel }
    (run.1.map Turn.use = uses ∧
      (run.1.map Turn.result, run.2) =
        usesOf (transport system path) uses { system := kernel }) ∧
    (∀ before t later, run.1 = before ++ t :: later → t.Lawful system.decode path before) ∧
    (∀ descriptor, run.2.descriptor = some descriptor ↔ Holds descriptor run.1) ∧
    (∀ before first between second later descriptor outcome outcome',
      run.1 = before ++ first :: between ++ second :: later →
      first.calls = [.closeFile descriptor outcome] →
      second.calls = [.closeFile descriptor outcome'] →
      ∃ opening ∈ between, opening.Opens descriptor) ∧
    (∀ reply reply' answer answer',
      Answers system.decode (.ok reply) answer → Answers system.decode (.ok reply') answer' →
      min reply.length 12288 = min reply'.length 12288 →
      (∀ i < min reply.length 12288, reply.octets.getD i 0 = reply'.octets.getD i 0) →
      answer = answer') := by
  intro run
  obtain ⟨hlawful, hholds⟩ := lawful_turns system path hfirst (agrees_start kernel) uses
  have hlaw : ∀ before t later, run.1 = before ++ t :: later →
      t.Lawful system.decode path before := hlawful
  refine ⟨⟨map_use_turns system path uses _, turns_eq system path uses _⟩, hlaw, hholds, ?_, ?_⟩
  · intro before first between second later descriptor outcome outcome' hrun hfirst hsecond
    have hsplit : run.1 = before ++ first :: (between ++ second :: later) := by
      rw [hrun, List.append_assoc, List.cons_append]
    obtain ⟨hrelease, -⟩ := (hlaw _ _ _ hsplit).holds_of_closes hfirst
    obtain ⟨-, hheld⟩ := (hlaw _ _ _ hrun).holds_of_closes hsecond
    exact hheld.exists_opening hrelease
  · intro reply reply' answer answer' hanswer hanswer' hlength hoctets
    have hseen : seen reply = seen reply' := by
      unfold seen
      rw [← hlength]
      exact List.map_congr_left fun i hi => hoctets i (List.mem_range.mp hi)
    rw [hanswer.eq_answerOf hfirst, hanswer'.eq_answerOf hfirst]
    simp only [answerOf, window_eq_seen, hseen]

/-- A request before the file is open, one that gets an item and an octet behind it, and a closing
that fails. -/
theorem every_use_is_lawful_of_a_failing_close :
    let system := Replay.system ⟨(0 : Int), fun _ _ => [], .standard⟩
    let kernel : Replay := { closeError := 5, replies := [.octets [0xF5, 0xFF] (some 2)] }
    let request := Use.exchange (.text "GetRandom")
    let uses := [request, .acquire, request, .release, .release, request]
    let run := turns system defaultPath uses { system := kernel }
    ∃ before t later, run.1 = before ++ t :: later ∧ t.Lawful Cbor.decode defaultPath before ∧
      t.use = request ∧ t.result = .ok (some (.bool true)) := by
  intro system kernel request uses run
  obtain ⟨-, hlawful, -⟩ := every_use_is_lawful system readsFirst_decode defaultPath kernel uses
  refine ⟨run.1.take 2, _, run.1.drop 3, rfl, hlawful (run.1.take 2) _ (run.1.drop 3) rfl, rfl, rfl⟩

end EnclaveAudit.DeviceFile
