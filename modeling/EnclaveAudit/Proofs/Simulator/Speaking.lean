import EnclaveAudit.Proofs.Simulator.Turns

/-!
# `EnclaveAudit/Proofs/Simulator/Speaking.lean` — what a simulated device says in a stretch

A turn is about an answer and a bank. An audit asks through a transport, which also has to be open
and counts what it is asked, and it asks for many things in a row. `Speaks` is about that: in a
stretch of places, the device gives the answers it is known for and gets from one kind of state to
another. The rules are those of any loop, with a stage of the bank as the invariant.
-/

set_option autoImplicit false

namespace EnclaveAudit.Simulator

/-- The device is open, has this bank, and was not asked for random octets yet. -/
def State.At (cells : Nat → Cell) (d : State) : Prop :=
  d.isOpen = true ∧ d.bank = bankOf cells ∧ d.draws = 0 ∧ d.stuck = none

/-- The device once it was asked for something, before it answers. -/
def State.requested (d : State) : State := { d with requestCount := d.requestCount + 1 }

/-- Asked at these places in order, the device gives its answers. -/
def Speaks (e : Surroundings) (s : Settings) (p : Parameters) (I : State → Prop) (xs : List Slot)
    (J : State → Prop) : Prop :=
  ∀ d, I d → ∃ d',
    (transport e s).Replies d (xs.map fun x => (x.request p, answers e s p x)) d' ∧ J d'

section

variable {e : Surroundings} {s : Settings} {p : Parameters} {f g : Nat → Cell} {x : Slot} {i : Nat}
variable {I J K : State → Prop}

theorem speaks_nil : Speaks e s p I [] I := fun d hd => ⟨d, rfl, hd⟩

theorem Speaks.append {xs ys : List Slot} (h : Speaks e s p I xs J) (h' : Speaks e s p J ys K) :
    Speaks e s p I (xs ++ ys) K := by
  intro d hd
  obtain ⟨d₁, hxs, hd₁⟩ := h d hd
  obtain ⟨d₂, hys, hd₂⟩ := h' d₁ hd₁
  rw [List.map_append]
  exact ⟨d₂, Transport.Replies.append.mpr ⟨d₁, hxs, hys⟩, hd₂⟩

theorem Speaks.exists_replies (h : Speaks e s p I [x] J) (d : State) (hd : I d) :
    ∃ d', (transport e s).Replies d [(x.request p, answers e s p x)] d' := by
  obtain ⟨d', hreplies, -⟩ := h d hd
  exact ⟨d', hreplies⟩

/-- What an open device answers through the transport. -/
theorem replies_answer (request : Value) {d : State} (hd : d.isOpen = true) :
    (transport e s).Replies d [(request, (answer e s request d.requested).1)]
      (answer e s request d.requested).2 := by
  simp only [Transport.Replies, transport, hd, if_true, true_and, State.requested]

theorem Turn.speaks (h : Turn e s p f x (answers e s p x) g) :
    Speaks e s p (State.At f) [x] (State.At g) := by
  rintro d ⟨hopen, hbank, hrest⟩
  have hreplies := replies_answer (e := e) (s := s) (x.request p) hopen
  rw [h d.requested hbank] at hreplies
  exact ⟨_, hreplies, hopen, rfl, hrest⟩

/-! ## Stretches -/

/-- Places at which the bank stays as it is. -/
theorem speaks_steady {xs : List Slot} (h : ∀ x ∈ xs, Turn e s p f x (answers e s p x) f) :
    Speaks e s p (State.At f) xs (State.At f) := by
  induction xs with
  | nil => exact speaks_nil
  | cons x xs ih =>
    obtain ⟨hx, hxs⟩ := List.forall_mem_cons.mp h
    exact hx.speaks.append (ih hxs)

/-- Places that take one register after the other from a stage to the next. -/
theorem speaks_between {g g' : Stage} {x : Nat → Slot} (n a : Nat)
    (h : ∀ i, a ≤ i → i < a + n → g.Turns e s p g' (x i) i) :
    Speaks e s p (State.At (between a (g.cell e s p) (g'.cell e s p)))
      ((List.range' a n).map x)
      (State.At (between (a + n) (g.cell e s p) (g'.cell e s p))) := by
  induction n generalizing a with
  | zero => exact speaks_nil
  | succ n ih =>
    have hfirst : Speaks e s p (State.At (between a (g.cell e s p) (g'.cell e s p))) [x a]
        (State.At (between (a + 1) (g.cell e s p) (g'.cell e s p))) :=
      Turn.speaks (h a (Nat.le_refl a) (by omega))
    have hrest := ih (a + 1) fun i hle hlt => h i (by omega) (by omega)
    have hend : a + 1 + n = a + (n + 1) := by omega
    rw [hend] at hrest
    rw [List.range'_succ, List.map_cons]
    exact hfirst.append hrest

/-- A round of them, from a stage to the next. -/
theorem speaks_round {g g' : Stage} {x : Nat → Slot} (a n : Nat)
    (h : ∀ i, a ≤ i → i < a + n → g.Turns e s p g' (x i) i)
    (hbefore : ∀ j < a, g'.cell e s p j = g.cell e s p j)
    (hafter : ∀ j < 32, a + n ≤ j → g'.cell e s p j = g.cell e s p j) :
    Speaks e s p (State.At (g.cell e s p)) ((List.range' a n).map x)
      (State.At (g'.cell e s p)) := by
  have hround := speaks_between n a h
  rw [between_start hbefore] at hround
  intro d hd
  obtain ⟨d', hreplies, hopen, hbank, hrest⟩ := hround d hd
  rw [between_end hafter] at hbank
  exact ⟨d', hreplies, hopen, hbank, hrest⟩

/-! ## The stretches of an audit -/

theorem turn_firstRead (hs : s.registerCount = 32) (hi : i < 32) :
    Turn e s p (Stage.cell e s p {}) (.firstRead i) (answers e s p (.firstRead i))
      (Stage.cell e s p {}) := by
  have hturn : Stage.Turns e s p {} {} (.firstRead i) i := turns_firstRead hs hi
  have hsame : ∀ k, between k (Stage.cell e s p {}) (Stage.cell e s p {}) = Stage.cell e s p {} :=
    fun _ => between_start fun _ _ => rfl
  rw [Stage.Turns, hsame, hsame] at hturn
  exact hturn

theorem turn_bootDocument :
    Turn e s p (Stage.cell e s p {}) .bootDocument (answers e s p .bootDocument)
      (Stage.cell e s p {}) :=
  turn_certificate rfl nofun nofun nofun

theorem turn_plainDocument :
    Turn e s p ((Stage.read p p.readRounds).cell e s p) .plainDocument
      (answers e s p .plainDocument) ((Stage.read p p.readRounds).cell e s p) :=
  turn_certificate rfl nofun nofun nofun

theorem speaks_relocks (hs : s.registerCount = 32) (k : Nat) :
    Speaks e s p (State.At ((Stage.relocked k).cell e s p)) ((List.range 16).map (Slot.relock k))
      (State.At ((Stage.relocked (k + 1)).cell e s p)) := by
  rw [List.range_eq_range']
  refine speaks_round 0 16 (fun i _ hi => turns_relock hs k (by omega)) (fun _ hj => ?_) ?_
  · omega
  · -- registers that are free cannot be locked again
    intro j _ hle
    have hnot : ¬j < 16 := by omega
    simp [Stage.cell, Stage.relocked, hnot]

theorem speaks_extensions (hs : s.registerCount = 32)
    (hhash : ∀ b, (e.primitives.hash s.digest b).length = s.digest.width) (k : Nat) :
    Speaks e s p (State.At ((Stage.extended p k).cell e s p))
      ((List.range' 16 16).map (Slot.extension k))
      (State.At ((Stage.extended p (k + 1)).cell e s p)) := by
  refine speaks_round 16 16 (fun i hle hlt => turns_extension hs hhash k hle (by omega)) ?_ ?_
  · intro j hj
    simp [Stage.cell, Stage.extended, held, hj]
  · omega

theorem speaks_locks (hs : s.registerCount = 32) :
    Speaks e s p (State.At ((Stage.extended p p.extendRounds).cell e s p))
      ((List.range' 16 16).map Slot.lock) (State.At ((Stage.read p 0).cell e s p)) := by
  refine speaks_round 16 16 (fun i hle hlt => turns_lock hs hle (by omega)) ?_ ?_
  · intro j hj
    simp [Stage.cell, Stage.extended, Stage.read, hj]
  · omega

theorem speaks_lockedExtensions (hs : s.registerCount = 32) (hno : s.has .extendLocked = false) :
    Speaks e s p (State.At ((Stage.read p 0).cell e s p)) ((List.range 32).map Slot.lockedExtension)
      (State.At ((Stage.read p 0).cell e s p)) := by
  refine speaks_steady fun x hx => ?_
  obtain ⟨i, hi, rfl⟩ := List.mem_map.mp hx
  exact turn_lockedExtension hs hno (List.mem_range.mp hi)

/-- The answer is known also if the bank after it is not. -/
theorem replies_lockedExtension (hs : s.registerCount = 32)
    (hhash : ∀ b, (e.primitives.hash s.digest b).length = s.digest.width) (hi : i < 32) {d : State}
    (hd : d.At ((Stage.read p 0).cell e s p)) :
    ∃ d', (transport e s).Replies d
      [((Slot.lockedExtension i).request p, answers e s p (.lockedExtension i))] d' := by
  obtain ⟨hopen, hbank, -⟩ := hd
  have hreplies := replies_answer (e := e) (s := s) ((Slot.lockedExtension i).request p) hopen
  rw [answer_lockedExtension hs hhash hi (d := d.requested) hbank] at hreplies
  exact ⟨_, hreplies⟩

theorem speaks_reads (hs : s.registerCount = 32) (k : Nat) :
    Speaks e s p (State.At ((Stage.read p k).cell e s p)) ((List.range 32).map (Slot.read k))
      (State.At ((Stage.read p (k + 1)).cell e s p)) := by
  rw [List.range_eq_range']
  refine speaks_round 0 32 (fun i _ hi => turns_read hs k (by omega)) ?_ ?_ <;> omega

/-- The reads of the registers that were locked from the start, which come first in a round. -/
theorem speaks_firstHalf (hs : s.registerCount = 32) (k : Nat) :
    Speaks e s p (State.At ((Stage.read p k).cell e s p)) ((List.range 16).map (Slot.read k))
      (State.At (between 16 ((Stage.read p k).cell e s p)
        ((Stage.read p (k + 1)).cell e s p))) := by
  rw [List.range_eq_range']
  have hhalf : Speaks e s p
      (State.At (between 0 ((Stage.read p k).cell e s p) ((Stage.read p (k + 1)).cell e s p)))
      ((List.range' 0 16).map (Slot.read k)) (State.At
        (between (0 + 16) ((Stage.read p k).cell e s p) ((Stage.read p (k + 1)).cell e s p))) :=
    speaks_between 16 0 fun i _ hi => turns_read hs k (by omega)
  rw [between_start fun _ hj => absurd hj (Nat.not_lt_zero _)] at hhalf
  exact hhalf

theorem speaks_documents :
    Speaks e s p (State.At ((Stage.read p p.readRounds).cell e s p)) (Scenario.attestation.slots p)
      (State.At ((Stage.read p p.readRounds).cell e s p)) := by
  refine speaks_steady fun x hx => ?_
  simp only [Scenario.slots, List.mem_cons, List.not_mem_nil, or_false] at hx
  rcases hx with rfl | rfl | rfl | rfl | rfl | rfl | rfl
  · exact turn_plainDocument
  all_goals exact turn_document _ _

/-- The device is open, and so many samples were drawn. -/
def State.Drawn (e : Surroundings) (s : Settings) (n : Nat) (d : State) : Prop :=
  d.isOpen = true ∧ d.Drew e s n

theorem State.At.drawn {d : State} (hd : d.At f) : d.Drawn e s 0 := by
  obtain ⟨hopen, -, hdraws, hstuck⟩ := hd
  refine ⟨hopen, ?_⟩
  unfold State.Drew
  by_cases hs : s.has .stuckRandom = true
  · rw [if_pos hs]
    exact ⟨hdraws, hstuck⟩
  · rw [if_neg hs]
    exact hdraws

theorem speaks_sample (n : Nat) :
    Speaks e s p (State.Drawn e s n) [.sample n] (State.Drawn e s (n + 1)) := by
  rintro d ⟨hopen, hdrew⟩
  have hrequested : d.requested.Drew e s n := hdrew
  obtain ⟨d', hanswer, hopen', hdrew'⟩ := answer_sample (p := p) n hrequested
  have hreplies := replies_answer (e := e) (s := s) ((Slot.sample n).request p) hopen
  rw [hanswer] at hreplies
  exact ⟨d', hreplies, hopen'.trans hopen, hdrew'⟩

/-- The first request, which is not a place of the script. -/
theorem exists_replies_describe (hs : s.registerCount = 32) :
    ∃ d, (transport e s).Replies (State.fresh e s).opened
        [(.text "DescribeNSM", describe s (State.fresh e s))] d ∧
      d.At (Stage.cell e s p {}) := by
  have hreplies := replies_answer (e := e) (s := s) (.text "DescribeNSM")
    (d := (State.fresh e s).opened) rfl
  exact ⟨_, hreplies, rfl, boot_eq hs, rfl, rfl⟩

end

end EnclaveAudit.Simulator
