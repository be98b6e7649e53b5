import Mathlib.Tactic.SplitIfs
import EnclaveAudit.Wire.Cbor.Decoding

/-!
# `EnclaveAudit/Proofs/Wire/Front.lean` — no more is read than the first item

A value is read off the front of an octet string, and what stands behind the item makes no
difference. That is said of readers (`Stops`): what one makes of some octets, it makes of them in
front of any others, and those it leaves. It is closed under sequence, so an item stops because its
parts do.

One part needs more than that. Things up to a break are read until nothing is left, too, and with
more behind them they would go on. They never end that way: each of them needs an octet (`Needs`),
so a sequence that runs out of octets is not read at all.
-/

set_option autoImplicit false

namespace EnclaveAudit.Cbor

/-- The cursor with more octets behind those that are left. -/
def Cursor.before (c : Cursor) (later : Bytes) : Cursor := { c with rest := c.rest ++ later }

/-- What the reader makes of some octets it makes of them in front of others, and leaves those. -/
def Stops {α : Type} (r : Reader α) : Prop :=
  ∀ (c c' : Cursor) (a : α), r c = .ok (a, c') →
    ∀ later, r (c.before later) = .ok (a, c'.before later)

/-- Where no octets are left the reader reads nothing. -/
def Needs {α : Type} (r : Reader α) : Prop :=
  ∀ c : Cursor, c.rest = [] → ∃ cause, r c = .error cause

section

variable {α β : Type} {r : Reader α} {f : α → Reader β}

/-! ## Sequence -/

theorem bind_eq_ok {c c'' : Cursor} {b : β} (h : (r >>= f) c = .ok (b, c'')) :
    ∃ a c', r c = .ok (a, c') ∧ f a c' = .ok (b, c'') := by
  have hbind : (r c >>= fun p => f p.1 p.2) = .ok (b, c'') := h
  cases hr : r c with
  | error cause =>
    rw [hr] at hbind
    cases hbind
  | ok p =>
    rw [hr] at hbind
    exact ⟨p.1, p.2, rfl, hbind⟩

theorem bind_of_eq_ok {c c' : Cursor} {a : α} (h : r c = .ok (a, c')) :
    (r >>= f) c = f a c' := by
  show (r c >>= fun p => f p.1 p.2) = _
  rw [h]
  rfl

theorem stops_pure (a : α) : Stops (pure a) := by
  intro c c' b h later
  cases h
  rfl

theorem stops_refuse (cause : Malformed) : Stops (refuse cause : Reader α) := by
  intro c c' a h
  cases h

theorem Stops.bind (h : Stops r) (hf : ∀ a, Stops (f a)) : Stops (r >>= f) := by
  intro c c'' b hb later
  obtain ⟨a, c', hfirst, hsecond⟩ := bind_eq_ok hb
  rw [bind_of_eq_ok (h c c' a hfirst later)]
  exact hf a c' c'' b hsecond later

/-- A reader that looks at the cursor stops if it does not look at the octets. -/
theorem stops_get_bind {f : Cursor → Reader β} (h : ∀ c, Stops (f c))
    (hsame : ∀ c later, f (c.before later) = f c) : Stops (get >>= f) := by
  intro c c' b hb later
  have hread : f (c.before later) (c.before later) = .ok (b, c'.before later) := by
    rw [hsame]
    exact h c c c' b hb later
  exact hread

theorem stops_modify {g : Cursor → Cursor}
    (h : ∀ c later, g (c.before later) = (g c).before later) : Stops (modify g) := by
  intro c c' a hread later
  have heq : g c = c' := congrArg Prod.snd (Except.ok.inj hread)
  show Except.ok ((), g (c.before later)) = _
  rw [h, heq]

theorem Stops.ite {p : Prop} [Decidable p] {r' : Reader α} (h : Stops r) (h' : Stops r') :
    Stops (if p then r else r') := by
  split
  · exact h
  · exact h'

theorem Needs.bind (h : Needs r) : Needs (r >>= f) := by
  intro c hc
  obtain ⟨cause, hcause⟩ := h c hc
  refine ⟨cause, ?_⟩
  show (r c >>= fun p => f p.1 p.2) = _
  rw [hcause]
  rfl

/-! ## Octets -/

theorem stops_take (n : Nat) : Stops (take n) := by
  intro c c' b h later
  unfold take at h ⊢
  simp only [List.splitAt_eq] at h ⊢
  split_ifs at h with hlength
  cases h
  have hle : n ≤ c.rest.length := by
    rw [List.length_take] at hlength
    omega
  have htake : (c.before later).rest.take n = c.rest.take n := List.take_append_of_le_length hle
  have hdrop : (c.before later).rest.drop n = c.rest.drop n ++ later :=
    List.drop_append_of_le_length hle
  rw [htake, hdrop, if_pos hlength]
  rfl

theorem stops_readStart : Stops readStart := by
  intro c c' a h later
  unfold readStart at h ⊢
  cases hrest : c.rest with
  | nil =>
    rw [hrest] at h
    cases h
  | cons octet rest =>
    rw [hrest] at h
    cases h
    have hbefore : (c.before later).rest = octet :: (rest ++ later) := by
      show c.rest ++ later = _
      rw [hrest, List.cons_append]
    rw [hbefore]
    rfl

theorem needs_readStart : Needs readStart := by
  intro c hc
  unfold readStart
  rw [hc]
  exact ⟨_, rfl⟩

theorem stops_readNumber (width : Nat) : Stops (readNumber width) :=
  (stops_take width).bind fun _ => stops_pure _

theorem stops_readArgument (kind info : Nat) : Stops (readArgument kind info) := by
  have hnumber : ∀ width, Stops (readNumber width >>= fun n => pure (Argument.number n)) :=
    fun width => (stops_readNumber width).bind fun _ => stops_pure _
  unfold readArgument
  refine .ite (stops_pure _) (.ite (hnumber 1) (.ite (hnumber 2) (.ite (hnumber 4) ?_)))
  exact .ite (hnumber 8) (.ite (stops_pure _) (stops_refuse _))

theorem stops_readLength (kind info : Nat) : Stops (readLength kind info) := by
  refine (stops_readArgument kind info).bind fun length => ?_
  cases length with
  | number n => exact stops_pure n
  | indefinite => exact stops_refuse _

/-! ## Things in a row -/

theorem Stops.times (h : Stops r) (n : Nat) : Stops (Cbor.times r n) := by
  induction n with
  | zero => exact stops_pure []
  | succ n ih => exact h.bind fun x => ih.bind fun xs => stops_pure (x :: xs)

theorem atBreak_before {c c' : Cursor} {ended : Bool} (hc : c.rest ≠ [])
    (h : atBreak c = .ok (ended, c')) (later : Bytes) :
    atBreak (c.before later) = .ok (ended, c'.before later) := by
  obtain ⟨rest, slots, strings⟩ := c
  cases rest with
  | nil => exact absurd rfl hc
  | cons octet rest =>
    unfold atBreak at h ⊢
    simp only [Cursor.before, List.cons_append]
    split at h
    · next hrest =>
      cases hrest
      cases h
      rfl
    · next hother =>
      cases h
      split
      · next hrest =>
        cases hrest
        exact absurd rfl (hother rest)
      · rfl

/-- Things up to a break stop, and more fuel changes nothing. -/
theorem untilBreak_before (h : Stops r) (hneeds : Needs r) {fuel fuel' : Nat} (hfuel : fuel ≤ fuel')
    {c c' : Cursor} {xs : List α} (hread : untilBreak r fuel c = .ok (xs, c')) (later : Bytes) :
    untilBreak r fuel' (c.before later) = .ok (xs, c'.before later) := by
  induction fuel generalizing fuel' c c' xs with
  | zero => cases hread
  | succ fuel ih =>
    obtain ⟨more, rfl⟩ : ∃ more, fuel' = more + 1 := ⟨fuel' - 1, by omega⟩
    obtain ⟨ended, d, hended, hrest⟩ := bind_eq_ok hread
    by_cases hc : c.rest = []
    -- nothing is left, so the next thing is not there
    · have hnone : atBreak c = .ok (false, c) := by
        unfold atBreak
        rw [hc]
      rw [hnone] at hended
      cases hended
      obtain ⟨x, d', hx, -⟩ := bind_eq_ok hrest
      obtain ⟨cause, hcause⟩ := hneeds c hc
      cases hx.symm.trans hcause
    · refine (bind_of_eq_ok (atBreak_before hc hended later)).trans ?_
      cases ended with
      | true =>
        cases hrest
        rfl
      | false =>
        obtain ⟨x, d', hx, hxs⟩ := bind_eq_ok hrest
        obtain ⟨xs', d'', hxs', hpure⟩ := bind_eq_ok hxs
        cases hpure
        refine (bind_of_eq_ok (h d d' x hx later)).trans ?_
        exact bind_of_eq_ok (ih (by omega) hxs')

theorem Stops.sequence (h : Stops r) (hneeds : Needs r) (length : Argument) :
    Stops (Cbor.sequence r length) := by
  cases length with
  | number n => exact h.times n
  | indefinite =>
    intro c c' xs hread later
    refine untilBreak_before h hneeds ?_ hread later
    simp only [Cursor.before, List.length_append]
    omega

end

/-! ## Strings -/

theorem stops_asText (b : Bytes) : Stops (asText b) := by
  unfold asText
  split
  · exact stops_pure _
  · exact stops_refuse _

theorem stops_piece (kind : Nat) : Stops (piece kind) := by
  refine stops_readStart.bind fun start => ?_
  exact .ite ((stops_readLength kind start.2).bind stops_take) (stops_refuse _)

theorem needs_piece (kind : Nat) : Needs (piece kind) := needs_readStart.bind

theorem stops_keep (v : Value) (length : Nat) : Stops (keep v length) := by
  refine stops_modify fun c later => ?_
  obtain ⟨rest, slots, strings⟩ := c
  cases strings with
  | none => rfl
  | some known =>
    simp only [Cursor.before]
    split_ifs <;> rfl

theorem stops_readOctets (length : Argument) : Stops (readOctets length) := by
  cases length with
  | number n => exact (stops_take n).bind fun b => (stops_keep _ n).bind fun _ => stops_pure _
  | indefinite =>
    have hpieces := (stops_piece octetsKind).sequence (needs_piece octetsKind) .indefinite
    exact hpieces.bind fun _ => stops_pure _

theorem stops_readText (length : Argument) : Stops (readText length) := by
  cases length with
  | number n =>
    refine (stops_take n).bind fun b => (stops_asText b).bind fun s => ?_
    exact (stops_keep _ n).bind fun _ => stops_pure _
  | indefinite =>
    have hpiece : Stops textPiece := (stops_piece textKind).bind stops_asText
    exact (hpiece.sequence (needs_piece textKind).bind .indefinite).bind fun _ => stops_pure _

/-! ## Items that hold no other items -/

theorem stops_special (info : Nat) : Stops (special info) := by
  have hfloat : ∀ width (f : Nat → Value), Stops (readNumber width >>= fun n => pure (f n)) :=
    fun width f => (stops_readNumber width).bind fun _ => stops_pure _
  have hsimple : Stops (readNumber 1 >>= fun code =>
      if code < 32 then refuse .overlongSimple else pure (simpleValue code)) :=
    (stops_readNumber 1).bind fun _ => .ite (stops_refuse _) (stops_pure _)
  unfold special
  refine .ite (stops_pure _) (.ite hsimple (.ite (hfloat 2 _) (.ite (hfloat 4 _) ?_)))
  exact .ite (hfloat 8 _) (.ite (stops_refuse _) (stops_refuse _))

theorem stops_scalar (kind info : Nat) : Stops (scalar kind info) := by
  unfold scalar
  split
  · exact (stops_readLength 0 info).bind fun _ => stops_pure _
  · exact (stops_readLength 1 info).bind fun _ => stops_pure _
  · exact (stops_readArgument 2 info).bind stops_readOctets
  · exact (stops_readArgument 3 info).bind stops_readText
  · exact stops_special info

/-! ## Items that hold other items -/

section

variable {inner : Inner} (hstops : ∀ p, Stops (inner p)) (hneeds : ∀ p, Needs (inner p))
  (p : Place)

theorem stops_enter (isMap : Bool) : Stops (enter p isMap) := by
  unfold enter
  split
  · exact .ite (stops_pure ()) (stops_modify fun _ _ => rfl)
  · exact stops_pure ()

include hstops

theorem stops_entry : Stops (entry inner p) := by
  refine (hstops .sealed).bind fun key => (hstops p.inside).bind fun value => ?_
  exact .ite (stops_pure _) (stops_refuse _)

theorem stops_shared : Stops (shared inner p) := by
  refine stops_get_bind (fun c => ?_) fun _ _ => rfl
  refine Stops.bind (stops_modify fun _ _ => rfl) fun _ => (hstops _).bind fun v => ?_
  exact Stops.bind (stops_modify fun _ _ => rfl) fun _ => stops_pure v

theorem stops_index (tag : Nat) : Stops (index inner tag) := by
  refine (hstops .sealed).bind fun v => ?_
  split
  · exact stops_pure _
  · exact stops_refuse _

theorem stops_reference : Stops (reference inner) := by
  refine (stops_index hstops sharedTag).bind fun i => ?_
  refine stops_get_bind (fun c => ?_) fun _ _ => rfl
  split
  · exact stops_refuse _
  · exact stops_refuse _
  · exact stops_pure _
  · exact stops_pure _

theorem stops_stringReference : Stops (stringReference inner) := by
  refine stops_get_bind (fun c => ?_) fun _ _ => rfl
  refine .ite (Stops.bind (stops_refuse _) fun _ => ?_) ?_
  -- with strings or without, what comes after that is the same
  all_goals
    refine (stops_index hstops stringTag).bind fun i => ?_
    refine stops_get_bind (fun c => ?_) fun _ _ => rfl
    split
    · exact stops_pure _
    · exact stops_refuse _

theorem stops_keeping : Stops (keeping inner p) := by
  refine stops_get_bind (fun c => ?_) fun _ _ => rfl
  refine Stops.bind (stops_modify fun _ _ => rfl) fun _ => (hstops p).bind fun v => ?_
  exact Stops.bind (stops_modify fun _ _ => rfl) fun _ => stops_pure v

theorem stops_given (tag : Nat) (meaning : Value → Meaning) :
    Stops (inner .sealed >>= fun v => given tag (meaning v)) := by
  refine (hstops .sealed).bind fun v => ?_
  unfold given
  split
  · exact stops_pure _
  · exact stops_refuse _

theorem stops_marked (tag : Nat) : Stops (marked inner p tag) := by
  unfold marked
  split
  · exact stops_stringReference hstops
  · exact stops_shared hstops p
  · exact stops_reference hstops
  · exact stops_keeping hstops p
  · exact stops_given hstops 258 _
  · exact stops_given hstops _ _

include hneeds

theorem stops_array (length : Argument) : Stops (array inner p length) := by
  refine (stops_enter p false).bind fun _ => ?_
  exact ((hstops _).sequence (hneeds _) length).bind fun _ => stops_pure _

theorem stops_map (length : Argument) : Stops (map inner p length) := by
  refine (stops_enter p true).bind fun _ => ?_
  exact ((stops_entry hstops p).sequence (hneeds _).bind length).bind fun _ => stops_pure _

theorem stops_container (kind info : Nat) : Stops (container inner p kind info) := by
  unfold container
  split
  · exact (stops_readArgument 4 info).bind (stops_array hstops hneeds p)
  · exact (stops_readArgument 5 info).bind (stops_map hstops hneeds p)
  · exact (stops_readLength _ info).bind (stops_marked hstops p)

end

/-! ## Items -/

theorem needs_item (depth : Nat) (p : Place) : Needs (item depth p) := by
  cases depth <;> exact needs_readStart.bind

/-- **An item stops**, however deep it is nested. -/
theorem stops_item (depth : Nat) (p : Place) : Stops (item depth p) := by
  induction depth generalizing p with
  | zero =>
    refine stops_readStart.bind fun start => ?_
    exact .ite (stops_refuse _) (stops_scalar start.1 start.2)
  | succ depth ih =>
    refine stops_readStart.bind fun start => .ite ?_ (stops_scalar start.1 start.2)
    exact stops_container ih (needs_item depth) p start.1 start.2

/-- **What stands behind the first item** makes no difference. -/
theorem decode_append {first : Bytes} {v : Value} (h : decode first = .ok v) (later : Bytes) :
    decode (first ++ later) = .ok v := by
  cases hread : item Malformed.maxDepth {} { rest := first } with
  | error cause =>
    rw [show decode first = .error cause from congrArg (Except.map Prod.fst) hread] at h
    cases h
  | ok read =>
    have hfirst : decode first = .ok read.1 := congrArg (Except.map Prod.fst) hread
    have hbefore := stops_item Malformed.maxDepth {} _ read.2 read.1 hread later
    rw [← h, hfirst]
    exact congrArg (Except.map Prod.fst) hbefore

end EnclaveAudit.Cbor
