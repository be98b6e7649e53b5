import EnclaveAudit.Proofs.Wire.Size
import EnclaveAudit.Wire.Cbor.Decoding

/-!
# `EnclaveAudit/Proofs/Wire/RoundTrip.lean` — what is written is read

The values of the protocol survive the wire: truth values, integers of any size, texts, octet
strings, and arrays and maps of them. `Portable` says which values those are, and how deep they are
nested; an integer counts as a level, because a long one is written under a tag.

A reader is tied to what was written by `Reads`: in front of anything, and whatever was marked for
sharing before, it reads exactly those octets. That is closed under sequence, so each item is read
because its parts are, and nothing is ever said about positions.
-/

set_option autoImplicit false

namespace EnclaveAudit

/-! ## Numbers as octets -/

namespace Bytes

theorem toNat_concat (b : Bytes) (octet : UInt8) :
    toNat (b ++ [octet]) = toNat b * 256 + octet.toNat := by
  rw [toNat, List.foldl_append]
  rfl

theorem toNat_ofNat (width n : Nat) : toNat (ofNat width n) = n % 256 ^ width := by
  induction width generalizing n with
  | zero => rw [Nat.pow_zero, Nat.mod_one]; rfl
  | succ width ih =>
    have hsplit : n % 256 ^ (width + 1) = n % 256 + 256 * (n / 256 % 256 ^ width) := by
      rw [Nat.pow_succ', Nat.mod_mul]
    have hlast : (UInt8.ofNat n).toNat = n % 256 := UInt8.toNat_ofNat'
    rw [ofNat, toNat_concat, ih, hsplit, hlast]
    omega

/-- As many digits as there are are enough. -/
theorem toNat_minimal (n : Nat) : toNat (minimal n) = n := by
  rw [minimal, toNat_ofNat]
  apply Nat.mod_eq_of_lt
  unfold digits
  split_ifs with hn
  · simp [hn]
  · calc n < 2 ^ (n.log2 + 1) := Nat.lt_log2_self
      _ ≤ 2 ^ (8 * (n.log2 / 8 + 1)) := Nat.pow_le_pow_right (by decide) (by omega)
      _ = 256 ^ (n.log2 / 8 + 1) := Nat.pow_mul 2 8 _

end Bytes

/-! ## Assignments -/

namespace Value

theorem put_of_new {key value : Value} {es : List (Value × Value)}
    (h : ∀ e ∈ es, same e.1 key = false) : put key value es = es ++ [(key, value)] := by
  induction es with
  | nil => rfl
  | cons e es ih =>
    obtain ⟨he, hes⟩ := List.forall_mem_cons.mp h
    rw [put, he, if_neg Bool.false_ne_true, ih hes, List.cons_append]

theorem foldl_put {made entries : List (Value × Value)}
    (h : (made ++ entries).Pairwise fun e f => same e.1 f.1 = false) :
    entries.foldl (fun made e => put e.1 e.2 made) made = made ++ entries := by
  induction entries generalizing made with
  | nil => rw [List.foldl_nil, List.append_nil]
  | cons e entries ih =>
    have hnew : ∀ f ∈ made, same f.1 e.1 = false := fun f hf =>
      (List.pairwise_append.mp h).2.2 f hf e List.mem_cons_self
    rw [List.foldl_cons, put_of_new hnew, ih (by rwa [List.append_assoc]), List.append_assoc]
    rfl

/-- Assignments to keys of which no two are the same make those entries. -/
theorem assigned_of_distinct {entries : List (Value × Value)}
    (h : entries.Pairwise fun e f => same e.1 f.1 = false) : assigned entries = entries :=
  foldl_put h

end Value

namespace Cbor

/-! ## Readers -/

/-- The reader reads exactly these octets, whatever comes after them, where no strings are kept. -/
def Reads {α : Type} (r : Reader α) (b : Bytes) (a : α) : Prop :=
  ∀ (c : Cursor) (rest : Bytes), c.strings = none →
    r { c with rest := b ++ rest } = .ok (a, { c with rest })

namespace Reads

variable {α β : Type} {r : Reader α} {f : α → Reader β} {a : α} {x : β} {b b' : Bytes}

theorem pure (a : α) : Reads (Pure.pure a) [] a := fun _ _ _ => rfl

theorem bind (h : Reads r b a) (h' : Reads (f a) b' x) : Reads (r >>= f) (b ++ b') x := by
  intro c rest hc
  have hfirst := h c (b' ++ rest) hc
  have hsecond := h' c rest hc
  rw [List.append_assoc]
  show (r _ >>= fun p => f p.1 p.2) = _
  rw [hfirst]
  exact hsecond

theorem bind_nil (h : Reads r b a) (h' : Reads (f a) [] x) : Reads (r >>= f) b x := by
  have hboth := h.bind h'
  rwa [List.append_nil] at hboth

theorem nil_bind (h : Reads r [] a) (h' : Reads (f a) b x) : Reads (r >>= f) b x := h.bind h'

theorem take (b : Bytes) : Reads (Cbor.take b.length) b b := by
  intro c rest _
  simp [Cbor.take, List.splitAt_eq]

theorem start (octet : UInt8) : Reads readStart [octet] (octet.toNat / 32, octet.toNat % 32) :=
  fun _ _ _ => rfl

theorem number {width n : Nat} (hn : n < 256 ^ width) :
    Reads (readNumber width) (Bytes.ofNat width n) n := by
  have htake := take (Bytes.ofNat width n)
  rw [Bytes.length_ofNat] at htake
  have hvalue : Bytes.toNat (Bytes.ofNat width n) = n := by
    rw [Bytes.toNat_ofNat, Nat.mod_eq_of_lt hn]
  refine htake.bind_nil ?_
  rw [hvalue]
  exact pure n

theorem times {enc : α → Bytes} {xs : List α} (h : ∀ x ∈ xs, Reads r (enc x) x) :
    Reads (Cbor.times r xs.length) (xs.flatMap enc) xs := by
  induction xs with
  | nil => exact pure []
  | cons x xs ih =>
    obtain ⟨hx, hxs⟩ := List.forall_mem_cons.mp h
    exact hx.bind ((ih hxs).bind_nil (pure (x :: xs)))

end Reads

/-! ## Heads -/

/-- The first octet of an item holds the kind and the form of the number. -/
theorem start_divMod {kind info : Nat} (hkind : kind < 8) (hinfo : info < 32) :
    (UInt8.ofNat (32 * kind + info)).toNat / 32 = kind ∧
      (UInt8.ofNat (32 * kind + info)).toNat % 32 = info := by
  rw [UInt8.toNat_ofNat']
  omega

/-- After it come the octets of the number. -/
theorem exists_head_eq (kind n : Nat) (hkind : kind < 8) (hn : n < 2 ^ 64) :
    ∃ info octet tail, head kind n = octet :: tail ∧
      (octet.toNat / 32 = kind ∧ octet.toNat % 32 = info) ∧
      Reads (readArgument kind info) tail (.number n) := by
  have hnumber : ∀ width, n < 256 ^ width →
      Reads (readNumber width >>= fun n => Pure.pure (Argument.number n)) (Bytes.ofNat width n)
        (Argument.number n) :=
    fun width hwidth => (Reads.number hwidth).bind_nil (.pure _)
  unfold head
  -- the number is part of the first octet, or stands behind it in one, two, four or eight
  split_ifs with h₀ h₁ h₂ h₄
  · have hread : readArgument kind n = Pure.pure (.number n) := if_pos h₀
    exact ⟨n, _, _, rfl, start_divMod hkind (by omega), hread ▸ .pure _⟩
  · exact ⟨24, _, _, rfl, start_divMod hkind (by decide), hnumber 1 (by omega)⟩
  · exact ⟨25, _, _, rfl, start_divMod hkind (by decide), hnumber 2 (by omega)⟩
  · exact ⟨26, _, _, rfl, start_divMod hkind (by decide), hnumber 4 (by omega)⟩
  · exact ⟨27, _, _, rfl, start_divMod hkind (by decide), hnumber 8 (by omega)⟩

/-- An item that holds no others is read after its head. -/
theorem Reads.scalar {inner : Option Inner} {p : Place} {kind n : Nat} {b : Bytes} {v : Value}
    (hkind : kind < 4) (hn : n < 2 ^ 64)
    (h : ∀ info tail, Reads (readArgument kind info) tail (.number n) →
      Reads (Cbor.scalar kind info) (tail ++ b) v) :
    Reads (readItem inner p) (head kind n ++ b) v := by
  obtain ⟨info, octet, tail, hhead, ⟨hk, hi⟩, hargument⟩ := exists_head_eq kind n (by omega) hn
  rw [hhead, List.cons_append, ← List.singleton_append]
  refine (Reads.start octet).bind ?_
  dsimp only
  rw [hk, hi, if_neg (by omega)]
  exact h _ _ hargument

/-- An item that holds others is read after its head, if any may be. -/
theorem Reads.container {inner : Inner} {p : Place} {kind n : Nat} {b : Bytes} {v : Value}
    (hkind : kind = 4 ∨ kind = 5 ∨ kind = 6) (hn : n < 2 ^ 64)
    (h : ∀ info tail, Reads (readArgument kind info) tail (.number n) →
      Reads (Cbor.container inner p kind info) (tail ++ b) v) :
    Reads (readItem (some inner) p) (head kind n ++ b) v := by
  obtain ⟨info, octet, tail, hhead, ⟨hk, hi⟩, hargument⟩ := exists_head_eq kind n (by omega) hn
  rw [hhead, List.cons_append, ← List.singleton_append]
  refine (Reads.start octet).bind ?_
  dsimp only
  rw [hk, hi, if_pos hkind]
  exact h _ _ hargument

theorem Reads.length {kind info n : Nat} {tail : Bytes}
    (h : Reads (readArgument kind info) tail (.number n)) :
    Reads (readLength kind info) tail n := by
  exact h.bind_nil (.pure n)

/-! ## Items that hold no others -/

theorem Reads.keep (v : Value) (n : Nat) : Reads (Cbor.keep v n) [] () := by
  intro c rest hc
  obtain ⟨_, _, strings⟩ := c
  obtain rfl : strings = none := hc
  rfl

section

variable {inner : Option Inner} {p : Place}

theorem reads_octets {b : Bytes} (hb : b.length < 2 ^ 64) :
    Reads (readItem inner p) (octets b) (.bytes b) := by
  refine Reads.scalar (by decide) hb fun info tail h => h.bind ?_
  exact (Reads.take b).bind_nil ((Reads.keep _ _).nil_bind (.pure _))

theorem reads_text {s : String} (hs : (Bytes.ofString s).length < 2 ^ 64) :
    Reads (readItem inner p) (text s) (.text s) := by
  refine Reads.scalar (by decide) hs fun info tail h => h.bind ?_
  have htext : Reads (asText (Bytes.ofString s)) [] s := by
    unfold asText
    rw [Bytes.toString?_ofString]
    exact .pure s
  exact (Reads.take _).bind_nil (htext.nil_bind ((Reads.keep _ _).nil_bind (.pure _)))

theorem reads_null : Reads (readItem inner p) (encode .null) .null := fun _ _ _ => rfl

theorem reads_bool (b : Bool) : Reads (readItem inner p) (encode (.bool b)) (.bool b) := by
  cases b <;> exact fun _ _ _ => rfl

/-- An integer of 64 bits is a number in a head. -/
theorem reads_integer_of_lt {m : Nat} (hm : m < 2 ^ 64) :
    Reads (readItem inner p) (head 0 m) (.int (.ofNat m)) ∧
      Reads (readItem inner p) (head 1 m) (.int (.negSucc m)) := by
  constructor
  · rw [← List.append_nil (head 0 m)]
    refine Reads.scalar (by decide) hm fun info tail h => ?_
    rw [List.append_nil]
    exact h.length.bind_nil (.pure _)
  · rw [← List.append_nil (head 1 m)]
    refine Reads.scalar (by decide) hm fun info tail h => ?_
    rw [List.append_nil]
    exact h.length.bind_nil (.pure _)

end

/-! ## Items that hold others -/

section

variable {inner : Inner} {p : Place}

/-- An integer of more bits is an octet string under a tag. -/
theorem reads_integer_of_octets {m : Nat}
    (h : Reads (inner .sealed) (octets (Bytes.minimal m)) (.bytes (Bytes.minimal m))) :
    Reads (readItem (some inner) p) (head 6 2 ++ octets (Bytes.minimal m)) (.int (.ofNat m)) ∧
      Reads (readItem (some inner) p) (head 6 3 ++ octets (Bytes.minimal m))
        (.int (.negSucc m)) := by
  have hvalue := Bytes.toNat_minimal m
  constructor
  · refine Reads.container (by decide) (by decide) fun info tail htag => ?_
    refine htag.length.bind (h.bind_nil ?_)
    show Reads (Pure.pure (Value.int (.ofNat (Bytes.minimal m).toNat))) [] _
    rw [hvalue]
    exact .pure _
  · refine Reads.container (by decide) (by decide) fun info tail htag => ?_
    refine htag.length.bind (h.bind_nil ?_)
    show Reads (Pure.pure (Value.int (.negSucc (Bytes.minimal m).toNat))) [] _
    rw [hvalue]
    exact .pure _

theorem reads_integer {n : Int} (hn : (integer n).length < 2 ^ 64)
    (h : ∀ b : Bytes, b.length < 2 ^ 64 → Reads (inner .sealed) (octets b) (.bytes b)) :
    Reads (readItem (some inner) p) (integer n) (.int n) := by
  -- what stands under the tag is no longer than what is written, so it can be read itself
  have hlength : ∀ (kind m : Nat), (head 6 kind ++ octets (Bytes.minimal m)).length < 2 ^ 64 →
      (Bytes.minimal m).length < 2 ^ 64 := by
    intro kind m hm
    simp only [octets, List.length_append] at hm
    omega
  cases n with
  | ofNat m =>
    by_cases hm : m < 0x10000000000000000
    · have hshort : integer (.ofNat m) = head 0 m := if_pos hm
      rw [hshort]
      exact (reads_integer_of_lt hm).1
    · have hlong : integer (.ofNat m) = head 6 2 ++ octets (Bytes.minimal m) := if_neg hm
      rw [hlong] at hn ⊢
      exact (reads_integer_of_octets (h _ (hlength 2 m hn))).1
  | negSucc m =>
    by_cases hm : m < 0x10000000000000000
    · have hshort : integer (.negSucc m) = head 1 m := if_pos hm
      rw [hshort]
      exact (reads_integer_of_lt hm).2
    · have hlong : integer (.negSucc m) = head 6 3 ++ octets (Bytes.minimal m) := if_neg hm
      rw [hlong] at hn ⊢
      exact (reads_integer_of_octets (h _ (hlength 3 m hn))).2

theorem Reads.enter {isMap : Bool} (hslot : p.slot = none) : Reads (Cbor.enter p isMap) [] () := by
  unfold Cbor.enter
  rw [hslot]
  exact .pure ()

theorem encodeItems_eq (items : List Value) : encodeItems items = items.flatMap encode := by
  induction items with
  | nil => rfl
  | cons item items ih => rw [encodeItems, ih, List.flatMap_cons]

theorem encodeEntries_eq (entries : List (Value × Value)) :
    encodeEntries entries = entries.flatMap encodeEntry := by
  induction entries with
  | nil => rfl
  | cons entry entries ih => rw [encodeEntries, ih, List.flatMap_cons]

theorem reads_array {items : List Value} (hslot : p.slot = none) (hp : p.frozen = false)
    (hn : items.length < 2 ^ 64) (h : ∀ v ∈ items, Reads (inner p.inside) (encode v) v) :
    Reads (readItem (some inner) p) (encode (.array items)) (.array items) := by
  rw [encode, encodeItems_eq]
  refine Reads.container (by decide) hn fun info tail hlength => hlength.bind ?_
  have hitems : Reads (sequence (inner p.inside) (.number items.length)) (items.flatMap encode)
      items := .times h
  have hmade : (if p.frozen then Value.tuple items else .array items) = .array items := by
    rw [hp]
    rfl
  refine (Reads.enter hslot).nil_bind (hitems.bind_nil ?_)
  rw [hmade]
  exact .pure _

theorem reads_map {entries : List (Value × Value)} (hslot : p.slot = none)
    (hp : p.frozen = false) (hn : entries.length < 2 ^ 64)
    (hdistinct : entries.Pairwise fun e f => Value.same e.1 f.1 = false)
    (hkey : ∀ e ∈ entries, e.1.isKey = true)
    (h : ∀ e ∈ entries, Reads (inner .sealed) (encode e.1) e.1 ∧
      Reads (inner p.inside) (encode e.2) e.2) :
    Reads (readItem (some inner) p) (encode (.map entries)) (.map entries) := by
  rw [encode, encodeEntries_eq]
  refine Reads.container (by decide) hn fun info tail hlength => hlength.bind ?_
  have hentry : ∀ e ∈ entries, Reads (entry inner p) (encodeEntry e) e := by
    rintro ⟨key, value⟩ he
    obtain ⟨hfirst, hsecond⟩ := h _ he
    refine Reads.bind hfirst ?_
    refine Reads.bind_nil hsecond ?_
    rw [if_pos (hkey _ he)]
    exact .pure _
  have hentries : Reads (sequence (entry inner p) (.number entries.length))
      (entries.flatMap encodeEntry) entries := .times hentry
  refine (Reads.enter hslot).nil_bind (hentries.bind_nil ?_)
  rw [Value.assigned_of_distinct hdistinct, hp]
  exact .pure _

end

/-! ## Values that survive the wire -/

/-- The values that are read as they were written, with at most so many levels of nesting. -/
inductive Portable : (depth : Nat) → Value → Prop
  | null {depth : Nat} : Portable depth .null
  | bool {depth : Nat} (b : Bool) : Portable depth (.bool b)
  | text {depth : Nat} (s : String) : Portable depth (.text s)
  | bytes {depth : Nat} (b : Bytes) : Portable depth (.bytes b)
  | int {depth : Nat} (n : Int) : Portable (depth + 1) (.int n)
  | array {depth : Nat} {items : List Value} (h : ∀ v ∈ items, Portable depth v) :
    Portable (depth + 1) (.array items)
  | map {depth : Nat} {entries : List (Value × Value)}
    (hdistinct : entries.Pairwise fun e f => Value.same e.1 f.1 = false)
    (hkey : ∀ e ∈ entries, e.1.isKey = true)
    (hkeys : ∀ e ∈ entries, Portable depth e.1)
    (hvalues : ∀ e ∈ entries, Portable depth e.2) : Portable (depth + 1) (.map entries)

theorem head_append_ne_nil (kind n : Nat) (b : Bytes) : head kind n ++ b ≠ [] := by
  unfold head
  split_ifs <;> exact List.cons_ne_nil _ _

theorem integer_ne_nil (n : Int) : integer n ≠ [] := by
  unfold integer
  split <;> split_ifs
  all_goals first
    | exact head_append_ne_nil _ _ _
    | exact (List.append_nil _).symm.trans_ne (head_append_ne_nil _ _ [])

namespace Portable

variable {depth : Nat} {v : Value}

theorem length_encode_pos (h : Portable depth v) : 0 < (encode v).length := by
  rw [List.length_pos_iff]
  cases h with
  | null => exact List.cons_ne_nil _ _
  | bool b => cases b <;> exact List.cons_ne_nil _ _
  | text s => exact head_append_ne_nil _ _ _
  | bytes b => exact head_append_ne_nil _ _ _
  | int n => exact integer_ne_nil n
  | array _ => exact head_append_ne_nil _ _ _
  | map _ _ _ _ => exact head_append_ne_nil _ _ _

theorem mono {depth' : Nat} (h : Portable depth v) (hle : depth ≤ depth') : Portable depth' v := by
  induction h generalizing depth' with
  | null => exact .null
  | bool b => exact .bool b
  | text s => exact .text s
  | bytes b => exact .bytes b
  | int n =>
    cases depth' with
    | zero => omega
    | succ depth' => exact .int n
  | array _ ih =>
    cases depth' with
    | zero => omega
    | succ depth' => exact .array fun v hv => ih v hv (by omega)
  | map hdistinct hkey _ _ ihkeys ihvalues =>
    cases depth' with
    | zero => omega
    | succ depth' =>
      exact .map hdistinct hkey (fun e he => ihkeys e he (by omega))
        fun e he => ihvalues e he (by omega)

/-- A map whose keys are different texts. -/
theorem record {fields : List (String × Value)} (hnames : (fields.map Prod.fst).Nodup)
    (h : ∀ f ∈ fields, Portable depth f.2) : Portable (depth + 1) (.record fields) := by
  refine .map ?_ ?_ ?_ ?_
  · rw [List.pairwise_map]
    have hdistinct : fields.Pairwise fun f g => f.1 ≠ g.1 := List.pairwise_map.mp hnames
    refine hdistinct.imp fun hne => ?_
    rw [Value.same]
    exact beq_eq_false_iff_ne.mpr hne
  all_goals
    intro e he
    obtain ⟨f, hf, rfl⟩ := List.mem_map.mp he
  · rfl
  · exact .text f.1
  · exact h f hf

end Portable

/-- Whether anything may be nested does not matter to an item that holds no others. -/
theorem Reads.item {p : Place} {b : Bytes} {v : Value}
    (h : ∀ inner, Reads (readItem inner p) b v) (depth : Nat) : Reads (Cbor.item depth p) b v := by
  cases depth <;> exact h _

/-- Where every part is an octet long at least, there are no more parts than octets. -/
theorem length_le_length_flatMap {α : Type} {f : α → Bytes} {xs : List α}
    (h : ∀ x ∈ xs, 0 < (f x).length) : xs.length ≤ (xs.flatMap f).length := by
  induction xs with
  | nil => exact Nat.zero_le _
  | cons x xs ih =>
    obtain ⟨hx, hxs⟩ := List.forall_mem_cons.mp h
    have hrest := ih hxs
    rw [List.flatMap_cons, List.length_append, List.length_cons]
    omega

theorem length_le_of_mem_flatMap {α : Type} {f : α → Bytes} {xs : List α} {x : α} (hx : x ∈ xs) :
    (f x).length ≤ (xs.flatMap f).length := by
  obtain ⟨before, after, rfl⟩ := List.append_of_mem hx
  simp only [List.flatMap_append, List.flatMap_cons, List.length_append]
  omega

/-- **What is written is read**, in front of anything, at a place that may hold it. -/
theorem Portable.reads {depth : Nat} {v : Value} (h : Portable depth v) {p : Place}
    (hslot : p.slot = none) (hp : p.frozen = false ∨ v.isKey = true)
    (hsize : (encode v).length < 2 ^ 64) : Reads (item depth p) (encode v) v := by
  -- the parts are read at other places than the whole: a key is read where nothing can change
  induction h generalizing p with
  | null => exact .item (fun _ => reads_null) _
  | bool b => exact .item (fun _ => reads_bool b) _
  | text s =>
    rw [encode, Cbor.text, List.length_append] at hsize
    exact .item (fun _ => reads_text (by omega)) _
  | bytes b =>
    rw [encode, octets, List.length_append] at hsize
    exact .item (fun _ => reads_octets (by omega)) _
  | int n => exact reads_integer hsize fun b hb => .item (fun _ => reads_octets hb) _
  | @array depth items hitems ih =>
    have hfree : p.frozen = false := hp.resolve_right Bool.false_ne_true
    have hlength : (items.flatMap encode).length < 2 ^ 64 := by
      rw [encode, encodeItems_eq, List.length_append] at hsize
      omega
    -- no part is empty or longer than the whole, so neither is there a number that does not fit
    refine reads_array hslot hfree ?_ fun v hv => ih v hv rfl (.inl hfree) ?_
    · have hcount := length_le_length_flatMap fun v hv => (hitems v hv).length_encode_pos
      omega
    · have hle : (encode v).length ≤ (items.flatMap encode).length := length_le_of_mem_flatMap hv
      omega
  | @map depth entries hdistinct hkey hkeys hvalues ihkeys ihvalues =>
    have hfree : p.frozen = false := hp.resolve_right Bool.false_ne_true
    have hlength : (entries.flatMap encodeEntry).length < 2 ^ 64 := by
      rw [encode, encodeEntries_eq, List.length_append] at hsize
      omega
    have hentry : ∀ e : Value × Value, e ∈ entries →
        (encode e.1).length + (encode e.2).length < 2 ^ 64 := by
      intro e he
      have hle : (encodeEntry e).length ≤ (entries.flatMap encodeEntry).length :=
        length_le_of_mem_flatMap he
      rw [encodeEntry, List.length_append] at hle
      omega
    refine reads_map hslot hfree ?_ hdistinct hkey fun e he => ⟨?_, ?_⟩
    · have hcount : entries.length ≤ (entries.flatMap encodeEntry).length := by
        refine length_le_length_flatMap fun e he => ?_
        have hpos := (hkeys e he).length_encode_pos
        rw [encodeEntry, List.length_append]
        omega
      omega
    · have hle := hentry e he
      exact ihkeys e he rfl (.inr (hkey e he)) (by omega)
    · have hle := hentry e he
      exact ihvalues e he rfl (.inl hfree) (by omega)

/-- **Decoding inverts encoding**, whatever follows. -/
theorem decode_encode {v : Value} (h : Portable Malformed.maxDepth v)
    (hsize : (encode v).length < 2 ^ 64) (rest : Bytes) : decode (encode v ++ rest) = .ok v := by
  have hread : Reads (item Malformed.maxDepth {}) (encode v) v := h.reads rfl (.inl rfl) hsize
  show Except.map Prod.fst (item Malformed.maxDepth {} { rest := encode v ++ rest }) = _
  rw [hread { rest := [] } rest rfl]
  rfl

end Cbor

end EnclaveAudit
