import Mathlib.Data.List.Basic
import Mathlib.Data.List.Forall2
import EnclaveAudit.Proofs.Text.Decimal
import EnclaveAudit.Proofs.Wire.RoundTrip
import EnclaveAudit.Wire.Json

/-!
# `EnclaveAudit/Proofs/Wire/Json.lean` — documents are read back

What the program prints as a document has to be one. What a document is, and what it says, is the
business of a reader: `Json.read?` reads a text that is one JSON value, with white space around it
and inside it, and refuses everything else. It knows no numbers but integers, because a document of
this program holds no others.

`Plain` says which values have documents that say the same as they do: texts, truth values,
integers, arrays, and maps from texts. Each part is read because its parts are (`Json.Reads`); a
number is the only part that does not say where it ends, so nothing that could go on with one may
follow (`Json.Stops`).
-/

set_option autoImplicit false

namespace EnclaveAudit

namespace Json

/-! ## The reader -/

/-- Reads from the front of some characters, and says what is left of them. -/
abbrev Reader (α : Type) := List Char → Option (α × List Char)

/-- White space. -/
def isBlank (c : Char) : Bool := c = ' ' || c = '\n' || c = '\r' || c = '\t'

/-- The characters behind leading white space. -/
def skip (cs : List Char) : List Char := cs.dropWhile isBlank

/-- The number of four hexadecimal digits. -/
def hexNumber? (a b c d : Char) : Option Nat := do
  pure ((((← Bytes.hexValue? a) * 16 + (← Bytes.hexValue? b)) * 16 + (← Bytes.hexValue? c)) * 16 +
    (← Bytes.hexValue? d))

/-- The character that a letter behind a backslash stands for. -/
def escaped? : Char → Option Char
  | '"' => some '"'
  | '\\' => some '\\'
  | '/' => some '/'
  | 'b' => some '\x08'
  | 'f' => some '\x0c'
  | 'n' => some '\n'
  | 'r' => some '\r'
  | 't' => some '\t'
  | _ => none

/-- The numbers of a text, from behind its opening quote to the closing one: of each character its
code point, of each that is escaped by its number that number. -/
def numbers? : Reader (List Nat)
  | '"' :: cs => some ([], cs)
  | '\\' :: 'u' :: a :: b :: c :: d :: cs => do
    let n ← hexNumber? a b c d
    let (ns, cs) ← numbers? cs
    pure (n :: ns, cs)
  | '\\' :: c :: cs => do
    let c ← escaped? c
    let (ns, cs) ← numbers? cs
    pure (c.toNat :: ns, cs)
  | c :: cs =>
    if c = '\\' ∨ c.toNat < 0x20 then none
    else do
      let (ns, cs) ← numbers? cs
      pure (c.toNat :: ns, cs)
  | [] => none

/-- The characters of such numbers. A character beyond the first plane is two of them, and neither
of the two stands alone. -/
def characters? : List Nat → Option (List Char)
  | [] => some []
  | n :: ns =>
    if n < 0xD800 ∨ 0xDFFF < n then (characters? ns).map (Char.ofNat n :: ·)
    else match ns with
      | m :: ns =>
        if n < 0xDC00 ∧ 0xDC00 ≤ m ∧ m ≤ 0xDFFF then
          (characters? ns).map (Char.ofNat (0x10000 + (n - 0xD800) * 0x400 + (m - 0xDC00)) :: ·)
        else none
      | [] => none

/-- A text, from behind its opening quote. -/
def text? : Reader String := fun cs => do
  let (ns, cs) ← numbers? cs
  pure (String.ofList (← characters? ns), cs)

/-- An integer that is not negative. A zero in front of other digits is none. -/
def natural? : Reader Nat := fun cs =>
  match cs.takeWhile Char.isDigit with
  | [] | '0' :: _ :: _ => none
  | digits => some (Nat.ofDigitChars 10 digits 0, cs.dropWhile Char.isDigit)

/-- An integer. -/
def integer? : Reader Int
  | '-' :: cs => (natural? cs).map fun (n, cs) => (-n, cs)
  | cs => (natural? cs).map fun (n, cs) => (n, cs)

section

variable {α : Type} (item : Reader α) (closing : Char)

/-- Items with commas between them, at least one and so many at most, up to the closing bracket. -/
def sequence? : Nat → Reader (List α)
  | 0, _ => none
  | limit + 1, cs => do
    let (first, cs) ← item cs
    match skip cs with
    | [] => none
    | c :: cs =>
      if c = ',' then do
        let (others, cs) ← sequence? limit cs
        pure (first :: others, cs)
      else if c = closing then pure ([first], cs)
      else none

/-- What stands between two brackets, from behind the opening one. -/
def enclosed? : Reader (List α) := fun cs =>
  match skip cs with
  | [] => none
  | c :: rest => if c = closing then some ([], rest) else sequence? item closing cs.length cs

end

/-- A key and what is read behind its colon. -/
def pair? (item : Reader Value) : Reader (Value × Value) := fun cs =>
  match skip cs with
  | '"' :: cs => do
    let (name, cs) ← text? cs
    match skip cs with
    | ':' :: cs => (item cs).map fun (v, cs) => ((.text name, v), cs)
    | _ => none
  | _ => none

/-- A value that is nested less deeply than so many levels. -/
def value? : Nat → Reader Value
  | 0, _ => none
  | depth + 1, cs =>
    match skip cs with
    | 'n' :: 'u' :: 'l' :: 'l' :: cs => some (.null, cs)
    | 't' :: 'r' :: 'u' :: 'e' :: cs => some (.bool true, cs)
    | 'f' :: 'a' :: 'l' :: 's' :: 'e' :: cs => some (.bool false, cs)
    | '"' :: cs => (text? cs).map fun (s, cs) => (.text s, cs)
    | '[' :: cs => (enclosed? (value? depth) ']' cs).map fun (items, cs) => (.array items, cs)
    | '\x7b' :: cs =>
      (enclosed? (pair? (value? depth)) '\x7d' cs).map fun (entries, cs) => (.ofEntries entries, cs)
    | cs => (integer? cs).map fun (n, cs) => (.int n, cs)

/-- **The value that a document says.** Nothing but white space may follow it. No value is nested
more deeply than the document is long. -/
def read? (document : String) : Option Value := do
  let (v, cs) ← value? (document.toList.length + 1) document.toList
  if skip cs = [] then some v else none

/-- A second value, a number with a zero in front and half a character are refused. -/
example : (read? "1 2").isNone = true ∧ (read? "01").isNone = true ∧
    (read? "\"\\ud83d\"").isNone = true := by decide +kernel

/-! ## Texts -/

theorem hexValue?_hexDigit : ∀ n < 16, Bytes.hexValue? (Bytes.hexDigit n) = some n := by decide

theorem hexNumber?_hexDigits {n : Nat} (h : n < 0x10000) :
    ∃ a b c d, Text.hexDigits 4 n = [a, b, c, d] ∧ hexNumber? a b c d = some n := by
  refine ⟨_, _, _, _, rfl, ?_⟩
  have hdigit (m : Nat) : Bytes.hexValue? (Bytes.hexDigit (m % 16)) = some (m % 16) :=
    hexValue?_hexDigit _ (Nat.mod_lt m (by decide))
  simp only [hexNumber?, hdigit, Option.pure_def, Option.bind_eq_bind, Option.bind_some,
    Option.some.injEq]
  omega

/-- These characters are read as these numbers, whatever comes after them. -/
def Spells (cs : List Char) (ns : List Nat) : Prop :=
  ∀ rest, numbers? (cs ++ rest) = (numbers? rest).map fun (ms, cs) => (ns ++ ms, cs)

theorem spells_nil : Spells [] [] := by
  intro rest
  cases h : numbers? rest <;> simp [h]

theorem Spells.append {cs ds : List Char} {ns ms : List Nat} (hc : Spells cs ns)
    (hd : Spells ds ms) : Spells (cs ++ ds) (ns ++ ms) := by
  intro rest
  rw [List.append_assoc, hc, hd]
  cases numbers? rest <;> simp

theorem spells_unit {n : Nat} (h : n < 0x10000) : Spells (unit n) [n] := by
  intro rest
  obtain ⟨a, b, c, d, hdigits, hn⟩ := hexNumber?_hexDigits h
  simp only [unit, hdigits, List.cons_append, List.nil_append, numbers?, hn]
  cases numbers? rest <;> rfl

theorem spells_escaped {c d : Char} (hu : c ≠ 'u') (hc : escaped? c = some d) :
    Spells ['\\', c] [d.toNat] := by
  intro rest
  simp only [List.cons_append, List.nil_append]
  rw [numbers?]
  · rw [hc]
    cases numbers? rest <;> rfl
  · rintro _ _ _ _ _ rfl
    exact (hu rfl).elim

theorem spells_plain {c : Char} (hquote : c ≠ '"') (hslash : c ≠ '\\') (h : 0x20 ≤ c.toNat) :
    Spells [c] [c.toNat] := by
  intro rest
  simp only [List.cons_append, List.nil_append]
  rw [numbers?]
  · rw [if_neg (by simp only [hslash, false_or]; omega)]
    cases numbers? rest <;> rfl
  · exact hquote
  · rintro _ _ _ _ _ rfl
    exact (hslash rfl).elim
  · rintro _ _ rfl
    exact (hslash rfl).elim

/-- The numbers that a character is escaped by, if it is. -/
def units (c : Char) : List Nat :=
  if c.toNat < 0x10000 then [c.toNat]
  else [0xD800 + (c.toNat - 0x10000) / 0x400, 0xDC00 + (c.toNat - 0x10000) % 0x400]

theorem units_of_lt {c : Char} (h : c.toNat < 0x10000) : units c = [c.toNat] := if_pos h

/-- Each character is written in a way that is read as its numbers. -/
theorem spells_escape (c : Char) : Spells (escape c) (units c) := by
  unfold escape
  dsimp only
  split_ifs with hquote hslash hline hreturn htab hback hfeed hplain hplane
  · subst hquote
    exact spells_escaped (by decide) rfl
  · subst hslash
    exact spells_escaped (by decide) rfl
  · subst hline
    exact spells_escaped (by decide) rfl
  · subst hreturn
    exact spells_escaped (by decide) rfl
  · subst htab
    exact spells_escaped (by decide) rfl
  · rw [units_of_lt (by omega), hback]
    exact spells_escaped (c := 'b') (by decide) rfl
  · rw [units_of_lt (by omega), hfeed]
    exact spells_escaped (c := 'f') (by decide) rfl
  · rw [units_of_lt (by omega)]
    exact spells_plain hquote hslash hplain.1
  · rw [units_of_lt hplane]
    exact spells_unit hplane
  · rw [units, if_neg hplane]
    have hvalid : c.toNat < 0xD800 ∨ 0xDFFF < c.toNat ∧ c.toNat < 0x110000 := c.valid
    exact (spells_unit (by omega)).append (spells_unit (by omega))

theorem spells_flatMap (cs : List Char) : Spells (cs.flatMap escape) (cs.flatMap units) := by
  induction cs with
  | nil => exact spells_nil
  | cons c cs ih => exact (spells_escape c).append ih

theorem characters?_units (c : Char) (ns : List Nat) :
    characters? (units c ++ ns) = (characters? ns).map (c :: ·) := by
  have hvalid : c.toNat < 0xD800 ∨ 0xDFFF < c.toNat ∧ c.toNat < 0x110000 := c.valid
  unfold units
  split_ifs with hplane
  · have hself : c.toNat < 0xD800 ∨ 0xDFFF < c.toNat := hvalid.imp id And.left
    rw [List.cons_append, List.nil_append, characters?.eq_def]
    dsimp only
    rw [if_pos hself, Char.ofNat_toNat]
  · have hfirst : ¬(0xD800 + (c.toNat - 0x10000) / 0x400 < 0xD800 ∨
        0xDFFF < 0xD800 + (c.toNat - 0x10000) / 0x400) := by omega
    have hboth : 0xD800 + (c.toNat - 0x10000) / 0x400 < 0xDC00 ∧
        0xDC00 ≤ 0xDC00 + (c.toNat - 0x10000) % 0x400 ∧
        0xDC00 + (c.toNat - 0x10000) % 0x400 ≤ 0xDFFF := by omega
    have hnumber : 0x10000 + (0xD800 + (c.toNat - 0x10000) / 0x400 - 0xD800) * 0x400 +
        (0xDC00 + (c.toNat - 0x10000) % 0x400 - 0xDC00) = c.toNat := by omega
    simp only [List.cons_append, List.nil_append]
    rw [characters?, if_neg hfirst, if_pos hboth, hnumber, Char.ofNat_toNat]

theorem characters?_flatMap (cs : List Char) : characters? (cs.flatMap units) = some cs := by
  induction cs with
  | nil => rfl
  | cons c cs ih => rw [List.flatMap_cons, characters?_units, ih, Option.map_some]

/-- A text is read back, from behind its opening quote. -/
theorem text?_text (s : String) (rest : List Char) :
    text? (s.toList.flatMap escape ++ '"' :: rest) = some (s, rest) := by
  have hread : numbers? (s.toList.flatMap escape ++ '"' :: rest) =
      some (s.toList.flatMap units, rest) := by
    rw [spells_flatMap, numbers?, Option.map_some]
    dsimp only
    rw [List.append_nil]
  simp only [text?, hread, Option.bind_eq_bind, Option.bind_some, characters?_flatMap,
    String.ofList_toList, Option.pure_def]

/-! ## Numbers -/

/-- What comes next cannot go on with a number. -/
def Stops (cs : List Char) : Prop := ∀ c ∈ cs.head?, c.isDigit = false

theorem stops_nil : Stops [] := nofun

theorem stops_cons {c : Char} (h : c.isDigit = false) (cs : List Char) : Stops (c :: cs) :=
  fun _ hc => Option.some.inj hc ▸ h

variable {rest : List Char}

theorem natural?_toDigits (n : Nat) (h : Stops rest) :
    natural? (Nat.toDigits 10 n ++ rest) = some (n, rest) := by
  have hdigits : ∀ c ∈ Nat.toDigits 10 n, c.isDigit = true := fun _ => Decimal.isDigit_of_mem
  have hrest : rest.takeWhile Char.isDigit = [] ∧ rest.dropWhile Char.isDigit = rest := by
    cases rest with
    | nil => exact ⟨rfl, rfl⟩
    | cons c cs =>
      have hc : ¬c.isDigit = true := Bool.eq_false_iff.mp (h c rfl)
      exact ⟨List.takeWhile_cons_of_neg hc, List.dropWhile_cons_of_neg hc⟩
  unfold natural?
  rw [List.takeWhile_append_of_pos hdigits, List.dropWhile_append_of_pos hdigits, hrest.1, hrest.2,
    List.append_nil]
  split
  · next heq => exact absurd heq Nat.toDigits_ne_nil
  · next c digits heq =>
    -- a zero in front is all of it
    rcases Nat.eq_zero_or_pos n with rfl | hn
    · cases heq
    · exact absurd heq (Decimal.toDigits_ne_zero_cons hn _)
  · rw [Nat.ofDigitChars_ten_toDigits]

theorem toList_toString (n : Nat) : (toString n).toList = Nat.toDigits 10 n := by
  rw [Nat.toString_eq_ofList_toDigits, String.toList_ofList]

theorem exists_digit_cons (n : Nat) : ∃ c cs, Nat.toDigits 10 n = c :: cs ∧ c.isDigit = true := by
  obtain ⟨c, cs, heq⟩ := List.exists_cons_of_ne_nil (Nat.toDigits_ne_nil (b := 10) (n := n))
  exact ⟨c, cs, heq, Decimal.isDigit_of_mem (heq ▸ List.mem_cons_self)⟩

theorem integer?_toString (n : Int) (h : Stops rest) :
    integer? ((toString n).toList ++ rest) = some (n, rest) := by
  cases n with
  | ofNat n =>
    have htext : (toString (Int.ofNat n)).toList = Nat.toDigits 10 n := toList_toString n
    obtain ⟨c, cs, heq, hc⟩ := exists_digit_cons n
    have hread := natural?_toDigits n h
    rw [htext]
    rw [heq] at hread ⊢
    rw [List.cons_append] at hread ⊢
    rw [integer?]
    · rw [hread]
      rfl
    · rintro _ hhyphen
      cases hhyphen
      exact absurd hc (by decide)
  | negSucc n =>
    have htext : (toString (Int.negSucc n)).toList = '-' :: Nat.toDigits 10 (n + 1) := by
      show ("-" ++ toString (n + 1)).toList = _
      rw [String.toList_append, toList_toString]
      rfl
    rw [htext, List.cons_append, integer?, natural?_toDigits _ h]
    rfl

/-! ## Sequences -/

section

variable {α : Type} {item : Reader α} {closing : Char} {cs gap before after : List Char} {a : α}

theorem skip_append (hgap : ∀ c ∈ gap, isBlank c = true) (cs : List Char) :
    skip (gap ++ cs) = skip cs := List.dropWhile_append_of_pos hgap

theorem skip_cons {c : Char} (h : isBlank c = false) (cs : List Char) : skip (c :: cs) = c :: cs :=
  List.dropWhile_cons_of_neg (by rw [h]; exact Bool.false_ne_true)

/-- The reader reads exactly these characters, behind white space and in front of anything that
cannot go on with a number. -/
def Reads (r : Reader α) (cs : List Char) (a : α) : Prop :=
  ∀ gap rest, (∀ c ∈ gap, isBlank c = true) → Stops rest → r (gap ++ (cs ++ rest)) = some (a, rest)

/-- These characters start with one that is neither white space nor the closing bracket. -/
def Starts (closing : Char) (cs : List Char) : Prop :=
  ∃ c tail, cs = c :: tail ∧ isBlank c = false ∧ c ≠ closing

theorem Starts.skip (h : Starts closing cs) (hgap : ∀ c ∈ gap, isBlank c = true)
    (rest : List Char) : skip (gap ++ (cs ++ rest)) = cs ++ rest := by
  obtain ⟨c, tail, rfl, hc, -⟩ := h
  rw [skip_append hgap, List.cons_append, skip_cons hc]

theorem length_le_intercalate (gap : List Char) (parts : List (List Char)) :
    parts.length ≤ ((',' :: gap).intercalate parts).length + 1 := by
  induction parts with
  | nil => exact Nat.zero_le _
  | cons p parts ih =>
    cases parts with
    | nil => exact Nat.le_add_left _ _
    | cons q parts =>
      rw [List.intercalate_cons_cons]
      simp only [List.length_append, List.length_cons] at ih ⊢
      omega

theorem length_le_of_mem (gap : List Char) {p : List Char} {parts : List (List Char)}
    (h : p ∈ parts) : p.length ≤ ((',' :: gap).intercalate parts).length := by
  induction parts with
  | nil => cases h
  | cons q parts ih =>
    cases parts with
    | nil =>
      rw [List.mem_singleton.mp h, List.intercalate_singleton]
    | cons q' parts =>
      rw [List.intercalate_cons_cons]
      simp only [List.length_append]
      rcases List.mem_cons.mp h with rfl | h
      · omega
      · have hle := ih h
        omega

theorem isDigit_of_isBlank {c : Char} (h : isBlank c = true) : c.isDigit = false := by
  simp only [isBlank, Bool.or_eq_true, decide_eq_true_eq] at h
  rcases h with ((rfl | rfl) | rfl) | rfl <;> rfl

theorem stops_append (hgap : ∀ c ∈ gap, isBlank c = true) (h : Stops cs) : Stops (gap ++ cs) := by
  cases gap with
  | nil => exact h
  | cons c gap => exact stops_cons (isDigit_of_isBlank (hgap c List.mem_cons_self)) _

/-- A bracket that can close something. -/
structure Closes (closing : Char) : Prop where
  blank : isBlank closing = false
  digit : closing.isDigit = false
  comma : closing ≠ ','

/-- Items that are read are read in sequence. -/
theorem sequence?_intercalate (hclosing : Closes closing) (hgap : ∀ c ∈ gap, isBlank c = true)
    (hafter : ∀ c ∈ after, isBlank c = true) {parts : List (List Char)} {as : List α}
    (h : List.Forall₂ (Reads item) parts as) (hne : parts ≠ []) (rest : List Char) {limit : Nat}
    (hlimit : parts.length ≤ limit) (hbefore : ∀ c ∈ before, isBlank c = true) :
    sequence? item closing limit
        (before ++ ((',' :: gap).intercalate parts ++ (after ++ closing :: rest))) =
      some (as, rest) := by
  induction h generalizing limit before with
  | nil => exact absurd rfl hne
  | @cons p a parts as hp hparts ih =>
    obtain ⟨limit, rfl⟩ : ∃ n, limit = n + 1 := Nat.exists_eq_add_one.mpr (by
      rw [List.length_cons] at hlimit
      omega)
    rw [List.length_cons, Nat.add_le_add_iff_right] at hlimit
    cases hparts with
    | nil =>
      -- the last item, in front of the bracket
      have hfirst := hp before (after ++ closing :: rest) hbefore
        (stops_append hafter (stops_cons hclosing.digit _))
      rw [List.intercalate_singleton, sequence?, hfirst]
      simp only [Option.bind_eq_bind, Option.bind_some, skip_append hafter, skip_cons hclosing.blank,
        if_neg hclosing.comma, if_pos, Option.pure_def]
    | @cons q b parts bs hq hparts =>
      have hothers := ih (List.cons_ne_nil _ _) hlimit hgap
      have hfirst := hp before
        (',' :: (gap ++ ((',' :: gap).intercalate (q :: parts) ++ (after ++ closing :: rest))))
        hbefore (stops_cons (by decide) _)
      rw [List.intercalate_cons_cons, List.append_assoc, List.append_assoc, List.cons_append,
        sequence?, hfirst]
      simp only [Option.bind_eq_bind, Option.bind_some, skip_cons (by decide : isBlank ',' = false),
        if_pos, hothers, Option.pure_def]

/-- They are read between brackets, however they are laid out. -/
theorem enclosed?_intercalate (hclosing : Closes closing) (hgap : ∀ c ∈ gap, isBlank c = true)
    (hbefore : ∀ c ∈ before, isBlank c = true) (hafter : ∀ c ∈ after, isBlank c = true)
    {parts : List (List Char)} {as : List α} (h : List.Forall₂ (Reads item) parts as)
    (hstarts : ∀ p ∈ parts, Starts closing p) (hne : parts ≠ []) (rest : List Char) :
    enclosed? item closing
        (before ++ ((',' :: gap).intercalate parts ++ (after ++ closing :: rest))) =
      some (as, rest) := by
  obtain ⟨p, parts, rfl⟩ := List.exists_cons_of_ne_nil hne
  -- the first item does not start with the bracket
  obtain ⟨c, tail, hc, hfirst⟩ : ∃ c tail, (',' :: gap).intercalate (p :: parts) = c :: tail ∧
      isBlank c = false ∧ c ≠ closing := by
    obtain ⟨c, tail, rfl, hfirst⟩ := hstarts p List.mem_cons_self
    cases parts with
    | nil => exact ⟨c, tail, List.intercalate_singleton, hfirst⟩
    | cons q parts => exact ⟨c, _, List.intercalate_cons_cons, hfirst⟩
  have hlimit : (p :: parts).length ≤ (before ++ ((',' :: gap).intercalate (p :: parts) ++
      (after ++ closing :: rest))).length := by
    have hlength := length_le_intercalate gap (p :: parts)
    simp only [List.length_append, List.length_cons] at hlength ⊢
    omega
  have hread := sequence?_intercalate hclosing hgap hafter h hne rest hlimit hbefore
  unfold enclosed?
  rw [hread, skip_append hbefore, hc, List.cons_append, skip_cons hfirst.1]
  exact if_neg hfirst.2

end

/-! ## Documents -/

theorem toList_enclose (style : DocumentStyle) (depth : Nat) (opening closing : String)
    {parts : List String} (hne : parts ≠ []) :
    ∃ before gap after, (∀ c ∈ before, isBlank c = true) ∧ (∀ c ∈ gap, isBlank c = true) ∧
      (∀ c ∈ after, isBlank c = true) ∧ (enclose style depth opening closing parts).toList =
        opening.toList ++ (before ++
          ((',' :: gap).intercalate (parts.map String.toList) ++ (after ++ closing.toList))) := by
  obtain ⟨p, parts, rfl⟩ := List.exists_cons_of_ne_nil hne
  cases style with
  | line =>
    have hblank : ∀ c ∈ [' '], isBlank c = true := List.forall_mem_singleton.mpr rfl
    refine ⟨[], [' '], [], nofun, hblank, nofun, ?_⟩
    simp only [enclose, String.toList_append, String.toList_intercalate, List.append_assoc]
    rfl
  | indented step =>
    -- a line break and so many blanks
    have hline (n : Nat) : ∀ c ∈ '\n' :: List.replicate n ' ', isBlank c = true := by
      intro c hc
      rcases List.mem_cons.mp hc with rfl | hc
      · rfl
      · rw [List.eq_of_mem_replicate hc]
        rfl
    refine ⟨_, _, _, hline (step * (depth + 1)), hline (step * (depth + 1)),
      hline (step * depth), ?_⟩
    simp only [enclose, String.toList_append, String.toList_intercalate, String.toList_ofList,
      List.append_assoc]
    rfl

/-- A text is read as something between brackets, if there are levels enough for it. -/
structure Says {α : Type} (item : Nat → Reader α) (closing : Char) (text : String) (a : α) : Prop where
  starts : Starts closing text.toList
  reads : ∀ depth, text.toList.length ≤ depth → Reads (item depth) text.toList a

/-- What is laid out between brackets is read. -/
theorem enclosed?_enclose {α : Type} {item : Nat → Reader α} {closing : Char}
    (hclosing : Closes closing) (style : DocumentStyle) (depth : Nat) (opening close : String)
    (hclose : close.toList = [closing]) {parts : List String} {as : List α}
    (h : List.Forall₂ (Says item closing) parts as) :
    ∃ tail, (enclose style depth opening close parts).toList = opening.toList ++ tail ∧
      ∀ levels rest, tail.length ≤ levels →
        enclosed? (item levels) closing (tail ++ rest) = some (as, rest) := by
  by_cases hne : parts = []
  · subst hne
    cases h
    refine ⟨[closing], by simp only [enclose, String.toList_append, hclose], fun _ rest _ => ?_⟩
    unfold enclosed?
    rw [List.cons_append, skip_cons hclosing.blank]
    exact if_pos rfl
  · obtain ⟨before, gap, after, hbefore, hgap, hafter, htext⟩ :=
      toList_enclose style depth opening close hne
    refine ⟨_, htext, fun levels rest hlevels => ?_⟩
    rw [hclose] at hlevels ⊢
    simp only [List.length_append] at hlevels
    have hlength : ∀ part ∈ parts, part.toList.length ≤ levels := fun part hpart =>
      (length_le_of_mem gap (List.mem_map_of_mem hpart)).trans (by omega)
    have hreads : List.Forall₂ (Reads (item levels)) (parts.map String.toList) as := by
      refine List.forall₂_map_left_iff.mpr ?_
      exact ((List.forall₂_and_left parts as).mpr ⟨hlength, h⟩).imp fun _ _ hpart =>
        hpart.2.reads levels hpart.1
    have hstarts : ∀ part ∈ parts, Starts closing part.toList :=
      ((List.forall₂_and_left (R := fun _ _ => True) parts as).mp
        (h.imp fun _ _ hpart => ⟨hpart.starts, trivial⟩)).1
    have hread := enclosed?_intercalate hclosing hgap hbefore hafter hreads
      (List.forall_mem_map.mpr hstarts) (fun hnil => hne (List.map_eq_nil_iff.mp hnil)) rest
    simp only [List.append_assoc, List.cons_append, List.nil_append]
    exact hread

end Json

/-- The values that have documents that say the same as they do. -/
inductive Value.Plain : Value → Prop
  | text (s : String) : Plain (.text s)
  | bool (b : Bool) : Plain (.bool b)
  | int (n : Int) : Plain (.int n)
  | array {items : List Value} (h : ∀ v ∈ items, Plain v) : Plain (.array items)
  | record {fields : List (String × Value)} (hnames : (fields.map Prod.fst).Nodup)
    (h : ∀ f ∈ fields, Plain f.2) : Plain (.record fields)

namespace Json

/-- White space in front may be left out of account, and so may a depth of zero. -/
theorem Says.intro {text : String} {v : Value} (hstarts : Starts ']' text.toList)
    (h : ∀ depth rest, text.toList.length ≤ depth + 1 → Stops rest →
      value? (depth + 1) (text.toList ++ rest) = some (v, rest)) : Says value? ']' text v := by
  refine ⟨hstarts, fun depth hdepth gap rest hgap hrest => ?_⟩
  have hpos : 0 < text.toList.length := by
    obtain ⟨c, tail, htext, -⟩ := hstarts
    rw [htext]
    exact Nat.zero_lt_succ _
  obtain ⟨depth, rfl⟩ : ∃ n, depth = n + 1 := Nat.exists_eq_add_one.mpr (by omega)
  have hread := h depth rest hdepth hrest
  have hself : skip (text.toList ++ rest) = text.toList ++ rest :=
    hstarts.skip (nofun : ∀ c ∈ [], _) rest
  rw [value?, hstarts.skip hgap]
  rwa [value?, hself] at hread

theorem toList_text (s : String) :
    (text s).toList = '"' :: (s.toList.flatMap escape ++ ['"']) := String.toList_ofList

theorem says_text (s : String) : Says value? ']' (text s) (.text s) := by
  refine Says.intro ⟨_, _, toList_text s, rfl, by decide⟩ fun depth rest _ _ => ?_
  have hread := text?_text s rest
  rw [toList_text, value?, List.cons_append, skip_cons rfl]
  simp only [List.append_assoc, List.cons_append, List.nil_append, hread, Option.map_some]

theorem says_bool (b : Bool) : Says value? ']' (if b then "true" else "false") (.bool b) := by
  cases b with
  | true => exact Says.intro ⟨_, _, rfl, rfl, by decide⟩ fun _ _ _ _ => rfl
  | false => exact Says.intro ⟨_, _, rfl, rfl, by decide⟩ fun _ _ _ _ => rfl

/-- A number starts with a hyphen or a digit. -/
theorem exists_toString_cons (n : Int) :
    ∃ c cs, (toString n).toList = c :: cs ∧ (c = '-' ∨ c.isDigit = true) := by
  cases n with
  | ofNat n =>
    obtain ⟨c, cs, heq, hc⟩ := exists_digit_cons n
    exact ⟨c, cs, (toList_toString n).trans heq, .inr hc⟩
  | negSucc n =>
    refine ⟨'-', (toString (n + 1)).toList, ?_, .inl rfl⟩
    show ("-" ++ toString (n + 1)).toList = _
    rw [String.toList_append]
    rfl

theorem says_int (n : Int) : Says value? ']' (toString n) (.int n) := by
  obtain ⟨c, cs, htext, hc⟩ := exists_toString_cons n
  have hother : ∀ d : Char, d ≠ '-' → d.isDigit = false → c ≠ d := by
    rintro _ hd hdigit rfl
    rcases hc with rfl | hc
    · exact hd rfl
    · exact Bool.false_ne_true (hdigit.symm.trans hc)
  have hblank : isBlank c = false := by
    rcases hc with rfl | hc
    · rfl
    · exact Bool.eq_false_iff.mpr fun hblank =>
        Bool.false_ne_true ((isDigit_of_isBlank hblank).symm.trans hc)
  refine Says.intro ⟨c, cs, htext, hblank, hother ']' (by decide) rfl⟩ fun depth rest _ hrest => ?_
  have hread := integer?_toString n hrest
  rw [htext, List.cons_append] at hread ⊢
  rw [value?, skip_cons hblank]
  split
  · next heq => exact absurd (List.cons.inj heq).1 (hother 'n' (by decide) rfl)
  · next heq => exact absurd (List.cons.inj heq).1 (hother 't' (by decide) rfl)
  · next heq => exact absurd (List.cons.inj heq).1 (hother 'f' (by decide) rfl)
  · next heq => exact absurd (List.cons.inj heq).1 (hother '"' (by decide) rfl)
  · next heq => exact absurd (List.cons.inj heq).1 (hother '[' (by decide) rfl)
  · next heq => exact absurd (List.cons.inj heq).1 (hother '\x7b' (by decide) rfl)
  · rw [hread, Option.map_some]

/-- A key and a value with a colon between them are an entry. -/
theorem says_entry {name text : String} {v : Value} (h : Says value? ']' text v) :
    Says (fun depth => pair? (value? depth)) '\x7d' (Json.text name ++ ": " ++ text)
      (.text name, v) := by
  have hentry : (Json.text name ++ ": " ++ text).toList =
      '"' :: (name.toList.flatMap escape ++ '"' :: ':' :: ' ' :: text.toList) := by
    rw [String.toList_append, String.toList_append, toList_text]
    simp only [List.cons_append, List.append_assoc, List.nil_append]
    rfl
  have hstarts : Starts '\x7d' (Json.text name ++ ": " ++ text).toList :=
    ⟨_, _, hentry, rfl, by decide⟩
  refine ⟨hstarts, fun depth hdepth gap rest hgap hrest => ?_⟩
  have hvalue := h.reads depth (by
    rw [hentry] at hdepth
    simp only [List.length_cons, List.length_append] at hdepth
    omega) [' '] rest (List.forall_mem_singleton.mpr rfl) hrest
  have hname := text?_text name (':' :: ' ' :: (text.toList ++ rest))
  rw [pair?, hstarts.skip hgap, hentry]
  simp only [List.cons_append, List.append_assoc] at hname hvalue ⊢
  rw [hname]
  simp only [Option.bind_eq_bind, Option.bind_some, skip_cons (by decide : isBlank ':' = false)]
  rw [List.nil_append] at hvalue
  rw [hvalue, Option.map_some]

/-- Items with a document make an array with one. -/
theorem says_array (style : DocumentStyle) (depth : Nat) {parts : List String}
    {items : List Value} (h : List.Forall₂ (Says value? ']') parts items) :
    Says value? ']' (enclose style depth "[" "]" parts) (.array items) := by
  have hclosing : Closes ']' := ⟨rfl, rfl, by decide⟩
  obtain ⟨tail, htext, hread⟩ := enclosed?_enclose hclosing style depth "[" "]" rfl h
  have htext : (enclose style depth "[" "]" parts).toList = '[' :: tail := htext
  refine Says.intro ⟨'[', tail, htext, rfl, by decide⟩ fun levels rest hlevels _ => ?_
  rw [htext, List.length_cons, Nat.add_le_add_iff_right] at hlevels
  rw [htext, List.cons_append, value?, skip_cons rfl]
  simp only [hread levels rest hlevels, Option.map_some]

/-- Entries with different keys make a map. -/
theorem says_map (style : DocumentStyle) (depth : Nat) {parts : List String}
    {entries : List (Value × Value)} (hkeys : entries.Pairwise fun e f => Value.same e.1 f.1 = false)
    (h : List.Forall₂ (Says (fun depth => pair? (value? depth)) '\x7d') parts entries) :
    Says value? ']' (enclose style depth "\x7b" "\x7d" parts) (.map entries) := by
  have hclosing : Closes '\x7d' := ⟨rfl, rfl, by decide⟩
  obtain ⟨tail, htext, hread⟩ := enclosed?_enclose hclosing style depth "\x7b" "\x7d" rfl h
  have htext : (enclose style depth "\x7b" "\x7d" parts).toList = '\x7b' :: tail := htext
  refine Says.intro ⟨'\x7b', tail, htext, rfl, by decide⟩ fun levels rest hlevels _ => ?_
  rw [htext, List.length_cons, Nat.add_le_add_iff_right] at hlevels
  rw [htext, List.cons_append, value?, skip_cons rfl]
  simp only [hread levels rest hlevels, Option.map_some, Value.ofEntries,
    Value.assigned_of_distinct hkeys]

/-! ## Printing and reading -/

variable {style : DocumentStyle} {depth : Nat}

theorem renderItems_of_forall {P : String → Value → Prop} {items : List Value}
    (h : ∀ v ∈ items, ∃ text, render style depth v = .ok text ∧ P text v) :
    ∃ parts, renderItems style depth items = .ok parts ∧ List.Forall₂ P parts items := by
  induction items with
  | nil => exact ⟨[], by rw [renderItems], .nil⟩
  | cons v items ih =>
    obtain ⟨⟨text, htext, hp⟩, hitems⟩ := List.forall_mem_cons.mp h
    obtain ⟨parts, hparts, hall⟩ := ih hitems
    refine ⟨text :: parts, ?_, .cons hp hall⟩
    rw [renderItems, htext, hparts]
    rfl

theorem renderEntries_of_forall {P : String → Value × Value → Prop}
    {entries : List (Value × Value)}
    (h : ∀ e ∈ entries, ∃ text, renderEntry style depth e = .ok text ∧ P text e) :
    ∃ parts, renderEntries style depth entries = .ok parts ∧ List.Forall₂ P parts entries := by
  induction entries with
  | nil => exact ⟨[], by rw [renderEntries], .nil⟩
  | cons e entries ih =>
    obtain ⟨⟨text, htext, hp⟩, hentries⟩ := List.forall_mem_cons.mp h
    obtain ⟨parts, hparts, hall⟩ := ih hentries
    refine ⟨text :: parts, ?_, .cons hp hall⟩
    rw [renderEntries, htext, hparts]
    rfl

/-- A plain value is printed, and what is printed is read as it. -/
theorem render_of_plain {v : Value} (h : v.Plain) (style : DocumentStyle) (depth : Nat) :
    ∃ text, render style depth v = .ok text ∧ Says value? ']' text v := by
  induction h generalizing depth with
  | text s => exact ⟨_, by rw [render], says_text s⟩
  | bool b => exact ⟨_, by rw [render], says_bool b⟩
  | int n => exact ⟨_, by rw [render], says_int n⟩
  | array _ ih =>
    obtain ⟨parts, hparts, hall⟩ := renderItems_of_forall fun v hv => ih v hv (depth + 1)
    refine ⟨_, ?_, says_array style depth hall⟩
    rw [render, hparts]
    rfl
  | @record fields hnames _ ih =>
    have hentries : ∀ e ∈ fields.map fun f => (Value.text f.1, f.2), ∃ text,
        renderEntry style (depth + 1) e = .ok text ∧
          Says (fun depth => pair? (value? depth)) '\x7d' text e := by
      refine List.forall_mem_map.mpr fun f hf => ?_
      obtain ⟨text, htext, hsays⟩ := ih f hf (depth + 1)
      refine ⟨_, ?_, says_entry hsays⟩
      rw [renderEntry, key, htext]
      rfl
    obtain ⟨parts, hparts, hall⟩ := renderEntries_of_forall hentries
    have hkeys : (fields.map fun f => (Value.text f.1, f.2)).Pairwise
        fun e f => Value.same e.1 f.1 = false := by
      refine List.pairwise_map.mpr ((List.pairwise_map.mp hnames).imp fun hne => ?_)
      rw [Value.same]
      exact beq_eq_false_iff_ne.mpr hne
    refine ⟨_, ?_, says_map style depth hkeys hall⟩
    rw [Value.record, render, hparts]
    rfl

end Json

/-- **What is printed is read.** The document of a plain value is printed whatever the layout, and
with white space after it is read as that value. -/
theorem Value.Plain.json {v : Value} (h : v.Plain) (style : DocumentStyle) :
    ∃ text, v.json style = .ok text ∧
      ∀ after : String, (∀ c ∈ after.toList, Json.isBlank c = true) →
        Json.read? (text ++ after) = some v := by
  obtain ⟨text, htext, hsays⟩ := Json.render_of_plain h style 0
  refine ⟨text, htext, fun after hafter => ?_⟩
  have hread := hsays.reads ((text ++ after).toList.length + 1) (by
    rw [String.toList_append, List.length_append]
    omega) [] after.toList nofun (by
      have hstops := Json.stops_append hafter Json.stops_nil
      rwa [List.append_nil] at hstops)
  have hend : Json.skip after.toList = [] := by
    have hskip := Json.skip_append hafter []
    rwa [List.append_nil] at hskip
  rw [List.nil_append, ← String.toList_append] at hread
  rw [Json.read?, hread]
  exact if_pos hend

end EnclaveAudit
