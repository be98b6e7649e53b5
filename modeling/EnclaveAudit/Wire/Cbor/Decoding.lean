import EnclaveAudit.Wire.Cbor.Malformed
import EnclaveAudit.Wire.Cbor.Tags

/-!
# `EnclaveAudit/Wire/Cbor/Decoding.lean` — octets as values

Reading is more generous than writing. Heads may be longer than they need be, strings, arrays and
maps may come without a length and end at a break, floats may be narrow, and whatever follows the
first item is ignored. What cannot be read is refused with its cause.

Items can be marked for sharing and referred to later, also from within, and strings can be kept and
referred to by number. So a reader carries more than the octets that are left (`Cursor`), and an item
is read at a place (`Place`): where nothing can be changed, arrays and maps are of the kind that
cannot.

`readItem` says what an item is, given how the items inside it are read. So nesting is one recursion
on the number of levels still allowed, and nothing about the shape of an item is repeated in it. No
message is nested deeper than `Malformed.maxDepth`: one that claims to be is not worth the stack to
read it.
-/

set_option autoImplicit false

namespace EnclaveAudit.Cbor

/-! ## Readers -/

/-- An item that was marked for sharing: not there yet, an array or a map that is being read, or
complete. -/
inductive Slot where
  | pending
  | within (isMap : Bool)
  | holds (v : Value)

/-- How far reading has come: the octets that are left, the items marked for sharing, and the strings
that are kept, where strings are. -/
structure Cursor where
  rest : Bytes
  slots : Array Slot := #[]
  strings : Option (Array Value) := none

/-- Reads something off the front of an octet string. -/
abbrev Reader := StateT Cursor (Except Malformed)

/-- Where an item is read: whether it can be changed, and the slot that it was marked for. -/
structure Place where
  frozen : Bool := false
  slot : Option Nat := none

namespace Place

/-- Inside an array or a map. -/
def inside (p : Place) : Place := ⟨p.frozen, none⟩

/-- Inside a key or under a tag. -/
def sealed : Place := ⟨true, none⟩

end Place

/-- Refuses the octets. -/
def refuse {α : Type} (cause : Malformed) : Reader α := fun _ => .error cause

/-! ## Heads -/

/-- The number in a head. -/
inductive Argument where
  | number (n : Nat)
  | indefinite
  deriving DecidableEq, Repr

/-- How much of a string is asked for at once. -/
def portion : Nat := 0x10000

/-- The next `n` octets. -/
def take (n : Nat) : Reader Bytes := fun c =>
  let (taken, rest) := c.rest.splitAt n
  if taken.length = n then .ok (taken, { c with rest })
  else .error (.truncated (min n portion - taken.length))

/-- The next octet: the kind of an item and the form of its number. -/
def readStart : Reader (Nat × Nat) := fun c =>
  match c.rest with
  | [] => .error (.truncated 1)
  | octet :: rest => .ok ((octet.toNat / 32, octet.toNat % 32), { c with rest })

/-- A number of so many octets. -/
def readNumber (width : Nat) : Reader Nat := do pure (Bytes.toNat (← take width))

/-- The number of an item, after its first octet. -/
def readArgument (kind info : Nat) : Reader Argument :=
  if info < 24 then pure (.number info)
  else if info = 24 then do pure (.number (← readNumber 1))
  else if info = 25 then do pure (.number (← readNumber 2))
  else if info = 26 then do pure (.number (← readNumber 4))
  else if info = 27 then do pure (.number (← readNumber 8))
  else if info = 31 then pure .indefinite
  else refuse (.reserved kind info)

/-- The number of an item that has to have one. -/
def readLength (kind info : Nat) : Reader Nat := do
  match ← readArgument kind info with
  | .number n => pure n
  | .indefinite => refuse (.lengthless kind)

/-! ## Sequences -/

/-- So many things, one after the other. -/
def times {α : Type} (read : Reader α) : Nat → Reader (List α)
  | 0 => pure []
  | n + 1 => do
    let x ← read
    let xs ← times read n
    pure (x :: xs)

/-- Skips a break, if it comes next. -/
def atBreak : Reader Bool := fun c =>
  match c.rest with
  | 0xFF :: rest => .ok (true, { c with rest })
  | _ => .ok (false, c)

/-- Things up to a break, at most as many as the fuel. -/
def untilBreak {α : Type} (read : Reader α) : (fuel : Nat) → Reader (List α)
  | 0 => refuse (.truncated 1)
  | fuel + 1 => do
    if ← atBreak then pure []
    else
      let x ← read
      let xs ← untilBreak read fuel
      pure (x :: xs)

/-- Things up to a break. Each takes an octet at least, so the octets that are left are fuel
enough. -/
def sequenceToBreak {α : Type} (read : Reader α) : Reader (List α) := fun c =>
  untilBreak read (c.rest.length + 1) c

/-- As many things as a head says. -/
def sequence {α : Type} (read : Reader α) : Argument → Reader (List α)
  | .number n => times read n
  | .indefinite => sequenceToBreak read

/-! ## Strings -/

/-- The kind of an octet string. -/
def octetsKind : Nat := 2
/-- The kind of a text. -/
def textKind : Nat := 3

/-- The octets of a piece of a string. -/
def piece (kind : Nat) : Reader Bytes := do
  let (found, info) ← readStart
  if found = kind then
    let n ← readLength kind info
    take n
  else refuse (.foreignPiece kind found)

/-- Octets as a text. -/
def asText (b : Bytes) : Reader String :=
  match b.toString? with
  | some s => pure s
  | none => refuse .notText

/-- A piece of a text is a text of its own. -/
def textPiece : Reader String := do asText (← piece textKind)

/-- The least length of a string that is kept, by how many are: one that is not shorter than a
reference to it would be is worth it. -/
def keptLength (known : Nat) : Nat :=
  if known < 24 then 3
  else if known < 0x100 then 4
  else if known < 0x10000 then 5
  else if known < 0x100000000 then 7
  else 11

/-- Keeps a string of so many octets, where strings are kept. -/
def keep (v : Value) (length : Nat) : Reader Unit :=
  modify fun c =>
    match c.strings with
    | some known =>
      if keptLength known.size ≤ length then { c with strings := some (known.push v) } else c
    | none => c

/-- An octet string, in one piece or in several. Only one in one piece is kept. -/
def readOctets (length : Argument) : Reader Value := do
  match length with
  | .number n =>
    let b ← take n
    keep (.bytes b) n
    pure (.bytes b)
  | .indefinite =>
    let pieces ← sequenceToBreak (piece octetsKind)
    pure (.bytes pieces.flatten)

/-- A text, in one piece or in several. Only one in one piece is kept. -/
def readText (length : Argument) : Reader Value := do
  match length with
  | .number n =>
    let s ← asText (← take n)
    keep (.text s) n
    pure (.text s)
  | .indefinite =>
    let pieces ← sequenceToBreak textPiece
    pure (.text (String.join pieces))

/-! ## Items that hold no other items -/

/-- A simple value by its code. -/
def simpleValue (code : Nat) : Value :=
  if code = 20 then .bool false
  else if code = 21 then .bool true
  else if code = 22 then .null
  else if code = 23 then .undefined
  else .simple code

/-- A simple value or a float. -/
def special (info : Nat) : Reader Value :=
  if info < 24 then pure (simpleValue info)
  else if info = 24 then do
    let code ← readNumber 1
    if code < 32 then refuse .overlongSimple else pure (simpleValue code)
  else if info = 25 then do pure (.float (Binary64.widen 5 10 (← readNumber 2)))
  else if info = 26 then do pure (.float (Binary64.widen 8 23 (← readNumber 4)))
  else if info = 27 then do pure (.float (Binary64.canonical (UInt64.ofNat (← readNumber 8))))
  else if info = 31 then refuse .strayBreak
  else refuse (.reserved specialKind info)

/-- What holds no other items, after its first octet. -/
def scalar (kind info : Nat) : Reader Value := do
  match kind with
  | 0 => do pure (.int (Int.ofNat (← readLength kind info)))
  | 1 => do pure (.int (Int.negSucc (← readLength kind info)))
  | 2 => do readOctets (← readArgument kind info)
  | 3 => do readText (← readArgument kind info)
  | _ => special info

/-! ## Items that hold other items -/

/-- How the items inside an item are read, by their place. -/
abbrev Inner := Place → Reader Value

/-- Notes that the array or the map at a place is being read. One that cannot be changed does not
exist before it is complete. -/
def enter (p : Place) (isMap : Bool) : Reader Unit :=
  match p.slot with
  | some i =>
    if p.frozen then pure ()
    else modify fun c => { c with slots := c.slots.setIfInBounds i (.within isMap) }
  | none => pure ()

/-- An array. -/
def array (inner : Inner) (p : Place) (length : Argument) : Reader Value := do
  enter p false
  let items ← sequence (inner p.inside) length
  pure (if p.frozen then .tuple items else .array items)

/-- A key and its value. -/
def entry (inner : Inner) (p : Place) : Reader (Value × Value) := do
  let key ← inner .sealed
  let value ← inner p.inside
  if key.isKey then pure (key, value) else refuse .changeableKey

/-- A map. -/
def map (inner : Inner) (p : Place) (length : Argument) : Reader Value := do
  enter p true
  let entries := Value.assigned (← sequence (entry inner p) length)
  pure (if p.frozen then .frozenMap entries else .map entries)

/-- An item that is marked for sharing. -/
def shared (inner : Inner) (p : Place) : Reader Value := do
  let i := (← get).slots.size
  modify fun c => { c with slots := c.slots.push .pending }
  let v ← inner { p with slot := some i }
  modify fun c => { c with slots := c.slots.setIfInBounds i (.holds v) }
  pure v

/-- The number in a reference. -/
def index (inner : Inner) (tag : Nat) : Reader Nat := do
  match (← inner .sealed).nat? with
  | some n => pure n
  | none => refuse (.meaningless tag none)

/-- The tag of a reference to an item that was marked for sharing. -/
def sharedTag : Nat := 29

/-- An item that was marked for sharing before. -/
def reference (inner : Inner) : Reader Value := do
  let i ← index inner sharedTag
  match (← get).slots[i]? with
  | none => refuse (.unmarked i)
  | some .pending => refuse (.incomplete i)
  | some (.within isMap) => pure (.enclosing isMap)
  | some (.holds v) => pure v

/-- The tag of a reference to a string. -/
def stringTag : Nat := 25

/-- A string that was kept before. -/
def stringReference (inner : Inner) : Reader Value := do
  if (← get).strings.isNone then refuse .outsideNamespace
  let i ← index inner stringTag
  match ((← get).strings.getD #[])[i]? with
  | some v => pure v
  | none => refuse (.unknownString i)

/-- An item in which strings are kept, apart from those that are kept around it. -/
def keeping (inner : Inner) (p : Place) : Reader Value := do
  let around := (← get).strings
  modify fun c => { c with strings := some #[] }
  let v ← inner p
  modify fun c => { c with strings := around }
  pure v

/-- What a tag makes of its content. -/
def given (tag : Nat) (meaning : Meaning) : Reader Value :=
  match meaning with
  | .ok v => pure v
  | .error reason => refuse (.meaningless tag reason)

/-- An item after the number of its tag. -/
def marked (inner : Inner) (p : Place) (tag : Nat) : Reader Value := do
  match tag with
  | 25 => stringReference inner
  | 28 => shared inner p
  | 29 => reference inner
  | 256 => keeping inner p
  | 258 => do given tag (setOf p.frozen (← inner .sealed))
  | _ => do given tag (tagged tag (← inner .sealed))

/-- What holds other items, after its first octet. -/
def container (inner : Inner) (p : Place) (kind info : Nat) : Reader Value := do
  match kind with
  | 4 => do array inner p (← readArgument kind info)
  | 5 => do map inner p (← readArgument kind info)
  | _ => do marked inner p (← readLength kind info)

/-! ## Items -/

/-- An item, given how the items inside it are read, if any may be. -/
def readItem (inner : Option Inner) (p : Place) : Reader Value := do
  let (kind, info) ← readStart
  if kind = 4 ∨ kind = 5 ∨ kind = 6 then
    match inner with
    | some inner => container inner p kind info
    | none => refuse .tooDeep
  else scalar kind info

/-- An item with at most `depth` levels of nesting. -/
def item : (depth : Nat) → Inner
  | 0 => readItem none
  | depth + 1 => readItem (some (item depth))

/-- The first item of an octet string. -/
def decode (b : Bytes) : Except Malformed Value :=
  ((item Malformed.maxDepth {}).run { rest := b }).map Prod.fst

end EnclaveAudit.Cbor
