import EnclaveAudit.Text.Mail
import EnclaveAudit.Wire.Denoted

/-!
# `EnclaveAudit/Wire/Value.lean` — what messages are made of

A security module is asked and answers in self-describing values. The type has one constructor per
kind of value that the wire format distinguishes, so an answer of the wrong kind is an ordinary
value that a reader refuses and not something that cannot be said. Maps are lists of entries in
the order of arrival; a key occurs once.

Arrays, maps and sets come in two kinds, those that can be changed and those that cannot. Keys and
members of sets are always of the second kind, as is everything under a tag.

Two keys are the same key when the values are *equivalent* (`Value.same`): numbers by what they
denote, whatever kind they have, and maps and sets without regard to order. Equality of Lean is
finer, and is what everything else uses.
-/

set_option autoImplicit false

namespace EnclaveAudit

/-- A value of the wire format. -/
inductive Value where
  | null
  | undefined
  | bool (b : Bool)
  | int (n : Int)
  /-- a 64-bit float, by its bits -/
  | float (bits : UInt64)
  | text (s : String)
  | bytes (b : Bytes)
  | array (items : List Value)
  | map (entries : List (Value × Value))
  /-- a simple value that has no meaning of its own -/
  | simple (code : Nat)
  /-- a value marked with the number of a tag -/
  | tag (number : Nat) (content : Value)
  /-- an array that cannot be changed -/
  | tuple (items : List Value)
  /-- a map that cannot be changed -/
  | frozenMap (entries : List (Value × Value))
  /-- a set, its members in the order in which it shows them -/
  | set (frozen : Bool) (members : List Value)
  /-- a value that only a tag can spell -/
  | denoted (d : Denoted)
  /-- the array, or the map, that this value stands in, at some depth -/
  | enclosing (isMap : Bool)
  deriving BEq, Repr, Inhabited

namespace Value

/-- Whether a value is null. -/
def isNull : Value → Bool
  | .null => true
  | _ => false

/-! ## Equivalence -/

/-- A number without the kind of value that denotes it. -/
inductive Quantity where
  | finite (x : Rat)
  | infinite (negative : Bool)
  deriving DecidableEq

/-- The number that a value denotes. Truth values are zero and one, and both zeros are the same.
Some values denote none, and a float may be no number. -/
def quantity? : Value → Option Quantity
  | .bool b => some (.finite (if b then 1 else 0))
  | .int n => some (.finite n)
  | .float bits =>
    match Binary64.meaning bits with
    | .infinite negative => some (.infinite negative)
    | _ => (Binary64.quantity? bits).map .finite
  | .denoted d => d.quantity?.map .finite
  | _ => none

/-- Whether two values denote the same number. What is not a number equals nothing. -/
def sameNumber (a b : Value) : Bool :=
  match a.quantity?, b.quantity? with
  | some x, some y => decide (x = y)
  | _, _ => false

/-- Whether a value is the integer that a simple value has as its code. No other number is. -/
def hasCode (code : Nat) : Value → Bool
  | .int n => n == code
  | .bool b => (if b then 1 else 0) == code
  | _ => false

mutual

/-- Whether two values are the same key. -/
def same : Value → Value → Bool
  | .null, .null => true
  | .undefined, .undefined => true
  | .int m, .int n => m == n
  | .text s, .text t => s == t
  | .bytes a, .bytes b => a == b
  | .simple m, .simple n => m == n
  | .simple m, b => hasCode m b
  | a, .simple n => hasCode n a
  | .tag m a, .tag n b => m == n && same a b
  | .array xs, .array ys => sameItems xs ys
  | .tuple xs, .tuple ys => sameItems xs ys
  | .map es, .map fs => es.length == fs.length && allAmong es fs
  | .map es, .frozenMap fs => es.length == fs.length && allAmong es fs
  | .frozenMap es, .map fs => es.length == fs.length && allAmong es fs
  | .frozenMap es, .frozenMap fs => es.length == fs.length && allAmong es fs
  | .set _ xs, .set _ ys => xs.length == ys.length && allMembers xs ys
  | .denoted a, .denoted b => sameNumber (.denoted a) (.denoted b) || a.same b
  | a, b => sameNumber a b

/-- Item by item. -/
def sameItems : List Value → List Value → Bool
  | [], [] => true
  | x :: xs, y :: ys => same x y && sameItems xs ys
  | _, _ => false

/-- Whether each of the values is among those of the second list. -/
def allMembers : List Value → List Value → Bool
  | [], _ => true
  | x :: xs, ys => ys.any (fun y => same x y) && allMembers xs ys

/-- Whether each of the entries is among those of the second list. -/
def allAmong : List (Value × Value) → List (Value × Value) → Bool
  | [], _ => true
  | e :: es, fs => isAmong e fs && allAmong es fs

/-- Whether an entry with the same key and the same value is in the list. -/
def isAmong : Value × Value → List (Value × Value) → Bool
  | (key, value), fs => fs.any fun f => same key f.1 && same value f.2

end

/-! ## Values that cannot be changed -/

mutual

/-- Whether a value can be a key or a member of a set: nothing in it can be changed. -/
def isKey : Value → Bool
  | .array _ | .map _ | .set false _ | .enclosing _ => false
  | .tag _ content => isKey content
  | .tuple items => areKeys items
  | .frozenMap entries => haveKeys entries
  | _ => true

/-- Whether several values can be keys. -/
def areKeys : List Value → Bool
  | [] => true
  | item :: items => isKey item && areKeys items

/-- Whether all that entries hold can be keys. -/
def haveKeys : List (Value × Value) → Bool
  | [] => true
  | entry :: entries => holdsKey entry && haveKeys entries

/-- Whether what an entry holds can be a key. -/
def holdsKey : Value × Value → Bool
  | (_, value) => isKey value

end

mutual

/-- The value with its arrays and maps as such that cannot be changed, those under a tag aside. -/
def frozen : Value → Value
  | .array items => .tuple (frozenItems items)
  | .map entries => .frozenMap (frozenEntries entries)
  | v => v

/-- Several values that cannot be changed. -/
def frozenItems : List Value → List Value
  | [] => []
  | item :: items => frozen item :: frozenItems items

/-- Several entries that cannot be changed. -/
def frozenEntries : List (Value × Value) → List (Value × Value)
  | [] => []
  | entry :: entries => frozenEntry entry :: frozenEntries entries

/-- An entry whose value cannot be changed. -/
def frozenEntry : Value × Value → Value × Value
  | (key, value) => (key, frozen value)

end

/-! ## Maps -/

/-- The entries with `key` set to `value`. A key that is there keeps its place; a new one comes
last. -/
def put (key value : Value) : List (Value × Value) → List (Value × Value)
  | [] => [(key, value)]
  | e :: es => if same e.1 key then (e.1, value) :: es else e :: put key value es

/-- The entries that a sequence of assignments makes. -/
def assigned (entries : List (Value × Value)) : List (Value × Value) :=
  entries.foldl (fun made e => put e.1 e.2 made) []

/-- The map that a sequence of assignments makes. -/
def ofEntries (entries : List (Value × Value)) : Value := .map (assigned entries)

/-- What a list of entries holds under a textual key. -/
def lookup? (name : String) : List (Value × Value) → Option Value
  | [] => none
  | (.text key, value) :: es => if key = name then some value else lookup? name es
  | _ :: es => lookup? name es

/-- What a value holds under a textual key, if it is a map that can be changed and has it. -/
def field? (name : String) : Value → Option Value
  | .map entries => lookup? name entries
  | _ => none

/-- What a value holds under a textual key, if it is a map of either kind that has it. -/
def entry? (name : String) : Value → Option Value
  | .map entries | .frozenMap entries => lookup? name entries
  | _ => none

/-- A map whose keys are texts. -/
def record (fields : List (String × Value)) : Value :=
  .map (fields.map fun field => (.text field.1, field.2))

/-! ## Kinds -/

/-- The octets of an octet string. -/
def bytes? : Value → Option Bytes
  | .bytes b => some b
  | _ => none

/-- The characters of a text. -/
def text? : Value → Option String
  | .text s => some s
  | _ => none

/-- The integer that a value is. A truth value is none. -/
def int? : Value → Option Int
  | .int n => some n
  | _ => none

/-- The truth value that a value is. -/
def bool? : Value → Option Bool
  | .bool b => some b
  | _ => none

/-- The integer that a value is, unless it is negative. -/
def nat? : Value → Option Nat
  | .int (.ofNat n) => some n
  | _ => none

/-- What a value holds one after the other: the items of an array or the members of a set, of either
kind, and the names of the headers of a mail. A network holds its addresses, but they are not listed:
there may be more of them than a list can have, and nobody reads an address. -/
def items? : Value → Option (List Value)
  | .array items | .tuple items | .set _ items => some items
  | .denoted (.mail s) => some ((Mail.headers s).map .text)
  | _ => none

/-- Whether a value is something: no null, no zero, nothing empty and not false. -/
def holds (v : Value) : Bool :=
  match v with
  | .null | .undefined | .bool false | .text "" | .bytes [] | .array [] | .map [] | .tuple []
  | .frozenMap [] | .set _ [] => false
  | v => v.quantity? ≠ some (.finite 0)

/-- An octet string, or null where there is none. -/
def ofBytes? : Option Bytes → Value
  | some b => .bytes b
  | none => .null

@[simp] theorem field?_record_cons (name : String) (value : Value) (fields : List (String × Value))
    (wanted : String) :
    (record ((name, value) :: fields)).field? wanted =
      if name = wanted then some value else (record fields).field? wanted := rfl

@[simp] theorem field?_record_nil (wanted : String) : (record []).field? wanted = none := rfl

end Value

end EnclaveAudit
