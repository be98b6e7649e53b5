import EnclaveAudit.Bytes

/-!
# `EnclaveAudit/Wire/Address.lean` — addresses of the internet

An address has four octets or sixteen. Together with the number of its leading bits that belong to
the network it names either the network, and then its other bits are zero, or an interface in it.

A long address is written in groups of two octets, in hexadecimal without leading zeros. Its
longest run of zero groups, if longer than one and the first of those, is left out.
-/

set_option autoImplicit false

namespace EnclaveAudit

/-- An address: four octets or sixteen. -/
structure Address where
  octets : Bytes
  deriving DecidableEq, Repr, Inhabited

namespace Address

/-- The address that octets are, if there are as many as one has. -/
def of? (octets : Bytes) : Option Address :=
  if octets.length = 4 ∨ octets.length = 16 then some ⟨octets⟩ else none

/-- How many bits an address has. -/
def bits (a : Address) : Nat := 8 * a.octets.length

/-- The address without the bits after the first `width`. -/
def masked (a : Address) (width : Nat) : Address :=
  let unit := Nat.pow 2 (a.bits - width)
  ⟨Bytes.ofNat a.octets.length (Bytes.toNat a.octets / unit * unit)⟩

/-! ## Texts -/

/-- The groups of two octets. -/
def groups : Bytes → List Nat
  | high :: low :: rest => (256 * high.toNat + low.toNat) :: groups rest
  | _ => []

/-- The hexadecimal digits of a number without leading zeros; zero has one. -/
def hexadecimal (n : Nat) : String :=
  match (Nat.toDigits 16 n).dropWhile (· == '0') with
  | [] => "0"
  | digits => String.ofList digits

/-- Start and length of the longest run of zeros in a list, of those the first. -/
def longestRun (xs : List Nat) : Nat × Nat :=
  (List.range xs.length).foldl (fun best start =>
    let length := ((xs.drop start).takeWhile (· == 0)).length
    if best.2 < length then (start, length) else best) (0, 0)

/-- The address as text. -/
def text (a : Address) : String :=
  if a.octets.length = 4 then
    String.intercalate "." (a.octets.map fun octet => toString octet.toNat)
  else
    let parts (xs : List Nat) : String := String.intercalate ":" (xs.map hexadecimal)
    let all := groups a.octets
    let (start, length) := longestRun all
    if length ≤ 1 then parts all
    else parts (all.take start) ++ "::" ++ parts (all.drop (start + length))

/-- The first part of the names for addresses of this length. -/
def family (a : Address) : String := if a.octets.length = 4 then "IPv4" else "IPv6"

end Address

end EnclaveAudit
