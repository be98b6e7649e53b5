import Mathlib.Data.List.TakeWhile
import Mathlib.Data.Nat.Digits.Defs
import EnclaveAudit.Suite.Reading

/-!
# `EnclaveAudit/Proofs/Text/Decimal.lean` — plain numerals

Numbers are printed as decimal digits without a useless zero in front. That is the form that every
reader of numbers accepts at once, without tidying anything, as long as there are not more digits
than it reads.
-/

set_option autoImplicit false

namespace EnclaveAudit

namespace Decimal

theorem isDigit_of_mem {n : Nat} {c : Char} (h : c ∈ Nat.toDigits 10 n) : c.isDigit = true :=
  Nat.isDigit_of_mem_toDigits (by decide) (by decide) h

/-- Only zero starts with a zero. -/
theorem toDigits_ne_zero_cons {n : Nat} (hn : 0 < n) (cs : List Char) :
    Nat.toDigits 10 n ≠ '0' :: cs := by
  -- on the number without its last digit, which is the first digit if it is the only one
  induction n using Nat.strongRecOn generalizing cs with
  | ind n ih =>
    intro h
    rw [Nat.toDigits_eq_if (by decide)] at h
    split_ifs at h with hlt
    · have hdigit : n.digitChar.toNat = '0'.toNat := congrArg Char.toNat (List.cons.inj h).1
      rw [Nat.toNat_digitChar_of_lt_ten hlt] at hdigit
      have hzero : '0'.toNat = 48 := rfl
      omega
    · obtain ⟨c, front, hfront⟩ := List.exists_cons_of_ne_nil (Nat.toDigits_ne_nil (b := 10)
        (n := n / 10))
      rw [hfront, List.cons_append] at h
      obtain rfl := (List.cons.inj h).1
      exact ih (n / 10) (by omega) (by omega) front hfront

end Decimal

namespace Parameters

end Parameters

end EnclaveAudit
