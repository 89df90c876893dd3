/-!
# Hexadecimal text

Addresses are printed with a fixed number of upper-case digits, byte counts
with as many lower-case digits as they need. Bytes are written with two
lower-case digits each, and are read back from exactly that.
-/

namespace PagedMemory.Text.Hex

/-- At least `width` upper-case digits of `n`, with zeros in front. -/
def padded (width n : Nat) : String :=
  let digits := (Nat.toDigits 16 n).map Char.toUpper
  String.ofList (List.replicate (width - digits.length) '0' ++ digits)

/-- The lower-case digits of `n`, with no zeros in front. -/
def plain (n : Nat) : String :=
  String.ofList (Nat.toDigits 16 n)

/-! ## Bytes -/

/-- The digit for a number below sixteen. -/
def digit (n : Nat) : Char :=
  Char.ofNat (if n < 10 then 48 + n else 87 + n)

/-- The number that a digit stands for. -/
def digit? (c : Char) : Option Nat :=
  if 48 ≤ c.toNat ∧ c.toNat ≤ 57 then some (c.toNat - 48)
  else if 97 ≤ c.toNat ∧ c.toNat ≤ 102 then some (c.toNat - 87)
  else none

/-- The digits of some bytes. -/
def encode : List UInt8 → List Char
  | [] => []
  | b :: rest => digit (b.toNat / 16) :: digit (b.toNat % 16) :: encode rest

/-- The bytes that some digits stand for. -/
def decode : List Char → Option (List UInt8)
  | [] => some []
  | [_] => none
  | high :: low :: rest => do
    return UInt8.ofNat (16 * (← digit? high) + (← digit? low)) :: (← decode rest)

theorem digit?_digit {n : Nat} (small : n < 16) : digit? (digit n) = some n := by
  have every : ∀ i : Fin 16, digit? (digit i.val) = some i.val := by decide
  exact every ⟨n, small⟩

/-- Bytes are read back from their digits. -/
theorem decode_encode (bytes : List UInt8) : decode (encode bytes) = some bytes := by
  induction bytes with
  | nil => rfl
  | cons b rest ih =>
    have small : b.toNat < 256 := b.toNat_lt
    have whole : 16 * (b.toNat / 16) + b.toNat % 16 = b.toNat := Nat.div_add_mod b.toNat 16
    rw [encode, decode, digit?_digit (Nat.div_lt_of_lt_mul small),
      digit?_digit (Nat.mod_lt _ (by decide)), ih]
    simp only [bind, Option.bind, whole, UInt8.ofNat_toNat, pure]

end PagedMemory.Text.Hex
