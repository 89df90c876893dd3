import PagedMemory.Panic

/-!
# Arithmetic that must not overflow

Sums and differences of addresses and page numbers that end in a panic when
the exact result does not fit in 32 bits, and the checked construction of an
offset from a number.
-/

namespace PagedMemory

variable {realm : Realm}

/-- The sum of two 32-bit numbers. -/
def addChecked (a b : Nat) : Except Panic Nat :=
  if a + b < 0x100000000 then .ok (a + b) else .error .addOverflow

/-- The difference of two numbers. -/
def subChecked (a b : Nat) : Except Panic Nat :=
  if b ≤ a then .ok (a - b) else .error .subOverflow

namespace Address

/-- The address `k` bytes above `a`. -/
def add (a : Address realm) (k : Nat) : Except Panic (Address realm) :=
  match a.add? k with
  | some sum => .ok sum
  | none => .error .addOverflow

/-- How many bytes `a` lies above `b`. -/
def sub (a b : Address realm) : Except Panic Nat :=
  subChecked a.toNat b.toNat

/-- Which of two addresses is lower. -/
def compare (a b : Address realm) : Ordering :=
  Ord.compare a.toNat b.toNat

end Address

namespace Page

/-- The page `k` pages further, for any 32-bit `k`: the sum of the numbers has
to fit in 32 bits, and its low 20 bits name the page. -/
def addPages (p : Page realm) (k : Nat) : Except Panic (Page realm) :=
  (addChecked p.number k).map ofNumber

/-- How many pages `p` lies above `earlier`. -/
def pagesSince (p earlier : Page realm) : Except Panic Nat :=
  subChecked p.number earlier.number

/-- Which of two pages is lower. -/
def compare (p q : Page realm) : Ordering :=
  Ord.compare p.number q.number

end Page

/-- The offset `n`, which must lie within a page. -/
def PageOffset.ofNat (n : Nat) : Except Panic PageOffset :=
  if h : n < 4096 then .ok ⟨n, h⟩ else .error .offsetTooLarge

end PagedMemory
