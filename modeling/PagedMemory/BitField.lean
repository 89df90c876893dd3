import PagedMemory.Panic

/-!
# Fields of a 32-bit word

A field is a run of bits of a word, read and written as a number. Writing a
field changes no other bits: `get_put_self` and `get_put_of_disjoint`.
-/

namespace PagedMemory

/-- The bits `offset ≤ i < offset + width` of a word. -/
structure BitField where
  offset : Nat
  width : Nat
  fits : offset + width ≤ 32

namespace BitField

/-- The weight of bit `n` in a number. -/
def weight (n : Nat) : Nat :=
  Nat.pow 2 n

theorem weight_pos (n : Nat) : 0 < weight n :=
  Nat.two_pow_pos n

theorem weight_add (m n : Nat) : weight (m + n) = weight m * weight n :=
  Nat.pow_add 2 m n

/-- The upper twenty bits, in which a word names a page. -/
def pageNumber : BitField := ⟨12, 20, by decide⟩

/-- The number in a field of a word. -/
def get (field : BitField) (word : UInt32) : Nat :=
  word.toNat / weight field.offset % weight field.width

/-- The word with the low bits of `value` in a field and all else kept. -/
def put (field : BitField) (value : Nat) (word : UInt32) : UInt32 :=
  UInt32.ofNat (word.toNat - field.get word * weight field.offset +
    value % weight field.width * weight field.offset)

/-- The word with `value` in a field, into which it has to fit. -/
def set (field : BitField) (value : Nat) (word : UInt32) : Except Panic UInt32 :=
  if value < weight field.width then .ok (field.put value word)
  else .error (.fieldTooWide (weight field.width - 1))

/-- Whether a one-bit field of a word is set. -/
def test (field : BitField) (word : UInt32) : Bool :=
  field.get word != 0

/-- The word with a one-bit field set or cleared. -/
def mark (field : BitField) (value : Bool) (word : UInt32) : UInt32 :=
  field.put value.toNat word

/-! ## Reading what was written -/

theorem get_lt (field : BitField) (word : UInt32) : field.get word < weight field.width :=
  Nat.mod_lt _ (weight_pos _)

/-- The part of a word outside a field, as low bits and high bits. -/
theorem toNat_eq (field : BitField) (word : UInt32) :
    word.toNat = word.toNat % weight field.offset + field.get word * weight field.offset +
      word.toNat / weight (field.offset + field.width) * weight (field.offset + field.width) := by
  have low := Nat.div_add_mod word.toNat (weight field.offset)
  have high := Nat.div_add_mod (word.toNat / weight field.offset) (weight field.width)
  rw [Nat.div_div_eq_div_mul, ← weight_add] at high
  have upper : weight field.offset * (word.toNat / weight field.offset) =
      field.get word * weight field.offset +
        word.toNat / weight (field.offset + field.width) * weight (field.offset + field.width) := by
    calc weight field.offset * (word.toNat / weight field.offset)
        = weight field.offset * (weight field.width *
            (word.toNat / weight (field.offset + field.width)) + field.get word) := by
          rw [get, high]
      _ = _ := by
          rw [Nat.mul_add, ← Nat.mul_assoc, ← weight_add, Nat.add_comm,
            Nat.mul_comm (weight field.offset) (field.get word),
            Nat.mul_comm (weight (field.offset + field.width))]
  omega

theorem toNat_put (field : BitField) (value : Nat) (word : UInt32) :
    (field.put value word).toNat =
      word.toNat % weight field.offset + value % weight field.width * weight field.offset +
      word.toNat / weight (field.offset + field.width) * weight (field.offset + field.width) := by
  have whole := field.toNat_eq word
  have small : value % weight field.width < weight field.width := Nat.mod_lt _ (weight_pos _)
  have lowSmall : word.toNat % weight field.offset < weight field.offset :=
    Nat.mod_lt _ (weight_pos _)
  have bounded : word.toNat / weight (field.offset + field.width) <
      weight (32 - (field.offset + field.width)) := by
    apply Nat.div_lt_of_lt_mul
    rw [← weight_add, Nat.add_sub_cancel' field.fits]
    exact word.toNat_lt
  have room : word.toNat % weight field.offset + value % weight field.width * weight field.offset +
      word.toNat / weight (field.offset + field.width) * weight (field.offset + field.width) <
        weight 32 := by
    have inner : word.toNat % weight field.offset +
        value % weight field.width * weight field.offset <
          weight (field.offset + field.width) := by
      have : (value % weight field.width + 1) * weight field.offset ≤
          weight field.width * weight field.offset := Nat.mul_le_mul_right _ small
      rw [weight_add, Nat.mul_comm (weight field.offset)]
      rw [Nat.add_mul, Nat.one_mul] at this
      omega
    have outer : (word.toNat / weight (field.offset + field.width) + 1) *
        weight (field.offset + field.width) ≤
          weight (32 - (field.offset + field.width)) * weight (field.offset + field.width) :=
      Nat.mul_le_mul_right _ bounded
    rw [← weight_add, Nat.sub_add_cancel field.fits, Nat.add_mul, Nat.one_mul] at outer
    omega
  unfold put
  rw [show word.toNat - field.get word * weight field.offset +
      value % weight field.width * weight field.offset =
      word.toNat % weight field.offset + value % weight field.width * weight field.offset +
      word.toNat / weight (field.offset + field.width) * weight (field.offset + field.width)
      by omega]
  exact UInt32.toNat_ofNat_of_lt' room

@[simp]
theorem get_put_self (field : BitField) (value : Nat) (word : UInt32) :
    field.get (field.put value word) = value % weight field.width := by
  have lowSmall : word.toNat % weight field.offset < weight field.offset :=
    Nat.mod_lt _ (weight_pos _)
  unfold get
  rw [toNat_put, weight_add, ← Nat.mul_assoc,
    Nat.mul_right_comm _ (weight field.offset) (weight field.width), Nat.add_assoc,
    ← Nat.add_mul, Nat.add_mul_div_right _ _ (weight_pos _), Nat.div_eq_of_lt lowSmall,
    Nat.zero_add, Nat.add_mul_mod_self_right, Nat.mod_mod]

@[simp]
theorem test_mark {field : BitField} (single : field.width = 1) (value : Bool) (word : UInt32) :
    field.test (field.mark value word) = value := by
  rw [test, mark, get_put_self, single]
  cases value <;> rfl

/-- A field keeps its number when a field that lies wholly below or above it is
written. -/
theorem get_put_of_disjoint {field other : BitField} (value : Nat) (word : UInt32)
    (apart : other.offset + other.width ≤ field.offset ∨
      field.offset + field.width ≤ other.offset) :
    field.get (other.put value word) = field.get word := by
  have whole := other.toNat_eq word
  have written := other.toNat_put value word
  rcases apart with below | above
  · obtain ⟨gap, gapEq⟩ := Nat.exists_eq_add_of_le below
    have drop (n : Nat) : n / weight field.offset =
        n / weight (other.offset + other.width) / weight gap := by
      rw [gapEq, weight_add, Nat.div_div_eq_div_mul]
    have lowSmall : word.toNat % weight other.offset < weight other.offset :=
      Nat.mod_lt _ (weight_pos _)
    have fill (v : Nat) (small : v < weight other.width) :
        word.toNat % weight other.offset + v * weight other.offset <
          weight (other.offset + other.width) := by
      have : (v + 1) * weight other.offset ≤ weight other.width * weight other.offset :=
        Nat.mul_le_mul_right _ small
      rw [weight_add, Nat.mul_comm (weight other.offset)]
      rw [Nat.add_mul, Nat.one_mul] at this
      omega
    unfold get
    rw [drop, drop word.toNat, written, Nat.add_mul_div_right _ _ (weight_pos _),
      Nat.div_eq_of_lt (fill _ (Nat.mod_lt _ (weight_pos _))), Nat.zero_add]
  · obtain ⟨gap, gapEq⟩ := Nat.exists_eq_add_of_le above
    have keep (n : Nat) : n / weight field.offset % weight field.width =
        n % weight other.offset % weight (field.offset + field.width) / weight field.offset := by
      rw [Nat.mod_mod_of_dvd _ (by rw [gapEq]; exact Nat.pow_dvd_pow _ (Nat.le_add_right _ _)),
        weight_add, Nat.mod_mul_right_div_self]
    have same : (other.put value word).toNat % weight other.offset =
        word.toNat % weight other.offset := by
      rw [written, weight_add, ← Nat.mul_assoc,
        Nat.mul_right_comm _ (weight other.offset) (weight other.width), Nat.add_assoc,
        ← Nat.add_mul, Nat.add_mul_mod_self_right, Nat.mod_mod]
    unfold get
    rw [keep, keep word.toNat, same]

end BitField

end PagedMemory
