/-!
# Addresses and pages

A byte address is a number below `2 ^ 32` and a page a number below `2 ^ 20`,
each marked with the realm it counts in, so that a physical address never
stands where a virtual one is meant. An address is exactly its page together
with its offset: `page_join`, `offset_join` and `join_split`.
-/

namespace PagedMemory

/-- What an address is an address of. -/
inductive Realm where
  /-- Bytes of no particular space. -/
  | memory
  /-- Bytes of RAM. -/
  | physical
  /-- Bytes as a running program names them. -/
  | virtual
deriving DecidableEq

/-- A byte address of a 32-bit machine. -/
structure Address (realm : Realm) where
  toNat : Nat
  lt : toNat < 0x100000000
deriving DecidableEq

/-- A page of 4096 bytes, named by its number. -/
structure Page (realm : Realm) where
  number : Nat
  lt : number < 0x100000
deriving DecidableEq

/-- An address in RAM. -/
abbrev PhysAddr := Address .physical

/-- An address as a program sees it. -/
abbrev VirtAddr := Address .virtual

/-- A page of RAM. -/
abbrev Frame := Page .physical

/-- A page of the virtual address space. -/
abbrev VirtPage := Page .virtual

/-- A byte's place within its page. -/
abbrev PageOffset := Fin 4096

variable {realm : Realm}

namespace Address

/-- The address `n`, if it fits in 32 bits. -/
def ofNat? (n : Nat) : Option (Address realm) :=
  if h : n < 0x100000000 then some ⟨n, h⟩ else none

/-- The address in the low 32 bits of `n`. -/
def ofNat (n : Nat) : Address realm :=
  ⟨n % 0x100000000, Nat.mod_lt _ (by decide)⟩

instance : Inhabited (Address realm) := ⟨ofNat 0⟩

/-- The first address of the page that holds `a`. -/
def alignDown (a : Address realm) : Address realm :=
  ⟨a.toNat - a.toNat % 4096, Nat.lt_of_le_of_lt (Nat.sub_le _ _) a.lt⟩

/-- The least page boundary at or above `a`; `none` within the last page of
the address space, unless `a` is its first byte. -/
def alignUp (a : Address realm) : Option (Address realm) :=
  (ofNat? (a.toNat + 4095)).map alignDown

/-- Whether `a` is a page boundary. -/
def isPageAligned (a : Address realm) : Bool :=
  a.toNat % 4096 == 0

/-- The place of `a` within its page. -/
def offset (a : Address realm) : PageOffset :=
  ⟨a.toNat % 4096, Nat.mod_lt _ (by decide)⟩

/-- The page that holds `a`. -/
def page (a : Address realm) : Page realm :=
  ⟨a.toNat / 4096, by have := a.lt; omega⟩

/-- The address `k` bytes above `a`, if there is one. -/
def add? (a : Address realm) (k : Nat) : Option (Address realm) :=
  ofNat? (a.toNat + k)

end Address

namespace Page

/-- The page named by the low 20 bits of `n`. -/
def ofNumber (n : Nat) : Page realm :=
  ⟨n % 0x100000, Nat.mod_lt _ (by decide)⟩

instance : Inhabited (Page realm) := ⟨ofNumber 0⟩

/-- The first address of the page. -/
def base (p : Page realm) : Address realm :=
  ⟨p.number * 4096, by have := p.lt; omega⟩

/-- The address of the byte of `p` at an offset. -/
def join (p : Page realm) (offset : PageOffset) : Address realm :=
  ⟨p.number * 4096 + offset.val, by have := p.lt; have := offset.isLt; omega⟩

/-- The page `k` pages further; the numbers of pages wrap around at `2 ^ 20`. -/
def plus (p : Page realm) (k : Nat) : Page realm :=
  ofNumber (p.number + k)

end Page

/-! ## An address is its page and its offset -/

@[ext]
theorem Address.ext {a b : Address realm} (equal : a.toNat = b.toNat) : a = b := by
  cases a; cases b; simpa using equal

@[ext]
theorem Page.ext {p q : Page realm} (equal : p.number = q.number) : p = q := by
  cases p; cases q; simpa using equal

@[simp]
theorem Address.ofNat?_eq_some_iff {n : Nat} {a : Address realm} :
    Address.ofNat? n = some a ↔ n = a.toNat := by
  constructor
  · intro found
    unfold Address.ofNat? at found
    split at found
    · cases found; rfl
    · cases found
  · rintro rfl
    exact dif_pos a.lt

@[simp]
theorem Page.number_ofNumber_of_lt {n : Nat} (small : n < 0x100000) :
    (Page.ofNumber n : Page realm).number = n :=
  Nat.mod_eq_of_lt small

@[simp]
theorem Page.ofNumber_number (p : Page realm) : Page.ofNumber p.number = p :=
  Page.ext (Page.number_ofNumber_of_lt p.lt)

@[simp]
theorem Page.plus_zero (p : Page realm) : p.plus 0 = p :=
  Page.ext (Page.number_ofNumber_of_lt p.lt)

@[simp]
theorem Page.page_base (p : Page realm) : p.base.page = p := by
  ext; simp [Page.base, Address.page]

@[simp]
theorem Page.page_join (p : Page realm) (offset : PageOffset) : (p.join offset).page = p := by
  ext
  have := offset.isLt
  simp only [Page.join, Address.page]
  omega

@[simp]
theorem Page.offset_join (p : Page realm) (offset : PageOffset) :
    (p.join offset).offset = offset := by
  apply Fin.ext
  have := offset.isLt
  simp only [Page.join, Address.offset]
  omega

@[simp]
theorem Address.join_split (a : Address realm) : a.page.join a.offset = a := by
  ext
  simp only [Page.join, Address.page, Address.offset]
  omega

end PagedMemory
