import PagedMemory.Layout
import PagedMemory.Operation

/-!
# RAM

Physical memory as one run of bytes from address zero. Every access is admitted
first: memory reached through a bounds check refuses what lies past its end,
memory reached through the direct map refuses what the map does not show.
Words are little-endian. `byte_setByte` and `word_setWord` say what is read
after a write.
-/

namespace PagedMemory

/-- How accesses to RAM are admitted. -/
inductive Window where
  /-- Every access has to end within RAM. -/
  | bounded
  /-- Every access has to begin within the direct map. -/
  | directMap
deriving DecidableEq

/-- Physical memory. -/
structure Ram where
  window : Window
  bytes : ByteArray

namespace Ram

/-- Memories are equal when they admit accesses alike and hold the same bytes. -/
instance instDecidableEq : DecidableEq Ram := fun ⟨w, b⟩ ⟨w', b'⟩ =>
  decidable_of_iff (w = w' ∧ b.data = b'.data) <| by
    simp only [Ram.mk.injEq, ByteArray.ext_iff]

/-! ## Bytes and words -/

/-- How many bytes there are. -/
def size (ram : Ram) : Nat :=
  ram.bytes.size

/-- The byte at `i`; zero past the end. -/
def byte (ram : Ram) (i : Nat) : UInt8 :=
  if h : i < ram.bytes.size then ram.bytes[i] else 0

/-- RAM with the byte at `i` overwritten; nothing happens past the end. -/
def setByte (ram : Ram) (i : Nat) (value : UInt8) : Ram :=
  if h : i < ram.bytes.size then { ram with bytes := ram.bytes.set i value h } else ram

/-- `n` zero bytes after `bytes`. -/
def pushZeros : Nat → ByteArray → ByteArray
  | 0, bytes => bytes
  | n + 1, bytes => pushZeros n (bytes.push 0)

/-- RAM of `frames` frames, all bytes zero. -/
def zeroed (window : Window) (frames : Nat) : Ram :=
  ⟨window, pushZeros (frames * 4096) (ByteArray.emptyWithCapacity (frames * 4096))⟩

/-- The little-endian word whose first byte is at `i`. -/
def word (ram : Ram) (i : Nat) : UInt32 :=
  UInt32.ofNat ((ram.byte i).toNat + (ram.byte (i + 1)).toNat * 0x100 +
    (ram.byte (i + 2)).toNat * 0x10000 + (ram.byte (i + 3)).toNat * 0x1000000)

/-- RAM with the little-endian word at `i` overwritten. -/
def setWord (ram : Ram) (i : Nat) (value : UInt32) : Ram :=
  (((ram.setByte i (UInt8.ofNat value.toNat)).setByte (i + 1)
    (UInt8.ofNat (value.toNat / 0x100))).setByte (i + 2)
    (UInt8.ofNat (value.toNat / 0x10000))).setByte (i + 3) (UInt8.ofNat (value.toNat / 0x1000000))

/-! ## Runs of bytes -/

/-- The `n` bytes from `i` on. -/
def slice (ram : Ram) (i : Nat) : Nat → List UInt8
  | 0 => []
  | n + 1 => ram.byte i :: ram.slice (i + 1) n

/-- RAM with bytes written from `i` on. -/
def splice (ram : Ram) (i : Nat) : List UInt8 → Ram
  | [] => ram
  | value :: rest => (ram.setByte i value).splice (i + 1) rest

/-- RAM with `n` zero bytes from `i` on. -/
def clear (ram : Ram) (i : Nat) : Nat → Ram
  | 0 => ram
  | n + 1 => (ram.setByte i 0).clear (i + 1) n

/-- RAM with the `n` bytes from `source` on written from `target` on. -/
def move (ram : Ram) (target source : Nat) : Nat → Ram
  | 0 => ram
  | n + 1 => (ram.setByte target (ram.byte source)).move (target + 1) (source + 1) n

/-- Whether the `n` bytes from `i` on are zero. -/
def isClear (ram : Ram) (i : Nat) : Nat → Bool
  | 0 => true
  | n + 1 => ram.byte i == 0 && ram.isClear (i + 1) n

/-! ## Admission -/

/-- Refuse an access of `length` bytes at `address` that the window does not
cover. -/
def check (ram : Ram) (address : PhysAddr) (length : Nat) : Except Panic Unit :=
  match ram.window with
  | .bounded =>
    if address.toNat + length ≤ ram.size then .ok ()
    else .error (.pastEndOfRam address length ram.size)
  | .directMap =>
    if address.toNat < Layout.directMapSize then .ok () else .error .outsideDirectMap

/-- Go on only if an access of `length` bytes at `address` is admitted. -/
def allow {ε : Type} (address : PhysAddr) (length : Nat) : Operation ε Ram Unit := fun ram =>
  match ram.check address length with
  | .ok _ => ⟨.value (), ram, []⟩
  | .error cause => ⟨.panic cause, ram, []⟩

/-- Go on only if the whole of a frame can be accessed. -/
def allowFrame {ε : Type} (frame : Frame) : Operation ε Ram Unit :=
  allow frame.base 4096

/-! ## Accesses -/

variable {ε : Type}

/-- The bytes of one access. -/
def load (address : PhysAddr) (length : Nat) : Operation ε Ram (List UInt8) := do
  allow address length
  Operation.read fun ram => ram.slice address.toNat length

/-- Write the bytes of one access. -/
def store (address : PhysAddr) (values : List UInt8) : Operation ε Ram Unit := do
  allow address values.length
  Operation.change fun ram => ram.splice address.toNat values

/-- The word at an address. -/
def loadWord (address : PhysAddr) : Operation ε Ram UInt32 := do
  allow address 4
  Operation.read fun ram => ram.word address.toNat

/-- The bytes from an address on, each by an access of its own. -/
def loadEach (address : PhysAddr) (length : Nat) : Operation ε Ram (List UInt8) :=
  go 0 length
where
  /-- The bytes from distance `i` on. -/
  go (i : Nat) : Nat → Operation ε Ram (List UInt8)
    | 0 => pure []
    | n + 1 =>
      match address.add? i with
      | none => Operation.abort .addOverflow
      | some byteAddress => do
        allow byteAddress 1
        let value ← Operation.read fun ram => ram.byte byteAddress.toNat
        return value :: (← go (i + 1) n)

/-- Write bytes from an address on, each by an access of its own. -/
def storeEach (address : PhysAddr) (values : List UInt8) : Operation ε Ram Unit :=
  go 0 values
where
  /-- Write bytes from distance `i` on. -/
  go (i : Nat) : List UInt8 → Operation ε Ram Unit
    | [] => pure ()
    | value :: rest =>
      match address.add? i with
      | none => Operation.abort .addOverflow
      | some byteAddress => do
        allow byteAddress 1
        Operation.change fun ram => ram.setByte byteAddress.toNat value
        go (i + 1) rest

/-- Fill a frame with zero bytes. -/
def zeroFrame (frame : Frame) : Operation ε Ram Unit := do
  allowFrame frame
  Operation.change fun ram => ram.clear frame.base.toNat 4096

/-- Copy the bytes of one frame into another. -/
def copyFrame (target source : Frame) : Operation ε Ram Unit := do
  Operation.require (target != source) .copyOntoItself
  allowFrame source
  allowFrame target
  Operation.change fun ram => ram.move target.base.toNat source.base.toNat 4096

/-- Whether every byte of a frame is zero. -/
def isFrameClear (frame : Frame) : Operation ε Ram Bool := do
  allowFrame frame
  Operation.read fun ram => ram.isClear frame.base.toNat 4096

/-! ## What is read after a write -/

theorem size_bytes_set (bytes : ByteArray) (i : Nat) (value : UInt8) (within : i < bytes.size) :
    (bytes.set i value within).size = bytes.size := by
  change (bytes.set i value within).data.size = bytes.data.size
  rw [ByteArray.data_set, Array.size_set]

@[simp]
theorem size_setByte (ram : Ram) (i : Nat) (value : UInt8) :
    (ram.setByte i value).size = ram.size := by
  unfold setByte
  split
  · exact size_bytes_set _ _ _ _
  · rfl

@[simp]
theorem window_setByte (ram : Ram) (i : Nat) (value : UInt8) :
    (ram.setByte i value).window = ram.window := by
  unfold setByte
  split <;> rfl

theorem byte_eq (ram : Ram) (i : Nat) : ram.byte i = ram.bytes.data[i]?.getD 0 := by
  unfold byte
  split
  next within => rw [Array.getElem?_eq_getElem within]; rfl
  next outside => rw [Array.getElem?_eq_none (Nat.le_of_not_lt outside)]; rfl

theorem byte_setByte (ram : Ram) (i j : Nat) (value : UInt8) :
    (ram.setByte i value).byte j = if j = i ∧ i < ram.size then value else ram.byte j := by
  by_cases within : i < ram.bytes.size
  · rw [byte_eq, byte_eq, setByte, dif_pos within, ByteArray.data_set, Array.getElem?_set]
    by_cases same : j = i
    · simp [same, size, within]
    · simp [same, Ne.symm same]
  · rw [setByte, dif_neg within, if_neg fun both => within both.2]

@[simp]
theorem size_setWord (ram : Ram) (i : Nat) (value : UInt32) :
    (ram.setWord i value).size = ram.size := by
  simp [setWord]

@[simp]
theorem window_setWord (ram : Ram) (i : Nat) (value : UInt32) :
    (ram.setWord i value).window = ram.window := by
  simp [setWord]

/-- A word that lies within RAM reads back as it was written. -/
theorem word_setWord (ram : Ram) (i : Nat) (value : UInt32) (within : i + 4 ≤ ram.size) :
    (ram.setWord i value).word i = value := by
  have valueLt := value.toNat_lt
  have zero : (ram.setWord i value).byte i = UInt8.ofNat value.toNat := by
    simp [setWord, byte_setByte, show i < ram.size by omega]
  have one : (ram.setWord i value).byte (i + 1) = UInt8.ofNat (value.toNat / 0x100) := by
    simp [setWord, byte_setByte, show i + 1 < ram.size by omega]
  have two : (ram.setWord i value).byte (i + 2) = UInt8.ofNat (value.toNat / 0x10000) := by
    simp [setWord, byte_setByte, show i + 2 < ram.size by omega]
  have three : (ram.setWord i value).byte (i + 3) = UInt8.ofNat (value.toNat / 0x1000000) := by
    simp [setWord, byte_setByte, show i + 3 < ram.size by omega]
  rw [word, zero, one, two, three]
  apply UInt32.toNat_inj.mp
  simp only [UInt8.toNat_ofNat', UInt32.toNat_ofNat']
  omega

/-- A write leaves the bytes outside its word alone. -/
theorem byte_setWord_of_outside (ram : Ram) {i j : Nat} (value : UInt32)
    (outside : j < i ∨ i + 4 ≤ j) : (ram.setWord i value).byte j = ram.byte j := by
  simp only [setWord, byte_setByte, size_setByte]
  rw [if_neg (by omega), if_neg (by omega), if_neg (by omega), if_neg (by omega)]

@[simp]
theorem size_clear (ram : Ram) (i n : Nat) : (ram.clear i n).size = ram.size := by
  induction n generalizing ram i with
  | zero => rfl
  | succ n ih => simp [clear, ih]

/-- Clearing zeroes its run and nothing else. -/
theorem byte_clear (ram : Ram) (i n j : Nat) :
    (ram.clear i n).byte j = if i ≤ j ∧ j < i + n then 0 else ram.byte j := by
  induction n generalizing ram i with
  | zero => rw [clear, if_neg (by omega)]
  | succ n ih =>
    rw [clear, ih, byte_setByte]
    by_cases inside : i + 1 ≤ j ∧ j < i + 1 + n
    · rw [if_pos inside, if_pos (by omega)]
    · rw [if_neg inside]
      by_cases first : j = i
      · subst first
        by_cases within : j < ram.size
        · rw [if_pos ⟨rfl, within⟩, if_pos (by omega)]
        · rw [if_neg (by omega), if_pos (by omega)]
          simp [byte, show ¬ j < ram.bytes.size from within]
      · rw [if_neg (by omega), if_neg (by omega)]

end Ram

end PagedMemory
