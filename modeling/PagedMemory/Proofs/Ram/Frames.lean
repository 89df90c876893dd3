import PagedMemory.Proofs.Operation.Ends
import PagedMemory.Ram

/-!
# Frames of RAM

Every write of the kernel stays within one frame. What it leaves alone is told
frame by frame: a frame is the same in two memories if all of its bytes are, and
a memory differs from another only on some frames if every other frame is the
same and neither the size nor the window has changed.
-/

namespace PagedMemory.Ram

variable {ε : Type} {ram ram' ram'' : Ram} {f g : Frame}

/-- All bytes of a frame are the same in two memories. -/
def SameFrame (f : Frame) (ram ram' : Ram) : Prop :=
  ∀ k, k < 4096 → ram'.byte (f.number * 4096 + k) = ram.byte (f.number * 4096 + k)

/-- All bytes of a frame are zero. -/
def ClearFrame (ram : Ram) (f : Frame) : Prop :=
  ∀ k, k < 4096 → ram.byte (f.number * 4096 + k) = 0

/-- Two frames hold the same bytes. -/
def SameBytes (ram : Ram) (f g : Frame) : Prop :=
  ∀ k, k < 4096 → ram.byte (f.number * 4096 + k) = ram.byte (g.number * 4096 + k)

/-- Two memories differ at most on the frames in `written`. -/
structure DifferOn (written : Frame → Prop) (ram ram' : Ram) : Prop where
  window : ram'.window = ram.window
  size : ram'.size = ram.size
  same : ∀ f, ¬ written f → SameFrame f ram ram'

namespace SameFrame

protected theorem refl (f : Frame) (ram : Ram) : SameFrame f ram ram :=
  fun _ _ => rfl

protected theorem trans (first : SameFrame f ram ram') (second : SameFrame f ram' ram'') :
    SameFrame f ram ram'' :=
  fun k small => (second k small).trans (first k small)

theorem clear (same : SameFrame f ram ram') (isClear : ClearFrame ram f) : ClearFrame ram' f :=
  fun k small => (same k small).trans (isClear k small)

end SameFrame

theorem SameBytes.of_same (equal : SameBytes ram f g) (sameF : SameFrame f ram ram')
    (sameG : SameFrame g ram ram') : SameBytes ram' f g := by
  intro k small
  rw [sameF k small, sameG k small]
  exact equal k small

theorem size_pushZeros (n : Nat) (bytes : ByteArray) :
    (pushZeros n bytes).size = bytes.size + n := by
  induction n generalizing bytes with
  | zero => rfl
  | succ n ih =>
    rw [pushZeros, ih, ByteArray.size_push]
    omega

theorem size_zeroed (window : Window) (frames : Nat) :
    (zeroed window frames).size = frames * 4096 := by
  rw [size, zeroed, size_pushZeros]
  exact Nat.zero_add _

/-! ## What single accesses leave alone -/

theorem byte_move (ram : Ram) (target source n j : Nat)
    (apart : target + n ≤ source ∨ source + n ≤ target) (within : target + n ≤ ram.size) :
    (ram.move target source n).byte j =
      if target ≤ j ∧ j < target + n then ram.byte (source + (j - target)) else ram.byte j := by
  induction n generalizing ram target source with
  | zero => rw [move, if_neg (by omega)]
  | succ n ih =>
    rw [move, ih _ _ _ (by omega) (by simp only [size_setByte]; omega)]
    by_cases later : target + 1 ≤ j ∧ j < target + 1 + n
    · rw [if_pos later, if_pos (by omega), byte_setByte, if_neg (by omega)]
      congr 1
      omega
    · rw [if_neg later, byte_setByte]
      by_cases first : j = target
      · rw [if_pos ⟨first, by omega⟩, if_pos (by omega)]
        congr 1
        omega
      · rw [if_neg (by omega), if_neg (by omega)]

@[simp]
theorem size_move (ram : Ram) (target source n : Nat) :
    (ram.move target source n).size = ram.size := by
  induction n generalizing ram target source with
  | zero => rfl
  | succ n ih => simp [move, ih]

@[simp]
theorem window_move (ram : Ram) (target source n : Nat) :
    (ram.move target source n).window = ram.window := by
  induction n generalizing ram target source with
  | zero => rfl
  | succ n ih => simp [move, ih]

theorem byte_move_of_outside (ram : Ram) {target source n j : Nat}
    (outside : j < target ∨ target + n ≤ j) : (ram.move target source n).byte j = ram.byte j := by
  induction n generalizing ram target source with
  | zero => rfl
  | succ n ih => rw [move, ih _ (by omega), byte_setByte, if_neg (by omega)]

@[simp]
theorem window_clear (ram : Ram) (i n : Nat) : (ram.clear i n).window = ram.window := by
  induction n generalizing ram i with
  | zero => rfl
  | succ n ih => simp [clear, ih]

theorem byte_splice_of_outside (ram : Ram) {i j : Nat} (values : List UInt8)
    (outside : j < i ∨ i + values.length ≤ j) : (ram.splice i values).byte j = ram.byte j := by
  induction values generalizing ram i with
  | nil => rfl
  | cons value rest ih =>
    rw [List.length_cons] at outside
    rw [splice, ih _ (by omega), byte_setByte, if_neg (by omega)]

@[simp]
theorem size_splice (ram : Ram) (i : Nat) (values : List UInt8) :
    (ram.splice i values).size = ram.size := by
  induction values generalizing ram i with
  | nil => rfl
  | cons value rest ih => simp [splice, ih]

/-- Bytes that lie within RAM read back as they were written. -/
theorem byte_splice (ram : Ram) {i k : Nat} (values : List UInt8) (small : k < values.length)
    (within : i + values.length ≤ ram.size) : (ram.splice i values).byte (i + k) = values[k] := by
  induction values generalizing ram i k with
  | nil => cases small
  | cons value rest ih =>
    rw [List.length_cons] at small within
    rw [splice]
    cases k with
    | zero => rw [byte_splice_of_outside _ _ (by omega), byte_setByte, if_pos (by omega)]; rfl
    | succ k =>
      rw [show i + (k + 1) = i + 1 + k by omega, ih _ (by omega) (by rw [size_setByte]; omega)]
      rfl

@[simp]
theorem window_splice (ram : Ram) (i : Nat) (values : List UInt8) :
    (ram.splice i values).window = ram.window := by
  induction values generalizing ram i with
  | nil => rfl
  | cons value rest ih => simp [splice, ih]

theorem slice_eq_of_byte {i : Nat} {values : List UInt8}
    (same : ∀ k, (small : k < values.length) → ram.byte (i + k) = values[k]) :
    ram.slice i values.length = values := by
  induction values generalizing i with
  | nil => rfl
  | cons value rest ih =>
    have first := same 0 (by simp)
    have others : ram.slice (i + 1) rest.length = rest := ih fun k small => by
      have later := same (k + 1) (by simpa using small)
      rwa [show i + (k + 1) = i + 1 + k by omega] at later
    rw [List.length_cons, slice, others]
    exact congrArg (· :: rest) first

/-- A byte of one frame is no byte of another. -/
theorem outside_frame (different : f ≠ g) {k : Nat} (small : k < 4096) :
    g.number * 4096 + k < f.number * 4096 ∨ f.number * 4096 + 4096 ≤ g.number * 4096 + k := by
  have : f.number ≠ g.number := fun same => different (Page.ext same)
  omega

theorem outside_word {base k j : Nat} (outside : j < base ∨ base + 4096 ≤ j)
    (small : k + 4 ≤ 4096) : j < base + k ∨ base + k + 4 ≤ j := by
  omega

/-! ## Whole frames -/

theorem differOn_clear (ram : Ram) (f : Frame) :
    DifferOn (· = f) ram (ram.clear f.base.toNat 4096) where
  window := window_clear _ _ _
  size := size_clear _ _ _
  same g other k small := by
    have outside := outside_frame (Ne.symm other) small
    rw [byte_clear, if_neg]
    simp only [Page.base]
    omega

theorem clearFrame_clear (ram : Ram) (f : Frame) :
    ClearFrame (ram.clear f.base.toNat 4096) f := by
  intro k small
  rw [byte_clear, if_pos]
  simp only [Page.base]
  omega

theorem differOn_setWord (ram : Ram) (f : Frame) {k : Nat} (value : UInt32) (small : k + 4 ≤ 4096) :
    DifferOn (· = f) ram (ram.setWord (f.base.toNat + k) value) where
  window := window_setWord _ _ _
  size := size_setWord _ _ _
  same g other j smallJ := by
    have outside := outside_frame (Ne.symm other) smallJ
    exact byte_setWord_of_outside ram value (outside_word outside small)

theorem differOn_move (ram : Ram) (target source : Frame) :
    DifferOn (· = target) ram (ram.move target.base.toNat source.base.toNat 4096) where
  window := window_move _ _ _ _
  size := size_move _ _ _ _
  same _ other _ small := byte_move_of_outside _ (outside_frame (Ne.symm other) small)

/-- A frame that was copied holds the bytes of its source. -/
theorem byte_move_frame (ram : Ram) {target source : Frame} (different : target ≠ source)
    (within : target.number * 4096 + 4096 ≤ ram.size) {k : Nat} (small : k < 4096) :
    (ram.move target.base.toNat source.base.toNat 4096).byte (target.number * 4096 + k) =
      ram.byte (source.number * 4096 + k) := by
  have : target.number ≠ source.number := fun same => different (Page.ext same)
  simp only [Page.base]
  rw [byte_move _ _ _ _ _ (by omega) within, if_pos (by omega)]
  congr 1
  omega

theorem differOn_splice (ram : Ram) {address : PhysAddr} (values : List UInt8)
    (onPage : address.offset.val + values.length ≤ 4096) :
    DifferOn (· = address.page) ram (ram.splice address.toNat values) where
  window := window_splice _ _ _
  size := size_splice _ _ _
  same g other k small := by
    have outside := outside_frame (Ne.symm other) small
    refine byte_splice_of_outside ram values ?_
    simp only [Address.offset, Address.page] at onPage outside
    omega

/-! ## Admitted accesses -/

/-- A memory admits accesses to a frame. -/
def Admitted (ram : Ram) (f : Frame) : Prop :=
  ram.check f.base 4096 = .ok ()

/-- A memory admits accesses to all of the first `count` frames. -/
def Admits (ram : Ram) (count : Nat) : Prop :=
  ∀ f : Frame, f.number < count → Admitted ram f

/-- Through the direct map all frames that begin within it can be accessed. -/
theorem admits_of_directMap {count : Nat} (window : ram.window = .directMap)
    (within : count * 4096 ≤ Layout.directMapSize) : ram.Admits count := by
  intro f low
  have begins : f.base.toNat < Layout.directMapSize := by
    change f.number * 4096 < _
    omega
  simp only [Admitted, check, window, if_pos begins]

/-- Through a bounds check all frames that lie within RAM can be accessed. -/
theorem admitted_of_bounded (window : ram.window = .bounded)
    (within : f.number * 4096 + 4096 ≤ ram.size) : ram.Admitted f := by
  have ends : f.base.toNat + 4096 ≤ ram.size := within
  simp only [Admitted, check, window, if_pos ends]

/-- An access within a frame is admitted if the frame is. -/
theorem check_of_admitted {address : PhysAddr} {length : Nat} (admitted : ram.Admitted address.page)
    (onPage : address.offset.val + length ≤ 4096) : ram.check address length = .ok () := by
  simp only [Address.offset] at onPage
  unfold Admitted check at admitted
  unfold check
  cases window : ram.window with
  | bounded =>
    simp only [window, ite_eq_left_iff, reduceCtorEq, imp_false, Decidable.not_not] at admitted ⊢
    simp only [Page.base, Address.page] at admitted
    omega
  | directMap =>
    simp only [window, ite_eq_left_iff, reduceCtorEq, imp_false, Decidable.not_not] at admitted ⊢
    simp only [Page.base, Address.page, Layout.directMapSize] at admitted ⊢
    omega

/-- What is admitted depends on the window and on the size alone. -/
theorem admitted_iff_of_eq (window : ram'.window = ram.window) (size : ram'.size = ram.size) :
    Admitted ram' f ↔ Admitted ram f := by
  unfold Admitted check
  rw [window, size]

theorem DifferOn.admitted {written : Frame → Prop} (differ : DifferOn written ram ram') (f : Frame)
    (admitted : ram.Admitted f) : ram'.Admitted f :=
  (admitted_iff_of_eq differ.window differ.size).mpr admitted

theorem admits_iff_of_eq (window : ram'.window = ram.window) (size : ram'.size = ram.size)
    {count : Nat} : Admits ram' count ↔ Admits ram count := by
  simp only [Admits, admitted_iff_of_eq window size]

variable {left : Nat}

theorem ends_allow {address : PhysAddr} {length : Nat} {post : Post ε Ram Unit}
    (refused : ram.check address length ≠ .ok () → ∀ cause, post.panic cause ram)
    (allowed : ram.check address length = .ok () → post.value () ram left) :
    (allow address length).Ends left ram post := by
  unfold Operation.Ends Operation.run allow
  rcases checked : ram.check address length with cause | ⟨⟩
  · exact fun _ => refused (by rw [checked]; simp) cause
  · exact fun _ => allowed checked

theorem ends_allowFrame {post : Post ε Ram Unit}
    (refused : ¬ ram.Admitted f → ∀ cause, post.panic cause ram)
    (allowed : ram.Admitted f → post.value () ram left) : (allowFrame f).Ends left ram post :=
  ends_allow refused allowed

theorem run_allowFrame (admitted : ram.Admitted f) :
    (allowFrame f : Operation ε Ram Unit).run ram = ⟨.value (), ram, []⟩ := by
  unfold Operation.run allowFrame allow
  rw [admitted]

/-- What is said of a frame that is cleared. -/
theorem ends_zeroFrame {post : Post ε Ram Unit}
    (refused : ¬ ram.Admitted f → ∀ cause, post.panic cause ram)
    (cleared : ∀ ram', ram.Admitted f → DifferOn (· = f) ram ram' → ClearFrame ram' f →
      post.value () ram' left) :
    (zeroFrame f).Ends left ram post := by
  refine Operation.ends_bind.mpr (ends_allowFrame refused fun admitted => ?_)
  apply Operation.ends_change.mpr
  exact cleared _ admitted (differOn_clear ram f) (clearFrame_clear ram f)

/-- What is said of a frame that is copied. -/
theorem ends_copyFrame {post : Post ε Ram Unit} (different : f ≠ g)
    (within : f.number * 4096 + 4096 ≤ ram.size)
    (refused : ¬ ram.Admitted f ∨ ¬ ram.Admitted g → ∀ cause, post.panic cause ram)
    (copied : ∀ ram', DifferOn (· = f) ram ram' →
      SameBytes ram' f g → post.value () ram' left) :
    (copyFrame f g).Ends left ram post := by
  unfold copyFrame
  rw [Operation.ends_bind, Operation.ends_require, if_pos (by simpa using different)]
  refine Operation.ends_bind.mpr
    (ends_allowFrame (fun denied => refused (.inr denied)) fun _ => ?_)
  refine Operation.ends_bind.mpr
    (ends_allowFrame (fun denied => refused (.inl denied)) fun _ => ?_)
  apply Operation.ends_change.mpr
  have differ := differOn_move ram f g
  refine copied _ differ fun k small => ?_
  rw [byte_move_frame ram different within small, differ.same g (Ne.symm different) k small]

end PagedMemory.Ram
