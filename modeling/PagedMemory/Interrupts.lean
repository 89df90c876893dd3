import PagedMemory.Operation

/-!
# Interrupt masking

The interrupt level of a processor, raised around short critical sections and
set back afterwards. Before an interrupt controller is installed masking has no
effect, and neither has setting the level back.
-/

namespace PagedMemory

/-- The interrupt controller and its level. -/
structure Interrupts where
  /-- Whether a controller is installed. -/
  installed : Bool
  level : InterruptLevel
deriving DecidableEq

namespace Interrupts

variable {ε : Type}

/-- The level at which nothing is masked. -/
def unmasked : InterruptLevel := 0

/-- The level at which every interrupt is masked. -/
def high : InterruptLevel := 1

/-- Mask every interrupt. The answer is the level before, if a controller is
installed. -/
def mask : Operation ε Interrupts (Option InterruptLevel) := fun interrupts =>
  if interrupts.installed then
    ⟨.value (some interrupts.level), { interrupts with level := high },
      [.masked interrupts.level]⟩
  else ⟨.value none, interrupts, []⟩

/-- Set the level back to what `mask` answered. -/
def restore (previous : Option InterruptLevel) : Operation ε Interrupts Unit := fun interrupts =>
  match previous with
  | some level =>
    if interrupts.installed then
      ⟨.value (), { interrupts with level := level }, [.restored level]⟩
    else ⟨.value (), interrupts, []⟩
  | none => ⟨.value (), interrupts, []⟩

/-- Set the level past the controller. -/
def setLevel (level : InterruptLevel) : Operation ε Interrupts Unit :=
  Operation.change fun interrupts => { interrupts with level := level }

end Interrupts

end PagedMemory
