import PagedMemory.Address
import PagedMemory.Text.Hex

/-!
# How addresses and pages are printed

An address or a page is shown in messages as the eight hexadecimal digits of
its (first) byte. A value's tagged text, used inside other values, names its
realm as well.
-/

namespace PagedMemory

open Text

variable {realm : Realm}

instance : ToString (Address realm) where
  toString a := "0x" ++ Hex.padded 8 a.toNat

instance : ToString (Page realm) where
  toString p := toString p.base

/-- The name that tags an address of the realm. -/
def Realm.tag : Realm → String
  | .memory => "MemoryAddress"
  | .physical => "PA"
  | .virtual => "VA"

/-- The address under the name of its realm. -/
def Address.tagged (a : Address realm) : String :=
  realm.tag ++ "(" ++ toString a ++ ")"

/-- The frame under its name, by number. -/
def Frame.tagged (frame : Frame) : String :=
  "PhysicalPage(#" ++ toString frame.number ++ ")"

/-- The virtual page under its name, by its first address. -/
def VirtPage.tagged (page : VirtPage) : String :=
  "VirtualPage(" ++ toString page.base ++ ")"

/-- The offset under its name. -/
def PageOffset.tagged (offset : PageOffset) : String :=
  "PageOffset(0x" ++ Hex.padded 3 offset.val ++ ")"

end PagedMemory
