/-!
# Layout of the machine

The numbers that every part of the machine agrees on: the size of a page, the
user and kernel segments of the 32-bit address space, the shape of the
page tables, and the error numbers handed to the trap layer.
-/

namespace PagedMemory.Layout

/-! ## Pages -/

/-- Bytes in a page. -/
abbrev pageSize : Nat := 4096

/-- Bits of an address that select a byte within its page. -/
abbrev pageShift : Nat := 12

/-- The bits of an address that name its page. -/
abbrev pageMask : Nat := 0xFFFFF000

/-! ## Segments of the address space -/

/-- Where the kernel's direct map of low physical memory begins. -/
abbrev directMapBase : Nat := 0x80000000

/-- How many bytes of physical memory the direct map shows. -/
abbrev directMapSize : Nat := 0x20000000

/-- The end of the user stack, which grows down from the direct map. -/
abbrev userStack : Nat := directMapBase

/-- Pages in every user stack. -/
abbrev stackPages : Nat := 18

/-- How many static regions a space may define. -/
abbrev maxRegions : Nat := 2

/-! ## Page tables -/

/-- Slots of the lookaside buffer. -/
abbrev tlbSlots : Nat := 64

/-- Entries of a page directory. -/
abbrev directoryEntries : Nat := 1024

/-- Entries of a second-level table. -/
abbrev tableEntries : Nat := 1024

/-- Lowest bit of an address that belongs to its directory index. -/
abbrev directoryShift : Nat := 22

/-- The bits of an address that form its directory index. -/
abbrev directoryMask : Nat := 0xFFC00000

/-- The bits of an address that form its table index. -/
abbrev tableMask : Nat := 0x003FF000

/-! ## Error numbers -/

/-- The request is not implemented; also reported for a third region. -/
abbrev notImplemented : Nat := 1

/-- No memory is left. -/
abbrev outOfMemory : Nat := 3

/-- The memory reference is bad. -/
abbrev badReference : Nat := 6

/-- The argument is invalid. -/
abbrev invalidArgument : Nat := 8

end PagedMemory.Layout
