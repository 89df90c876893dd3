import PagedMemory.Space.Basic

/-!
# How spaces are printed

The text of a space lists its fields by name in a fixed order, as a kernel
developer reads it in a log.
-/

namespace PagedMemory

/-- A named group of fields. -/
def fieldsText (name : String) (fields : List String) : String :=
  name ++ " \x7b " ++ String.intercalate ", " fields ++ " \x7d"

/-- What there is, or that there is nothing. -/
def optionText {α : Type} (text : α → String) : Option α → String
  | some a => "Some(" ++ text a ++ ")"
  | none => "None"

/-- The text of a truth value. -/
def boolText (b : Bool) : String :=
  if b then "true" else "false"

/-- The text of the permissions of a region. -/
def RegionFlags.text (flags : RegionFlags) : String :=
  fieldsText "RegionFlags"
    ["readable: " ++ boolText flags.readable, "writeable: " ++ boolText flags.writeable,
      "executable: " ++ boolText flags.executable]

/-- The text of a region. -/
def Region.text (region : Region) : String :=
  fieldsText "Region"
    ["vbase: " ++ VirtPage.tagged region.page, "npages: " ++ toString region.pages,
      "flags: " ++ region.flags.text, "pbase: " ++ optionText Frame.tagged region.backing]

/-- The text of a space; its heap is left out, which two dots say. -/
def AddressSpace.text (space : AddressSpace) : String :=
  let region (slot : Nat) := optionText Region.text space.regions[slot]?
  fieldsText "AddressSpace"
    ["id: " ++ toString space.id, "directory: " ++ Frame.tagged space.directory,
      "regions: [" ++ region 0 ++ ", " ++ region 1 ++ "]",
      "stack: " ++ optionText Frame.tagged space.stack,
      "loaded: " ++ boolText space.loaded, ".."]

end PagedMemory
