import Std.Data.HashMap
import RemoteTags.Tag.Record
import RemoteTags.Text.Utf8

/-! The tags of a tags file, in file order, with the positions of each name. -/

namespace RemoteTags

structure TagIndex where
  tags : Array Tag := #[]
  -- For each name the positions of its tags, in file order.
  positions : Std.HashMap String (Array Nat) := {}

namespace TagIndex

def empty : TagIndex := {}

def push (index : TagIndex) (tag : Tag) : TagIndex :=
  { tags := index.tags.push tag
    positions := index.positions.insert tag.name
      ((index.positions.getD tag.name #[]).push index.tags.size) }

/-- Lines that are no records are left out. -/
def ofLines (lines : List String) : TagIndex :=
  (lines.filterMap Record.parse).foldl push empty

/-- Cuts a tags file at its line feeds. The text behind the last one is a line only if there is
any. -/
def fileLines (content : Bytes) : List Bytes :=
  let pieces := content.splitOn 10
  if pieces.getLast? = some [] then pieces.dropLast else pieces

def ofBytes (content : Bytes) : TagIndex :=
  ofLines ((fileLines content).map Utf8.lossyString)

def lookup (index : TagIndex) (name : String) : List Tag :=
  (index.positions.getD name #[]).toList.filterMap fun i => index.tags[i]?

def size (index : TagIndex) : Nat := index.tags.size

end TagIndex

end RemoteTags
