import RemoteTags.CommandLine.Style
import RemoteTags.Path.Collapse
import RemoteTags.Remote.Call
import RemoteTags.Size
import RemoteTags.Tag.Basic
import RemoteTags.Time.Stamp

/-! How tags and remote files are listed: as tables, or tags as JSON. -/

namespace RemoteTags.CommandLine

def fileWidth : Nat := 60

def addressText : Address → String
  | .line number => "line " ++ number
  | .pattern text => text

def tagRow (colours : Bool) (number : Nat) (t : Tag) : String :=
  String.intercalate "  "
    [Style.dimmed.apply colours (padLeft 3) (toString number),
     Style.bold.apply colours id t.name,
     Path.collapse fileWidth .left t.file,
     Style.cyan.apply colours id (t.kind.getD "-"),
     Style.dimmed.apply colours id (addressText t.address)] ++ "\n"

def tagTable (colours : Bool) (tags : List Tag) : String :=
  String.join (tags.zipIdx.map fun (t, i) => tagRow colours (i + 1) t)

def jsonChar (c : Char) : List Char :=
  match c with
  | '"' => ['\\', '"']
  | '\\' => ['\\', '\\']
  | '\n' => ['\\', 'n']
  | '\r' => ['\\', 'r']
  | '\t' => ['\\', 't']
  | '\x08' => ['\\', 'b']
  | '\x0c' => ['\\', 'f']
  | c =>
    if c.toNat < 0x20 then
      '\\' :: 'u' :: padLeftZero 4 (Nat.toDigits 16 c.toNat)
    else [c]
where
  padLeftZero (width : Nat) (ds : List Char) : List Char :=
    List.replicate (width - ds.length) '0' ++ ds

def jsonText (s : String) : String := String.ofList ('"' :: s.toList.flatMap jsonChar ++ ['"'])

def jsonBool (b : Bool) : String := if b then "true" else "false"

def tagFields (t : Tag) : List (String × String) :=
  let (pattern, isNumber) := match t.address with
    | .line number => (number, true)
    | .pattern text => (text, false)
  [("name", jsonText t.name), ("file", jsonText t.file),
   ("kind", match t.kind with
     | some kind => jsonText kind
     | none => "null"),
   ("pattern", jsonText pattern), ("line_number", jsonBool isNumber)]

def tagJson (t : Tag) : String :=
  "  \x7b\n" ++
    String.intercalate ",\n" ((tagFields t).map fun (k, v) => "    " ++ jsonText k ++ ": " ++ v) ++
    "\n  \x7d"

def tagsJson (tags : List Tag) : String :=
  "[\n" ++ String.intercalate ",\n" (tags.map tagJson) ++ "\n]\n"

def nameWidth : Nat := 40

def sizeWidth : Nat := 10

/-- A modify time to the minute, or a dash when the calendar does not reach it. -/
def timeText (seconds : Int) : String :=
  match Time.moment? seconds with
  | some m => String.ofList m.minuteText
  | none => "-"

def fileRow (colours : Bool) (e : Remote.Entry) : String :=
  Style.bold.apply colours (padRight nameWidth) e.name ++ "  " ++
    Style.dimmed.apply colours id (timeText e.mtime) ++ "  " ++
    String.ofList (padLeft sizeWidth (Size.format e.size).toList) ++ "\n"

end RemoteTags.CommandLine
