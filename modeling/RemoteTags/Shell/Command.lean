import RemoteTags.Shell.Word
import RemoteTags.Text.Blank
import RemoteTags.Text.Cut
import RemoteTags.Time.Stamp

/-! The command lines that are run on the remote host, the names of the scratch files they write,
and the reading of a `stat` report. -/

namespace RemoteTags.Shell
open Text

def scratchBase (home : String) : String :=
  String.ofList (dropTrailing (· = '/') home.toList) ++ "/.ctagssh.temp"

/-- Writes the modify line of a file's `stat` report into `output`. -/
def statCommand (path output : String) : String :=
  "stat " ++ quote path ++ " | grep Modify > " ++ quote output

def gzipCommand (source output : String) : String :=
  "gzip -c " ++ quote source ++ " > " ++ quote output

def modifyLabel : List Char := "Modify:".toList

def withoutLabels (s : List Char) : List Char := go s.length s
where
  go : Nat → List Char → List Char
    | 0, s => s
    | fuel + 1, s => match afterStart modifyLabel s with
      | some rest => go fuel rest
      | none => s

/-- The time of the first line of a `stat` report that carries the label. -/
def modifyTime (report : String) : Option Int := do
  let line ← ((report.toList.splitOn '\n').map trim).find? fun l => modifyLabel.isPrefixOf l
  Time.readStamp (trim (withoutLabels line))

end RemoteTags.Shell
