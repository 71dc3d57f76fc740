import RemoteTags.Proofs.Time.Stamp
import RemoteTags.Shell.Command

/-! The modify time in a `stat` report is that of its first labelled line. -/

namespace RemoteTags.Shell
open Text

theorem go_of_unlabelled {s : List Char} (unlabelled : afterStart modifyLabel s = none)
    (fuel : Nat) : withoutLabels.go fuel s = s := by
  cases fuel with
  | zero => rfl
  | succ fuel => rw [withoutLabels.go, unlabelled]

theorem withoutLabels_append {s : List Char} (unlabelled : afterStart modifyLabel s = none) :
    withoutLabels (modifyLabel ++ s) = s := by
  have length : (modifyLabel ++ s).length = s.length + 6 + 1 := by
    rw [List.length_append, Nat.add_comm]
    rfl
  rw [withoutLabels, length, withoutLabels.go, afterStart_append]
  exact go_of_unlabelled unlabelled _

/-- What stands before and after the first line with a label is not looked at. -/
theorem modifyTime_of_lines {report : String} {before after : List (List Char)}
    {line rest : List Char} (lines : report.toList.splitOn '\n' = before ++ line :: after)
    (unlabelled : ∀ l ∈ before, ¬ modifyLabel <+: trim l)
    (labelled : trim line = modifyLabel ++ rest) (once : afterStart modifyLabel rest = none) :
    modifyTime report = Time.readStamp (trim rest) := by
  have found : ((report.toList.splitOn '\n').map trim).find? (fun l => modifyLabel.isPrefixOf l) =
      some (modifyLabel ++ rest) := by
    rw [lines, List.map_append, List.map_cons, labelled, List.find?_append,
      List.find?_eq_none.2 (by simpa using unlabelled), Option.none_or, List.find?_cons_of_pos]
    simp
  rw [modifyTime, found]
  simp only [Option.bind_eq_bind, Option.bind_some, withoutLabels_append once]

theorem modifyTime_eq_none {report : String}
    (unlabelled : ∀ l ∈ report.toList.splitOn '\n', ¬ modifyLabel <+: trim l) :
    modifyTime report = none := by
  have missing : ((report.toList.splitOn '\n').map trim).find? (fun l => modifyLabel.isPrefixOf l) =
      none := List.find?_eq_none.2 (by simpa using unlabelled)
  rw [modifyTime, missing]
  rfl

theorem trim_append {gap stamp : List Char} (blank : ∀ c ∈ gap, isBlank c)
    (compact : Time.Compact stamp) : trim (gap ++ stamp) = stamp := by
  have start : trimStart (gap ++ stamp) = trimStart stamp := List.dropWhile_append_of_pos blank
  rw [trim, start, trimStart_eq_self compact.start, trimEnd_eq_self compact.ending]

theorem modifyTime_line {stamp : List Char} (compact : Time.Compact stamp) :
    modifyTime (String.ofList (modifyLabel ++ ' ' :: stamp ++ ['\n'])) = Time.readStamp stamp := by
  have trimmed : trim (' ' :: stamp) = stamp :=
    trim_append (List.forall_mem_singleton.2 rfl) compact
  have whole : trim (modifyLabel ++ ' ' :: stamp) = modifyLabel ++ ' ' :: stamp := by
    have start : trimStart (modifyLabel ++ ' ' :: stamp) = modifyLabel ++ ' ' :: stamp := rfl
    rw [trim, start, trimEnd_eq_self]
    intro c last
    rw [List.getLast?_append, List.getLast?_cons,
      List.getLast?_eq_some_getLast compact.nonempty] at last
    exact compact.ending c ((List.getLast?_eq_some_getLast compact.nonempty).trans last)
  have alone : '\n' ∉ modifyLabel ++ ' ' :: stamp := by
    have label : '\n' ∉ modifyLabel := by decide
    simp [label, compact.oneLine]
  have lines : (String.ofList (modifyLabel ++ ' ' :: stamp ++ ['\n'])).toList.splitOn '\n' =
      [] ++ (modifyLabel ++ ' ' :: stamp) :: [[]] := by
    rw [String.toList_ofList, List.splitOn_append_cons_self_of_not_mem alone]
    rfl
  rw [modifyTime_of_lines lines (by simp) whole rfl, trimmed]

end RemoteTags.Shell
