import RemoteTags.Proofs.Shell.Report
import RemoteTags.Proofs.Time.Exact

/-! A report tells the exact time of the stamp in its first labelled line, rounded down to a whole
second, whatever lines stand around it. -/

namespace RemoteTags.Shell
open Text

/-- The first line with the label carries the stamp. -/
def Carries (report : String) (stamp : Time.Stamp) : Prop :=
  ∃ before line after gap : List _, report.toList.splitOn '\n' = before ++ line :: after ∧
    (∀ l ∈ before, ¬ modifyLabel <+: trim l) ∧
    trim line = modifyLabel ++ (gap ++ stamp.text) ∧ ∀ c ∈ gap, isBlank c

theorem afterStart_modifyLabel_eq_none {s : List Char} (other : ∀ c ∈ s.head?, c ≠ 'M') :
    afterStart modifyLabel s = none := by
  cases s with
  | nil => rfl
  | cons c s =>
    have step : afterStart modifyLabel (c :: s) =
        if 'M' == c then afterStart "odify:".toList s else none := rfl
    rw [step, if_neg (by simpa using (other c rfl).symm)]

theorem unlabelled_stamp (stamp : Time.Stamp) {gap : List Char} (blank : ∀ c ∈ gap, isBlank c) :
    afterStart modifyLabel (gap ++ stamp.text) = none := by
  apply afterStart_modifyLabel_eq_none
  rintro c first rfl
  cases gap with
  | nil =>
    rw [List.nil_append] at first
    exact absurd (stamp.text_start 'M' first) (by decide)
  | cons b gap =>
    rw [List.cons_append, List.head?_cons, Option.mem_some_iff] at first
    exact absurd (blank b List.mem_cons_self) (by rw [first]; decide)

theorem Carries.modifyTime {report : String} {stamp : Time.Stamp} (carries : Carries report stamp) :
    modifyTime report = some ⌊stamp.time⌋ := by
  obtain ⟨before, line, after, gap, lines, unlabelled, labelled, blank⟩ := carries
  rw [modifyTime_of_lines lines unlabelled labelled (unlabelled_stamp stamp blank),
    trim_append blank stamp.compact, stamp.readStamp_eq]

/-- A report has the time of the stamp that its first labelled line carries, to the second below;
without a labelled line it has no time. -/
theorem modifyTime_exact (report : String) :
    (∀ stamp, Carries report stamp → modifyTime report = some ⌊stamp.time⌋) ∧
      ((∀ line ∈ report.toList.splitOn '\n', ¬ modifyLabel <+: trim line) →
        modifyTime report = none) :=
  ⟨fun _ carries => carries.modifyTime, modifyTime_eq_none⟩

/-- Half a second before 1970, written two hours east, with another labelled line behind it. -/
theorem modifyTime_exact_before_1970 :
    (∃ stamp : Time.Stamp, ⌊stamp.time⌋ = -1 ∧ Carries
      "  File: a.c\n  Modify: 1970-01-01 01:59:59.5 +0200\r\nModify: 2024-03-01 10:22:33 +0200\n"
      stamp) ∧
    modifyTime
      "  File: a.c\n  Modify: 1970-01-01 01:59:59.5 +0200\r\nModify: 2024-03-01 10:22:33 +0200\n" =
        some (-1) ∧
    modifyTime "Access: 2024-03-01 10:22:33 +0200" = none := by
  let stamp : Time.Stamp :=
    ⟨1970, 1, 1, 1, 59, 59, ['5'], ⟨false, 2, 0, by decide, by decide⟩, by decide, by decide,
      by decide, by decide, by decide, List.forall_mem_singleton.2 rfl⟩
  have floor : ⌊stamp.time⌋ = -1 := by
    rw [stamp.floor_time]
    decide
  have carries : Carries
      "  File: a.c\n  Modify: 1970-01-01 01:59:59.5 +0200\r\nModify: 2024-03-01 10:22:33 +0200\n"
      stamp :=
    ⟨["  File: a.c".toList], "  Modify: 1970-01-01 01:59:59.5 +0200\r".toList,
      ["Modify: 2024-03-01 10:22:33 +0200".toList, []], [' '], by decide +kernel, by decide +kernel,
      by decide +kernel, List.forall_mem_singleton.2 rfl⟩
  exact ⟨⟨stamp, floor, carries⟩, floor ▸ (modifyTime_exact _).1 stamp carries,
    (modifyTime_exact _).2 (by decide +kernel)⟩

end RemoteTags.Shell
