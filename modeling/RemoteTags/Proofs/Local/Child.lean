import RemoteTags.Proofs.Local.Parent

/-! A name that follows a directory leads to a place in this directory. -/

namespace RemoteTags.Local

variable {directory name : String}

def orHere (directory : String) : String := if directory = "" then "." else directory

theorem piecesOf_eq (path : String) :
    piecesOf path = (if isAbsolute path then path.toList.tail else path.toList).splitOn '/' := by
  unfold piecesOf isAbsolute
  split
  · rename_i rest text
    simp [text]
  · rename_i other
    cases text : path.toList with
    | nil => simp
    | cons c rest =>
      have plain : c ≠ '/' := by
        rintro rfl
        exact other rest text
      simp [plain]

theorem isAbsolute_of_plain (plain : '/' ∉ name.toList) : isAbsolute name = false := by
  rw [isAbsolute, decide_eq_false_iff_not]
  exact fun first => plain (List.mem_of_head? first)

theorem toList_join (filled : directory ≠ "") (plain : '/' ∉ name.toList) :
    ∃ front, (join directory name).toList = front ++ '/' :: name.toList ∧
      (directory.toList = front ∨ directory.toList = front ++ ['/']) := by
  rw [join, isAbsolute_of_plain plain, if_neg (by simpa using filled)]
  split
  · rename_i slashed
    obtain ⟨front, text⟩ := List.getLast?_eq_some_iff.1 slashed
    exact ⟨front, by simp [text], .inr text⟩
  · exact ⟨directory.toList, by simp, .inl rfl⟩

theorem isAbsolute_join (filled : directory ≠ "") (plain : '/' ∉ name.toList) :
    isAbsolute (join directory name) = isAbsolute directory := by
  obtain ⟨front, joined, text⟩ := toList_join filled plain
  unfold isAbsolute
  rw [joined]
  cases front with
  | nil =>
    rcases text with text | text
    · exact absurd text (by simpa using filled)
    · simp [text]
  | cons c front => rcases text with text | text <;> simp [text]

theorem piecesOf_join (filled : directory ≠ "") (plain : '/' ∉ name.toList) :
    ∃ before idle, piecesOf (join directory name) = before ++ [name.toList] ∧
      piecesOf directory = before ++ idle ∧ ∀ piece ∈ idle, piece = [] := by
  have alone : name.toList.splitOn '/' = [name.toList] := List.splitOn_eq_singleton plain
  obtain ⟨front, joined, text⟩ := toList_join filled plain
  rw [piecesOf_eq, piecesOf_eq, isAbsolute_join filled plain, joined]
  by_cases root : front = []
  · subst root
    rcases text with text | text
    · exact absurd text (by simpa using filled)
    · refine ⟨[], [[]], ?_, ?_, by simp⟩
      · simp [isAbsolute, text, alone]
      · simp [isAbsolute, text]
  · generalize isAbsolute directory = absolute
    have strip (rest : List Char) : (if absolute then (front ++ rest).tail else front ++ rest) =
        (if absolute then front.tail else front) ++ rest := by
      split
      · exact List.tail_append_of_ne_nil root
      · rfl
    generalize (if absolute then front.tail else front) = inner at strip
    rw [strip, List.splitOn_append_cons_self, alone]
    rcases text with text | text
    · have whole := strip []
      rw [List.append_nil, List.append_nil] at whole
      exact ⟨_, [], rfl, by rw [text, whole, List.append_nil], by simp⟩
    · refine ⟨_, [[]], rfl, ?_, by simp⟩
      rw [text, strip, List.splitOn_append_cons_self]
      rfl

namespace Disk

variable {d : Disk} {l : Location}

theorem Admissible.of_join (admissible : Admissible (join directory name))
    (filled : directory ≠ "") (plain : '/' ∉ name.toList) : Admissible directory := by
  obtain ⟨front, joined, text⟩ := toList_join filled plain
  have within : directory.toList <+: (join directory name).toList := by
    rw [joined]
    rcases text with text | text
    · exact text ▸ List.prefix_append _ _
    · exact text ▸ ⟨name.toList, by simp⟩
  obtain ⟨rest, whole⟩ := within
  have size : directory.utf8ByteSize ≤ (join directory name).utf8ByteSize := by
    rw [← String.ofList_toList (s := join directory name), ← whole, String.ofList_append,
      String.ofList_toList, String.utf8ByteSize_append]
    exact Nat.le_add_right _ _
  refine ⟨?_, by simpa using filled, fun long => admissible.short (Nat.le_trans long size)⟩
  have absent := admissible.plain
  rw [← whole] at absent
  simp only [List.contains_eq_mem, List.mem_append, decide_eq_false_iff_not, not_or] at absent ⊢
  exact absent.1

theorem Leads.of_join (plain : '/' ∉ name.toList) (leads : d.Leads (join directory name) l) :
    ∃ t, d.find (orHere directory) = .ok t ∧ d.node? t.location = some .directory ∧
      l = t.location ++ [name] := by
  obtain ⟨last, k, ends, walked, there, rfl⟩ := leads.walk
  by_cases filled : directory = ""
  · subst filled
    have alone : join "" name = name := by simp [join]
    have pieces : piecesOf name = [name.toList] := by
      rw [piecesOf_eq, isAbsolute_of_plain plain]
      exact List.splitOn_eq_singleton plain
    rw [alone, pieces] at ends walked
    obtain rfl : name.toList = last := by simpa using ends
    cases walked
    rw [start, isAbsolute_of_plain plain, if_neg Bool.false_ne_true] at there ⊢
    obtain ⟨t, found, place⟩ := exists_find_dot there
    exact ⟨t, found, place ▸ there, by rw [place, String.ofList_toList]⟩
  · obtain ⟨before, idle, joined, pieces, empty⟩ := piecesOf_join filled plain
    rw [joined] at ends walked
    obtain rfl : name.toList = last := by simpa using ends
    rw [List.dropLast_concat, start, isAbsolute_join filled plain] at walked
    have onward : d.walk k (idle.map String.ofList) = .ok k := by
      refine walk_idle there fun piece inIdle => ?_
      obtain ⟨chars, here, rfl⟩ := List.mem_map.1 inIdle
      rw [empty chars here]
    have whole := walk_append walked onward
    rw [← List.map_append, ← pieces] at whole
    obtain ⟨t, found, place⟩ :=
      exists_find_of_walk ((admissible_of_find leads).of_join filled plain) whole there
    exact ⟨t, by rwa [orHere, if_neg filled], place ▸ there, by rw [place, String.ofList_toList]⟩

end Disk

end RemoteTags.Local
