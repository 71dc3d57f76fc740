import RemoteTags.Shell.Command

/-! A quoted text is read back as one word, whatever characters it has. -/

namespace RemoteTags.Shell

variable {s word : List Char} {words : List String}

theorem read_quoted (s word : List Char) (words : List String) :
    (s.flatMap fun c => if c = '\'' then ['\'', '\\', '\'', '\''] else [c]).foldl Splitter.step
      ⟨.single, word, words⟩ = ⟨.single, s.reverse ++ word, words⟩ := by
  induction s generalizing word with
  | nil => rfl
  | cons c s ih =>
    have next : (if c = '\'' then ['\'', '\\', '\'', '\''] else [c]).foldl Splitter.step
        ⟨.single, word, words⟩ = ⟨.single, c :: word, words⟩ := by
      by_cases quote : c = '\''
      · subst quote
        rfl
      · simp [quote, Splitter.step, SplitState.step]
    rw [List.flatMap_cons, List.foldl_append, next, ih]
    simp

theorem step_of_plain {c : Char} (plain : isSpecial c = false) (state : SplitState)
    (begun : state = .between ∨ state = .bare) :
    state.step c = { state := .bare, added := [c] } := by
  have other (x : Char) (special : isSpecial x = true) : c ≠ x := by
    rintro rfl
    simp [plain] at special
  rcases begun with rfl | rfl <;>
    simp [SplitState.step, isSeparator, other '\'' rfl, other '"' rfl, other '\\' rfl,
      other ' ' rfl, other '\t' rfl, other '\n' rfl, other '#' rfl]

theorem read_plain (plain : ∀ c ∈ s, isSpecial c = false) :
    s.foldl Splitter.step ⟨.bare, word, words⟩ = ⟨.bare, s.reverse ++ word, words⟩ := by
  induction s generalizing word with
  | nil => rfl
  | cons c s ih =>
    have step := step_of_plain (plain c List.mem_cons_self) .bare (.inr rfl)
    simp only [List.foldl_cons, Splitter.step, step, Bool.false_eq_true, if_false]
    rw [ih fun d inS => plain d (List.mem_cons_of_mem c inS)]
    simp

theorem read_quoteChars (s : List Char) (words : List String) :
    (quoteChars s).foldl Splitter.step ⟨.between, [], words⟩ = ⟨.bare, s.reverse, words⟩ := by
  unfold quoteChars
  by_cases quoted : s.isEmpty || s.any isSpecial
  · rw [if_pos quoted, List.cons_append, List.foldl_cons, List.foldl_append]
    have opened : Splitter.step ⟨.between, [], words⟩ '\'' = ⟨.single, [], words⟩ := rfl
    rw [opened, read_quoted]
    simp [Splitter.step, SplitState.step]
  · rw [if_neg quoted]
    cases s with
    | nil => simp at quoted
    | cons c s =>
      have plain : ∀ d ∈ c :: s, isSpecial d = false := by simpa using quoted
      have step := step_of_plain (plain c List.mem_cons_self) .between (.inl rfl)
      simp only [List.foldl_cons, Splitter.step, step, Bool.false_eq_true, if_false]
      rw [read_plain fun d inS => plain d (List.mem_cons_of_mem c inS)]
      simp

theorem split_between {start middle source : String} (opening closing : List String)
    (starts : start.toList.foldl Splitter.step {} = ⟨.between, [], opening.reverse⟩)
    (joins : middle.toList.foldl Splitter.step ⟨.bare, source.toList.reverse, opening.reverse⟩ =
      ⟨.between, [], closing.reverse ++ source :: opening.reverse⟩) (output : String) :
    split (start ++ quote source ++ middle ++ quote output) =
      some (opening ++ source :: closing ++ [output]) := by
  have chars : (start ++ quote source ++ middle ++ quote output).toList =
      start.toList ++ quoteChars source.toList ++ middle.toList ++ quoteChars output.toList := by
    simp [quote]
  rw [split, chars, List.foldl_append, List.foldl_append, List.foldl_append, starts,
    read_quoteChars, joins, read_quoteChars]
  simp [Splitter.finish]

theorem split_gzipCommand (source output : String) :
    split (gzipCommand source output) = some ["gzip", "-c", source, ">", output] := by
  refine split_between ["gzip", "-c"] [">"] rfl ?_ output
  simp [Splitter.step, SplitState.step, isSeparator]

theorem split_statCommand (path output : String) :
    split (statCommand path output) =
      some ["stat", path, "|", "grep", "Modify", ">", output] := by
  refine split_between ["stat"] ["|", "grep", "Modify", ">"] rfl ?_ output
  simp [Splitter.step, SplitState.step, isSeparator]

end RemoteTags.Shell
