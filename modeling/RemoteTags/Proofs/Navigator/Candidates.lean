import RemoteTags.Navigator.Operation
import RemoteTags.Proofs.Path.Extension
import RemoteTags.Proofs.Tag.Index

/-! What is offered for a symbol, from the lines of the tags file on. -/

namespace RemoteTags

namespace Candidates

theorem ofList_eq_missing_iff {tags : List Tag} : ofList tags = missing ↔ tags = [] := by
  unfold ofList
  split <;> simp_all

theorem ofList_eq_single_iff {tags : List Tag} {tag : Tag} :
    ofList tags = single tag ↔ tags = [tag] := by
  unfold ofList
  split <;> simp_all

theorem ofList_eq_ambiguous_iff {tags several : List Tag} :
    ofList tags = ambiguous several ↔ tags = several ∧ 1 < several.length := by
  match tags with
  | [] => grind [ofList]
  | [_] => grind [ofList]
  | _ :: _ :: _ => grind [ofList]

end Candidates

namespace Navigator

theorem candidates_ofLines (n : Navigator) (lines : List String) (symbol : String) :
    let named := (lines.filterMap Record.parse).filter (·.name = symbol)
    let shown := named.filter fun tag =>
      ∃ x ∈ n.settings.shownExtensions, Path.HasExtension tag.file x
    { n with index := .ofLines lines }.candidates symbol =
      .ofList (if shown = [] then named else shown) := by
  simp only [candidates, TagIndex.lookup_ofLines, Path.filterByExtension_eq]

theorem candidates_from_lines (n : Navigator) (lines : List String) (symbol : String) :
    let index := TagIndex.ofLines lines
    let found := { n with index }.candidates symbol
    let named := (lines.filterMap Record.parse).filter (·.name = symbol)
    let shown := named.filter fun tag =>
      ∃ x ∈ n.settings.shownExtensions, Path.HasExtension tag.file x
    (found = .missing ↔ ∀ line ∈ lines, ∀ tag, Record.parse line = some tag → tag.name ≠ symbol) ∧
    found.toList = (if shown = [] then named else shown) ∧
    (∀ tag, found = .single tag ↔ found.toList = [tag]) ∧
    (∀ tags, found = .ambiguous tags ↔ found.toList = tags ∧ 1 < tags.length) ∧
    index.tags.toList = lines.filterMap Record.parse ∧
    (∀ name, ∀ i ∈ index.places name, i < index.tags.size) ∧
    (∀ i tag, index.tags[i]? = some tag →
      ∀ name, (index.places name).count i = if name = tag.name then 1 else 0) ∧
    ∀ tag ∈ index.tags, ¬ Record.pseudoStart <+: tag.name.toList := by
  intro index found named shown
  have faithful : index.Faithful := TagIndex.faithful_ofLines lines
  have carried : found = .ofList (if shown = [] then named else shown) :=
    candidates_ofLines n lines symbol
  have nothing : (if shown = [] then named else shown) = [] ↔ named = [] := by
    split
    · rfl
    · rename_i some
      exact ⟨fun none => absurd none some, fun none => absurd (by simp [shown, none]) some⟩
  have unnamed : named = [] ↔
      ∀ line ∈ lines, ∀ tag, Record.parse line = some tag → tag.name ≠ symbol := by
    simp only [named, List.filter_eq_nil_iff, List.mem_filterMap, decide_eq_true_eq]
    grind
  refine ⟨?_, ?_, ?_, ?_, TagIndex.tags_ofLines lines, ?_, ?_, ?_⟩
  · rw [carried, Candidates.ofList_eq_missing_iff, nothing, unnamed]
  · simp [carried]
  · simp [carried, Candidates.ofList_eq_single_iff]
  · simp [carried, Candidates.ofList_eq_ambiguous_iff]
  · intro name i listed
    obtain ⟨tag, at_i, -⟩ := faithful.mem_places_iff.1 listed
    exact (Array.getElem?_eq_some_iff.1 at_i).1
  · exact fun i tag at_i name => faithful.count_places at_i name
  · intro tag inIndex
    rw [← Array.mem_toList_iff, TagIndex.tags_ofLines] at inIndex
    obtain ⟨line, -, parsed⟩ := List.mem_filterMap.1 inIndex
    exact (Record.name_of_parse parsed).2

def mixedLines : List String :=
  ["!_TAG_FILE_SORTED\t1\t/x/", "f\ta.c\t3;\"\tf", "f\tb.RS\t4;\"\tf", "f"]

theorem candidates_from_lines_shown :
    { settings := { shownExtensions := ["rs"] }
      index := .ofLines mixedLines : Navigator }.candidates "f" =
      .single ⟨"f", "b.RS", .line "4", some "f", []⟩ := by
  obtain ⟨-, carried, single, -⟩ :=
    candidates_from_lines { settings := { shownExtensions := ["rs"] } } mixedLines "f"
  refine (single _).2 (carried.trans ?_)
  decide +kernel

end Navigator

end RemoteTags
