import Mathlib.Data.List.Basic
import Mathlib.Data.List.Induction
import RemoteTags.Tag.Index

/-! What an index holds: the records of the lines in file order, and for each name the positions
of its records. -/

namespace RemoteTags

theorem Record.name_of_parse {line : String} {tag : Tag} (parsed : parse line = some tag) :
    tag.name ≠ "" ∧ ¬ pseudoStart <+: tag.name.toList := by
  simp only [parse, Option.bind_eq_bind, Option.bind_eq_some_iff] at parsed
  obtain ⟨⟨name, file, rest⟩, -, read⟩ := parsed
  split at read
  · cases read
  · rename_i named
    simp only [Bool.or_eq_true, decide_eq_true_eq, List.isPrefixOf_iff_prefix, not_or] at named
    injection read with same
    subst same
    simpa [String.ext_iff] using named

theorem filterMap_findIdxs {α : Type} (p : α → Bool) (xs : List α) :
    (xs.findIdxs p).filterMap (fun i => xs[i]?) = xs.filter p := by
  induction xs using List.reverseRecOn with
  | nil => rfl
  | append_singleton xs x ih =>
    have before : (xs.findIdxs p).filterMap (fun i => (xs ++ [x])[i]?) = xs.filter p := by
      rw [← ih]
      refine List.filterMap_congr fun i listed => ?_
      have below : i < xs.length := by simpa using List.lt_add_of_mem_findIdxs i listed
      rw [List.getElem?_append_left below]
    rw [List.findIdxs_append, List.filterMap_append, before, List.filter_append]
    by_cases holds : p x <;> simp [holds]

namespace TagIndex

def places (index : TagIndex) (name : String) : List Nat :=
  (index.positions.getD name #[]).toList

/-- Each position is listed under the name of its tag and under no other, in file order. -/
def Faithful (index : TagIndex) : Prop :=
  ∀ name, index.places name = index.tags.toList.findIdxs (·.name = name)

theorem faithful_empty : empty.Faithful := by
  intro name
  simp [places, empty]

theorem places_push (index : TagIndex) (tag : Tag) (name : String) :
    (index.push tag).places name =
      index.places name ++ if tag.name = name then [index.tags.size] else [] := by
  by_cases same : tag.name = name <;> simp [places, push, Std.HashMap.getD_insert, same]

theorem Faithful.push {index : TagIndex} (faithful : index.Faithful) (tag : Tag) :
    (index.push tag).Faithful := by
  intro name
  rw [places_push, faithful name]
  simp [TagIndex.push, List.findIdxs_append]

theorem Faithful.foldl_push {index : TagIndex} (faithful : index.Faithful) (tags : List Tag) :
    (tags.foldl TagIndex.push index).Faithful := by
  induction tags generalizing index with
  | nil => exact faithful
  | cons tag tags ih => exact ih (faithful.push tag)

theorem faithful_ofLines (lines : List String) : (ofLines lines).Faithful :=
  faithful_empty.foldl_push _

theorem tags_foldl_push (index : TagIndex) (tags : List Tag) :
    (tags.foldl push index).tags.toList = index.tags.toList ++ tags := by
  induction tags generalizing index with
  | nil => simp
  | cons tag tags ih => simp [ih, push]

theorem tags_ofLines (lines : List String) :
    (ofLines lines).tags.toList = lines.filterMap Record.parse := by
  simp [ofLines, tags_foldl_push, empty]

section
variable {index : TagIndex} (faithful : index.Faithful)
include faithful

theorem Faithful.mem_places_iff {name : String} {i : Nat} :
    i ∈ index.places name ↔ ∃ tag, index.tags[i]? = some tag ∧ tag.name = name := by
  rw [faithful, List.mem_findIdxs_iff_exists_getElem_pos]
  simp [Array.getElem?_eq_some_iff]

theorem Faithful.count_places {i : Nat} {tag : Tag} (at_i : index.tags[i]? = some tag)
    (name : String) : (index.places name).count i = if name = tag.name then 1 else 0 := by
  have once : (index.places name).Nodup := by
    rw [faithful]
    exact List.nodup_findIdxs
  have listed : i ∈ index.places name ↔ name = tag.name := by
    simp [faithful.mem_places_iff, at_i, eq_comm]
  rw [once.count]
  simp [listed]

theorem Faithful.lookup_eq (name : String) :
    index.lookup name = index.tags.toList.filter (·.name = name) := by
  rw [← filterMap_findIdxs, ← faithful name]
  simp [lookup, places]

end

theorem lookup_ofLines (lines : List String) (name : String) :
    (ofLines lines).lookup name = (lines.filterMap Record.parse).filter (·.name = name) := by
  rw [(faithful_ofLines lines).lookup_eq, tags_ofLines]

end TagIndex

end RemoteTags
