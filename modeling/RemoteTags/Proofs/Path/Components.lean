import RemoteTags.Path.Remote
import RemoteTags.Proofs.Text.Split

/-! Joining remote paths and putting a home directory in front keep the components of both parts,
however many slashes and `./` pieces there are where they meet. -/

namespace RemoteTags.Path
open Text

def Absolute (path : String) : Prop := path.toList.head? = some slash

instance (path : String) : Decidable (Absolute path) := inferInstanceAs (Decidable (_ = _))

theorem components_append (a b : List Char) :
    components (a ++ slash :: b) = components a ++ components b := by
  rw [components, List.splitOn_append_cons_self, List.filter_append]
  rfl

theorem components_dropTrailing (path : List Char) :
    components (dropTrailing (· = slash) path) = components path :=
  filter_splitOn_dropTrailing rfl path

theorem components_withoutDots (path : List Char) :
    components (withoutDots path) = components path := by
  fun_induction withoutDots path with
  | case1 rest ih =>
    calc components (withoutDots rest)
      _ = components ['.'] ++ components rest := ih
      _ = components ('.' :: '/' :: rest) := (components_append ['.'] rest).symm
  | case2 => rfl

theorem head?_below {root : List Char} (rooted : root ≠ []) (rest : List Char) :
    (dropTrailing (· = slash) root ++ slash :: rest).head? = some slash ↔
      root.head? = some slash := by
  obtain ⟨c, others, rfl⟩ := List.exists_cons_of_ne_nil rooted
  by_cases slashed : c = slash
  · subst slashed
    -- Nothing is left of the root, or what begins as it does.
    have start := dropTrailing_prefix (· = slash) (slash :: others)
    generalize dropTrailing (· = slash) (slash :: others) = kept at start
    cases kept with
    | nil => simp
    | cons d kept =>
      obtain rfl : d = slash := (List.cons_prefix_cons.1 start).1
      simp
  · have kept := dropTrailing_append_cons_of_not (p := (· = slash)) [] others (a := c)
      (by simpa using slashed)
    rw [List.nil_append, List.nil_append] at kept
    rw [kept]
    simp

theorem join_of_relative {root path : String} (relative : ¬Absolute path) (rooted : root ≠ "") :
    join root path = String.ofList
      (dropTrailing (· = slash) root.toList ++ slash :: withoutDots path.toList) := by
  unfold Absolute at relative
  simp [join, relative, rooted]

theorem components_join {root path : String} (relative : ¬Absolute path) :
    components (join root path).toList = components root.toList ++ components path.toList := by
  by_cases rooted : root = ""
  · subst rooted
    simp [join, components]
  · rw [join_of_relative relative rooted, String.toList_ofList, components_append,
      components_dropTrailing, components_withoutDots]

theorem absolute_join {root path : String} (relative : ¬Absolute path) :
    Absolute (join root path) ↔ Absolute root := by
  by_cases rooted : root = ""
  · subst rooted
    have alone : join "" path = path := by simp [join]
    have nowhere : ¬Absolute "" := by decide
    rw [alone]
    exact iff_of_false relative nowhere
  · rw [join_of_relative relative rooted, Absolute, String.toList_ofList]
    exact head?_below (by simpa using rooted) _

theorem join_of_absolute {path : String} (absolute : Absolute path) (root : String) :
    join root path = path := by
  unfold Absolute at absolute
  simp [join, absolute]

section Home

variable {home : String}

theorem expandHome_below (home rest : String) :
    expandHome home ("~/" ++ rest) =
      String.ofList (dropTrailing (· = slash) home.toList ++ slash :: rest.toList) := by
  simp [expandHome]

theorem components_expandHome (home rest : String) :
    components (expandHome home ("~/" ++ rest)).toList =
      components home.toList ++ components rest.toList := by
  rw [expandHome_below, String.toList_ofList, components_append, components_dropTrailing]

theorem absolute_expandHome (absolute : Absolute home) (rest : String) :
    Absolute (expandHome home ("~/" ++ rest)) := by
  have rooted : home.toList ≠ [] := by
    intro empty
    simp [Absolute, empty] at absolute
  rw [expandHome_below, Absolute, String.toList_ofList]
  exact (head?_below rooted _).2 absolute

theorem expandHome_of_other {path : String} (alone : path ≠ "~")
    (below : ∀ rest, path ≠ "~/" ++ rest) (home : String) : expandHome home path = path := by
  unfold expandHome
  split
  · rename_i same
    exact absurd (String.toList_inj.1 same) alone
  · rename_i rest same
    refine absurd (String.toList_inj.1 ?_) (below (String.ofList rest))
    simp [same]
  · rfl

theorem expandHome_of_absolute {path : String} (absolute : Absolute path) (home : String) :
    expandHome home path = path := by
  refine expandHome_of_other ?_ (fun rest => ?_) home
  · rintro rfl
    exact absurd absolute (by decide)
  · rintro rfl
    simp [Absolute, slash] at absolute

theorem expandHome_expandHome (absolute : Absolute home) (other path : String) :
    expandHome other (expandHome home path) = expandHome home path := by
  by_cases alone : path = "~"
  · subst alone
    exact expandHome_of_absolute absolute other
  by_cases below : ∃ rest, path = "~/" ++ rest
  · obtain ⟨rest, rfl⟩ := below
    exact expandHome_of_absolute (absolute_expandHome absolute rest) other
  · have stays (home : String) := expandHome_of_other alone (not_exists.1 below) home
    rw [stays, stays]

end Home

/-- A relative path below a root has the components of the root and then its own; it is absolute if
the root is. An absolute path stays. So it is below a home directory, and nothing is expanded
twice. -/
theorem joined_components (root path home rest : String) :
    (Absolute path → join root path = path) ∧
    (¬Absolute path →
      components (join root path).toList = components root.toList ++ components path.toList ∧
        (Absolute (join root path) ↔ Absolute root)) ∧
    (Absolute home →
      (components (expandHome home ("~/" ++ rest)).toList =
          components home.toList ++ components rest.toList ∧
        Absolute (expandHome home ("~/" ++ rest))) ∧
      ∀ other again, expandHome again (expandHome home other) = expandHome home other) :=
  ⟨fun absolute => join_of_absolute absolute root,
    fun relative => ⟨components_join relative, absolute_join relative⟩,
    fun absolute => ⟨⟨components_expandHome home rest, absolute_expandHome absolute rest⟩,
      fun other again => expandHome_expandHome absolute again other⟩⟩

theorem joined_components_dotted :
    ¬Absolute "././/a.c" ∧ Absolute (join "//src//" "././/a.c") ∧
      components (join "//src//" "././/a.c").toList = ["src".toList, "a.c".toList] ∧
      Absolute "/b.c" ∧ join "//src//" "/b.c" = "/b.c" ∧
      Absolute "/home/dev/" ∧
      components (expandHome "/home/dev/" ("~/" ++ "/a.c")).toList =
        ["home".toList, "dev".toList, "a.c".toList] := by
  have relative : ¬Absolute "././/a.c" := by decide
  have absolute : Absolute "/b.c" := by decide
  have home : Absolute "/home/dev/" := by decide
  obtain ⟨_, below, atHome⟩ := joined_components "//src//" "././/a.c" "/home/dev/" "/a.c"
  obtain ⟨stays, _⟩ := joined_components "//src//" "/b.c" "/home/dev/" "/a.c"
  refine ⟨relative, (below relative).2.2 (by decide), (below relative).1.trans ?_, absolute,
    stays absolute, home, (atHome home).1.1.trans ?_⟩
  · decide +kernel
  · decide +kernel

end RemoteTags.Path
