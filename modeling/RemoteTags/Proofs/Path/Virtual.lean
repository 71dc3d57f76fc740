import Mathlib.Data.List.Basic
import RemoteTags.Path.Virtual

/-! Virtual paths are read as they are written. A colon may stand in the token and in the remote
path, and a `$` in the remote path; what is a scheme and what ends the token is told by the first
of each. So a text is read as a path in one way only: with its scheme or without it. -/

namespace RemoteTags.Path.Virtual
open Text

/-- A token and a remote path that can be told apart again. -/
structure WellFormed (v : Virtual) : Prop where
  token_ne : v.token ≠ ""
  token_plain : '$' ∉ v.token.toList
  path_ne : v.remotePath ≠ ""

def bareText (v : Virtual) : String := v.token ++ "$" ++ v.remotePath

variable {v : Virtual} {raw : String}

theorem toList_bareText (v : Virtual) :
    v.bareText.toList = v.token.toList ++ '$' :: v.remotePath.toList := by
  simp [bareText]

theorem toList_uri (v : Virtual) : v.uri.toList = scheme.toList ++ ':' :: v.bareText.toList := by
  simp [uri, bareText]

section Body

variable {before rest text : List Char}

/-- What stands in front of the first colon is the scheme, or a part of the path, or wrong. -/
theorem body_of_colon (plain : ':' ∉ before) (parts : raw.toList = before ++ ':' :: rest) :
    body raw =
      if '$' ∈ before ∨ '/' ∈ before then .ok raw.toList
      else if before = scheme.toList then .ok rest
      else .error (.scheme (String.ofList before)) := by
  rw [body, parts, cut_append rest plain]
  simp

theorem body_of_no_colon (absent : ':' ∉ raw.toList) : body raw = .ok raw.toList := by
  rw [body, cut_eq_none_iff.2 absent]

theorem body_of_scheme (parts : raw.toList = scheme.toList ++ ':' :: rest) : body raw = .ok rest := by
  rw [body_of_colon (by decide) parts, if_neg (by decide), if_pos rfl]

theorem body_bareText (plain : ':' ∉ v.token.toList) :
    body v.bareText = .ok v.bareText.toList := by
  cases halves : cut ':' v.remotePath.toList with
  | none =>
    have path := cut_eq_none_iff.1 halves
    exact body_of_no_colon (by simp [toList_bareText, plain, path])
  | some pieces =>
    obtain ⟨first, second⟩ := pieces
    obtain ⟨path, absent⟩ := eq_of_cut halves
    have parts : v.bareText.toList = (v.token.toList ++ '$' :: first) ++ ':' :: second := by
      simp [toList_bareText, path]
    rw [body_of_colon (by simp [plain, absent]) parts, if_pos (.inl (by simp))]

theorem eq_of_body (behind : body raw = .ok text) :
    raw.toList = text ∨ raw.toList = scheme.toList ++ ':' :: text := by
  cases halves : cut ':' raw.toList with
  | none =>
    rw [body_of_no_colon (cut_eq_none_iff.1 halves)] at behind
    cases behind
    exact .inl rfl
  | some pieces =>
    obtain ⟨before, rest⟩ := pieces
    obtain ⟨parts, plain⟩ := eq_of_cut halves
    rw [body_of_colon plain parts] at behind
    split_ifs at behind with isPath isScheme
    · cases behind
      exact .inl rfl
    · cases behind
      exact .inr (isScheme ▸ parts)

end Body

theorem isVirtual_iff :
    isVirtual raw = true ↔ ∃ rest, raw.toList = scheme.toList ++ ':' :: rest := by
  unfold isVirtual
  constructor
  · intro carries
    split at carries
    · rename_i rest behind
      exact ⟨rest, (List.isPrefixOf?_eq_some_iff_append_eq.1 behind).symm⟩
    · cases carries
  · rintro ⟨rest, parts⟩
    rw [parts, afterStart_append]
    rfl

theorem parse_eq_ok_iff :
    parse raw = .ok v ↔ v.WellFormed ∧ body raw = .ok v.bareText.toList := by
  unfold parse
  constructor
  · intro read
    cases behind : body raw with
    | error e =>
      rw [behind] at read
      cases read
    | ok text =>
      rw [behind] at read
      simp only [bind, Except.bind] at read
      split at read
      · cases read
      · rename_i token path parts
        obtain ⟨rfl, plain⟩ := eq_of_cut parts
        split_ifs at read with no_token no_path
        cases read
        refine ⟨⟨?_, by simpa using plain, ?_⟩, by simp [toList_bareText]⟩
        · simpa using no_token
        · simpa using no_path
  · rintro ⟨formed, behind⟩
    have token_ne : v.token.toList ≠ [] := by simpa using formed.token_ne
    have path_ne : v.remotePath.toList ≠ [] := by simpa using formed.path_ne
    rw [behind]
    simp only [bind, Except.bind, toList_bareText, cut_append _ formed.token_plain,
      if_neg token_ne, if_neg path_ne, String.ofList_toList]

theorem body_of_parse_scheme {found : String} (refused : parse raw = .error (.scheme found)) :
    body raw = .error (.scheme found) := by
  unfold parse at refused
  cases behind : body raw with
  | error e =>
    rw [behind] at refused
    cases refused
    rfl
  | ok text =>
    rw [behind] at refused
    simp only [bind, Except.bind] at refused
    split at refused
    · cases refused
    · split_ifs at refused <;> cases refused

/-- Every path is read back from its written form, and from the bare one if its token has no colon.
What is read was written in one of the two; and a text that carries the scheme is never refused for
a wrong one. -/
theorem uri_codec (v : Virtual) (raw : String) :
    (v.WellFormed → isVirtual v.uri = true ∧ parse v.uri = .ok v ∧
      (':' ∉ v.token.toList → parse v.bareText = .ok v)) ∧
    (parse raw = .ok v → v.WellFormed ∧ (raw = v.uri ∨ raw = v.bareText)) ∧
    (isVirtual raw = true → ∀ found, parse raw ≠ .error (.scheme found)) := by
  refine ⟨fun formed => ⟨?_, ?_, fun plain => ?_⟩, fun read => ?_, fun carries found refused => ?_⟩
  · exact isVirtual_iff.2 ⟨_, toList_uri v⟩
  · exact parse_eq_ok_iff.2 ⟨formed, body_of_scheme (toList_uri v)⟩
  · exact parse_eq_ok_iff.2 ⟨formed, body_bareText plain⟩
  · obtain ⟨formed, behind⟩ := parse_eq_ok_iff.1 read
    refine ⟨formed, ?_⟩
    rcases eq_of_body behind with whole | schemed
    · exact .inr (String.toList_inj.1 whole)
    · exact .inl (String.toList_inj.1 (schemed.trans (toList_uri v).symm))
  · obtain ⟨rest, parts⟩ := isVirtual_iff.1 carries
    have taken := body_of_parse_scheme refused
    rw [body_of_scheme parts] at taken
    cases taken

def nested : Virtual := ⟨"f/", "$/odd:a$b"⟩

theorem uri_codec_nested :
    nested.WellFormed ∧ ':' ∉ nested.token.toList ∧
      parse "ctagsshvf:f/$$/odd:a$b" = .ok nested ∧ parse "f/$$/odd:a$b" = .ok nested ∧
      ∀ found, parse "ctagsshvf:f/$$/odd:a$b" ≠ .error (.scheme found) := by
  have formed : nested.WellFormed := ⟨by decide, by decide, by decide⟩
  have plain : ':' ∉ nested.token.toList := by decide
  obtain ⟨written, -, accepted⟩ := uri_codec nested nested.uri
  obtain ⟨carries, read, bare⟩ := written formed
  exact ⟨formed, plain, read, bare plain, accepted carries⟩

end RemoteTags.Path.Virtual
