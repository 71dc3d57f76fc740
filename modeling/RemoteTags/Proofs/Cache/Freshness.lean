import RemoteTags.Proofs.Cache.Stage

/-! What the cache holds was once in the file, and is never older than the modify time beside it.
The time is observed before the content is read, so the two may belong to different versions; but
the content can only be the newer one. -/

namespace RemoteTags.Cache

/-- Every write raises the modify time of its file. -/
def Rises (fs : Files) : List Event → Prop
  | .wrote path f :: h => (filesAfter fs h path).mtime < f.mtime ∧ Rises fs h
  | _ :: h => Rises fs h
  | [] => True

theorem Rises.append {fs : Files} {g h : List Event} (path : String) (rises : Rises fs (g ++ h)) :
    (filesAfter fs h path).mtime ≤ (filesAfter fs (g ++ h) path).mtime ∧
      ((filesAfter fs h path).mtime = (filesAfter fs (g ++ h) path).mtime →
        filesAfter fs h path = filesAfter fs (g ++ h) path) := by
  induction g with
  | nil => exact ⟨Int.le_refl _, fun _ => rfl⟩
  | cons e g ih =>
    cases e with
    | wrote other f =>
      obtain ⟨le, same⟩ := ih rises.2
      by_cases here : path = other
      · subst here
        have now : filesAfter fs (.wrote path f :: g ++ h) path = f := if_pos rfl
        have newer : (filesAfter fs (g ++ h) path).mtime < f.mtime := rises.1
        rw [now]
        constructor
        · omega
        · intro equal
          omega
      · have now : filesAfter fs (.wrote other f :: g ++ h) path = filesAfter fs (g ++ h) path :=
          if_neg here
        rw [now]
        exact ⟨le, same⟩
    | called | answered => exact ih rises

theorem Rises.of_suffix {fs : Files} {g h : List Event} (rises : Rises fs h) (suffix : g <:+ h) :
    Rises fs g := by
  obtain ⟨k, rfl⟩ := suffix
  induction k with
  | nil => exact rises
  | cons e k ih =>
    cases e with
    | wrote => exact ih rises.2
    | called | answered => exact ih rises

section Moments

variable (fs : Files) (h : List Event)

def Seen (i : Nat) (path : String) (mtime : Int) : Prop :=
  ∃ g, .answered i (.stat path) (.ok mtime) :: g <:+ h ∧ (filesAfter fs g path).mtime = mtime

/-- The file has had this content, with a modify time that is not older, at a moment after caller
`i` was told the modify time. -/
def Got (i : Nat) (path : String) (mtime : Int) (bytes : Bytes) : Prop :=
  ∃ g, g <:+ h ∧ .answered i (.stat path) (.ok mtime) ∈ g ∧
    mtime ≤ (filesAfter fs g path).mtime ∧ (filesAfter fs g path).bytes = bytes

def Held (path : String) (e : CachedFile) : Prop :=
  ∃ g, g <:+ h ∧ e.mtime ≤ (filesAfter fs g path).mtime ∧
    e.content = Utf8.lossyString (filesAfter fs g path).bytes

def Stage.Sound (i : Nat) (path : String) : Stage → Prop
  | .checking mtime | .validating mtime _ | .fetching mtime => Seen fs h i path mtime
  | .keeping mtime bytes | .storing mtime bytes _ => Got fs h i path mtime bytes
  | _ => True

end Moments

section Later

variable {fs : Files} {h : List Event} {i : Nat} {path : String} (e : Event)

theorem Seen.later {mtime : Int} (s : Seen fs h i path mtime) : Seen fs (e :: h) i path mtime := by
  obtain ⟨g, suffix, told⟩ := s
  exact ⟨g, suffix.trans (List.suffix_cons e h), told⟩

theorem Got.later {mtime : Int} {bytes : Bytes} (s : Got fs h i path mtime bytes) :
    Got fs (e :: h) i path mtime bytes := by
  obtain ⟨g, suffix, told⟩ := s
  exact ⟨g, suffix.trans (List.suffix_cons e h), told⟩

theorem Held.later {entry : CachedFile} (s : Held fs h path entry) :
    Held fs (e :: h) path entry := by
  obtain ⟨g, suffix, told⟩ := s
  exact ⟨g, suffix.trans (List.suffix_cons e h), told⟩

theorem Stage.Sound.later {σ : Stage} (s : σ.Sound fs h i path) : σ.Sound fs (e :: h) i path := by
  cases σ with
  | checking | validating | fetching => exact Seen.later e s
  | keeping | storing => exact Got.later e s
  | _ => trivial

end Later

structure Faithful (fs : Files) (h : List Event) (s : Sharing) : Prop where
  files : s.files = filesAfter fs h
  rises : Rises fs h
  callers : ∀ i c, s.callers[i]? = some c → Tracks (Stage.Sound fs h i) c
  entries : ∀ path e, s.cache.file? path = some e → Held fs h path e

namespace Sharing

variable {admits : Sharing → Prop} {fs : Files} {h : List Event} {s t u : Sharing} {e : Event}

theorem get?_append_cases {cs : List Caller} {c d : Caller} {k : Nat}
    (there : (cs ++ [d])[k]? = some c) : cs[k]? = some c ∨ c = d := by
  rw [List.getElem?_append] at there
  split at there
  · exact .inl there
  · exact .inr (List.mem_singleton.1 (List.mem_of_getElem? there))

theorem get?_set_cases {cs : List Caller} {c d : Caller} {j k : Nat}
    (there : (cs.set j c)[k]? = some d) : (k = j ∧ c = d) ∨ cs[k]? = some d := by
  rw [List.getElem?_set] at there
  split at there
  · split at there
    · exact .inl ⟨Eq.symm ‹_›, Option.some.inj there⟩
    · cases there
  · exact .inr there

theorem le_of_seen {i : Nat} {path : String} {mtime : Int} (rises : Rises fs h)
    (seen : Seen fs h i path mtime) : mtime ≤ (filesAfter fs h path).mtime := by
  obtain ⟨g, ⟨k, rfl⟩, rfl⟩ := seen
  exact (Rises.append path rises).1

theorem mem_of_seen {i : Nat} {path : String} {mtime : Int} (seen : Seen fs h i path mtime) :
    .answered i (.stat path) (.ok mtime) ∈ h := by
  obtain ⟨g, suffix, -⟩ := seen
  exact suffix.mem List.mem_cons_self

theorem sound_of_goes {i : Nat} {path : String} {σ σ' : Stage} {a : Ask} {r : a.Reply}
    {after : Cache} (f : Faithful fs h s) (sound : σ.Sound fs h i path)
    (goes : Stage.Goes path σ a r σ') (replies : s.Replies a r after) :
    σ'.Sound fs (.answered i a r :: h) i path := by
  cases goes with
  | seen mtime =>
    obtain ⟨told, -⟩ := replies
    cases told
    exact ⟨h, List.suffix_rfl, by rw [f.files]⟩
  | unseen failure => cases replies.1
  | timed | miss => exact Seen.later _ sound
  | read mtime bytes =>
    rcases replies.1 with told | ⟨_, failed⟩
    · cases told
      exact ⟨h, List.suffix_cons _ _, mem_of_seen sound, le_of_seen f.rises sound, by rw [f.files]⟩
    · cases failed
  | dated => exact Got.later _ sound
  | _ => trivial

theorem cache_of_replies {a : Ask} {r : a.Reply} {after : Cache} (replies : s.Replies a r after)
    (other : ∀ x, a ≠ .store x) : after = s.cache := by
  cases a with
  | store x => exact absurd rfl (other x)
  | stat | read => exact replies.2
  | connected | clock => exact replies

theorem after_of_replies {x : Section} {r : x.Reply} {after : Cache}
    (replies : s.Replies (.store x) r after) : after = (x.answer s.cache).2 :=
  congrArg Prod.snd (show (r, after) = _ from replies)

theorem after_of_newer {path : String} {mtime now : Int} {found : Bool} {after : Cache}
    {entry : CachedFile} (cached : s.cache.file? path = some entry) (newer : mtime ≤ entry.mtime)
    (replies : s.Replies (.store (.validate path mtime now)) found after) :
    found = true ∧ after = s.cache.touch path now := by
  have hit := validate_of_newer cached newer now
  cases (show (found, after) = _ from replies).trans hit
  exact ⟨rfl, rfl⟩

theorem held_of_insert {i : Nat} {c : Caller} {entry : CachedFile}
    {next : Unit → Plan c.call.Answer} (f : Faithful fs h s) (present : s.callers[i]? = some c)
    (asks : c.rest = .ask (.store (.insert entry)) next) : Held fs h entry.remotePath entry := by
  rcases (f.callers i c present).ask_cases asks () with
    ⟨path, σ, σ', -, sound, goes, -⟩ | ⟨⟨_, other⟩ | other, -⟩
  · cases goes with
    | stored mtime bytes now =>
      obtain ⟨g, suffix, -, newer, same⟩ := sound
      exact ⟨g, suffix, newer, congrArg Utf8.lossyString same.symm⟩
  · cases other
  · cases other

theorem held_of_found {i : Nat} {c : Caller} {a : Ask} {next : a.Reply → Plan c.call.Answer}
    {r : a.Reply} {after : Cache} {path : String} {entry : CachedFile} (f : Faithful fs h s)
    (present : s.callers[i]? = some c) (asks : c.rest = .ask a next)
    (replies : s.Replies a r after) (found : after.file? path = some entry) :
    Held fs h path entry := by
  cases a with
  | store x =>
    cases after_of_replies replies
    have path_eq := remotePath_of_file? found
    rcases file?_answer found with ⟨old, was, mtime, content⟩ | rfl
    · obtain ⟨g, suffix, newer, same⟩ := f.entries path old was
      exact ⟨g, suffix, mtime ▸ newer, content ▸ same⟩
    · exact path_eq ▸ held_of_insert f present asks
  | _ =>
    rw [cache_of_replies replies nofun] at found
    exact f.entries path entry found

theorem Faithful.step (f : Faithful fs h s) (step : Step admits s e t) :
    Faithful fs (e :: h) t := by
  cases step with
  | write newer =>
    exact {
      files := by rw [f.files]; rfl
      rises := ⟨f.files ▸ newer, f.rises⟩
      callers := fun i c there => (f.callers i c there).mono fun _ _ sound => sound.later _
      entries := fun path e found => (f.entries path e found).later _ }
  | call c admitted =>
    refine { f with callers := fun i d there => ?_, entries := ?_ }
    · rcases get?_append_cases there with old | rfl
      · exact (f.callers i d old).mono fun _ _ sound => sound.later _
      · exact .start (fun _ => trivial) c
    · exact fun path e found => (f.entries path e found).later _
  | @answer i c a next r after present asks replies =>
    refine { f with callers := fun j d there => ?_, entries := fun path entry found => ?_ }
    · rcases get?_set_cases there with ⟨rfl, rfl⟩ | old
      · rcases (f.callers j c present).ask_cases asks r with
          ⟨path, σ, σ', -, sound, goes, tracks⟩ | ⟨-, tracks⟩
        · exact tracks _ (sound_of_goes f sound goes replies)
        · exact tracks _
      · exact (f.callers j d old).mono fun _ _ sound => sound.later _
    · exact (held_of_found f present asks replies found).later _

theorem Run.faithful (run : Run admits fs h s) : Faithful fs h s := by
  induction run with
  | refl =>
    refine ⟨rfl, trivial, by simp, fun path e found => ?_⟩
    cases found
  | step _ last ih => exact Faithful.step ih last

theorem moment_of_held {i : Nat} {path : String} {mtime : Int} {entry : CachedFile}
    (rises : Rises fs h) (seen : Seen fs h i path mtime) (held : Held fs h path entry)
    (hit : mtime ≤ entry.mtime) :
    ∃ g, g <:+ h ∧ .answered i (.stat path) (.ok mtime) ∈ g ∧
      entry.content = Utf8.lossyString (filesAfter fs g path).bytes := by
  obtain ⟨told, after, time⟩ := seen
  obtain ⟨g, suffix, newer, content⟩ := held
  rcases List.suffix_or_suffix_of_suffix after suffix with later | earlier
  · exact ⟨g, suffix, later.mem List.mem_cons_self, content⟩
  · rcases List.suffix_cons_iff.1 earlier with rfl | before
    · exact ⟨_, suffix, List.mem_cons_self, content⟩
    · -- Then nothing was written between the two moments.
      have upTo := (rises.of_suffix after).of_suffix (List.suffix_cons _ told)
      obtain ⟨k, rfl⟩ := before
      obtain ⟨le, same⟩ := Rises.append path upTo
      refine ⟨_, after, List.mem_cons_self, ?_⟩
      rw [content, same (by omega)]
      rfl

theorem ended_of_tracks {P : String → Stage → Prop} {path : String} {r : Except SessionError Unit}
    (t : Tracks P ⟨.preload path, .done r⟩) : P path (.ended r) := by
  generalize same : (⟨.preload path, .done r⟩ : Caller) = c at t
  cases t with
  | @preload other σ holds =>
    cases σ with
    | ended r' =>
      cases same
      exact holds
    | _ => cases same
  | _ => cases same

theorem goes_of_returned {P : String → Stage → Prop} {c : Caller} {a : Ask}
    {next : a.Reply → Plan c.call.Answer} {r : a.Reply} {path : String} (t : Tracks P c)
    (asks : c.rest = .ask a next)
    (returned : (⟨c.call, next r⟩ : Caller) = ⟨.preload path, .done (.ok ())⟩) :
    ∃ σ, P path σ ∧ Stage.Goes path σ a r (.ended (.ok ())) := by
  rcases t.ask_cases asks r with ⟨q, σ, σ', -, holds, goes, tracks⟩ | ⟨-, tracks⟩
  · have ended := tracks (fun p τ => p = q ∧ τ = σ') ⟨rfl, rfl⟩
    rw [returned] at ended
    obtain ⟨rfl, rfl⟩ := ended_of_tracks ended
    exact ⟨σ, holds, goes⟩
  · have ended := tracks fun _ _ => False
    rw [returned] at ended
    exact (ended_of_tracks ended).elim

theorem content_of_returned {i : Nat} {a : Ask} {r : a.Reply} {path : String}
    (f : Faithful fs h s) (step : Step admits s (.answered i a r) t)
    (returned : t.callers[i]? = some ⟨.preload path, .done (.ok ())⟩) :
    ∃ g mtime, g <:+ .answered i a r :: h ∧ .answered i (.stat path) (.ok mtime) ∈ g ∧
      t.cache.content? path = some (Utf8.lossyString (filesAfter fs g path).bytes) := by
  cases step with
  | @answer _ c _ next _ after present asks replies =>
    dsimp only at returned ⊢
    rw [List.getElem?_set_self (List.getElem?_eq_some_iff.1 present).1] at returned
    obtain ⟨σ, sound, goes⟩ :=
      goes_of_returned (f.callers i c present) asks (Option.some.inj returned)
    cases goes with
    | hit mtime now =>
      obtain ⟨entry, found, newer, content⟩ := validate_of_hit replies
      obtain ⟨g, suffix, told, was⟩ :=
        moment_of_held f.rises sound (f.entries path entry found) newer
      exact ⟨g, mtime, suffix.trans (List.suffix_cons _ _), told, by rw [content, was]⟩
    | stored mtime bytes now =>
      obtain ⟨g, suffix, told, -, was⟩ := sound
      refine ⟨g, mtime, suffix.trans (List.suffix_cons _ _), told, ?_⟩
      have stored := after_of_replies replies
      dsimp only [Section.answer] at stored
      rw [stored, content?, file?_insert, if_pos rfl, was]
      rfl

theorem Run.last (run : Run InTurn fs h s) {k : Nat} {c : Caller}
    (there : s.callers[k]? = some c) (underWay : c.rest.result? = none) :
    k + 1 = s.callers.length := by
  induction run generalizing k c with
  | refl => cases there
  | @step h t u e _ last ih =>
    cases last with
    | write => exact ih there underWay
    | @call d admitted =>
      -- Nobody else may be under way when a call comes.
      have within := (List.getElem?_eq_some_iff.1 there).1
      dsimp only at there within ⊢
      rw [List.length_append, List.length_singleton] at within ⊢
      by_cases old : k < t.callers.length
      · rw [List.getElem?_append_left old] at there
        have returned := admitted c (List.mem_of_getElem? there)
        rw [underWay] at returned
        cases returned
      · omega
    | @answer i d a next r after present asks replies =>
      dsimp only at there ⊢
      rw [List.length_set]
      rcases get?_set_cases there with ⟨rfl, -⟩ | old
      · exact ih present (by rw [asks]; rfl)
      · exact ih old underWay

end Sharing

def Stage.Timely (now : Int) : Stage → Prop
  | .checking mtime | .validating mtime _ | .fetching mtime | .keeping mtime _
  | .storing mtime _ _ => mtime = now
  | _ => True

def Stage.Unread : Stage → Prop
  | .fetching _ | .keeping _ _ | .storing _ _ _ => False
  | _ => True

/-- An event that neither changes a file nor takes it out of the cache. -/
def Event.Spares (path : String) : Event → Prop
  | .wrote other _ | .answered _ (.store (.invalidate other)) _ => other ≠ path
  | .answered _ (.store .flush) _ => False
  | _ => True

namespace Sharing

variable {admits : Sharing → Prop} {fs : Files} {h : List Event} {s t u : Sharing} {e : Event}

theorem timely_of_goes {path : String} {σ σ' : Stage} {a : Ask} {r : a.Reply} {after : Cache}
    (timely : σ.Timely (s.files path).mtime) (goes : Stage.Goes path σ a r σ')
    (replies : s.Replies a r after) : σ'.Timely (s.files path).mtime := by
  cases goes with
  | seen mtime =>
    obtain ⟨told, -⟩ := replies
    cases told
    exact rfl
  | unseen failure => cases replies.1
  | timed | miss | read | dated => exact timely
  | _ => trivial

theorem keeps_newer_here {path : String} {σ σ' : Stage} {a : Ask} {r : a.Reply} {after : Cache}
    {entry : CachedFile} (timely : σ.Timely (s.files path).mtime) (unread : σ.Unread)
    (goes : Stage.Goes path σ a r σ') (replies : s.Replies a r after)
    (found : s.cache.file? path = some entry) (newer : (s.files path).mtime ≤ entry.mtime) :
    a ≠ .read path ∧ (∃ e, after.file? path = some e ∧ (s.files path).mtime ≤ e.mtime) ∧
      σ'.Unread := by
  cases goes with
  | hit mtime now =>
    cases (show mtime = _ from timely)
    have touched := after_of_newer found newer replies
    obtain ⟨e, found', mtime⟩ := exists_file?_touch found now
    rw [← touched.2] at found'
    exact ⟨nofun, ⟨e, found', mtime ▸ newer⟩, trivial⟩
  | miss mtime now =>
    cases (show mtime = _ from timely)
    cases (after_of_newer found newer replies).1
  | read | failed | dated | stored => exact unread.elim
  | _ =>
    rw [cache_of_replies replies nofun]
    exact ⟨nofun, ⟨entry, found, newer⟩, trivial⟩

theorem keeps_other {path other : String} {σ σ' : Stage} {a : Ask} {r : a.Reply} {after : Cache}
    {entry : CachedFile} (ne : path ≠ other) (goes : Stage.Goes other σ a r σ')
    (replies : s.Replies a r after) (found : s.cache.file? path = some entry) :
    a ≠ .read path ∧ after.file? path = some entry := by
  cases goes with
  | hit mtime now | miss mtime now =>
    have kept : (s.cache.validate other mtime now).2.file? path = some entry :=
      file?_validate_of_ne ne found
    exact ⟨nofun, after_of_replies replies ▸ kept⟩
  | stored mtime bytes now =>
    refine ⟨nofun, ?_⟩
    have inserted := after_of_replies replies
    dsimp only [Section.answer] at inserted
    rw [inserted, file?_insert, if_neg ne, found]
  | read | failed =>
    rw [cache_of_replies replies nofun]
    refine ⟨?_, found⟩
    rintro ⟨⟩
    exact ne rfl
  | _ =>
    rw [cache_of_replies replies nofun]
    exact ⟨nofun, found⟩

theorem keeps_newer {path : String} {i : Nat} {c : Caller} {a : Ask}
    {next : a.Reply → Plan c.call.Answer} {r : a.Reply} {after : Cache} {entry : CachedFile}
    (tracks : Tracks (fun q σ => q = path → σ.Timely (s.files path).mtime ∧ σ.Unread) c)
    (asks : c.rest = .ask a next) (replies : s.Replies a r after)
    (spares : (Event.answered i a r).Spares path) (found : s.cache.file? path = some entry)
    (newer : (s.files path).mtime ≤ entry.mtime) :
    a ≠ .read path ∧ (∃ e, after.file? path = some e ∧ (s.files path).mtime ≤ e.mtime) ∧
      Tracks (fun q σ => q = path → σ.Timely (s.files path).mtime ∧ σ.Unread)
        ⟨c.call, next r⟩ := by
  rcases tracks.ask_cases asks r with
    ⟨q, σ, σ', -, holds, goes, follows⟩ | ⟨⟨other, rfl⟩ | rfl, follows⟩
  · by_cases same : q = path
    · subst same
      obtain ⟨timely, unread⟩ := holds rfl
      obtain ⟨silent, cached, unread'⟩ := keeps_newer_here timely unread goes replies found newer
      exact ⟨silent, cached, follows _ fun _ => ⟨timely_of_goes timely goes replies, unread'⟩⟩
    · obtain ⟨silent, kept⟩ := keeps_other (Ne.symm same) goes replies found
      exact ⟨silent, ⟨entry, kept, newer⟩, follows _ fun eq => absurd eq same⟩
  · refine ⟨nofun, ⟨entry, ?_, newer⟩, follows _⟩
    have erased := after_of_replies replies
    dsimp only [Section.answer] at erased
    rw [erased, file?_erase, if_neg (Ne.symm spares), found]
  · exact (show False from spares).elim

theorem cached_of_returned {c : Caller} {a : Ask} {next : a.Reply → Plan c.call.Answer}
    {r : a.Reply} {after : Cache} {path : String} {now : Int}
    (tracks : Tracks (fun q σ => q = path → σ.Timely now) c) (asks : c.rest = .ask a next)
    (replies : s.Replies a r after)
    (returned : (⟨c.call, next r⟩ : Caller) = ⟨.preload path, .done (.ok ())⟩) :
    ∃ e, after.file? path = some e ∧ now ≤ e.mtime := by
  obtain ⟨σ, timely, goes⟩ := goes_of_returned tracks asks returned
  have timely := timely rfl
  cases goes with
  | hit mtime time =>
    cases (show mtime = now from timely)
    obtain ⟨entry, found, newer, -⟩ := validate_of_hit replies
    have touched := after_of_newer found newer replies
    obtain ⟨e, found', mtime⟩ := exists_file?_touch found time
    exact ⟨e, touched.2 ▸ found', mtime ▸ newer⟩
  | stored mtime bytes time =>
    cases (show mtime = now from timely)
    have stored := after_of_replies replies
    dsimp only [Section.answer] at stored
    exact ⟨_, by rw [stored, file?_insert, if_pos rfl], Int.le_refl _⟩

/-- The entry of a path is new enough, and nobody after caller `i` has read the file. -/
structure Spared (path : String) (i : Nat) (h : List Event) (s : Sharing) : Prop where
  cached : ∃ e, s.cache.file? path = some e ∧ (s.files path).mtime ≤ e.mtime
  unread : ∀ k c, i < k → s.callers[k]? = some c →
    Tracks (fun q σ => q = path → σ.Timely (s.files path).mtime ∧ σ.Unread) c
  silent : ∀ j r, i < j → .answered j (.read path) r ∉ h

/-- What holds after the call of caller `i`, as long as the file at `path` is spared. -/
structure Kept (path : String) (i : Nat) (h : List Event) (s : Sharing) : Prop where
  known : ∀ j a r, .answered j a r ∈ h → j < s.callers.length
  timely : ∀ k c, i ≤ k → s.callers[k]? = some c →
    Tracks (fun q σ => q = path → σ.Timely (s.files path).mtime) c
  spared : s.callers[i]? = some ⟨.preload path, .done (.ok ())⟩ → Spared path i h s

theorem get?_of_returned {cs : List Caller} {c : Call} {k : Nat} {path : String}
    {r : Except SessionError Unit}
    (there : (cs ++ [⟨c, c.plan⟩])[k]? = some ⟨.preload path, .done r⟩) :
    cs[k]? = some ⟨.preload path, .done r⟩ := by
  rcases get?_append_cases there with old | new
  · exact old
  · cases c <;> cases new

theorem Kept.write {path other : String} {f : File} {i : Nat} (k : Kept path i h s)
    (spares : other ≠ path) :
    Kept path i (.wrote other f :: h) { s with files := s.files.write other f } := by
  have same : (s.files.write other f) path = s.files path := if_neg (Ne.symm spares)
  refine ⟨fun j a r answered => k.known j a r (by simpa using answered), ?_, fun returned => ?_⟩
  · simpa only [same] using k.timely
  · have ⟨cached, unread, silent⟩ := k.spared returned
    refine ⟨?_, ?_, fun j r later => by simpa using silent j r later⟩
    · simpa only [same] using cached
    · simpa only [same] using unread

theorem Kept.call {path : String} {i : Nat} (k : Kept path i h s) (c : Call) :
    Kept path i (.called s.callers.length :: h)
      { s with callers := s.callers ++ [⟨c, c.plan⟩] } where
  known j a r answered := by
    have := k.known j a r (by simpa using answered)
    simp only [List.length_append]
    omega
  timely j d le there := by
    rcases get?_append_cases there with old | rfl
    · exact k.timely j d le old
    · exact .start (fun _ _ => trivial) c
  spared returned := by
    have ⟨cached, unread, silent⟩ := k.spared (get?_of_returned returned)
    refine ⟨cached, fun j d lt there => ?_, fun j r later => by simpa using silent j r later⟩
    rcases get?_append_cases there with old | rfl
    · exact unread j d lt old
    · exact .start (fun _ _ => ⟨trivial, trivial⟩) c

section Answer

variable {path : String} {i j : Nat} {c : Caller} {a : Ask} {next : a.Reply → Plan c.call.Answer}
  {r : a.Reply} {after : Cache}

theorem Spared.answer (spared : Spared path i h s) (later : i < j)
    (present : s.callers[j]? = some c) (asks : c.rest = .ask a next)
    (replies : s.Replies a r after) (spares : (Event.answered j a r).Spares path) :
    Spared path i (.answered j a r :: h)
      { s with cache := after, callers := s.callers.set j { c with rest := next r } } := by
  obtain ⟨⟨entry, found, newer⟩, unread, silent⟩ := spared
  obtain ⟨other, cached, tracks⟩ :=
    keeps_newer (unread j c later present) asks replies spares found newer
  refine ⟨cached, fun l d lt there => ?_, fun l r' lt answered => ?_⟩
  · rcases get?_set_cases there with ⟨rfl, rfl⟩ | old
    · exact tracks
    · exact unread l d lt old
  · rcases List.mem_cons.1 answered with same | earlier
    · cases same
      exact other rfl
    · exact silent l r' lt earlier

theorem Kept.timely_answer (k : Kept path i h s) (le : i ≤ j) (present : s.callers[j]? = some c)
    (asks : c.rest = .ask a next) (replies : s.Replies a r after) :
    Tracks (fun q σ => q = path → σ.Timely (s.files path).mtime) { c with rest := next r } := by
  rcases (k.timely j c le present).ask_cases asks r with
    ⟨q, σ, σ', -, timely, goes, tracks⟩ | ⟨-, tracks⟩
  · refine tracks _ fun same => ?_
    subst same
    exact timely_of_goes (timely rfl) goes replies
  · exact tracks _

theorem Kept.answer (k : Kept path i h s) (last : j + 1 = s.callers.length)
    (present : s.callers[j]? = some c) (asks : c.rest = .ask a next)
    (replies : s.Replies a r after) (spares : (Event.answered j a r).Spares path) :
    Kept path i (.answered j a r :: h)
      { s with cache := after, callers := s.callers.set j { c with rest := next r } } where
  known l b r' answered := by
    rw [List.length_set]
    rcases List.mem_cons.1 answered with same | earlier
    · cases same
      omega
    · exact k.known l b r' earlier
  timely l d le there := by
    rcases get?_set_cases there with ⟨rfl, rfl⟩ | old
    · exact k.timely_answer le present asks replies
    · exact k.timely l d le old
  spared returned := by
    rcases get?_set_cases returned with ⟨rfl, returned'⟩ | before
    · -- The preload itself returns; it is the last caller, so nobody has come after it.
      have timely := k.timely i c (Nat.le_refl i) present
      refine ⟨cached_of_returned timely asks replies returned', fun l d lt there => ?_,
        fun l r' lt answered => ?_⟩
      · have within := (List.getElem?_eq_some_iff.1 there).1
        rw [List.length_set] at within
        omega
      · rcases List.mem_cons.1 answered with same | earlier
        · cases same
          omega
        · have := k.known l _ r' earlier
          omega
    · have within := (List.getElem?_eq_some_iff.1 before).1
      by_cases same : i = j
      · subst same
        cases present.symm.trans before
        cases asks
      · exact (k.spared before).answer (by omega) present asks replies spares

end Answer

theorem Kept.step {path : String} {i : Nat} {g : List Event} (k : Kept path i h s)
    (run : Run InTurn fs g s) (step : Step InTurn s e t) (spares : e.Spares path) :
    Kept path i (e :: h) t := by
  cases step with
  | write newer => exact k.write spares
  | call c admitted => exact k.call c
  | answer present asks replies =>
    exact k.answer (Run.last run present (by rw [asks]; rfl)) present asks replies spares

theorem Path.append (p : Path admits s h t) {g : List Event} (q : Path admits t g u) :
    Path admits s (g ++ h) u := by
  induction q with
  | refl => exact p
  | step _ last ih => exact ih.step last

theorem Path.kept {path : String} {g : List Event} (p : Path InTurn s h t)
    (run : Run InTurn fs g s) (spares : ∀ e ∈ h, e.Spares path) :
    Kept path s.callers.length h t := by
  induction p with
  | refl =>
    have nobody : ∀ {k c}, s.callers.length ≤ k → s.callers[k]? ≠ some c := by
      intro k c le there
      have := (List.getElem?_eq_some_iff.1 there).1
      omega
    exact ⟨nofun, fun k c le there => absurd there (nobody le),
      fun returned => absurd returned (nobody (Nat.le_refl _))⟩
  | step before last ih =>
    have kept := ih fun e mem => spares e (List.mem_cons_of_mem _ mem)
    exact kept.step (run.append before) last (spares _ List.mem_cons_self)

end Sharing

open Sharing

/-- The cache is fresh. Whatever the order of the calls, a preload that returns well leaves a
content that the file has had between the answer to its question for the modify time and its
return, and every entry has a content that the file has had with a modify time not older than the
one kept. When the calls come in turn, and a file is neither written nor taken out of the cache
since one preload of it began that has returned well, no later preload reads it. -/
theorem preload_fresh :
    (∀ path, preload path = expand (plan path)) ∧
    (∀ admits fs h s i a r t path, Run admits fs h s →
      Step admits s (.answered i a r) t →
      t.callers[i]? = some ⟨.preload path, .done (.ok ())⟩ →
      ∃ g mtime, g <:+ .answered i a r :: h ∧ .answered i (.stat path) (.ok mtime) ∈ g ∧
        t.cache.content? path = some (Utf8.lossyString (filesAfter fs g path).bytes)) ∧
    (∀ fs g s h t path j r, Run InTurn fs g s → Path InTurn s h t →
      (∀ e ∈ h, e.Spares path) →
      t.callers[s.callers.length]? = some ⟨.preload path, .done (.ok ())⟩ →
      s.callers.length < j → .answered j (.read path) r ∉ h) ∧
    ∀ admits fs h s path e, Run admits fs h s → s.cache.file? path = some e →
      ∃ g, g <:+ h ∧ e.mtime ≤ (filesAfter fs g path).mtime ∧
        e.content = Utf8.lossyString (filesAfter fs g path).bytes := by
  refine ⟨preload_eq_plan, ?_, ?_, ?_⟩
  · intro admits fs h s i a r t path run step returned
    exact content_of_returned (Run.faithful run) step returned
  · intro fs g s h t path j r run p spares returned later
    exact ((Path.kept p run spares).spared returned).silent j r later
  · intro admits fs h s path e run found
    exact (Run.faithful run).entries path e found

/-- A file is preloaded, and two seconds later again. -/
theorem preload_fresh_again :
    ∃ fs h t, Run InTurn fs h t ∧
      t.callers = [⟨.preload "tags", .done (.ok ())⟩, ⟨.preload "tags", .done (.ok ())⟩] ∧
      (∃ g, g <:+ h ∧ t.cache.content? "tags" = some "hi" ∧
        "hi" = Utf8.lossyString (filesAfter fs g "tags").bytes) ∧
      (∀ r, .answered 1 (.read "tags") r ∉ h) ∧
      ∃ e g, t.cache.file? "tags" = some e ∧ e.lastAccess = 9 ∧ g <:+ h ∧
        e.mtime ≤ (filesAfter fs g "tags").mtime := by
  let fs : Files := fun _ => ⟨5, [104, 105]⟩
  have called : Run InTurn fs _ { files := fs, callers := [⟨.preload "tags", plan "tags"⟩] } :=
    .step .refl (.call (.preload "tags") nofun)
  have online := called.step (.answer (i := 0) (a := .connected) (r := true) rfl rfl rfl)
  have told := online.step (.answer (i := 0) (a := .stat "tags") (r := .ok 5) rfl rfl ⟨rfl, rfl⟩)
  have timed := told.step (.answer (i := 0) (a := .clock) (r := (7000 : Nat)) rfl rfl rfl)
  have missed := timed.step
    (.answer (i := 0) (a := .store (.validate "tags" 5 7)) (r := false) rfl rfl rfl)
  have read := missed.step
    (.answer (i := 0) (a := .read "tags") (r := .ok [104, 105]) rfl rfl ⟨.inl rfl, rfl⟩)
  have dated := read.step (.answer (i := 0) (a := .clock) (r := (7000 : Nat)) rfl rfl rfl)
  let e (accessed : Int) : CachedFile := ⟨"tags", 5, 7, accessed, "hi"⟩
  let returned : Caller := ⟨.preload "tags", .done (.ok ())⟩
  let caller (σ : Stage) : Caller := ⟨.preload "tags", σ.rest "tags"⟩
  let second (σ : Stage) : Sharing :=
    { files := fs, cache := ⟨[e 7]⟩, callers := [returned, caller σ] }
  replace dated : Run InTurn fs _
    { files := fs, callers := [caller (.storing 5 [104, 105] 7)] } := dated
  have stored := dated.step (.answer (i := 0) (a := .store (.insert (e 7))) (r := ()) rfl rfl rfl)
  replace stored : Run InTurn fs _ { files := fs, cache := ⟨[e 7]⟩, callers := [returned] } := stored
  -- The second preload asks for the modify time, and finds the entry new enough.
  have called : Run InTurn fs _ (second .begun) :=
    stored.step (.call (.preload "tags") (by simp [InTurn, returned]; rfl))
  have online := called.step (.answer (i := 1) (a := .connected) (r := true) rfl rfl rfl)
  have told := online.step (.answer (i := 1) (a := .stat "tags") (r := .ok 5) rfl rfl ⟨rfl, rfl⟩)
  have timed := told.step (.answer (i := 1) (a := .clock) (r := (9000 : Nat)) rfl rfl rfl)
  replace timed : Run InTurn fs _ (second (.validating 5 9)) := timed
  let t : Sharing := { files := fs, cache := ⟨[e 9]⟩, callers := [returned, returned] }
  have hit : Step InTurn (second (.validating 5 9)) _ _ :=
    .answer (i := 1) (a := .store (.validate "tags" 5 9)) (r := true) rfl rfl rfl
  replace hit : Step InTurn (second (.validating 5 9)) _ t := hit
  obtain ⟨g, -, suffix, -, content⟩ := preload_fresh.2.1 _ _ _ _ 1 _ _ _ "tags" timed hit rfl
  obtain ⟨g', suffix', newer, -⟩ := preload_fresh.2.2.2 _ _ _ _ "tags" (e 9) (timed.step hit) rfl
  have silent := fun r => preload_fresh.2.2.1 fs [] _ _ _ "tags" 1 r .refl (timed.step hit)
    (by simp [Event.Spares]) rfl (by decide)
  exact ⟨fs, _, t, timed.step hit, rfl, ⟨g, suffix, rfl, Option.some.inj content⟩, silent,
    e 9, g', rfl, rfl, suffix', newer⟩

end RemoteTags.Cache
