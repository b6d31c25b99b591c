import VisualNovel.Proofs.Engine.Session

/-!
Videos are opened, looked at and closed one after another.

The requests of a game record every call of a video: the one that opens it, each look at it, and the
one that closes it. A video is known by the number of the request that opened it. `Reel` is the grammar
of such a record, together with the video that is left open at its end; every change of a game keeps
its record in that grammar, with the video of its state left open (`Game.Change.reel`). A record that is
cut at a request is in the grammar as well (`Reel.cut`), so that a request which closes a video or looks
at it tells which one was on before it. All that is said of single requests comes from there, and it
holds of all games that are played, whatever is done with them (`videos_in_turn`).
-/

namespace VisualNovel

variable {τ : Type}

/-! ## 1. The record of the videos -/

/-- A video that was opened: the number of the request that opened it, and what that asked for. -/
structure Showing where
  opening : Nat
  path : Text
  loop : Bool
  deriving DecidableEq, Repr

/-- The video of a state. -/
def State.showing (s : State τ) : Option Showing :=
  s.video.map fun video => ⟨video.playback.opening, video.playback.path, video.playback.loop⟩

/-- A record of requests, and the video that is open at its end. -/
inductive Reel : Array AssetRequest → Option Showing → Prop
  | blank : Reel #[] none
  | other {rs : Array AssetRequest} {on : Option Showing} {r : AssetRequest} (before : Reel rs on)
      (other : r.isVideo = false) : Reel (rs.push r) on
  | opened {rs : Array AssetRequest} (before : Reel rs none) (path : Text) (loop : Bool) :
      Reel (rs.push (.openVideo path loop)) (some ⟨rs.size, path, loop⟩)
  | looked {rs : Array AssetRequest} {s : Showing} (before : Reel rs (some s)) :
      Reel (rs.push (.lookVideo s.opening)) (some s)
  | closed {rs : Array AssetRequest} {s : Showing} (before : Reel rs (some s)) :
      Reel (rs.push (.closeVideo s.path s.opening)) none

/-- A request that opens a video. -/
def AssetRequest.opens : AssetRequest → Bool
  | .openVideo .. => true
  | _ => false

/-- A request that opens a video or closes one. -/
def AssetRequest.turns : AssetRequest → Bool
  | .openVideo .. | .closeVideo .. => true
  | _ => false

theorem AssetRequest.not_turns {r : AssetRequest} (other : r.isVideo = false) :
    ¬ r.turns = true := by
  cases r with
  | openVideo | closeVideo => cases other
  | _ => exact Bool.false_ne_true

/-- What a record says of the videos, request by request. -/
structure Reeled (rs : Array AssetRequest) (on : Option Showing) : Prop where
  /-- Videos are opened and closed in turn, and one is opened first. -/
  inTurn : ∀ (i : Nat) r, (rs.filter (·.turns))[i]? = some r → (r.opens = true ↔ i % 2 = 0)
  /-- What is closed was opened before, with the same path. -/
  closedOpened : ∀ (i : Nat) path n, rs[i]? = some (AssetRequest.closeVideo path n) →
    n < i ∧ ∃ loop, rs[n]? = some (AssetRequest.openVideo path loop)
  closedOnce : ∀ (i j n : Nat) path path', rs[i]? = some (AssetRequest.closeVideo path n) →
    rs[j]? = some (AssetRequest.closeVideo path' n) → i = j
  /-- What is looked at was opened before. -/
  lookedOpened : ∀ (i n : Nat), rs[i]? = some (AssetRequest.lookVideo n) →
    n < i ∧ ∃ path loop, rs[n]? = some (AssetRequest.openVideo path loop)
  /-- Nothing is looked at after it was closed. -/
  lookedFirst : ∀ (i j n : Nat) path, rs[i]? = some (AssetRequest.lookVideo n) →
    rs[j]? = some (AssetRequest.closeVideo path n) → i < j
  /-- The video that is opened and not closed is the one that is on. -/
  unclosed_iff : ∀ (n : Nat) path loop,
    (rs[n]? = some (AssetRequest.openVideo path loop) ∧
      ∀ path', AssetRequest.closeVideo path' n ∉ rs) ↔ on = some ⟨n, path, loop⟩

/-! ## 2. What a record says -/

theorem getElem?_push_cases {α : Type} {xs : Array α} {x y : α} {i : Nat}
    (found : (xs.push x)[i]? = some y) : xs[i]? = some y ∨ i = xs.size ∧ x = y := by
  rw [Array.getElem?_push] at found
  split at found
  · next last => exact .inr ⟨last, Option.some.inj found⟩
  · exact .inl found

namespace Reel

variable {rs : Array AssetRequest} {on : Option Showing} {s : Showing}

theorem opening_lt (h : Reel rs (some s)) : s.opening < rs.size := by
  generalize same : some s = on at h
  induction h with
  | blank => cases same
  | other before other ih =>
    rw [Array.size_push]
    exact Nat.lt_succ_of_lt (ih same)
  | opened before path loop =>
    cases same
    simp
  | looked before ih =>
    rw [Array.size_push]
    exact Nat.lt_succ_of_lt (ih same)
  | closed before ih => cases same

/-- The video that is on was opened at its number. -/
theorem opened_at (h : Reel rs (some s)) :
    rs[s.opening]? = some (AssetRequest.openVideo s.path s.loop) := by
  generalize same : some s = on at h
  induction h with
  | blank => cases same
  | other before other ih =>
    subst same
    rw [Array.getElem?_push, if_neg (Nat.ne_of_lt before.opening_lt)]
    exact ih rfl
  | opened before path loop =>
    cases same
    simp
  | looked before ih =>
    cases same
    rw [Array.getElem?_push, if_neg (Nat.ne_of_lt before.opening_lt)]
    exact ih rfl
  | closed before ih => cases same

/-- A record up to one of its requests. -/
def Cut (rs : Array AssetRequest) (i : Nat) (r : AssetRequest) : Prop :=
  ∃ (before : Array AssetRequest) (on : Option Showing),
    Reel (before.push r) on ∧ before.size = i ∧ ∀ n < i, before[n]? = rs[n]?

theorem cut (h : Reel rs on) {i : Nat} {r : AssetRequest} (found : rs[i]? = some r) :
    Cut rs i r := by
  have push {rs : Array AssetRequest} {x : AssetRequest} {on : Option Showing}
      (whole : Reel (rs.push x) on) (ih : rs[i]? = some r → Cut rs i r)
      (found : (rs.push x)[i]? = some r) : Cut (rs.push x) i r := by
    have earlier {n : Nat} (inside : n < rs.size) : (rs.push x)[n]? = rs[n]? := by
      rw [Array.getElem?_push, if_neg (Nat.ne_of_lt inside)]
    rcases getElem?_push_cases found with old | ⟨rfl, rfl⟩
    · obtain ⟨before, on, reel, size, same⟩ := ih old
      have inside := (Array.getElem?_eq_some_iff.mp old).1
      exact ⟨before, on, reel, size, fun n lt => by rw [same n lt, earlier (lt.trans inside)]⟩
    · exact ⟨rs, on, whole, rfl, fun n lt => (earlier lt).symm⟩
  induction h with
  | blank => simp at found
  | other before other ih => exact push (.other before other) ih found
  | opened before path loop ih => exact push (.opened before path loop) ih found
  | looked before ih => exact push (.looked before) ih found
  | closed before ih => exact push (.closed before) ih found

/-- What is closed is on before. -/
theorem on_of_closed {path : Text} {n : Nat}
    (h : Reel (rs.push (AssetRequest.closeVideo path n)) on) :
    ∃ loop, Reel rs (some ⟨n, path, loop⟩) := by
  generalize form : rs.push (AssetRequest.closeVideo path n) = whole at h
  cases h with
  | blank => simp at form
  | other before other =>
    obtain ⟨rfl, -⟩ := Array.push_eq_push.mp form
    cases other
  | opened | looked => cases (Array.push_eq_push.mp form).1
  | closed before =>
    obtain ⟨same, rfl⟩ := Array.push_eq_push.mp form
    cases same
    exact ⟨_, before⟩

/-- What is looked at is on before. -/
theorem on_of_looked {n : Nat} (h : Reel (rs.push (AssetRequest.lookVideo n)) on) :
    ∃ path loop, Reel rs (some ⟨n, path, loop⟩) := by
  generalize form : rs.push (AssetRequest.lookVideo n) = whole at h
  cases h with
  | blank => simp at form
  | other before other =>
    obtain ⟨rfl, -⟩ := Array.push_eq_push.mp form
    cases other
  | opened | closed => cases (Array.push_eq_push.mp form).1
  | looked before =>
    obtain ⟨same, rfl⟩ := Array.push_eq_push.mp form
    cases same
    exact ⟨_, _, before⟩

/-- What is closed was opened before, with the same path. -/
theorem closedOpened (h : Reel rs on) {i n : Nat} {path : Text}
    (closed : rs[i]? = some (AssetRequest.closeVideo path n)) :
    n < i ∧ ∃ loop, rs[n]? = some (AssetRequest.openVideo path loop) := by
  obtain ⟨before, _, whole, rfl, same⟩ := h.cut closed
  obtain ⟨loop, playing⟩ := whole.on_of_closed
  have lt := playing.opening_lt
  exact ⟨lt, loop, same n lt ▸ playing.opened_at⟩

/-- What is looked at was opened before. -/
theorem lookedOpened (h : Reel rs on) {i n : Nat}
    (looked : rs[i]? = some (AssetRequest.lookVideo n)) :
    n < i ∧ ∃ path loop, rs[n]? = some (AssetRequest.openVideo path loop) := by
  obtain ⟨before, _, whole, rfl, same⟩ := h.cut looked
  obtain ⟨path, loop, playing⟩ := whole.on_of_looked
  have lt := playing.opening_lt
  exact ⟨lt, path, loop, same n lt ▸ playing.opened_at⟩

/-- What is closed has a number of the record. -/
theorem closed_lt (h : Reel rs on) {path : Text} {n : Nat}
    (mem : AssetRequest.closeVideo path n ∈ rs) : n < rs.size := by
  obtain ⟨i, found⟩ := Array.mem_iff_getElem?.mp mem
  exact (h.closedOpened found).1.trans (Array.getElem?_eq_some_iff.mp found).1

/-- The video that is on was not closed. -/
theorem not_closed (h : Reel rs (some s)) (path : Text) :
    AssetRequest.closeVideo path s.opening ∉ rs := by
  generalize same : some s = on at h
  induction h with
  | blank => cases same
  | other before other ih =>
    intro mem
    rcases Array.mem_push.mp mem with old | new
    · exact ih same old
    · subst new
      cases other
  | opened before path loop =>
    cases same
    intro mem
    -- What was closed before has a smaller number.
    have old := (Array.mem_push.mp mem).resolve_right nofun
    exact Nat.lt_irrefl _ (before.closed_lt old)
  | looked before ih =>
    intro mem
    exact ih same ((Array.mem_push.mp mem).resolve_right nofun)
  | closed before ih => cases same

/-- Two requests that close the same video are one. -/
theorem closedOnce (h : Reel rs on) {i j n : Nat} {path path' : Text}
    (first : rs[i]? = some (AssetRequest.closeVideo path n))
    (second : rs[j]? = some (AssetRequest.closeVideo path' n)) : i = j := by
  have never {i j : Nat} {path path' : Text}
      (first : rs[i]? = some (AssetRequest.closeVideo path n))
      (second : rs[j]? = some (AssetRequest.closeVideo path' n)) : ¬ i < j := by
    intro lt
    obtain ⟨before, _, whole, rfl, same⟩ := h.cut second
    obtain ⟨loop, playing⟩ := whole.on_of_closed
    exact playing.not_closed path (Array.mem_of_getElem? ((same i lt).trans first))
  exact Nat.le_antisymm (Nat.not_lt.mp (never second first)) (Nat.not_lt.mp (never first second))

/-- A video is looked at only before it is closed. -/
theorem lookedFirst (h : Reel rs on) {i j n : Nat} {path : Text}
    (looked : rs[i]? = some (AssetRequest.lookVideo n))
    (closed : rs[j]? = some (AssetRequest.closeVideo path n)) : i < j := by
  refine Nat.lt_of_not_le fun le => ?_
  rcases Nat.lt_or_eq_of_le le with lt | rfl
  · obtain ⟨before, _, whole, rfl, same⟩ := h.cut looked
    obtain ⟨_, loop, playing⟩ := whole.on_of_looked
    exact playing.not_closed path (Array.mem_of_getElem? ((same j lt).trans closed))
  · cases looked.symm.trans closed

/-- What is opened and not closed is on. -/
theorem on_of_unclosed (h : Reel rs on) {n : Nat} {path : Text} {loop : Bool}
    (opened : rs[n]? = some (AssetRequest.openVideo path loop))
    (never : ∀ path', AssetRequest.closeVideo path' n ∉ rs) : on = some ⟨n, path, loop⟩ := by
  have before {rs : Array AssetRequest} {r : AssetRequest}
      (never : ∀ path', AssetRequest.closeVideo path' n ∉ rs.push r) (path' : Text) :
      AssetRequest.closeVideo path' n ∉ rs :=
    fun mem => never path' (Array.mem_push.mpr (.inl mem))
  induction h with
  | blank => simp at opened
  | other _ other ih =>
    rcases getElem?_push_cases opened with old | ⟨-, rfl⟩
    · exact ih old (before never)
    · cases other
  | opened _ path loop ih =>
    rcases getElem?_push_cases opened with old | ⟨last, new⟩
    · cases ih old (before never)
    · cases new
      rw [last]
  | looked _ ih =>
    rcases getElem?_push_cases opened with old | ⟨-, ⟨⟩⟩
    exact ih old (before never)
  | closed _ ih =>
    rcases getElem?_push_cases opened with old | ⟨-, ⟨⟩⟩
    cases ih old (before never)
    exact absurd (Array.mem_push_self ..) (never path)

theorem unclosed_iff (h : Reel rs on) {n : Nat} {path : Text} {loop : Bool} :
    (rs[n]? = some (AssetRequest.openVideo path loop) ∧
      ∀ path', AssetRequest.closeVideo path' n ∉ rs) ↔ on = some ⟨n, path, loop⟩ := by
  constructor
  · rintro ⟨opened, never⟩
    exact h.on_of_unclosed opened never
  · rintro rfl
    exact ⟨h.opened_at, h.not_closed⟩

/-- After an opening a video is on, and after a closing none is. -/
theorem turns_odd (h : Reel rs on) :
    (rs.filter (·.turns)).size % 2 = if on.isSome then 1 else 0 := by
  induction h with
  | blank => rfl
  | other before other ih =>
    rw [Array.filter_push_of_neg (AssetRequest.not_turns other) (Array.size_push _)]
    exact ih
  | opened before path loop ih =>
    simp only [Option.isSome_none, Bool.false_eq_true, if_false] at ih
    rw [Array.filter_push_of_pos rfl (Array.size_push _), Array.size_push]
    simp only [Option.isSome_some, if_true]
    omega
  | looked before ih =>
    rw [Array.filter_push_of_neg Bool.false_ne_true (Array.size_push _)]
    exact ih
  | closed before ih =>
    simp only [Option.isSome_some, if_true] at ih
    rw [Array.filter_push_of_pos rfl (Array.size_push _), Array.size_push]
    simp only [Option.isSome_none, Bool.false_eq_true, if_false]
    omega

theorem inTurn (h : Reel rs on) {i : Nat} {r : AssetRequest}
    (found : (rs.filter (·.turns))[i]? = some r) : r.opens = true ↔ i % 2 = 0 := by
  induction h with
  | blank => simp at found
  | other before other ih =>
    rw [Array.filter_push_of_neg (AssetRequest.not_turns other) (Array.size_push _)] at found
    exact ih found
  | opened before path loop ih =>
    rw [Array.filter_push_of_pos rfl (Array.size_push _)] at found
    rcases getElem?_push_cases found with old | ⟨last, rfl⟩
    · exact ih old
    · have even := before.turns_odd
      rw [last, even]
      simp [AssetRequest.opens]
  | looked before ih =>
    rw [Array.filter_push_of_neg Bool.false_ne_true (Array.size_push _)] at found
    exact ih found
  | closed before ih =>
    rw [Array.filter_push_of_pos rfl (Array.size_push _)] at found
    rcases getElem?_push_cases found with old | ⟨last, rfl⟩
    · exact ih old
    · have odd := before.turns_odd
      rw [last, odd]
      simp [AssetRequest.opens]

theorem reeled (h : Reel rs on) : Reeled rs on where
  inTurn _ _ := h.inTurn
  closedOpened _ _ _ := h.closedOpened
  closedOnce _ _ _ _ _ := h.closedOnce
  lookedOpened _ _ := h.lookedOpened
  lookedFirst _ _ _ _ := h.lookedFirst
  unclosed_iff _ _ _ := h.unclosed_iff

end Reel

/-! ## 3. Games and their records -/

theorem State.showing_of_dark {s : State τ} (dark : s.video = none) : s.showing = none := by
  rw [showing, dark]
  rfl

theorem State.showing_of_playing {s : State τ} {video : Video τ} (playing : s.video = some video) :
    s.showing = some ⟨video.playback.opening, video.playback.path, video.playback.loop⟩ := by
  rw [showing, playing]
  rfl

/-- Introducing characters is not about the video. -/
theorem State.showing_introduceAll (s : State τ) (program : Program) :
    (s.introduceAll program).showing = s.showing := by
  obtain ⟨characters, same⟩ := s.introduceAll_frame program
  rw [same]
  rfl

variable [Clock τ]

/-- Every change of a game adds to its record what it does to the video of its state. -/
theorem Game.Change.reel {given : Snapshot τ → Prop} {g t : Game τ} (change : Game.Change given g t)
    (h : Reel g.requests g.state.showing) : Reel t.requests t.state.showing := by
  cases change with
  | state change =>
    rw [State.showing] at h ⊢
    rw [change.video]
    exact h
  | around | load | evict | clearLibrary | save => exact h
  | request other => exact h.other other
  | openVideo dark numbered =>
    rw [State.showing_of_dark dark] at h
    rw [State.showing_of_playing rfl, numbered]
    exact (h.opened _ _).looked
  | lookVideo playing opening path loop =>
    rw [State.showing_of_playing playing] at h
    rw [State.showing_of_playing rfl, opening, path, loop]
    exact h.looked
  | closeVideo playing =>
    rw [State.showing_of_playing playing] at h
    exact h.closed
  | call => rwa [← State.showing_introduceAll] at h
  | stray => rwa [← State.showing_introduceAll] at h
  | restart dark =>
    rw [State.showing_of_dark dark] at h
    rw [State.showing_introduceAll]
    exact h
  | resume source offered inside dark =>
    rw [State.showing_of_dark dark] at h
    rw [State.showing_introduceAll]
    exact h

/-- In every game that is played, videos are opened and closed in turn, every one is closed at most
once and not looked at afterwards, and the one that is not closed is the one of the state. Every
operation may be used, also after failures, and every snapshot may be handed over. -/
theorem videos_in_turn {setup : Setup τ} {library : Library} {files : FileTree} {program : Program}
    {taken : List (Snapshot τ)} {g : Game τ}
    (played : Played (fun _ _ => True) (Game.start setup library files program) taken g) :
    Reeled g.requests g.state.showing := by
  have begun : Reel (Game.start setup library files program).requests
      (Game.start setup library files program).state.showing := by
    rw [Game.start, State.showing_introduceAll]
    exact .blank
  have recorded := (played.invariant (P := fun g => Reel g.requests g.state.showing)
    (Q := fun _ => True) begun (fun _ _ => trivial) (fun _ _ _ _ _ _ => trivial)
    fun _ _ _ _ change => change.reel).1
  exact recorded.reeled

/-! ### A film to look at -/

/-- A story with a video. -/
def filmStory : Program :=
  { script := "/game/main.vn"
    commands := #[.playVideo "opening.webm" false .cover, .say none "Hello."]
    labels := {} }

/-- A new game of the story, with a player of videos that never end. -/
def filmGame : Game Float :=
  .start
    { root := "/game", savePath := "/game/quick.json", assetRoot := "/game"
      videoPlayer := some ⟨fun _ => ⟨none, false⟩⟩ }
    {} (soloFiles "play video \"opening.webm\" cover; \"Hello.\";") filmStory

/-- The video is opened, closed by a new beginning, opened again, and left open. -/
theorem videos_in_turn_film :
    ∃ g : Game Float, Played (fun _ _ => True) filmGame [] g ∧ Reeled g.requests g.state.showing ∧
      g.requests = #[.openVideo "/game/video/opening.webm" false, .lookVideo 0,
        .closeVideo "/game/video/opening.webm" 0, .openVideo "/game/video/opening.webm" false,
        .lookVideo 3] ∧
      g.state.showing = some ⟨3, "/game/video/opening.webm", false⟩ := by
  have played : Played (fun _ _ => True) filmGame []
      (Operation.run.after (Operation.restart.after (Operation.run.after filmGame))) :=
    ((Played.start.act trivial).act trivial).act trivial
  exact ⟨_, played, videos_in_turn played, by decide, by decide⟩

end VisualNovel
