import VisualNovel.Proofs.Engine.Frame
import VisualNovel.Proofs.Engine.Moment
import VisualNovel.Proofs.Engine.Sound
import VisualNovel.Proofs.Story.Reloaded
import VisualNovel.Proofs.Story.Stage

/-!
The stage of a game.

However the scripts of a project are played, its sprites and tracks belong together (`stage_invariant`).
Snapshots have no tracks, but sprites that are leaving, and a number that comes back from a file is
positive if it was, so that what is loaded leaves as well. The end of a transition is looked at once in
a frame, before the story goes on: then no sprite is left whose time to leave is over.
-/

namespace VisualNovel

variable {τ : Type}

/-! ## 1. Snapshots and save files -/

/-- A sprite leaves as it should on any clock. -/
theorem Sprite.Leaves.mapTime {σ : Type} {s : Sprite τ} (h : s.Leaves) (f : τ → σ) :
    (s.mapTime f).Leaves := by
  intro leaving
  obtain ⟨t, found, lasts⟩ := h leaving
  exact ⟨t.mapTime f, by rw [Sprite.mapTime, found]; rfl, lasts⟩

namespace Snapshot

/-- The sprites of a snapshot leave as they should. -/
structure Staged (data : Snapshot τ) : Prop where
  distinct : data.sprites.keys.Nodup
  leaves : ∀ e ∈ data.sprites.entries, e.2.Leaves

theorem Staged.mapTime {σ : Type} {data : Snapshot τ} (h : data.Staged) (f : τ → σ) :
    (data.mapTime f).Staged where
  distinct := by
    rw [Snapshot.mapTime, Table.keys_map]
    exact h.distinct
  leaves e mem := by
    obtain ⟨old, inside, rfl⟩ := List.mem_map.mp mem
    exact (h.leaves old inside).mapTime f

/-- A transition that comes back from a file takes time if it did. -/
theorem seconds_reread {t t' : Transition Float} (lasts : 0.0 < t.seconds)
    (read : transition? .file (Json.reread (transitionJson t)) = some t') : 0.0 < t'.seconds := by
  obtain ⟨fields, form, inOrder, seconds⟩ : ∃ fields, transitionJson t = .record fields ∧
      Json.InOrder (fields.map fun f => Text.ofString f.1) ∧ ("seconds", .num t.seconds) ∈ fields :=
    ⟨_, rfl, by simp only [List.map]; decide, by simp⟩
  have number : Rules.file.number = Json.finite? := rfl
  rw [form] at read
  simp only [transition?, number, Json.need_reread inOrder seconds, Option.bind_eq_bind,
    Option.bind_eq_some_iff, Option.pure_def, Option.some.injEq] at read
  obtain ⟨_, _, later, found, _, _, rfl⟩ := read
  have same := unsigned_of_finite? found
  rwa [Number.eq_of_unsigned same (Number.toNat?_ne_zero lasts)]

/-- A sprite that comes back from a file leaves if it did. -/
theorem leaves_reread {name : Text} {s s' : Sprite Float} (h : s.Leaves)
    (read : sprite? .file name (Json.reread (spriteJson s)) = some s') : s'.Leaves := by
  obtain ⟨fields, form, inOrder, transition, leaving⟩ : ∃ fields, spriteJson s = .record fields ∧
      Json.InOrder (fields.map fun f => Text.ofString f.1) ∧
      ("transition", .orNull (s.transition.map transitionJson)) ∈ fields ∧
      ("leaving", .bool s.leaving) ∈ fields :=
    ⟨_, rfl, by simp only [List.map]; decide, by simp, by simp⟩
  rw [form] at read
  simp only [sprite?, Json.allow_reread inOrder transition, Json.allow_reread inOrder leaving,
    Option.bind_eq_bind, Option.bind_eq_some_iff, Option.pure_def, Option.some.injEq] at read
  obtain ⟨_, _, _, _, _, _, _, _, _, _, _, _, _, _, _, _, _, _, ends, again, left, same, rfl⟩ := read
  cases same
  intro leaving
  obtain ⟨t, found, lasts⟩ := h leaving
  rw [found] at again
  have solid : ∀ t : Transition Float, Json.reread (transitionJson t) ≠ .null :=
    fun _ null => by cases null
  have stays : ends.isSome = (some t).isSome := isSome_orNone solid again
  obtain ⟨t', rfl⟩ := Option.isSome_iff_exists.mp stays
  exact ⟨t', rfl, seconds_reread lasts (Json.of_orNone again)⟩

/-- The sprites that come back from a file leave as they should. -/
theorem Reloaded.staged {data found : Snapshot Float} (again : data.Reloaded found)
    (h : data.Staged) : found.Staged := by
  have sprites := matches_reread h.distinct again.sprites
  refine ⟨sprites.distinct, fun e mem => ?_⟩
  obtain ⟨s, written, read⟩ := sprites.back e.1 e.2 mem
  exact leaves_reread (h.leaves _ written) read

variable [Clock τ]

theorem staged_ofState {s : State τ} (regular : s.Regular) (h : s.Staged) (script : Text) (now : τ) :
    (ofState s script now).Staged where
  distinct := Table.nodup_keys_recordEntries (by
    rw [Table.keys_map]
    exact regular.spriteNames.distinct)
  leaves e mem := by
    obtain ⟨old, inside, rfl⟩ := List.mem_map.mp (Table.mem_of_mem_recordEntries mem)
    exact (h.leaves old inside).mapTime _

theorem Staged.toState {data : Snapshot τ} (h : data.Staged) (now : τ) :
    (data.toState now).Staged := by
  refine .still rfl fun e mem => ?_
  obtain ⟨old, inside, rfl⟩ := List.mem_map.mp mem
  exact (h.leaves old inside).mapTime _

end Snapshot

/-! ## 2. Games -/

/-- The stage of a game, and that of all saves among its files. -/
structure Game.Staged (g : Game τ) : Prop where
  state : g.state.Staged
  files : g.files.AllSaves Snapshot.Staged

/-- A new game has an empty stage. -/
theorem State.staged_start (program : Program) : (({} : State τ).introduceAll program).Staged :=
  (Staged.still rfl fun e none => by cases none).introduceAll program

variable [Clock τ]

/-- Every change leaves a stage behind whose parts belong together. -/
theorem Game.Change.staged {original : Text → Option Text} {root : Text}
    {given : Snapshot τ → Prop} {g t : Game τ} (sound : g.Sound original root)
    (handed : ∀ data, given data → data.Staged) (change : Game.Change given g t) (h : g.Staged) :
    t.Staged := by
  cases change with
  | state change =>
    exact { h with state := change.staged sound.stocked.program.wellFormed sound.regular h.state }
  | openVideo | lookVideo | closeVideo => exact { h with state := { h.state with } }
  | save path =>
    have taken : (g.snapshot.mapTime Clock.toMillis).Staged :=
      (Snapshot.staged_ofState sound.regular h.state _ _).mapTime _
    exact { h with files := h.files.save (fun found again => again.staged taken) path }
  | call | stray => exact { h with state := { h.state.introduceAll _ with } }
  | restart => exact { h with state := State.staged_start _ }
  | @resume data program source =>
    have staged : data.Staged := by
      rcases source with own | ⟨path, saved, found, rfl⟩
      · exact handed data own
      · exact (h.files.load found).mapTime _
    exact { h with state := (staged.toState _).introduceAll program }
  | _ => exact { h with }

/-! ## 3. The passing of time -/

/-- Letting time pass never fails. What it takes from the stage and moves there is settled before it
looks at the video. -/
theorem Action.passTime_stage (g : Game τ) : ∃ u, Action.passTime g = .ok () u ∧
    u.state.sprites = ((g.state.expire g.now g.voicePlaying).moveSprites g.now).sprites := by
  have kept : Action.Keeps (fun u => u.state.sprites =
      ((g.state.expire g.now g.voicePlaying).moveSprites g.now).sprites) (fun _ => False)
      Action.passTime g := by
    unfold Action.passTime
    rw [Action.keeps_get, Action.keeps_change_bind]
    generalize (g.state.expire g.now g.voicePlaying).moveSprites g.now = s
    refine Action.Keeps.bind (P := fun u => u.state.sprites = s.sprites) ?_ fun _ t same => ?_
    · unfold Action.updateVideo
      rw [Action.keeps_get]
      split
      · exact Action.Keeps.ite (fun _ => Action.keeps_of_ok (Action.closeVideo_eq _) rfl) fun _ => rfl
      · rfl
    · rw [Action.keeps_state]
      exact Action.Keeps.ite (fun _ => same) fun _ => same
  unfold Action.Keeps Ends at kept
  cases passed : Action.passTime g with
  | ok _ u =>
    rw [passed] at kept
    exact ⟨u, rfl, kept⟩
  | error e u =>
    rw [passed] at kept
    exact kept.2.elim

/-- What a frame does before it lets time pass is a chain of changes. -/
theorem Game.changes_handled {g h : Game τ} {events : List Event}
    (handled : (do events.forM Action.handle; Action.checkTimeout : Action τ Unit) g = .ok () h) :
    g.Changes (fun _ => False) h := by
  have start : g.Changes (fun _ => False) g := .refl
  have follows : Action.Follows (fun _ => False) g
      (do events.forM Action.handle; Action.checkTimeout : Action τ Unit) g :=
    (start.handleAll events).bind fun _ t h => h.checkTimeout
  unfold Action.Follows Action.Keeps Ends at follows
  rwa [handled] at follows

/-! ## 4. The stage of a game that is played -/

/-- What is kept from change to change: a sound game whose parts of the stage belong together. -/
theorem Game.Change.sound_staged {original : Text → Option Text} {root : Text}
    (noSaves : FileTree.NoSaves original) {given : Snapshot τ → Prop} {g t : Game τ}
    (handed : ∀ data, given data → data.Genuine original root ∧ data.Staged)
    (change : Game.Change given g t) (h : g.Sound original root ∧ g.Staged) :
    t.Sound original root ∧ t.Staged :=
  ⟨change.sound noSaves (fun data own => (handed data own).1) h.1,
    change.staged h.1 (fun data own => (handed data own).2) h.2⟩

/-- However the scripts of a project are played, the game is sound and the parts of its stage belong
together. -/
theorem Game.sound_staged {setup : Setup τ} {library : Library} {files : FileTree}
    {program : Program} {original : Text → Option Text}
    (texts : files.Within original) (noSaves : FileTree.NoSaves original)
    (read : Reading original program.script program)
    (shelf : ∀ script edition, library.shelf.get? script = some edition →
      Reading original script edition.program)
    {kept : List (Snapshot τ)} {g : Game τ}
    (played : Played OwnSnapshots (Game.start setup library files program) kept g) :
    g.Sound original setup.root ∧ g.Staged := by
  have first : (Game.start setup library files program).Sound original setup.root :=
    { place := rfl
      stocked := .start texts.holds read shelf
      regular := Game.Sound.regular_start read
      introduced := State.introduced_introduceAll _ _
      files := texts.saves _ }
  have own : FileTree.NoSaves files.text? := fun path text found => noSaves path text <| by
    unfold FileTree.text? at found
    split at found
    · next node =>
      cases found
      exact texts path _ node
    · cases found
  exact (played.invariant ⟨first, State.staged_start program, own.all _⟩
    (fun g h => ⟨h.1.snapshot, Snapshot.staged_ofState h.1.regular h.2.state _ _⟩)
    (fun taken op own good data hands => good data (own data hands))
    (fun given g t handed change => change.sound_staged noSaves handed)).1

/-- However the scripts of a project are played, the parts of the stage belong together: sprites,
hotspots, buttons and characters are kept under their own names, what has tracks is a sprite, each
track stands under its own action, takes time and leads from as many numbers to as many as the action
changes, and a sprite that is leaving has a transition that takes time. In a frame in which nothing
is over the story, and which begins when that transition ends or later, it is taken away before the
story goes on. -/
theorem stage_invariant {setup : Setup τ} {library : Library} {files : FileTree} {program : Program}
    {original : Text → Option Text}
    (texts : files.Within original) (noSaves : FileTree.NoSaves original)
    (read : Reading original program.script program)
    (shelf : ∀ script edition, library.shelf.get? script = some edition →
      Reading original script edition.program)
    {kept : List (Snapshot τ)} {g : Game τ}
    (played : Played OwnSnapshots (Game.start setup library files program) kept g) :
    g.state.sprites.OwnNamed Sprite.id ∧ g.state.hotspots.OwnNamed Hotspot.name ∧
      g.state.hud.OwnNamed HudButton.name ∧ g.state.characters.OwnNamed Character.ident ∧
      g.state.Staged ∧
      ∀ events now h,
        (do events.forM Action.handle; Action.checkTimeout : Action τ Unit) { g with now } =
          .ok () h →
        h.menu = none → h.state.isOverlaid = false →
        h.now = now ∧ h.state.Staged ∧ ∃ u, Action.passTime h = .ok () u ∧
          Action.frame events now g = Action.run u ∧
          ∀ name sprite t, h.state.sprites.get? name = some sprite → sprite.leaving = true →
            sprite.transition = some t → Clock.reached now (Clock.after t.started t.seconds) = true →
            u.state.sprites.get? name = none := by
  obtain ⟨sound, staged⟩ := Game.sound_staged texts noSaves read shelf played
  have regular := sound.regular
  refine ⟨regular.spriteNames, regular.hotspots, regular.hud, regular.characterNames, staged.state,
    fun events now h handled closed clear => ?_⟩
  have moment : h.now = now :=
    ((Action.atOnce_forM events).bind fun _ => Action.atOnce_checkTimeout).of_ok handled
  have now' : Game.Change (fun _ => False) g { g with now } := .around
  have reached : g.Changes (fun _ => False) h := .head now' (Game.changes_handled handled)
  obtain ⟨sound', staged'⟩ :=
    reached.keep (fun g t change => change.sound_staged noSaves fun _ none => none.elim)
      ⟨sound, staged⟩
  obtain ⟨u, passed, sprites⟩ := Action.passTime_stage h
  refine ⟨moment, staged'.state, u, passed, ?_, fun name sprite t found leaving ends past => ?_⟩
  · rw [Action.frame_of_handled handled closed clear, run_bind_ok passed]
  · have gone : sprite.isGone h.now = true := by
      rw [moment, Sprite.isGone, leaving, ends]
      exact past
    rw [sprites]
    exact staged'.state.get?_of_gone sound'.regular h.now h.voicePlaying found gone

/-- A box that is on its way when it begins to leave. -/
def leavingStory : Text :=
  "add rect box #fff 10 10 pos 0 0;\nanimate box move 100 50 2;\noff box fade 1;\n\"Gone?\";"

/-- The box moves and leaves, and after its second both the box and its track are gone. -/
theorem stage_invariant_box :
    ∃ program reached,
      Program.ofFile (soloFiles leavingStory) false (.nth 0) "/game/main.vn" =
        .ok (program, reached) ∧
      let g : Game Int := Operation.run.after (gameIn (soloFiles leavingStory) program)
      g.state.tracks.keys = ["box"] ∧ g.state.Staged ∧
      ∃ sprite, g.state.sprites.get? "box" = some sprite ∧ sprite.leaving = true ∧
        ∃ u, Action.frame [] 1000 g = Action.run u ∧ u.state.sprites.get? "box" = none := by
  obtain ⟨⟨program, reached⟩, found, form⟩ := exists_ok
    (x := Program.ofFile (soloFiles leavingStory) false (.nth 0) "/game/main.vn")
    (f := fun r =>
      let g := Operation.run.after (gameIn (τ := Int) (soloFiles leavingStory) r.1)
      ((g.state.sprites.get? "box").map fun s => (s.leaving, s.transition), g.state.tracks.keys,
        g.state.choice.isNone && g.menu.isNone && !g.state.isOverlaid))
    (b := (some (true, some ⟨.fade, 1.0, 0⟩), ["box"], true)) (by decide +kernel)
  simp only [Prod.mk.injEq, Option.map_eq_some_iff, Bool.and_eq_true, Option.isNone_iff_eq_none,
    Bool.not_eq_true'] at form
  obtain ⟨⟨sprite, shown, leaving, ends⟩, moving, ⟨choice, closed⟩, clear⟩ := form
  have read : Reading (soloFiles leavingStory).text? "/game/main.vn" program :=
    Reading.ofFile (FileTree.within_text? _).holds found
  have noSaves : FileTree.NoSaves (soloFiles leavingStory).text? :=
    FileTree.noSaves_text? (by decide +kernel)
  have played : Played OwnSnapshots (gameIn (τ := Int) (soloFiles leavingStory) program) []
      (Operation.run.after (gameIn (soloFiles leavingStory) program)) :=
    .act .start (ownSnapshots_of_ne fun _ => nofun)
  obtain ⟨-, -, -, -, staged, frames⟩ :=
    stage_invariant (FileTree.within_text? _) noSaves (read.own rfl) (fun _ _ found => by cases found)
      played
  obtain ⟨-, -, u, -, frame, gone⟩ := frames [] 1000 _ (Action.checkTimeout_of_none choice) closed clear
  exact ⟨program, reached, found, moving, staged, sprite, shown, leaving, u, frame,
    gone "box" sprite _ shown leaving ends (by decide +kernel)⟩

end VisualNovel
