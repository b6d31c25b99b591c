import VisualNovel.Proofs.Engine.Guard
import VisualNovel.Proofs.Engine.Stage
import VisualNovel.Proofs.Story.Skip

/-!
Frames that can be skipped.

While a line is shown and nothing is played over it, a frame without events does nothing but let
time pass (`Game.Shows.frame_eq`), and letting time pass twice is letting it pass once. So any
frames on the way to a moment leave behind what a single frame at that moment does
(`frames_skipped`).
-/

namespace VisualNovel

variable {τ : Type}

/-! ## 1. Games that show a line -/

/-- A line is shown, and nothing is over it. -/
structure Game.Shows (g : Game τ) : Prop where
  line : g.state.dialogue.isSome = true
  closed : g.menu = none
  clear : g.state.isOverlaid = false
  free : g.state.choice = none
  idle : g.state.wait = none
  dark : g.state.video = none

/-- Where at most one thing is in the way, a line is shown alone. -/
theorem Game.shows_of_single {g : Game τ} (single : g.state.blockers.count true ≤ 1)
    (line : g.state.dialogue.isSome = true) (closed : g.menu = none) (dark : g.state.video = none) :
    g.Shows := by
  simp only [State.blockers, line] at single
  have rest : g.state.map.active = false ∧ g.state.choice.isSome = false ∧
      g.state.question.isSome = false ∧ g.state.phone.unread = false ∧
      g.state.wait.isSome = false := by
    grind
  obtain ⟨map, choice, question, phone, wait⟩ := rest
  exact
    { line, closed, dark
      clear := by simp [State.isOverlaid, map, choice, question, phone]
      free := Option.isNone_iff_eq_none.mp (by simpa using choice)
      idle := Option.isNone_iff_eq_none.mp (by simpa using wait) }

variable [Clock τ]

/-- Frames without events, one at each moment, and what the game waits for after the last one. -/
def Action.frames : List τ → τ → Action τ Status
  | [], last => frame [] last
  | now :: rest, last => do
    let _ ← frame [] now
    frames rest last

/-- The game at a moment until which only time has passed. -/
def Game.elapsed (g : Game τ) (now : τ) : Game τ :=
  { g with now, state := g.state.elapse now g.voicePlaying }

namespace Game.Shows

variable {g : Game τ}

/-- A frame without events only lets time pass. -/
theorem frame_eq (h : g.Shows) (staged : g.state.Staged) (regular : g.state.Regular) (now : τ) :
    Action.frame [] now g = .ok .dialogue (g.elapsed now) ∧ (g.elapsed now).Shows := by
  have form := State.elapse_eq staged regular now g.voicePlaying
  have after : (g.elapsed now).Shows := by
    have idle := State.wait_expire h.idle now g.voicePlaying
    constructor <;> rw [Game.elapsed] <;> simp only [form]
    · exact h.line
    · exact h.closed
    · exact h.clear
    · exact h.free
    · exact idle
    · exact h.dark
  refine ⟨?_, after⟩
  have handled : (do [].forM Action.handle; Action.checkTimeout : Action τ Unit) { g with now } =
      .ok () { g with now } := Action.checkTimeout_of_none h.free
  have passed : Action.passTime { g with now } = .ok () (g.elapsed now) := by
    have read : (get : Action τ (Game τ)) { g with now } = .ok { g with now } { g with now } := rfl
    have changed : Action.change (fun s : State τ => (s.expire now g.voicePlaying).moveSprites now)
        { g with now } = .ok () (g.elapsed now) := rfl
    have looked : Action.updateVideo (g.elapsed now) = .ok () (g.elapsed now) := by
      have read : (get : Action τ (Game τ)) (g.elapsed now) =
        .ok (g.elapsed now) (g.elapsed now) := rfl
      rw [Action.updateVideo, run_bind_ok read, after.dark]
      rfl
    have state : Action.state (g.elapsed now) = .ok (g.elapsed now).state (g.elapsed now) := rfl
    rw [Action.passTime, run_bind_ok read, run_bind_ok changed, run_bind_ok looked,
      run_bind_ok state, after.idle]
    rfl
  have status : (g.elapsed now).status = .dialogue := by
    have clear := after.clear
    simp only [State.isOverlaid, Bool.or_eq_false_iff] at clear
    obtain ⟨⟨⟨map, choice⟩, question⟩, phone⟩ := clear
    rw [Game.status, after.closed]
    simp [Status.ofState, map, choice, question, phone, after.idle, after.line]
  have waits : (g.elapsed now).status ≠ .running := by
    rw [status]
    decide
  rw [Action.frame_of_handled handled h.closed h.clear, run_bind_ok passed, Action.run,
    commandLimit, Action.runAtMost_waiting waits, status]

/-- A frame on the way to a moment changes nothing of what is there at that moment. -/
theorem elapsed_elapsed (h : g.Shows) (staged : g.state.Staged) (regular : g.state.Regular)
    (forward : Clock.Forward τ) {a b : τ} (later : Clock.le a b = true) :
    (g.elapsed a).elapsed b = g.elapsed b := by
  have same := State.elapse_elapse staged regular forward h.idle later g.voicePlaying g.voicePlaying
  simp only [Game.elapsed, same]

/-- Any frames on the way to a moment leave behind what a single frame at that moment does. -/
theorem frames_eq (forward : Clock.Forward τ) (times : List τ) (last : τ)
    (order : (times ++ [last]).IsChain fun a b => Clock.le a b = true) (h : g.Shows)
    (staged : g.state.Staged) (regular : g.state.Regular) :
    Action.frames times last g = .ok .dialogue (g.elapsed last) := by
  have trans : IsTrans τ fun a b => Clock.le a b = true := ⟨fun _ _ _ => forward.le_trans⟩
  induction times generalizing g with
  | nil => exact (h.frame_eq staged regular last).1
  | cons first rest ih =>
    obtain ⟨done, after⟩ := h.frame_eq staged regular first
    have later : Clock.le first last = true :=
      (List.pairwise_cons.mp (List.isChain_iff_pairwise.mp order)).1 last (by simp)
    rw [Action.frames, run_bind_ok done, ← h.elapsed_elapsed staged regular forward later]
    exact ih order.tail after (staged.elapse regular first g.voicePlaying)
      (regular.elapse first g.voicePlaying)

end Game.Shows

/-! ## 2. Games that are played -/

/-- While a game that is played shows a line, and neither a menu nor a video is open, frames without
events can be skipped: however many there are on the way to a moment, the game is then the same as
after a single frame at that moment. Only time has passed in it. What its sprites and tracks, its
notice and its blend have become is said by `State.elapse`; nothing else has changed. -/
theorem frames_skipped (forward : Clock.Forward τ) {setup : Setup τ} {library : Library}
    {files : FileTree} {program : Program} {original : Text → Option Text}
    (texts : files.Within original) (noSaves : FileTree.NoSaves original)
    (read : Reading original program.script program)
    (shelf : ∀ script edition, library.shelf.get? script = some edition →
      Reading original script edition.program)
    {kept : List (Snapshot τ)} {g : Game τ}
    (played : Played OwnSnapshots (Game.start setup library files program) kept g)
    (line : g.state.dialogue.isSome = true) (closed : g.menu = none) (dark : g.state.video = none)
    (times : List τ) (last : τ)
    (order : (times ++ [last]).IsChain fun a b => Clock.le a b = true) :
    Action.frames times last g = Action.frame [] last g ∧
      Action.frame [] last g =
        .ok .dialogue { g with now := last, state := g.state.elapse last g.voicePlaying } := by
  obtain ⟨sound, staged⟩ := Game.sound_staged texts noSaves read shelf played
  have orderly := (played.invariant (P := Game.Orderly original)
    ⟨State.orderly_start program, texts.saves _⟩ (fun g h => h.snapshot)
    (fun taken op own good data hands => good data (own data hands))
    fun given g t handed change h => change.orderly noSaves handed h).1
  have shows := Game.shows_of_single orderly.state.single line closed dark
  have single := (shows.frame_eq staged.state sound.regular last).1
  refine ⟨?_, single⟩
  rw [single]
  exact shows.frames_eq forward times last order staged.state sound.regular

/-- One box moves and fades while another one leaves. -/
def busyStory : Text :=
  "add rect box #fff 10 10 pos 0 0;\nadd rect lid #fff 10 10 pos 0 0;\n" ++
    "animate box move 100 50 2;\nanimate box alpha 0 1;\noff lid fade 0.5;\n\"Where?\";"

/-- Frames at which the lid is gone and the box has faded, but is still moving, can be skipped. -/
theorem frames_skipped_busy :
    ∃ program reached,
      Program.ofFile (soloFiles busyStory) false (.nth 0) "/game/main.vn" = .ok (program, reached) ∧
      let g : Game Float := Operation.run.after (gameIn (soloFiles busyStory) program)
      g.state.sprites.keys = ["box", "lid"] ∧
      (g.state.elapse 1500.0 g.voicePlaying).sprites.keys = ["box"] ∧
      Action.frames [100.0, 500.0, 1000.0] 1500.0 g = Action.frame [] 1500.0 g ∧
      Action.frame [] 1500.0 g =
        .ok .dialogue { g with now := 1500.0, state := g.state.elapse 1500.0 g.voicePlaying } := by
  obtain ⟨⟨program, reached⟩, found, form⟩ := exists_ok
    (x := Program.ofFile (soloFiles busyStory) false (.nth 0) "/game/main.vn")
    (f := fun r =>
      let g := Operation.run.after (gameIn (τ := Float) (soloFiles busyStory) r.1)
      (g.state.sprites.keys, (g.state.elapse 1500.0 g.voicePlaying).sprites.keys,
        g.state.dialogue.isSome && g.menu.isNone && g.state.video.isNone))
    (b := (["box", "lid"], ["box"], true)) (by decide +kernel)
  simp only [Prod.mk.injEq, Bool.and_eq_true, Option.isNone_iff_eq_none] at form
  obtain ⟨sprites, left, ⟨line, closed⟩, dark⟩ := form
  have read : Reading (soloFiles busyStory).text? "/game/main.vn" program :=
    Reading.ofFile (FileTree.within_text? _).holds found
  have noSaves : FileTree.NoSaves (soloFiles busyStory).text? :=
    FileTree.noSaves_text? (by decide +kernel)
  have played : Played OwnSnapshots (gameIn (τ := Float) (soloFiles busyStory) program) []
      (Operation.run.after (gameIn (soloFiles busyStory) program)) :=
    .act .start (ownSnapshots_of_ne fun _ => nofun)
  exact ⟨program, reached, found, sprites, left,
    frames_skipped Clock.forward_float (FileTree.within_text? _) noSaves (read.own rfl)
      (fun _ _ found => by cases found) played line closed dark _ _ (by decide +kernel)⟩

end VisualNovel
