import VisualNovel.Proofs.Engine.Deal
import VisualNovel.Proofs.Engine.Guard
import VisualNovel.Proofs.Engine.Selection
import VisualNovel.Proofs.Story.Regular
import VisualNovel.Proofs.Story.Reloaded

/-!
Options that are there.

The player takes the option under the cursor, or names one, and the clock takes one when time is up. All of
these are numbers, and an option that is not there is a failure. The story itself only comes to numbers of
options: it offers choices with the cursor on the first one, and turns it from one to the next
(`State.Change.pickable`). A snapshot may have any number, which is moved into the range of the
options: a number without a fraction becomes that of an option, and so no frame misses one
(`frames_find_options`). A fraction stays what it is, and leads to no option (`frame_misses_half_option`).
-/

namespace VisualNovel

variable {τ : Type}

/-! ## 1. Choices with whole numbers -/

namespace Choice

/-- A choice of some options, not too many to be counted, whose numbers have no fraction. -/
structure Numbered (c : Choice τ) : Prop where
  nonempty : c.options ≠ []
  short : c.options.length < Ordinal.bound
  cursor : Number.Integral c.selected.number
  default : ∀ p ∈ c.timeoutDefault, Number.Integral p.number

/-- The option that is taken when time is up. -/
def fallback (c : Choice τ) : Ordinal :=
  (c.timeoutDefault.getD (.nth 1)).prior.clampTo c.options.length

theorem Numbered.fallback_found {c : Choice τ} (h : c.Numbered) :
    ∃ option, c.fallback.get? c.options = some option := by
  have whole : Number.Integral (c.timeoutDefault.getD (.nth 1)).number := by
    cases given : c.timeoutDefault with
    | none => exact Number.integral_ofNat 1
    | some p => exact h.default p given
  obtain ⟨k, less, same⟩ := Ordinal.clampTo_lands (Ordinal.integral_prior whole)
    (List.length_pos_iff.mpr h.nonempty) h.short
  exact ⟨c.options[k], by rw [Choice.fallback, same]; exact List.getElem?_eq_getElem less⟩

/-- The cursor is on an option. -/
def Points (c : Choice τ) : Prop := ∃ k < c.options.length, c.selected = .nth k

theorem Points.found {c : Choice τ} (h : c.Points) :
    ∃ option, c.selected.get? c.options = some option := by
  obtain ⟨k, less, same⟩ := h
  exact ⟨c.options[k], by rw [same]; exact List.getElem?_eq_getElem less⟩

end Choice

/-- A pending choice has options under all its numbers, and no map hides it. -/
structure State.Pickable (s : State τ) : Prop where
  numbered : ∀ c, s.choice = some c → c.Numbered
  points : ∀ c, s.choice = some c → c.Points
  alone : s.map.active = true → s.choice = none

/-- The choices of a program have not too many options. -/
def Program.ShortChoices (program : Program) : Prop :=
  ∀ prompt options timeout default, .choice prompt options timeout default ∈ program.commands →
    options.length < Ordinal.bound

namespace State

variable {program : Program} {s t : State τ}

theorem Pickable.of_none (none : s.choice = none) : s.Pickable where
  numbered c pending := by simp [none] at pending
  points c pending := by simp [none] at pending
  alone _ := none

theorem Pickable.introduceAll (h : s.Pickable) (program : Program) :
    (s.introduceAll program).Pickable := by
  obtain ⟨characters, same⟩ := s.introduceAll_frame program
  rw [same]
  exact { h with }

theorem pickable_start (program : Program) : (({} : State τ).introduceAll program).Pickable :=
  (Pickable.of_none rfl).introduceAll program

/-- Every change of a state keeps its choice such that options are found. -/
theorem Change.pickable [Clock τ] (formed : program.WellFormed) (short : program.ShortChoices)
    (change : s.Change program t) (h : s.Pickable) : t.Pickable := by
  cases change with
  | hideSprite name transition =>
    obtain ⟨_, _, same⟩ := s.hideSprite_frame name transition
    rw [same]
    exact { h with }
  | @animate name sprite found goal seconds ease mem now =>
    obtain ⟨_, _, same⟩ := s.animate_frame name sprite goal seconds ease now
    rw [same]
    exact { h with }
  | takeItem id amount =>
    obtain ⟨_, same⟩ := s.takeItem_frame id amount
    rw [same]
    exact { h with }
  | @offer free inside prompt options timeout timeoutDefault mem shown fill millis started =>
    obtain ⟨some, -, default⟩ := formed.commands _ mem
    have few := short _ _ _ _ mem
    refine ⟨fun c pending => ?_, fun c pending => ?_, fun active => ?_⟩
    · cases pending
      exact ⟨by simpa using some, by simpa using few, Number.integral_ofNat 0, default⟩
    · cases pending
      exact ⟨0, by simpa using List.length_pos_iff.mpr some, rfl⟩
    · rw [free.map] at active
      cases active
  | @turn choice pending terms once =>
    have numbered := h.numbered choice pending
    obtain ⟨k, less, same⟩ := h.points choice pending
    obtain ⟨j, inside, turned⟩ := Ordinal.turn_once less numbered.short once
    rw [← same] at turned
    refine ⟨fun c now => ?_, fun c now => ?_, fun active => ?_⟩
    · cases now
      exact { numbered with cursor := by rw [turned]; exact Number.integral_ofNat j }
    · cases now
      exact ⟨j, inside, turned⟩
    · rw [h.alone active] at pending
      cases pending
  | choose => exact .of_none rfl
  | showMap free => exact .of_none free.choice
  | closeMap => exact { h with alone := nofun }
  | _ => exact { h with }

end State

/-! ## 2. Snapshots -/

/-- A snapshot whose choice has whole numbers, and is not hidden by a map. -/
structure Snapshot.Pickable (data : Snapshot τ) : Prop where
  numbered : ∀ c, data.waiting = some (.choice c) → c.Numbered
  alone : data.map.active = true → ∀ c, data.waiting ≠ some (.choice c)

namespace Snapshot

variable {data : Snapshot τ}

theorem Pickable.toState [Clock τ] (h : data.Pickable) (now : τ) : (data.toState now).Pickable := by
  cases waiting : data.waiting with
  | none => exact .of_none (by simp [Snapshot.toState, choiceOf, waiting])
  | some w =>
    cases w with
    | wait | question => exact .of_none (by simp [Snapshot.toState, choiceOf, waiting])
    | choice c =>
      have numbered := h.numbered c waiting
      obtain ⟨k, less, same⟩ := Ordinal.clampTo_lands numbered.cursor
        (List.length_pos_iff.mpr numbered.nonempty) numbered.short
      have pending : (data.toState now).choice =
          some { c.mapTime (Clock.sub now) with selected := .nth k } := by
        simp only [Snapshot.toState, choiceOf, waiting, Choice.mapTime, same]
      refine ⟨fun c' now => ?_, fun c' now => ?_, fun active => ?_⟩
      · rw [pending] at now
        cases now
        exact ⟨numbered.nonempty, numbered.short, Number.integral_ofNat k, numbered.default⟩
      · rw [pending] at now
        cases now
        exact ⟨k, less, rfl⟩
      · exact absurd waiting (h.alone active c)

theorem pickable_ofState [Clock τ] {s : State τ} (h : s.Pickable) (script : Text) (now : τ) :
    (ofState s script now).Pickable := by
  have pending : ∀ c, (ofState s script now).waiting = some (.choice c) →
      ∃ old, s.choice = some old ∧ c = old.mapTime (Clock.ago now) := by
    intro c waiting
    simp only [ofState, waitingOf] at waiting
    split at waiting
    · next old same =>
      cases waiting
      exact ⟨old, same, rfl⟩
    all_goals cases waiting
  refine ⟨fun c waiting => ?_, fun active c waiting => ?_⟩
  · obtain ⟨old, same, rfl⟩ := pending c waiting
    exact { h.numbered old same with }
  · obtain ⟨old, same, -⟩ := pending c waiting
    rw [h.alone active] at same
    cases same

theorem Pickable.mapTime {σ : Type} (h : data.Pickable) (f : τ → σ) : (data.mapTime f).Pickable := by
  have pending : ∀ c, (data.mapTime f).waiting = some (.choice c) →
      ∃ old, data.waiting = some (.choice old) ∧ c = old.mapTime f := by
    intro c waiting
    obtain ⟨w, written, same⟩ := Option.map_eq_some_iff.mp waiting
    cases w with
    | choice old =>
      cases same
      exact ⟨old, written, rfl⟩
    | wait | question => cases same
  refine ⟨fun c waiting => ?_, fun active c waiting => ?_⟩
  · obtain ⟨old, same, rfl⟩ := pending c waiting
    exact { h.numbered old same with }
  · obtain ⟨old, same, -⟩ := pending c waiting
    exact h.alone active old same

/-- The numbers of a choice come back from a file without a fraction. -/
theorem ChoiceReloaded.numbered {c c' : Choice Float} (again : ChoiceReloaded c c')
    (h : c.Numbered) : c'.Numbered := by
  have size : c'.options.length = c.options.length := by
    simpa using congrArg List.length again.targets
  obtain ⟨x, number, selected⟩ := Option.map_eq_some_iff.mp again.selected
  obtain ⟨value, read, default⟩ := Option.map_eq_some_iff.mp again.default
  refine ⟨?_, size ▸ h.short, ?_, fun p' mem => ?_⟩
  · rw [← List.length_pos_iff, size, List.length_pos_iff]
    exact h.nonempty
  · rw [← selected]
    exact Ordinal.integral_ofNumber
      (Number.integral_congr (unsigned_of_finite? number).symm h.cursor)
  · rw [← default] at mem
    obtain ⟨y, rfl, rfl⟩ := Option.map_eq_some_iff.mp mem
    cases given : c.timeoutDefault with
    | none =>
      rw [given] at read
      cases read
    | some p =>
      rw [given] at read
      have same := unsigned_of_finite? (Json.of_orNone read)
      exact Ordinal.integral_ofNumber (Number.integral_congr same.symm (h.default p given))

/-- What is read of a save file that such a snapshot was written to is such a snapshot. -/
theorem Reloaded.pickable {data found : Snapshot Float} (again : data.Reloaded found)
    (h : data.Pickable) : found.Pickable where
  numbered c' waiting := by
    obtain ⟨c, written, parts⟩ := again.choice waiting
    exact parts.numbered (h.numbered c written)
  alone active c' waiting := by
    obtain ⟨c, written, -⟩ := again.choice waiting
    exact h.alone ((map?_reread again.map).1 ▸ active) c written

end Snapshot

/-! ## 3. Games -/

section

variable [Clock τ] {original : Text → Option Text}

/-- The choices of a project have not too many options. -/
def ShortChoices (original : Text → Option Text) : Prop :=
  ∀ script program, Reading original script program → program.ShortChoices

/-- Options are found in the state of a game, and after all saves among its files. -/
structure Game.Pickable (original : Text → Option Text) (g : Game τ) : Prop where
  stocked : g.Stocked original
  state : g.state.Pickable
  files : g.files.AllSaves Snapshot.Pickable

namespace Game

variable {given : Snapshot τ → Prop} {g t : Game τ}

theorem Pickable.snapshot (h : g.Pickable original) : g.snapshot.Pickable :=
  Snapshot.pickable_ofState h.state _ _

/-- Every change of a game keeps its options. -/
theorem Change.pickable (short : ShortChoices original)
    (handed : ∀ data, given data → data.Pickable) (change : Game.Change given g t)
    (h : g.Pickable original) : t.Pickable original := by
  refine ⟨change.stocked h.stocked, ?_, ?_⟩
  · cases change with
    | state change =>
      have read := h.stocked.program
      exact change.pickable read.wellFormed (short _ _ read) h.state
    | around | request | load | evict | clearLibrary | save => exact h.state
    | openVideo | lookVideo | closeVideo => exact { h.state with }
    | @call _ _ _ edition => exact { h.state.introduceAll edition.program with }
    | @stray _ _ _ edition => exact { h.state.introduceAll edition.program with }
    | restart => exact State.pickable_start _
    | @resume data program source =>
      have pickable : data.Pickable := by
        rcases source with own | ⟨path, saved, found, rfl⟩
        · exact handed data own
        · exact (h.files.load found).mapTime _
      exact (pickable.toState _).introduceAll program
  · cases change with
    | save path =>
      exact h.files.save (fun found again => again.pickable (h.snapshot.mapTime _)) path
    | _ => exact h.files

end Game
end

/-! ## 4. Actions that find their options -/

/-- A failure that is not for want of an option, nor of a point of the map. -/
def Failure.Finds (e : Failure) : Prop := ¬ e.MissesOption

theorem Failure.Common.finds {e : Failure} (common : e.Common) : e.Finds := common.2

namespace Action

variable {g : Game τ} {α : Type}

/-- An action that fails only in other ways than for want of an option. -/
def Finds (m : Action τ α) (g : Game τ) : Prop := Keeps (fun _ => True) Failure.Finds m g

theorem Aside.finds {m : Action τ α} (h : m.Aside Failure.Common) (g : Game τ) : Finds m g :=
  (h g).mono (fun _ _ => trivial) fun _ => Failure.Common.finds

/-- An option or a point that is there is found. -/
theorem finds_choose {pick : Ordinal} {target : Text} (h : g.picked? pick = some target) :
    Finds (choose pick) g := by
  unfold Finds Keeps Ends
  rw [choose_of_picked h]
  exact (aside_jump target).finds (g.inState g.state.closed)

theorem picked?_of_choice {choice : Choice τ} {pick : Ordinal} {option : ChoiceOption}
    (pending : g.state.choice = some choice) (found : pick.get? choice.options = some option) :
    g.picked? pick = some option.target := by
  simp [Game.picked?, pending, found]

theorem picked?_of_map {pick : Ordinal} {point : MapPoint} (none : g.state.choice = none)
    (active : g.state.map.active = true) (found : pick.get? g.state.map.points.toList = some point) :
    g.picked? pick = some point.target := by
  simp [Game.picked?, none, active, found]

theorem finds_mapEvent (h : g.state.Pickable) (active : g.state.map.active = true) (event : Event) :
    Finds (mapEvent event) g := by
  unfold mapEvent Finds
  rw [keeps_get]
  split
  · trivial
  · refine .ite (fun there => ?_) fun _ => trivial
    obtain ⟨point, found⟩ := Option.isSome_iff_exists.mp there
    exact finds_choose (picked?_of_map (h.alone active) active found)
  · split
    · next point _ => exact (aside_jump point.target).finds _
    · trivial
  · trivial

theorem finds_choiceEvent (h : g.state.Pickable) {choice : Choice τ}
    (pending : g.state.choice = some choice) (event : Event) : Finds (choiceEvent choice event) g := by
  unfold choiceEvent
  split
  · refine Keeps.ite (fun there => ?_) fun _ => trivial
    obtain ⟨option, found⟩ := Option.isSome_iff_exists.mp there
    exact finds_choose (picked?_of_choice pending found)
  · trivial
  · trivial
  · obtain ⟨option, found⟩ := (h.points choice pending).found
    exact finds_choose (picked?_of_choice pending found)
  · trivial

variable [Clock τ]

theorem finds_of_deals {terms : Terms τ} {m : Action τ α}
    (h : Keeps (g.Deals terms) Failure.Common m g) : Finds m g :=
  h.mono (fun _ _ => trivial) fun _ => Failure.Common.finds

/-- One event. -/
theorem finds_handle (h : g.state.Pickable) (event : Event) : Finds (handle event) g := by
  have start : g.Deals ⟨fun _ => True, fun _ => True, fun _ => True⟩ g := .refl
  unfold handle Finds
  rw [keeps_get]
  split
  · exact finds_of_deals (start.menuEvent _ event)
  · refine .ite (fun active => finds_mapEvent h active event) fun _ => ?_
    split
    · next pending => exact finds_choiceEvent h pending event
    · exact finds_of_deals (start.questionEvent _ event)
    · refine .ite (fun _ => (aside_phoneEvent event).finds g) fun _ => ?_
      split
      · exact (aside_click _).finds g
      · exact finds_of_deals (start.storyKey _)
      · trivial

/-- The option that is taken when time is up. -/
theorem finds_checkTimeout (h : g.state.Pickable) : Finds checkTimeout g := by
  unfold checkTimeout Finds
  rw [keeps_get]
  split
  · next choice pending _ =>
    split
    · trivial
    · refine .ite (fun _ => trivial) fun _ => ?_
      obtain ⟨option, found⟩ := (h.numbered choice pending).fallback_found
      exact finds_choose (g := { g with logs := _ }) (picked?_of_choice pending found)
  · trivial

/-- A run fails for its commands, or for the guard. -/
theorem finds_runAtMost (limit : Nat) (g : Game τ) : Finds (runAtMost limit) g := by
  unfold Finds Keeps Ends
  rcases runAtMost_ends limit g with ⟨-, -, -, result⟩ | ⟨-, -, -, failed, result⟩ | ⟨-, result⟩
  · rw [result]
    trivial
  · rw [result]
    exact ⟨trivial, (common_of_step_error failed).finds⟩
  · rw [result]
    refine ⟨trivial, ?_⟩
    simp [Failure.Finds, Failure.MissesOption, Failure.play]

end Action

/-! ## 5. Frames -/

variable [Clock τ] {original : Text → Option Text}

namespace Game.Pickable

open VisualNovel.Action (Keeps)

variable {g : Game τ} {α : Type}

/-- An action that finds its options, and does what a story can do. -/
theorem keeps (h : g.Pickable original) (short : ShortChoices original) {m : Action τ α}
    {F : Failure → Prop} (finds : Action.Finds m g)
    (follows : Keeps (g.Changes fun _ => False) F m g) :
    Keeps (Game.Pickable original) Failure.Finds m g := by
  refine (finds.and follows).mono (fun t ⟨_, changes⟩ => ?_) fun _ failed => failed.1
  exact changes.keep (fun g t change => change.pickable short (fun _ no => no.elim)) h

theorem handleAll (short : ShortChoices original) (events : List Event)
    (h : g.Pickable original) :
    Keeps (Game.Pickable original) Failure.Finds (events.forM Action.handle) g := by
  induction events generalizing g with
  | nil => exact h
  | cons event rest ih =>
    have start : g.Changes (fun _ => False) g := .refl
    exact Keeps.bind (h.keeps short (Action.finds_handle h.state event) (start.handle event))
      fun _ t h => ih h

/-- One frame. -/
theorem frame (short : ShortChoices original) (h : g.Pickable original) (events : List Event)
    (now : τ) : Keeps (Game.Pickable original) Failure.Finds (Action.frame events now) g := by
  have set : ({ g with now } : Game τ).Pickable original :=
    ⟨{ h.stocked with }, h.state, h.files⟩
  unfold Action.frame
  rw [Action.keeps_modify_bind]
  refine (handleAll short events set).bind fun _ t h => ?_
  have start : t.Changes (fun _ => False) t := .refl
  refine (h.keeps short (Action.finds_checkTimeout h.state) start.checkTimeout).bind fun _ u h => ?_
  have start : u.Changes (fun _ => False) u := .refl
  rw [Action.keeps_get]
  refine .ite (fun _ => h) fun _ => ?_
  refine (h.keeps short (Action.aside_passTime.finds u) start.passTime).bind fun _ v h => ?_
  have start : v.Changes (fun _ => False) v := .refl
  exact h.keeps short (Action.finds_runAtMost _ v) start.run

end Game.Pickable

/-- Operations that hand over snapshots with whole numbers, or any that were taken. -/
def HandsPickable (taken : List (Snapshot τ)) (op : Operation τ) : Prop :=
  ∀ data, op.Hands data → data ∈ taken ∨ data.Pickable

/-- In every game that is played from a new one, the cursor of a pending choice and the option that is
taken when time is up are options of the choice, and no frame fails for want of an option, whatever the
player does and whenever it is. The numbers in every save and in every snapshot from outside
have no fraction, and no map hides their choice. -/
theorem frames_find_options {setup : Setup τ} {library : Library} {files : FileTree}
    {program : Program} (texts : files.Within original)
    (read : Reading original program.script program)
    (shelf : ∀ script edition, library.shelf.get? script = some edition →
      Reading original script edition.program)
    (short : ShortChoices original) (saves : files.AllSaves Snapshot.Pickable)
    {taken : List (Snapshot τ)} {g : Game τ}
    (played : Played HandsPickable (Game.start setup library files program) taken g) :
    (∀ choice, g.state.choice = some choice →
      (∃ option, choice.selected.get? choice.options = some option) ∧
        ∃ option, choice.fallback.get? choice.options = some option) ∧
      ∀ events now e, (Operation.frame events now).failure? g = some e → ¬ e.MissesOption := by
  have start : (Game.start setup library files program).Pickable original :=
    ⟨.start texts.holds read shelf, State.pickable_start _, saves⟩
  have pickable := (played.invariant (P := Game.Pickable original) start (fun g h => h.snapshot)
    (fun taken op ok good data hands => (ok data hands).elim (good data) id)
    fun given g t handed change h => change.pickable short handed h).1
  refine ⟨fun choice pending => ?_, fun events now e failed => ?_⟩
  · exact ⟨(pickable.state.points choice pending).found,
      (pickable.state.numbered choice pending).fallback_found⟩
  · have framed : Action.Keeps (Game.Pickable original) Failure.Finds
        (Operation.frame events now).action g :=
      (pickable.frame short events now).bind fun _ t h => h
    exact Operation.failed_of_keeps framed failed

/-- A story that begins with a choice. -/
def crossSource : Text :=
  "ask \"Which way?\" \"Left\" -> left \"Right\" -> right; label left: label right:"

/-- A snapshot of the choice with the cursor somewhere, and with an option for the time when it is up that
is far behind the last one. -/
def crossSave (selected : Ordinal) : Snapshot Float :=
  .ofState
    { index := .nth 1
      choice := some
        { prompt := "Which way?", options := [⟨"Left", "left"⟩, ⟨"Right", "right"⟩], selected,
          timeout := some 1000.0, timeoutDefault := some (.nth 9), started := 0.0 } }
    "main.vn" 0.0

/-- The game goes on from the snapshot. -/
def crossGame (selected : Ordinal) (program : Program) : Game Float :=
  (Operation.restore (crossSave selected)).after (gameIn (soloFiles crossSource) program)

/-- The cursor of the snapshot is on an eighth option of two. It is moved to the second one, and an option
is found for the player, and for the clock when time is up. -/
theorem frames_find_options_cross :
    ∃ program reached,
      Program.ofFile (soloFiles crossSource) false (.nth 0) "/game/main.vn" =
        .ok (program, reached) ∧
      (crossGame (.nth 7) program).state.choice.isSome = true ∧
      ∀ e, (Operation.frame [.key .confirm] 0.0).failure? (crossGame (.nth 7) program) = some e ∨
          (Operation.frame [] 2000.0).failure? (crossGame (.nth 7) program) = some e →
        ¬ e.MissesOption := by
  obtain ⟨⟨program, reached⟩, found, form⟩ := exists_ok
    (x := Program.ofFile (soloFiles crossSource) false (.nth 0) "/game/main.vn")
    (f := fun r => (r.1.commands, (crossGame (.nth 7) r.1).state.choice.isSome))
    (b := (#[.choice "Which way?" [⟨"Left", "left"⟩, ⟨"Right", "right"⟩] none none, .label "left",
      .label "right"], true))
    (by decide +kernel)
  obtain ⟨commands, pending⟩ := Prod.mk.inj form
  have read : Reading (soloFiles crossSource).text? "/game/main.vn" program :=
    Reading.ofFile (FileTree.within_text? _).holds found
  have short : ShortChoices (soloFiles crossSource).text? := by
    intro script other reading prompt options timeout default mem
    obtain rfl := script_of_solo reading
    obtain rfl := reading.unique read
    rw [commands] at mem
    obtain ⟨-, rfl, -, -⟩ : prompt = "Which way?" ∧ options = [⟨"Left", "left"⟩, ⟨"Right", "right"⟩] ∧
        timeout = none ∧ default = none := by
      simpa using mem
    decide
  have noSaves : FileTree.NoSaves (soloFiles crossSource).text? := FileTree.noSaves_text? (by decide)
  have whole : (crossSave (.nth 7)).Pickable := by
    refine ⟨fun c waiting => ?_, nofun⟩
    cases waiting
    refine ⟨nofun, by decide, Number.integral_ofNat 7, fun p mem => ?_⟩
    cases mem
    exact Number.integral_ofNat 9
  have played : Played HandsPickable (gameIn (τ := Float) (soloFiles crossSource) program) []
      (crossGame (.nth 7) program) := by
    refine .act .start fun data hands => ?_
    cases hands
    exact .inr whole
  obtain ⟨-, finds⟩ := frames_find_options (FileTree.within_text? _) (read.own rfl)
    (fun _ _ found => by cases found) short (noSaves.all _) played
  exact ⟨program, reached, found, pending, fun e failed => failed.elim (finds _ _ e) (finds _ _ e)⟩

/-! ## 6. Half an option -/

/-- A save file is accepted that has the cursor half way between two options, and the game goes on from it.
The player confirms, and no option is found. -/
theorem frame_misses_half_option :
    ∃ (program : Program) (e : Failure),
      Reading (soloFiles crossSource).text? program.script program ∧
      (Snapshot.ofJson? (crossSave (.stray 0.5)).toJson).isSome = true ∧
      (∃ t, Action.restore (crossSave (.stray 0.5)) (gameIn (soloFiles crossSource) program) =
        .ok true t) ∧
      (Operation.frame [.key .confirm] 0.0).failure? (crossGame (.stray 0.5) program) = some e ∧
      e.MissesOption := by
  obtain ⟨⟨program, reached⟩, found, form⟩ := exists_ok
    (x := Program.ofFile (soloFiles crossSource) false (.nth 0) "/game/main.vn")
    (f := fun r =>
      ((match Action.restore (crossSave (.stray 0.5)) (gameIn (soloFiles crossSource) r.1) with
        | .ok done _ => done
        | .error _ _ => false),
        (Operation.frame [.key .confirm] 0.0).failure? (crossGame (.stray 0.5) r.1)))
    (b := (true, some (.play (.choiceIndex "0.5"))))
    (by decide +kernel)
  obtain ⟨restored, failed⟩ := Prod.mk.inj form
  have goes : ∃ t, Action.restore (crossSave (.stray 0.5)) (gameIn (soloFiles crossSource) program) =
      .ok true t := by
    split at restored
    · next done t same =>
      subst restored
      exact ⟨t, same⟩
    · cases restored
  have read := Reading.ofFile (FileTree.within_text? _).holds found
  exact ⟨program, _, read.own rfl, by decide +kernel, goes, failed, .inl ⟨_, rfl⟩⟩

end VisualNovel
