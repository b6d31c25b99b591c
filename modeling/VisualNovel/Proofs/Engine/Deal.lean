import VisualNovel.Proofs.Engine.Aside
import VisualNovel.Proofs.Engine.Stock

/-!
Dealings with what a game keeps from scene to scene.

`Game.Deal` lists the ways in which the store of a state, the files and the requests about music and
echo change, each with where it comes from, and `Game.Deals` are chains of them. What a command or
an event does to these things in several steps is one dealing: a variable is set and its meter shows
the value, an item is put in and the page is moved into its range. Everything else that an action
does is aside. So what every dealing keeps holds in every game that is played (`Played.deals`).

The chain is about single actions where the changes of `Game.Changes` are about single fields, and
both are needed: which program a command comes from is seen from the changes.
-/

namespace VisualNovel

variable {τ : Type}

/-! ## 1. Dealings -/

/-- What the dealings of a game depend on: the commands that there are, how far pages are turned from
outside, and the snapshots that are handed over. -/
structure Terms (τ : Type) where
  known : Command → Prop
  turns : Float → Prop
  given : Snapshot τ → Prop

/-- One dealing of a state with its store. -/
inductive State.Deal (terms : Terms τ) (perPage : Float) : State τ → State τ → Prop
  -- Variables and meters.
  | setVariable {s : State τ} (name : Text) (value : Value) :
      Deal terms perPage s (s.setVariable name value)
  | showMeter {s : State τ} {name label : Text} {min max : Float} {color : Option Text}
      (known : terms.known (.showMeter name label min max color)) :
      Deal terms perPage s
        { s with meters := s.meters.set name ⟨label, min, max, s.meterValue name min max, color⟩ }
  | refreshMeter {s : State τ} (name : Text) : Deal terms perPage s (s.refreshMeter name)
  | eraseMeter {s : State τ} (name : Text) :
      Deal terms perPage s { s with meters := s.meters.erase name }
  | clearMeters {s : State τ} : Deal terms perPage s { s with meters := {} }
  -- Items, with the page moved into its range, and pages.
  | addItem {s : State τ} {id name description : Text} {icon : Option Text} {amount : Float}
      (known : terms.known (.addItem id name description icon amount)) :
      Deal terms perPage s ((s.addItem id ⟨name, description, icon, amount⟩).scroll perPage 0.0)
  | takeItem {s : State τ} {id : Text} {amount : Float} (known : terms.known (.removeItem id amount)) :
      Deal terms perPage s ((s.takeItem id amount).scroll perPage 0.0)
  | clearItems {s : State τ} :
      Deal terms perPage s (({ s with inventory := {} } : State τ).scroll perPage 0.0)
  | turn {s : State τ} {delta : Float} (turned : delta = -1.0 ∨ delta = 1.0 ∨ terms.turns delta) :
      Deal terms perPage s (s.scroll perPage delta)
  -- Sound.
  | sound {s : State τ} {music : Option Music} {echo : Option Text} :
      Deal terms perPage s { s with music, echo }

/-- One dealing of a game. -/
inductive Game.Deal [Clock τ] (terms : Terms τ) : Game τ → Game τ → Prop
  | aside {g t : Game τ} (same : g.Aside t) : Deal terms g t
  | state {g : Game τ} {s : State τ}
      (deal : g.state.Deal terms g.setup.settings.itemsPerPage s) :
      Deal terms g { g with state := s }
  | ask {g : Game τ} {requests : Array AssetRequest} : Deal terms g { g with requests }
  | save {g : Game τ} (path : Text) :
      Deal terms g
        { g with files := ((g.snapshot.mapTime Clock.toMillis).save g.files path).files }
  | restart {g : Game τ} :
      Deal terms g { g with program := g.entry, state := ({} : State τ).introduceAll g.entry }
  | resume {g : Game τ} {data : Snapshot τ} {program : Program}
      (source : terms.given data ∨ g.files.Stores data) :
      Deal terms g { g with program, state := (data.toState g.now).introduceAll program }

variable [Clock τ] {terms : Terms τ} {g₀ g : Game τ}

/-- Dealings one after another. -/
def Game.Deals (terms : Terms τ) : Game τ → Game τ → Prop :=
  Relation.ReflTransGen (Game.Deal terms)

/-- What every dealing keeps is kept by all of them. -/
theorem Game.Deals.keep {P : Game τ → Prop} (h : g₀.Deals terms g)
    (step : ∀ g t, Game.Deal terms g t → P g → P t) (first : P g₀) : P g := by
  induction h with
  | refl => exact first
  | tail _ deal ih => exact step _ _ deal ih

/-! ## 2. Actions -/

namespace Game.Deals

open VisualNovel.Action (Keeps)

variable {α : Type}

theorem state (h : g₀.Deals terms g) {s : State τ}
    (deal : g.state.Deal terms g.setup.settings.itemsPerPage s) :
    g₀.Deals terms { g with state := s } := h.tail (.state deal)

/-- What leaves everything aside is a dealing. -/
theorem aside {F : Failure → Prop} (h : g₀.Deals terms g) {m : Action τ α} (aside : m.Aside F) :
    Keeps (g₀.Deals terms) F m g := (aside g).mono (fun _ same => h.tail (.aside same)) fun _ => id

theorem submit (h : g₀.Deals terms g) (text : Option Text) :
    Keeps (g₀.Deals terms) Failure.Common (Action.submit text) g := by
  unfold Action.submit
  rw [Action.keeps_state]
  split
  · refine ⟨h, ?_⟩
    simp [Failure.Common, Failure.ExceedsGuard, Failure.MissesOption, Failure.play]
  · next question _ =>
    have answered : ∀ answer, g₀.Deals terms
        { g with state := { g.state.setVariable question.name answer with question := none } } :=
      fun answer => (h.state (.setVariable question.name answer)).tail (.aside ⟨rfl, rfl, rfl, rfl⟩)
    exact answered _

theorem scroll {F : Failure → Prop} (h : g₀.Deals terms g) {delta : Float}
    (turned : delta = -1.0 ∨ delta = 1.0 ∨ terms.turns delta) :
    Keeps (g₀.Deals terms) F (Action.scroll delta) g := h.state (.turn turned)

theorem restart {F : Failure → Prop} (h : g₀.Deals terms g) :
    Keeps (g₀.Deals terms) F Action.restart g := by
  rw [Action.restart]
  refine Keeps.bind (h.aside Action.aside_closeVideo) fun _ t h => ?_
  have begun : g₀.Deals terms
      { t with program := t.entry, state := ({} : State τ).introduceAll t.entry } := h.tail .restart
  exact begun.tail (.aside ⟨rfl, rfl, rfl, rfl⟩)

theorem saveTo (h : g₀.Deals terms g) (path : Text) :
    Keeps (g₀.Deals terms) Failure.Common (Action.saveTo path) g := by
  have taken : Action.snapshot g = .ok g.snapshot g := rfl
  have written : g₀.Deals terms { g with
      files := ((g.snapshot.mapTime Clock.toMillis).save g.files path).files } := h.tail (.save path)
  unfold Action.saveTo
  rw [Action.keeps_bind_ok taken, Action.keeps_get, Action.keeps_set_bind]
  refine Keeps.bind (written.aside (Action.aside_logAll _)) fun _ t h => ?_
  split
  · exact ⟨h, Failure.common_file _⟩
  · exact h
  · exact h.aside ((Action.aside_log _ _).bind fun _ => Action.aside_pure _)

theorem save (h : g₀.Deals terms g) (slot : Option Text) :
    Keeps (g₀.Deals terms) Failure.Common (Action.save slot) g := h.saveTo _

/-- A game goes on from a snapshot, if it can. -/
theorem restore (h : g₀.Deals terms g) {data : Snapshot τ}
    (source : terms.given data ∨ g.files.Stores data) :
    Keeps (g₀.Deals terms) Failure.Common (Action.restore data) g := by
  unfold Action.restore
  rw [Action.keeps_get]
  have ready : ∀ t, g.Searched (Path.fromProject g.setup.root data.script) t →
      g₀.Deals terms t := by
    rintro t ⟨library, logs, rfl, -⟩
    exact h.tail (.aside ⟨rfl, rfl, rfl, rfl⟩)
  refine Action.keeps_savedProgram_bind ready (fun _ => Failure.common_of_isEndless)
    fun found t searched _ => ?_
  cases found with
  | none => exact ready t searched
  | some program =>
    refine .ite (fun _ => (ready t searched).aside ?_) fun _ => ?_
    · exact (Action.aside_log _ _).bind fun _ => Action.aside_pure _
    · rw [Action.keeps_bind_ok (Action.resumeFrom_eq t data program)]
      have ready := ready t searched
      obtain ⟨library, logs, rfl, -⟩ := searched
      have resumed : g₀.Deals terms { g with
          library, logs, program
          state := (data.toState g.now).introduceAll program } := ready.tail (.resume source)
      exact resumed.tail .ask

theorem loadFrom (h : g₀.Deals terms g) (path : Text) :
    Keeps (g₀.Deals terms) Failure.Common (Action.loadFrom path) g := by
  unfold Action.loadFrom
  rw [Action.keeps_get]
  split
  next data? logs found =>
  have logged : g₀.Deals terms { g with logs := g.logs ++ logs.toArray } :=
    h.tail (.aside ⟨rfl, rfl, rfl, rfl⟩)
  rw [Action.logAll, Action.keeps_modify_bind]
  cases data? with
  | none => exact logged
  | some data => exact logged.restore (.inr ⟨path, data, by rw [found], rfl⟩)

theorem load (h : g₀.Deals terms g) (slot : Option Text) :
    Keeps (g₀.Deals terms) Failure.Common (Action.load slot) g := h.loadFrom _

/-! ### Events -/

theorem takeMenuAction (h : g₀.Deals terms g) (name : Text) :
    Keeps (g₀.Deals terms) Failure.Common (Action.takeMenuAction name) g := by
  have menus : ∀ {t menu}, g₀.Deals terms t →
      Keeps (g₀.Deals terms) Failure.Common (Action.setMenu menu) t :=
    fun h => h.aside (Action.aside_setMenu _)
  unfold Action.takeMenuAction
  rw [Action.keeps_get]
  split
  · exact h
  · next menu _ =>
    split
    · refine .ite (fun _ => ?_) fun _ => ?_
      · exact (h.save _).bind fun path t h => .ite (fun _ => menus h) fun _ => h
      · exact (h.load _).bind fun done t h => .ite (fun _ => menus h) fun _ => h
    · exact h.restart
    · refine (h.load _).bind fun done t h => ?_
      exact .ite (fun _ => menus h) fun _ => h.aside (Action.aside_log _ _)
    · exact menus h
    · exact menus h
    · exact menus h
    · exact .ite (fun _ => menus h) fun _ => h
    · exact h.tail (.aside ⟨rfl, rfl, rfl, rfl⟩)
    · exact (h.save _).bind fun path t h => .ite (fun _ => menus h) fun _ => h
    · exact (h.load _).bind fun done t h => .ite (fun _ => menus h) fun _ => h
    · exact h.aside (Action.aside_log _ _)

theorem takeMenuEntry (h : g₀.Deals terms g) (menu : Menu) (pick : Ordinal) :
    Keeps (g₀.Deals terms) Failure.Common (Action.takeMenuEntry menu pick) g := by
  unfold Action.takeMenuEntry
  rw [Action.keeps_get]
  split
  · exact h.takeMenuAction _
  · exact h

theorem menuEvent (h : g₀.Deals terms g) (menu : Menu) (event : Event) :
    Keeps (g₀.Deals terms) Failure.Common (Action.menuEvent menu event) g := by
  have menus : ∀ {t menu}, g₀.Deals terms t →
      Keeps (g₀.Deals terms) Failure.Common (Action.setMenu menu) t :=
    fun h => h.aside (Action.aside_setMenu _)
  unfold Action.menuEvent
  rw [Action.keeps_get]
  simp only
  split
  · exact .ite (fun _ => (menus h).bind fun _ t h => h.takeMenuEntry _ _) fun _ => h
  · exact menus h
  · exact menus h
  · exact h.takeMenuEntry _ _
  · exact .ite (fun _ => h.takeMenuAction _) fun _ => .ite (fun _ => menus h) fun _ => h
  · exact .ite (fun _ => h.takeMenuAction _) fun _ => .ite (fun _ => menus h) fun _ => h
  · exact h

theorem questionEvent (h : g₀.Deals terms g) (question : Question) (event : Event) :
    Keeps (g₀.Deals terms) Failure.Common (Action.questionEvent question event) g := by
  unfold Action.questionEvent
  simp only
  split
  · exact h.aside (Action.aside_change fun _ => rfl)
  · exact h.aside (Action.aside_change fun _ => rfl)
  · exact h.submit _
  · exact h

theorem storyKey (h : g₀.Deals terms g) (key : Key) :
    Keeps (g₀.Deals terms) Failure.Common (Action.storyKey key) g := by
  unfold Action.storyKey
  split
  · exact (h.aside Action.aside_openPauseMenu).bind fun _ t h => h
  · exact (h.save _).bind fun _ t h => h
  · exact (h.load _).bind fun _ t h => h
  · rw [Action.keeps_get]
    exact .ite (fun _ => h.aside Action.aside_toggleInventory) fun _ => h
  · exact (h.scroll (.inl rfl)).bind fun _ t h => h
  · exact (h.scroll (.inr (.inl rfl))).bind fun _ t h => h
  · exact h.aside (Action.aside_change fun _ => rfl)
  · exact h.aside (Action.aside_change fun _ => rfl)
  · exact h.aside (Action.aside_change fun _ => rfl)
  · exact h
  · exact h
  · exact h

/-- One event. -/
theorem handle (h : g₀.Deals terms g) (event : Event) :
    Keeps (g₀.Deals terms) (fun _ => True) (Action.handle event) g := by
  have common : ∀ {m : Action τ Unit}, Keeps (g₀.Deals terms) Failure.Common m g →
      Keeps (g₀.Deals terms) (fun _ => True) m g :=
    fun kept => kept.mono (fun _ => id) fun _ _ => trivial
  unfold Action.handle
  rw [Action.keeps_get]
  split
  · exact common (h.menuEvent _ _)
  · refine .ite (fun _ => h.aside (Action.aside_mapEvent _)) fun _ => ?_
    split
    · exact h.aside (Action.aside_choiceEvent _ _)
    · exact common (h.questionEvent _ _)
    · refine .ite (fun _ => h.aside (Action.aside_phoneEvent _)) fun _ => ?_
      split
      · exact common (h.aside (Action.aside_click _))
      · exact common (h.storyKey _)
      · exact h

/-! ### Commands -/

/-- A command about what is kept is one dealing, with its requests. -/
theorem executeKeeping (h : g₀.Deals terms g) {c : Command} (known : terms.known c)
    (keeping : c.isKeeping = true) :
    Keeps (g₀.Deals terms) Failure.Common (Action.execute c) g := by
  have asks : ∀ {t r}, g₀.Deals terms t →
      Keeps (g₀.Deals terms) Failure.Common (Action.request r) t := fun h => h.tail .ask
  have sounds : ∀ {t : Game τ} {music echo}, g₀.Deals terms t →
      g₀.Deals terms { t with state := { t.state with music, echo } } := fun h => h.state .sound
  unfold Action.execute
  rw [Action.keeps_get]
  simp only
  cases c with
  | setVariable name value =>
    simp only
    split
    · exact h.state (.setVariable _ _)
    · exact h.aside (Action.aside_log _ _)
  | addVariable name amount => exact h.state (.setVariable _ _)
  | showMeter name label min max color => exact h.state (.showMeter known)
  | hideMeter name => exact h.state (.eraseMeter name)
  | updateMeter name => exact h.state (.refreshMeter name)
  | clearMeters => exact h.state .clearMeters
  | addItem id name description icon amount => exact h.state (.addItem known)
  | removeItem id amount => exact h.state (.takeItem known)
  | clearItems => exact h.state .clearItems
  | music channel path loop => exact asks (sounds h)
  | echo path => exact asks (sounds h)
  | stopEcho => exact asks (sounds h)
  | mute target =>
    refine Keeps.bind (asks h) fun _ t h => ?_
    have noEcho : ∀ t, g₀.Deals terms t → Keeps (g₀.Deals terms) Failure.Common
        (if (decide (target = Text.ofString "all") || decide (target = Text.ofString "echo")) = true then
          Action.change fun s => { s with echo := none } else pure ()) t :=
      fun t h => .ite (fun _ => sounds h) fun _ => h
    refine .ite (fun _ => ?_) fun _ => noEcho t h
    exact Keeps.bind (sounds h) fun _ u h => noEcho u h
  | _ => cases keeping

/-- One command. -/
theorem execute (h : g₀.Deals terms g) {c : Command} (known : terms.known c) :
    Keeps (g₀.Deals terms) Failure.Common (Action.execute c) g := by
  cases keeping : c.isKeeping with
  | true => exact h.executeKeeping known keeping
  | false =>
    cases saving : c.isSaving with
    | false => exact h.aside (Action.aside_execute keeping saving)
    | true =>
      cases c with
      | save slot => exact (h.save slot).bind fun _ t h => h
      | load slot => exact (h.load slot).bind fun _ t h => h
      | _ => cases saving

/-- The next command of a program whose commands are known. -/
theorem step (h : g₀.Deals terms g) (known : ∀ c ∈ g.program.commands, terms.known c) :
    Keeps (g₀.Deals terms) Failure.Common Action.step g := by
  have moved : g₀.Deals terms { g with state := { g.state with index := g.state.index.next } } :=
    h.tail (.aside ⟨rfl, rfl, rfl, rfl⟩)
  unfold Action.step
  rw [Action.keeps_get, Action.keeps_change_bind]
  split
  · next c found =>
    unfold Program.commandAt? at found
    split at found
    · exact moved.execute (known c (Array.mem_of_getElem? found))
    · cases found
  · exact ⟨moved, Failure.common_noCommand⟩

end Game.Deals

/-! ## 3. Runs and sessions -/

section

variable {S : Game τ → Prop}

/-- Games of a kind that no change leaves, and whose programs have only commands that are known. -/
structure Terms.Cover (terms : Terms τ) (S : Game τ → Prop) : Prop where
  keep : ∀ {given : Snapshot τ → Prop} {g t : Game τ}, Game.Change given g t → S g → S t
  known : ∀ g, S g → ∀ c ∈ g.program.commands, terms.known c

/-- Where every command is known, all games are covered. -/
theorem Terms.cover_all (known : ∀ c, terms.known c) : terms.Cover fun _ => True :=
  ⟨fun _ _ => trivial, fun _ _ c _ => known c⟩

/-- Where the commands of a project are known, the games over it are covered. -/
theorem Terms.cover_stocked {original : Text → Option Text}
    (known : ∀ script program, Reading original script program →
      ∀ c ∈ program.commands, terms.known c) :
    terms.Cover (Game.Stocked original) :=
  ⟨fun change => change.stocked, fun _ stocked => known _ _ stocked.program⟩

/-- A game of a kind that dealings lead to. -/
def Game.Dealt (terms : Terms τ) (S : Game τ → Prop) (g₀ g : Game τ) : Prop :=
  g₀.Deals terms g ∧ S g

namespace Game.Dealt

open VisualNovel.Action (Keeps)

variable {α : Type} {F : Failure → Prop}

/-- The changes of an action tell of which kind a game is afterwards. -/
theorem keeps (cover : terms.Cover S) (h : g₀.Dealt terms S g) {given : Snapshot τ → Prop}
    {m : Action τ α} {G : Failure → Prop} (deals : Keeps (g₀.Deals terms) F m g)
    (follows : Keeps (g.Changes given) G m g) : Keeps (g₀.Dealt terms S) F m g := by
  refine (deals.and follows).mono (fun t ⟨dealt, changes⟩ => ⟨dealt, ?_⟩) fun _ failed => failed.1
  exact changes.keep (fun _ _ => cover.keep) h.2

theorem step (cover : terms.Cover S) (h : g₀.Dealt terms S g) (running : g.status = .running) :
    Keeps (g₀.Dealt terms S) Failure.Common Action.step g := by
  have start : g.Changes terms.given g := .refl
  exact h.keeps cover (h.1.step (cover.known g h.2))
    (start.step (Game.closed_of_running running).2)

theorem runAtMost (cover : terms.Cover S) (h : g₀.Dealt terms S g) (limit : Nat) :
    Keeps (g₀.Dealt terms S) (fun _ => True) (Action.runAtMost limit) g := by
  induction limit generalizing g with
  | zero => exact ⟨h, trivial⟩
  | succ limit ih =>
    have read : Action.status g = .ok g.status g := rfl
    rw [Action.runAtMost, Action.keeps_bind_ok read]
    refine .ite (fun _ => h) fun running => ?_
    refine Keeps.bind ?_ fun _ t h => ih h
    exact (h.step cover (Decidable.not_not.mp running)).mono (fun _ => id) fun _ _ => trivial

theorem handle (cover : terms.Cover S) (h : g₀.Dealt terms S g) (event : Event) :
    Keeps (g₀.Dealt terms S) (fun _ => True) (Action.handle event) g := by
  have start : g.Changes terms.given g := .refl
  exact h.keeps cover (h.1.handle event) (start.handle event)

theorem frame (cover : terms.Cover S) (h : g₀.Dealt terms S g) (events : List Event) (now : τ) :
    Keeps (g₀.Dealt terms S) (fun _ => True) (Action.frame events now) g := by
  have handled : ∀ {t : Game τ}, g₀.Dealt terms S t →
      Keeps (g₀.Dealt terms S) (fun _ => True) (events.forM Action.handle) t := by
    induction events with
    | nil => exact fun h => h
    | cons event rest ih => exact fun h => Keeps.bind (h.handle cover event) fun _ u h => ih h
  have start : g.Changes terms.given { g with now } := .single .around
  have set : g₀.Dealt terms S { g with now } :=
    ⟨h.1.tail (.aside ⟨rfl, rfl, rfl, rfl⟩), start.keep (fun _ _ => cover.keep) h.2⟩
  unfold Action.frame
  rw [Action.keeps_modify_bind]
  refine (handled set).bind fun _ t h => ?_
  have start : t.Changes terms.given t := .refl
  refine (h.keeps cover (h.1.aside Action.aside_checkTimeout) start.checkTimeout).bind
    fun _ u h => ?_
  have start : u.Changes terms.given u := .refl
  rw [Action.keeps_get]
  refine .ite (fun _ => h) fun _ => ?_
  exact (h.keeps cover (h.1.aside Action.aside_passTime) start.passTime).bind fun _ v h =>
    h.runAtMost cover _

end Game.Dealt

/-- An operation that hands over only what the terms allow. -/
structure Operation.Meets (terms : Terms τ) (op : Operation τ) : Prop where
  turns : ∀ delta, op = .scroll delta → terms.turns delta
  given : ∀ data, op.Hands data → terms.given data

/-- An operation deals with a game as its terms say. -/
theorem Operation.dealt {op : Operation τ} (cover : terms.Cover S) (h : g₀.Dealt terms S g)
    (meets : op.Meets terms) : g₀.Dealt terms S (op.after g) := by
  have deals : Action.Keeps (g₀.Deals terms) (fun _ => True) op.action g := by
    have common : ∀ {α : Type} {m : Action τ α}, Action.Keeps (g₀.Deals terms) Failure.Common m g →
        Action.Keeps (g₀.Deals terms) (fun _ => True) m g :=
      fun kept => kept.mono (fun _ => id) fun _ _ => trivial
    cases op with
    | frame events now =>
      have framed := (h.frame cover events now).mono (fun _ => And.left) fun _ => id
      exact Action.Keeps.bind framed fun _ t h => h
    | run =>
      have ran := (h.runAtMost cover commandLimit).mono (fun _ => And.left) fun _ => id
      exact Action.Keeps.bind ran fun _ t h => h
    | jump target => exact common (h.1.aside (Action.aside_jump target))
    | choose pick => exact h.1.aside (Action.aside_choose pick)
    | submit text => exact common (h.1.submit text)
    | advance => exact Action.Keeps.bind (h.1.aside Action.aside_advance) fun _ t h => h
    | toggleInventory => exact h.1.aside Action.aside_toggleInventory
    | scroll delta =>
      exact Action.Keeps.bind (h.1.scroll (.inr (.inr (meets.turns delta rfl)))) fun _ t h => h
    | openPauseMenu => exact Action.Keeps.bind (h.1.aside Action.aside_openPauseMenu) fun _ t h => h
    | takeMenuAction name => exact common (h.1.takeMenuAction name)
    | setMenu menu => exact h.1.aside (Action.aside_setMenu menu)
    | restart => exact h.1.restart
    | save slot =>
      exact Action.Keeps.bind (common (h.1.save slot)) fun _ t h => h
    | load slot => exact Action.Keeps.bind (common (h.1.load slot)) fun _ t h => h
    | restore data =>
      exact Action.Keeps.bind (common (h.1.restore (.inl (meets.given data rfl)))) fun _ t h => h
    | setVoice playing => exact h.1.tail (.aside ⟨rfl, rfl, rfl, rfl⟩)
    | close => exact h.1.aside Action.aside_closeVideo
  exact Operation.holds_after (h.keeps cover deals (op.follows g))

/-- What every dealing keeps holds of every game of a session, and the snapshots that are taken on the
way are such as may be handed over. -/
theorem Played.deals {allowed : List (Snapshot τ) → Operation τ → Prop} {start : Game τ}
    {taken : List (Snapshot τ)} (played : Played allowed start taken g) (cover : terms.Cover S)
    (kind : S start) {P : Game τ → Prop} (first : P start)
    (snapshot : ∀ g, P g → terms.given g.snapshot)
    (meets : ∀ taken op, allowed taken op → (∀ data ∈ taken, terms.given data) → op.Meets terms)
    (step : ∀ g t, Game.Deal terms g t → P g → P t) :
    P g ∧ ∀ data ∈ taken, terms.given data := by
  suffices all : start.Dealt terms S g ∧ ∀ data ∈ taken, terms.given data from
    ⟨all.1.1.keep step first, all.2⟩
  induction played with
  | start => exact ⟨⟨.refl, kind⟩, by simp⟩
  | @act taken g before op ok ih =>
    obtain ⟨dealt, good⟩ := ih
    exact ⟨Operation.dealt cover dealt (meets taken op ok good), good⟩
  | keep before ih =>
    obtain ⟨dealt, good⟩ := ih
    refine ⟨dealt, fun data mem => ?_⟩
    rcases List.mem_cons.mp mem with rfl | old
    · exact snapshot _ (dealt.1.keep step first)
    · exact good data old

end
end VisualNovel
