import VisualNovel.Proofs.Engine.Counter

/-!
Exits: what can be chosen or clicked.

Options of a choice, points of a map, buttons and hotspots are put into a state by commands, and wait
there until the player takes one of them. What holds of the exits that commands make, and of those that
come with snapshots, holds of all exits of a state (`Game.Change.exitsIn`): nothing else makes an exit,
and none is altered. So every exit that is there at the end of a session was there at its beginning, or a
command or a snapshot brought it in on the way (`Game.Changes.exits`). The exits of a command lead to its
targets (`Command.target_mem`).
-/

namespace VisualNovel

variable {τ : Type}

/-! ## 1. Exits of states, snapshots and commands -/

/-- Something that can be chosen or clicked. -/
inductive Exit where
  | option (option : ChoiceOption)
  | point (point : MapPoint)
  | button (button : HudButton)
  | hotspot (hotspot : Hotspot)
  deriving DecidableEq, Repr

/-- Where an exit leads. -/
def Exit.target : Exit → Text
  | .option o => o.target
  | .point p => p.target
  | .button b => b.target
  | .hotspot h => h.target

/-- The exits of a state. -/
def State.exits (s : State τ) : List Exit :=
  ((s.choice.map (·.options)).getD []).map Exit.option ++ s.map.points.toList.map Exit.point ++
    s.hud.values.map Exit.button ++ s.hotspots.values.map Exit.hotspot

/-- The options of a choice that is waited for. -/
def Waiting.options : Waiting τ → List ChoiceOption
  | .choice c => c.options
  | _ => []

/-- The exits of a snapshot. -/
def Snapshot.exits (data : Snapshot τ) : List Exit :=
  ((data.waiting.map (·.options)).getD []).map Exit.option ++ data.map.points.toList.map Exit.point ++
    data.hud.map Exit.button ++ data.hotspots.map Exit.hotspot

/-- The exits that a command makes, with its texts filled in. -/
def Command.exits (fill : Text → Text) : Command → List Exit
  | .choice _ options _ _ => options.map fun o => .option ⟨fill o.text, o.target⟩
  | .mapPoint title pos corners target => [.point ⟨title, target, pos, corners.getD []⟩]
  | .button b => [.button b]
  | .hotspot name shape target => [.hotspot ⟨name, shape, target⟩]
  | _ => []

/-- The exits of a command lead to targets of it. -/
theorem Command.target_mem {fill : Text → Text} {c : Command} {x : Exit} (mem : x ∈ c.exits fill) :
    x.target ∈ c.targets := by
  cases c with
  | choice prompt options timeout timeoutDefault =>
    obtain ⟨o, inside, rfl⟩ := List.mem_map.mp mem
    exact List.mem_map.mpr ⟨o, inside, rfl⟩
  | mapPoint | button | hotspot =>
    obtain rfl := List.mem_singleton.mp mem
    exact List.mem_singleton.mpr rfl
  | _ => cases mem

/-- All exits of a state are of a kind. -/
structure State.ExitsIn (A : Exit → Prop) (s : State τ) : Prop where
  options : ∀ c ∈ s.choice, ∀ o ∈ c.options, A (.option o)
  points : ∀ p ∈ s.map.points, A (.point p)
  buttons : ∀ b ∈ s.hud.values, A (.button b)
  hotspots : ∀ h ∈ s.hotspots.values, A (.hotspot h)

/-- All exits of a snapshot are of a kind. -/
structure Snapshot.ExitsIn (A : Exit → Prop) (data : Snapshot τ) : Prop where
  options : ∀ c, data.waiting = some (.choice c) → ∀ o ∈ c.options, A (.option o)
  points : ∀ p ∈ data.map.points, A (.point p)
  buttons : ∀ b ∈ data.hud, A (.button b)
  hotspots : ∀ h ∈ data.hotspots, A (.hotspot h)

variable {A : Exit → Prop} {s t : State τ} {data : Snapshot τ}

theorem State.exitsIn_iff : s.ExitsIn A ↔ ∀ x ∈ s.exits, A x := by
  have whole : s.ExitsIn A ↔ (∀ c ∈ s.choice, ∀ o ∈ c.options, A (.option o)) ∧
      (∀ p ∈ s.map.points, A (.point p)) ∧ (∀ b ∈ s.hud.values, A (.button b)) ∧
      ∀ h ∈ s.hotspots.values, A (.hotspot h) :=
    ⟨fun h => ⟨h.options, h.points, h.buttons, h.hotspots⟩, fun ⟨o, p, b, h⟩ => ⟨o, p, b, h⟩⟩
  rw [whole, exits]
  cases s.choice <;> simp [or_imp, forall_and]

theorem Snapshot.exitsIn_iff : data.ExitsIn A ↔ ∀ x ∈ data.exits, A x := by
  have whole : data.ExitsIn A ↔
      (∀ c, data.waiting = some (.choice c) → ∀ o ∈ c.options, A (.option o)) ∧
      (∀ p ∈ data.map.points, A (.point p)) ∧ (∀ b ∈ data.hud, A (.button b)) ∧
      ∀ h ∈ data.hotspots, A (.hotspot h) :=
    ⟨fun h => ⟨h.options, h.points, h.buttons, h.hotspots⟩, fun ⟨o, p, b, h⟩ => ⟨o, p, b, h⟩⟩
  rw [whole, exits]
  cases data.waiting with
  | none => simp [or_imp, forall_and]
  | some waiting =>
    cases waiting <;> simp [Waiting.options, or_imp, forall_and]

namespace State

theorem ExitsIn.of_mem (h : s.ExitsIn A) {x : Exit} (mem : x ∈ s.exits) : A x :=
  exitsIn_iff.mp h x mem

theorem ExitsIn.introduceAll (h : s.ExitsIn A) (program : Program) :
    (s.introduceAll program).ExitsIn A := by
  obtain ⟨characters, same⟩ := s.introduceAll_frame program
  rw [same]
  exact { h with }

/-- Nothing can be chosen or clicked at the beginning. -/
theorem exitsIn_start (program : Program) : (({} : State τ).introduceAll program).ExitsIn A := by
  have empty : ({} : State τ).ExitsIn A :=
    ⟨by rintro c ⟨⟩, by simp, by rintro b ⟨⟩, by rintro h ⟨⟩⟩
  exact empty.introduceAll program

end State

/-- A state that is taken up again has the exits of its snapshot. -/
theorem Snapshot.ExitsIn.toState [Clock τ] (h : data.ExitsIn A) (now : τ) :
    (data.toState now).ExitsIn A where
  options c pending := by
    change choiceOf data.waiting now = some c at pending
    unfold choiceOf at pending
    split at pending
    · next choice waiting =>
      cases pending
      exact h.options choice waiting
    · cases pending
  points := h.points
  buttons b mem := by
    have inside := Table.mem_values_ofEntries mem
    rw [List.map_map] at inside
    exact h.buttons b (by simpa using inside)
  hotspots hotspot mem := by
    have inside := Table.mem_values_ofEntries mem
    rw [List.map_map] at inside
    exact h.hotspots hotspot (by simpa using inside)

theorem Ordinal.mem_of_mem_suffix {α : Type} {p : Ordinal} {xs : List α} {x : α}
    (mem : x ∈ p.suffix xs) : x ∈ xs := by
  cases p with
  | nth n => exact List.mem_of_mem_drop mem
  | stray value => cases mem

/-- The points that a map takes up are those of the commands that follow at once. -/
theorem Action.mem_leadingPoints {commands : List Command} {point : MapPoint}
    (mem : point ∈ leadingPoints commands) (fill : Text → Text) :
    ∃ c ∈ commands.takeWhile (· matches .mapPoint ..), .point point ∈ c.exits fill := by
  fun_induction leadingPoints commands with
  | case1 label pos corners target rest ih =>
    rw [List.takeWhile_cons_of_pos rfl]
    rcases List.mem_cons.mp mem with rfl | later
    · exact ⟨_, List.mem_cons_self, List.mem_singleton.mpr rfl⟩
    · obtain ⟨c, inside, made⟩ := ih later
      exact ⟨c, List.mem_cons_of_mem _ inside, made⟩
  | case2 => cases mem

/-! ## 2. Where exits come from -/

/-- Every change of a state makes exits only as commands of the program do. -/
theorem State.Change.exitsIn [Clock τ] {program : Program}
    (made : ∀ c ∈ program.commands, ∀ fill, ∀ x ∈ c.exits fill, A x)
    (change : s.Change program t) (h : s.ExitsIn A) : t.ExitsIn A := by
  have single : ∀ {c x}, c ∈ program.commands → c.exits id = [x] → A x :=
    fun mem one => made _ mem id _ (one ▸ List.mem_singleton.mpr rfl)
  cases change with
  | hideSprite name transition =>
    obtain ⟨_, _, same⟩ := s.hideSprite_frame name transition
    rw [same]
    exact { h with }
  | @animate name sprite found goal seconds ease mem now =>
    obtain ⟨_, _, same⟩ := s.animate_frame name sprite goal seconds ease now
    rw [same]
    exact { h with }
  | takeItem id amount =>
    obtain ⟨_, same⟩ := s.takeItem_frame id amount
    rw [same]
    exact { h with }
  | @offer free inside prompt options timeout timeoutDefault mem shown fill =>
    refine { h with options := ?_ }
    rintro c ⟨⟩ o inside
    obtain ⟨written, option, rfl⟩ := List.mem_map.mp inside
    exact made _ mem fill _ (List.mem_map.mpr ⟨written, option, rfl⟩)
  | turn pending =>
    have before := h.options _ pending
    refine { h with options := ?_ }
    rintro c ⟨⟩
    exact before
  | choose => exact { h with options := by rintro c ⟨⟩ }
  | showMap free inside image behind =>
    refine { h with points := fun point mem => ?_ }
    rw [behind] at mem
    obtain ⟨c, later, here⟩ := Action.mem_leadingPoints (List.mem_toArray.mp mem) id
    have listed := Ordinal.mem_of_mem_suffix ((List.takeWhile_subset _) later)
    exact made c (Array.mem_toList_iff.mp listed) id _ here
  | mapPoint mem =>
    refine { h with points := fun point inside => ?_ }
    rcases Array.mem_push.mp inside with old | rfl
    · exact h.points point old
    · exact single mem rfl
  | closeMap => exact { h with }
  | hotspot mem =>
    refine { h with hotspots := fun hotspot inside => ?_ }
    rcases Table.mem_values_set inside with rfl | old
    · exact single mem rfl
    · exact h.hotspots hotspot old
  | eraseHotspot name =>
    exact { h with hotspots := fun _ inside => h.hotspots _ (Table.mem_values_erase inside) }
  | clearHotspots => exact { h with hotspots := by rintro hotspot ⟨⟩ }
  | button mem =>
    refine { h with buttons := fun button inside => ?_ }
    rcases Table.mem_values_set inside with rfl | old
    · exact single mem rfl
    · exact h.buttons button old
  | eraseButton name =>
    exact { h with buttons := fun _ inside => h.buttons _ (Table.mem_values_erase inside) }
  | clearButtons => exact { h with buttons := by rintro button ⟨⟩ }
  | _ => exact { h with }

variable [Clock τ] {given : Snapshot τ → Prop} {g u v : Game τ}

/-- Every change of a game makes exits only as commands of its program do, or takes up those of a
snapshot. -/
theorem Game.Change.exitsIn
    (made : ∀ c ∈ g.program.commands, ∀ fill, ∀ x ∈ c.exits fill, A x)
    (saved : ∀ data, given data ∨ g.files.Stores data → data.ExitsIn A)
    (change : Game.Change given g u) (h : g.state.ExitsIn A) : u.state.ExitsIn A := by
  cases change with
  | state change => exact change.exitsIn made h
  | around | request | load | evict | clearLibrary | save => exact h
  | openVideo | lookVideo | closeVideo => exact { h with }
  | @call _ _ _ edition => exact { h.introduceAll edition.program with }
  | @stray _ _ _ edition => exact { h.introduceAll edition.program with }
  | restart => exact State.exitsIn_start _
  | resume source => exact ((saved _ source).toState _).introduceAll _

/-- An exit that a command of the program can make, or that a snapshot at hand has. -/
def Game.Brings (given : Snapshot τ → Prop) (g : Game τ) (x : Exit) : Prop :=
  (∃ c ∈ g.program.commands, ∃ fill, x ∈ c.exits fill) ∨
    ∃ data, (given data ∨ g.files.Stores data) ∧ x ∈ data.exits

theorem Game.Change.exits (change : Game.Change given g u) {x : Exit} (mem : x ∈ u.state.exits) :
    x ∈ g.state.exits ∨ g.Brings given x := by
  have old : g.state.ExitsIn fun x => x ∈ g.state.exits ∨ g.Brings given x :=
    State.exitsIn_iff.mpr fun x mem => .inl mem
  refine (change.exitsIn (fun c inside fill x made => ?_) (fun data source => ?_) old).of_mem mem
  · exact .inr (.inl ⟨c, inside, fill, made⟩)
  · exact Snapshot.exitsIn_iff.mpr fun x held => .inr (.inr ⟨data, source, held⟩)

/-- An exit that is there after many changes was there before, or came in on the way. -/
theorem Game.Changes.exits (changes : g.Changes given u) {x : Exit} (mem : x ∈ u.state.exits) :
    x ∈ g.state.exits ∨ ∃ v, g.Changes given v ∧ v.Changes given u ∧ v.Brings given x := by
  induction changes with
  | refl => exact .inl mem
  | @tail v u before change ih =>
    rcases change.exits mem with old | brought
    · rcases ih old with first | ⟨w, reached, onward, brought⟩
      · exact .inl first
      · exact .inr ⟨w, reached, onward.tail change, brought⟩
    · exact .inr ⟨v, before, .single change, brought⟩

theorem Game.Change.mono {given' : Snapshot τ → Prop} (more : ∀ data, given data → given' data)
    (change : Game.Change given g u) : Game.Change given' g u := by
  cases change with
  | state change => exact .state change
  | around => exact .around
  | request other => exact .request other
  | openVideo dark numbered => exact .openVideo dark numbered
  | lookVideo playing opening path loop => exact .lookVideo playing opening path loop
  | closeVideo playing => exact .closeVideo playing
  | load path => exact .load path
  | evict path => exact .evict path
  | clearLibrary => exact .clearLibrary
  | save path => exact .save path
  | call mem free shelved found => exact .call mem free shelved found
  | stray mem free shelved nowhere => exact .stray mem free shelved nowhere
  | restart dark => exact .restart dark
  | resume source offered inside dark =>
    exact .resume (source.imp_left (more _)) offered inside dark

theorem Game.Changes.mono {given' : Snapshot τ → Prop} (changes : g.Changes given u)
    (more : ∀ data, given data → given' data) : g.Changes given' u :=
  changes.lift id fun _ _ change => change.mono more

/-- The game after many operations. -/
def Game.afterAll (g : Game τ) (ops : List (Operation τ)) : Game τ :=
  ops.foldl (fun g op => op.after g) g

/-- The snapshots that some operations hand over. -/
def Operation.HandedBy (ops : List (Operation τ)) (data : Snapshot τ) : Prop :=
  ∃ op ∈ ops, op.Hands data

/-- A session is a chain of changes, with the snapshots that its operations hand over. -/
theorem Game.changes_afterAll (g : Game τ) (ops : List (Operation τ)) :
    g.Changes (Operation.HandedBy ops) (g.afterAll ops) := by
  induction ops generalizing g with
  | nil => exact .refl
  | cons op rest ih =>
    have first : g.Changes (Operation.HandedBy (op :: rest)) (op.after g) :=
      (op.changes_after g).mono fun data hands => ⟨op, List.mem_cons_self, hands⟩
    have later : (op.after g).Changes (Operation.HandedBy (op :: rest)) ((op.after g).afterAll rest) :=
      (ih (op.after g)).mono fun data ⟨o, mem, hands⟩ => ⟨o, List.mem_cons_of_mem _ mem, hands⟩
    exact first.trans later

end VisualNovel
