import VisualNovel.Proofs.Engine.Taking
import VisualNovel.Proofs.Script.Renaming

/-!
Names of commands.

Scripts are put together by renaming the targets of commands, and checked by looking at the targets. Both
is right only if nothing else in a command names a label. A command looks up no names but those of its
targets, except for the entry label of a call (`Command.seeksOnly_execute`). It can also leave exits
behind, and they lead to its targets, except for those that a load takes from its file
(`Command.exits_after`). When the player takes one of them much later, it is still the same exit.
-/

namespace VisualNovel

variable {τ : Type} [Clock τ]

/-! ## 1. What a command looks up and leaves behind -/

namespace Command

variable {c : Command} {g : Game τ}

/-- The game after a command, whether it succeeds or fails. -/
def after (c : Command) (g : Game τ) : Game τ := (Action.execute c).left g

/-- A command looks up only its own names. -/
theorem seeksOnly_execute (c : Command) (g : Game τ) :
    (Action.execute c : Action τ Unit).SeeksOnly c.Seeks g :=
  (Action.confined_execute (fun _ => id) fun _ _ => trivial).seeksOnly

/-- A call fails for want of the script, or jumps to its entry label. -/
theorem execute_call (path resolved label : Text) (g : Game τ) :
    (∃ fault t, Action.execute (.call path resolved label) g = .error (.fault fault) t) ∨
      ∃ t, Action.execute (.call path resolved label) g = Action.jump label t := by
  change (∃ fault t, Action.callScript resolved label g = .error (.fault fault) t) ∨
    ∃ t, Action.callScript resolved label g = Action.jump label t
  unfold Action.callScript
  rw [run_bind_ok (run_get g)]
  cases (g.library.load g.files resolved).result with
  | error fault => exact .inl ⟨fault, _, rfl⟩
  | ok edition => exact .inr ⟨_, rfl⟩

/-- After a command there are the exits from before, and those that it puts there. -/
theorem exits_after {x : Exit} (mem : x ∈ (c.after g).state.exits) :
    x ∈ g.state.exits ∨ c.Puts g x := by
  have confined : (Action.execute c).Confined (fun _ => True)
      (fun x => x ∈ g.state.exits ∨ c.Puts g x) g :=
    Action.confined_execute (fun _ _ => trivial) fun _ => .inr
  exact (confined.keeps (State.exitsIn_iff.mpr fun _ => .inl)).left.of_mem mem

/-- What a command puts into a game leads to targets of it, or of the points that it takes up, or comes
from its save file. -/
theorem Puts.target {x : Exit} (puts : c.Puts g x) :
    (∃ d ∈ c.group g, x.target ∈ d.targets) ∨
      ∃ slot data, c = .load slot ∧ (SaveSource.file slot).Gives g data ∧ x ∈ data.exits :=
  puts.imp_left fun ⟨d, inside, _, made⟩ => ⟨d, inside, target_mem made⟩

end Command

/-! ## 2. Renaming and looking up -/

/-- Targets are all that a command has to do with labels. Renaming changes each target, and the name of
a label where that is asked for, and nothing else; renamings compose. A command looks up no name but
those of its targets, and a call that of its entry label, which it jumps to. The exits that are new after
a command lead to its targets, or to those of the points that a map takes up; only those of a load are
what the save file says. However a session goes on, its exits are those from then, unchanged, or come in
on the way. Whoever takes an exit in any game jumps to its target, and no other name is looked up but by
the key of the inventory. -/
theorem targets_cover_names (c : Command) :
    ((∀ f h, (c.mapTargets f h).targets = c.targets.map f ∧
        (c.mapTargets f h).labelName? = c.labelName?.map (h.getD id) ∧
        (c.mapTargets f h).besides = c.besides) ∧
      (∀ f g, (c.mapTargets f none).mapTargets g none = c.mapTargets (g ∘ f) none) ∧
      c.mapTargets id none = c ∧
      ∀ d : Command, d.targets = c.targets → d.labelName? = c.labelName? → d.besides = c.besides →
        d = c) ∧
    (∀ g : Game τ,
      (Action.execute c).SeeksOnly c.Seeks g ∧
      (∀ path resolved label, c = .call path resolved label →
        (∃ fault t, Action.execute c g = .error (.fault fault) t) ∨
          ∃ t, Action.execute c g = Action.jump label t) ∧
      (∀ x ∈ (c.after g).state.exits, x ∈ g.state.exits ∨
        (∃ d ∈ c.group g, x.target ∈ d.targets) ∨
        ∃ slot data, c = .load slot ∧ (SaveSource.file slot).Gives g data ∧ x ∈ data.exits) ∧
      ∀ (ops : List (Operation τ)), ∀ x ∈ ((c.after g).afterAll ops).state.exits,
        x ∈ (c.after g).state.exits ∨
          ∃ v, (c.after g).Changes (Operation.HandedBy ops) v ∧
            v.Changes (Operation.HandedBy ops) ((c.after g).afterAll ops) ∧
            v.Brings (Operation.HandedBy ops) x) ∧
    ∀ (sel : Selection) (u : Game τ),
      sel.action.SeeksOnly (fun name =>
        (∃ x, sel.exit? u = some x ∧ stripRootMark x.target = name) ∨
          sel = .event (.key .inventory) ∧ name = inventoryToggle) u ∧
      ∀ x, sel.exit? u = some x →
        x ∈ u.state.exits ∧
          ∃ state logs, sel.action u = Action.jump x.target { u with state, logs } := by
  refine ⟨⟨fun f h => ?_, fun _ _ => c.mapTargets_none_comp .., c.mapTargets_none_id, fun _ => ?_⟩,
    fun g => ⟨c.seeksOnly_execute g, ?_, fun x mem => ?_, fun ops x mem => ?_⟩, fun sel u => ?_⟩
  · exact ⟨c.targets_mapTargets f h, c.labelName?_mapTargets f h, c.besides_mapTargets f h⟩
  · exact Command.eq_of_parts
  · rintro path resolved label rfl
    exact Command.execute_call path resolved label g
  · exact (Command.exits_after mem).imp_right Command.Puts.target
  · exact ((c.after g).changes_afterAll ops).exits mem
  · exact ⟨sel.seeksOnly u, fun x found => ⟨sel.mem_exits found, sel.action_of_exit found⟩⟩

/-- A map with a point, and the label that the point leads to. -/
def townFiles : FileTree :=
  soloFiles "map show \"town.png\"; map poi \"The inn\" 5 5 -> inn; label inn: \"Welcome.\";"

/-- The game over the map at the command behind that which opens it. -/
def townGame (program : Program) : Game Float :=
  (gameIn townFiles program).inState { index := .nth 1 }

/-- The map takes up the point, and a pick goes to the inn. -/
theorem targets_cover_names_town :
    ∃ (program : Program) (reached : Ordinal) (x : Exit),
      Program.ofFile townFiles true (.nth 0) "/game/main.vn" = .ok (program, reached) ∧
      (townGame program).state.exits = [] ∧
      x ∈ ((Command.showMap "town.png").after (townGame program)).state.exits ∧
      (∃ d ∈ (Command.showMap "town.png").group (townGame program), x.target ∈ d.targets) ∧
      ∃ state logs, Action.choose (.nth 0) ((Command.showMap "town.png").after (townGame program)) =
        Action.jump x.target
          { (Command.showMap "town.png").after (townGame program) with state, logs } := by
  obtain ⟨⟨program, reached⟩, found, form⟩ := exists_ok
    (x := Program.ofFile townFiles true (.nth 0) "/game/main.vn")
    (f := fun r => ((townGame r.1).state.exits,
      (Selection.pick (.nth 0)).exit? ((Command.showMap "town.png").after (townGame r.1))))
    (b := ([], some (.point ⟨"The inn", "inn", ⟨5.0, 5.0⟩, []⟩)))
    (by decide +kernel)
  obtain ⟨empty, picked⟩ := Prod.mk.inj form
  obtain ⟨-, covered, taken⟩ := targets_cover_names (τ := Float) (.showMap "town.png")
  obtain ⟨-, -, made, -⟩ := covered (townGame program)
  obtain ⟨inside, jumps⟩ := (taken (.pick (.nth 0)) _).2 _ picked
  refine ⟨program, reached, _, found, empty, inside, ?_, jumps⟩
  rcases made _ inside with old | own | ⟨_, _, load, -⟩
  · rw [empty] at old
    cases old
  · exact own
  · cases load

/-! ## 3. A load -/

/-- A project whose only saved game is at a choice that none of its commands makes. -/
def savedFiles : FileTree :=
  let save : Snapshot Float := .ofState
    { index := .nth 1
      choice := some
        { prompt := "Which way?", options := [⟨"There", "there"⟩], timeout := none,
          timeoutDefault := none, started := 0.0 } }
    "main.vn" 0.0
  ⟨⟨[("/game/main.vn", .file "load; \"Here.\"; label there: \"There.\";"),
    ("/game/quick.json", .file save.fileText)]⟩⟩

/-- A load puts an option into the game that leads to none of its targets: it has no targets at all, and
neither has any other command of the program. The option is there to be taken, and leads to a label. -/
theorem loaded_exit_escapes :
    ∃ (program : Program) (reached : Ordinal),
      Program.ofFile savedFiles true (.nth 0) "/game/main.vn" = .ok (program, reached) ∧
      (∀ c ∈ program.commands, c.targets = []) ∧
      (¬ ∀ x ∈ ((Command.load none).after (gameIn (τ := Float) savedFiles program)).state.exits,
        x ∈ (gameIn (τ := Float) savedFiles program).state.exits ∨
          ∃ d ∈ (Command.load none).group (gameIn (τ := Float) savedFiles program),
            x.target ∈ d.targets) ∧
      ((Operation.choose (.nth 0)).after
        ((Command.load none).after (gameIn (τ := Float) savedFiles program))).state.index =
          .nth 2 := by
  obtain ⟨⟨program, reached⟩, found, form⟩ := exists_ok
    (x := Program.ofFile savedFiles true (.nth 0) "/game/main.vn")
    (f := fun r =>
      (r.1.commands.toList.map (·.targets),
        (gameIn (τ := Float) savedFiles r.1).state.exits,
        ((Command.load none).after (gameIn (τ := Float) savedFiles r.1)).state.exits,
        ((Operation.choose (.nth 0)).after
          ((Command.load none).after (gameIn (τ := Float) savedFiles r.1))).state.index))
    (b := ([[], [], [], []], [], [.option ⟨"There", "there"⟩], .nth 2))
    (by decide +kernel)
  simp only [Prod.mk.injEq] at form
  obtain ⟨targets, before, after, index⟩ := form
  refine ⟨program, reached, found, fun c mem => ?_, fun claim => ?_, index⟩
  · have inside := List.mem_map_of_mem (f := (·.targets)) (Array.mem_toList_iff.mpr mem)
    rw [targets] at inside
    simpa using inside
  · rw [before, after] at claim
    rcases claim _ (List.mem_singleton.mpr rfl) with old | ⟨d, own, leads⟩
    · cases old
    · obtain rfl := List.mem_singleton.mp own
      cases leads

end VisualNovel
