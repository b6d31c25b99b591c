import VisualNovel.Proofs.Engine.Deeds
import VisualNovel.Proofs.Relay.Twin

/-!
Twins save and load alike.

A script saves while nothing is waited for, so the snapshots of twins differ in their sprites only
(`Snapshot.alike_ofState`). They go to the same places, which are none of the scripts, and leave trees
with the same saves (`Twin.save`). A load finds two such snapshots, or nothing in both games, and it
leaves twins again: the sprites of a state are nothing that the story looks at (`Twin.load`). All that can
come between is a number that a sprite needs and that is not finite, so that only one of the two files is
refused. `Deed.LoadsMeasured` says that a load finds no such save.
-/

namespace VisualNovel

variable {τ : Type}

/-! ## 1. Snapshots of twins -/

/-- Where nothing stands in the way of the one twin, nothing does of the other. -/
theorem State.Twin.free {s t : State τ} (same : s.Twin t) (free : s.Free) : t.Free where
  map := same.map ▸ free.map
  choice := by
    rcases same.choice_cases with ⟨-, none⟩ | ⟨c, -, pending, -⟩
    · exact none
    · rw [free.choice] at pending
      cases pending
  question := same.question ▸ free.question
  phone := same.phone ▸ free.phone
  wait := by
    have waits := same.wait
    rw [free.wait] at waits
    simpa using waits.symm
  dialogue := same.dialogue ▸ free.dialogue

variable [Clock τ]

namespace Snapshot

theorem waitingOf_free {s : State τ} (free : s.Free) (now : τ) : waitingOf s now = none := by
  rw [waitingOf, free.choice, free.question, free.wait]

/-- The snapshots of twins that nothing stands in the way of differ in their sprites only. -/
theorem alike_ofState {s t : State τ} (same : s.Twin t) (free : s.Free) (script : Text)
    (now now' : τ) : (ofState s script now).Alike (ofState t script now') := by
  have background : (⟨s.background.kind, s.background.value, s.background.floating⟩ : SavedBackground) =
      ⟨t.background.kind, t.background.value, t.background.floating⟩ := same.background
  unfold Alike
  simp only [ofState, waitingOf_free free, waitingOf_free (same.free free), background, same.index,
    same.vars, same.inventory, same.inventoryPage, same.inventoryOpen, same.meters, same.hud,
    same.music, same.echo, same.dialogue, same.characters, same.hotspots, same.hotspotDebug, same.map,
    same.camera, same.phone]

/-- Snapshots that differ in their sprites only give twins, where nothing is waited for. -/
theorem Alike.toState {data data' : Snapshot τ} (alike : data.Alike data')
    (idle : data.waiting = none) (now now' : τ) : (data.toState now).Twin (data'.toState now') := by
  obtain ⟨moved, rfl⟩ : ∃ moved, data' = { data with sprites := moved } := ⟨_, alike.symm⟩
  constructor
  case choice | wait => simp only [Snapshot.toState, idle, choiceOf, waitOf]
  all_goals rfl

end Snapshot

/-! ## 2. What a load finds -/

/-- A command that loads finds no save with a sprite that lacks a number: whatever snapshot the file
holds, the numbers that its sprites need are finite. -/
def Deed.LoadsMeasured (d : Deed τ) : Prop :=
  ∀ slot (data : Snapshot Float), d.command = .load slot →
    d.game.files.read (saveFile d.game.setup.savePath slot) = .ok data.fileText → data.Measured

/-- Whether the sprites can be read in the file that a command loads. -/
def Deed.readsSprites (d : Deed τ) : Bool :=
  match d.command with
  | .load slot =>
    match d.game.files.read (saveFile d.game.setup.savePath slot) with
    | .ok text =>
      ((Json.parse? text).bind (·.need "sprites" (Json.table? (Snapshot.sprite? .file)))).isSome
    | .error _ => true
  | _ => true

omit [Clock τ] in
theorem Deed.loadsMeasured_of_reads {d : Deed τ} (reads : d.readsSprites = true) :
    d.LoadsMeasured := by
  intro slot data command held
  have field : ("sprites", Snapshot.tableJson data.sprites Snapshot.spriteJson) ∈ data.fields :=
    List.mem_of_getElem? (i := 5) rfl
  have there : (Json.reread data.toJson).need "sprites" (Json.table? (Snapshot.sprite? .file)) =
      Json.table? (Snapshot.sprite? .file)
        (Json.reread (Snapshot.tableJson data.sprites Snapshot.spriteJson)) :=
    Json.need_reread data.inOrder_fields field _
  rw [← data.reads_sprites_iff, ← there]
  simpa only [readsSprites, command, held, Snapshot.fileText, Json.parse?_indented, Option.bind_some]
    using reads

namespace Game

open VisualNovel.Action (Together)

variable {files : FileTree} {g h : Game τ}

/-! ## 3. Saving -/

/-- Two saves at one moment of a story are texts of one file. -/
theorem Twin.sameText (twin : g.Twin files h) (free : g.state.Free) :
    files.SameText g.setup.root (g.snapshot.mapTime Clock.toMillis).fileText
      (h.snapshot.mapTime Clock.toMillis).fileText := by
  refine .saves ?_ ?_ ⟨g.program, ?_⟩
  · rw [Game.snapshot, Game.snapshot, ← twin.setup, ← twin.program]
    exact (Snapshot.alike_ofState twin.state free _ _ _).mapTime _
  · rw [Snapshot.mapTime, Game.snapshot, Snapshot.ofState, Snapshot.waitingOf_free free]
    rfl
  · have script : Path.fromProject g.setup.root g.snapshot.script = Path.absolute g.program.script :=
      Path.fromProject_toProject _ _
    exact script ▸ twin.left.program.absolute

/-- A game stays quiet when a script saves. -/
theorem Quiet.saved (quiet : g.Quiet files) (free : g.state.Free) {script : Text} {program : Program}
    {slot : Option Text} (read : Reading files.text? script program)
    (mem : .save slot ∈ program.commands) :
    ({ g with
        files := ((g.snapshot.mapTime Clock.toMillis).save g.files
          (saveFile g.setup.savePath slot)).files } : Game τ).Quiet files :=
  { quiet with
    steady := quiet.steady.saved read mem _
    saves := (quiet.saves.save _ (quiet.twin.sameText free)).2 }

/-- Twins save alike. -/
theorem Twin.save (twin : g.Twin files h) (free : g.state.Free) {script : Text} {program : Program}
    {slot : Option Text} (read : Reading files.text? script program)
    (mem : .save slot ∈ program.commands) :
    Together (Twin files) (Action.save slot) (Action.save slot) g h := by
  have place : ∀ k : Game τ, Action.slotFile slot k = .ok (saveFile k.setup.savePath slot) k :=
    fun _ => rfl
  have taken : ∀ k : Game τ, Action.snapshot k = .ok k.snapshot k := fun _ => rfl
  obtain ⟨outcome, trees⟩ := twin.trees.save (saveFile g.setup.savePath slot) (twin.sameText free)
  have same : saveFile h.setup.savePath slot = saveFile g.setup.savePath slot := by rw [twin.setup]
  have right := twin.right.saved (twin.state.free free) read mem
  rw [same] at right
  have after : ({ g with
        files := ((g.snapshot.mapTime Clock.toMillis).save g.files
          (saveFile g.setup.savePath slot)).files } : Game τ).Twin files
      { h with
        files := ((h.snapshot.mapTime Clock.toMillis).save h.files
          (saveFile g.setup.savePath slot)).files } :=
    { twin with trees, left := twin.left.saved free read mem, right }
  unfold Action.save
  rw [Action.together_bind_ok (place g) (place h), same]
  unfold Action.saveTo
  rw [Action.together_bind_ok (taken g) (taken h), Action.together_get]
  refine (Action.together_bind_ok rfl rfl).mpr ((after.logAll _ _).bind fun _ g' h' twin' => ?_)
  rw [outcome]
  split
  · exact .error rfl rfl twin'
  · exact Action.together_pure twin'
  · exact (twin'.log _ _).bind fun _ _ _ twin => Action.together_pure twin

/-! ## 4. Loading -/

/-- A game that goes on from a snapshot in which nothing is waited for is quiet. -/
theorem Quiet.resumed (quiet : g.Quiet files) {program : Program} (told : files.Tells program.script program)
    {data : Snapshot τ} (idle : data.waiting = none) {library : Library}
    (supplied : ({ g with library } : Game τ).Supplied files) {requests : Array AssetRequest}
    {logs : Array LogRecord} :
    ({ g with
        library, requests, logs, program
        state := (data.toState g.now).introduceAll program } : Game τ).Quiet files := by
  obtain ⟨characters, same⟩ := (data.toState g.now).introduceAll_frame program
  rw [same]
  exact
    { quiet.stock supplied with
      program := told
      video := rfl
      wait := by simp [Snapshot.toState, idle, Snapshot.waitOf]
      choice := by simp [Snapshot.toState, idle, Snapshot.choiceOf] }

/-- Twins go on alike from snapshots that differ in their sprites only. -/
theorem Twin.restore (twin : g.Twin files h) {data data' : Snapshot τ} (alike : data.Alike data')
    (idle : data.waiting = none) {program : Program}
    (told : files.Tells (Path.fromProject g.setup.root data.script) program) :
    Together (Twin files) (Action.restore data) (Action.restore data') g h := by
  obtain ⟨moved, rfl⟩ : ∃ moved, data' = { data with sprites := moved } := ⟨_, alike.symm⟩
  have idle' : ({ data with sprites := moved } : Snapshot τ).waiting = none := idle
  have absolute := Path.absolute_resolve g.setup.root data.script
  obtain ⟨library, logs, found, supplied⟩ := twin.left.supplied.savedProgram told absolute
  obtain ⟨library', logs', found', supplied'⟩ := twin.right.supplied.savedProgram told absolute
  have stocked : ({ g with library, logs } : Game τ).Twin files
      { h with library := library', logs := logs' } :=
    { twin with
      left := { twin.left.stock supplied with }
      right := { twin.right.stock supplied' with } }
  unfold Action.restore
  rw [Action.together_get, ← twin.setup]
  simp only
  rw [Action.together_bind_ok found found']
  simp only
  refine .ite Iff.rfl (fun _ => ?_) fun _ => ?_
  · exact (stocked.log _ _).bind fun _ _ _ twin => Action.together_pure twin
  · rw [Action.together_bind_ok (Action.resumeFrom_eq _ _ _) (Action.resumeFrom_eq _ _ _)]
    refine Action.together_pure
      { twin with
        program := rfl
        state := (alike.toState idle _ _).introduceAll program
        left := twin.left.resumed told.own idle supplied
        right := twin.right.resumed told.own idle' supplied' }

/-- Twins load alike, if all sprites have the numbers that they need in the saves that they find. -/
theorem Twin.load (noSaves : FileTree.NoSaves files.text?) (twin : g.Twin files h) {slot : Option Text}
    (measured : (⟨g, .load slot⟩ : Deed τ).LoadsMeasured)
    (measured' : (⟨h, .load slot⟩ : Deed τ).LoadsMeasured) :
    Together (Twin files) (Action.load slot) (Action.load slot) g h := by
  have place : ∀ k : Game τ, Action.slotFile slot k = .ok (saveFile k.setup.savePath slot) k :=
    fun _ => rfl
  replace measured := fun data => measured slot data rfl
  replace measured' := fun data => measured' slot data rfl
  unfold Action.load
  rw [Action.together_bind_ok (place g) (place h), ← twin.setup]
  simp only [← twin.setup] at measured measured'
  generalize saveFile g.setup.savePath slot = path at measured measured' ⊢
  have taken := Snapshot.load_paired noSaves twin.trees path measured measured'
  unfold Action.loadFrom
  rw [Action.together_get]
  generalize Snapshot.load g.files path = left, Snapshot.load h.files path = right at taken ⊢
  obtain ⟨found, records⟩ := left
  obtain ⟨found', records'⟩ := right
  simp only at taken ⊢
  refine (Action.together_bind_ok rfl rfl).mpr ?_
  rcases taken with ⟨rfl, rfl⟩ | ⟨data, data', rfl, rfl, alike, idle, program, told⟩
  · exact Action.together_pure twin.around
  · exact twin.around.restore (alike.mapTime Clock.ofMillis) (by rw [Snapshot.mapTime, idle]; rfl) told

end Game
end VisualNovel
