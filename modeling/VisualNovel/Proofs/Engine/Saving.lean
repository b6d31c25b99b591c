import VisualNovel.Player.StateFile
import VisualNovel.Proofs.Engine.Session
import VisualNovel.Proofs.Story.Savable
import VisualNovel.Proofs.Story.SaveOutcome

/-!
What is saved can be loaded.

The writer and the reader of save files describe one format twice, and `Savable` is where the two
meet. The reader accepts every savable snapshot with finite numbers, and every state that is reached
with programs that were read is savable: programs put nothing else into a state, and snapshots that
come from outside have been read themselves (`Game.Change.savable`). So a save that was written is
read as the same snapshot, from its file as well as from the state file of the player
(`saved_accepted`).

Zeros lose their signs on the way, and nothing else does: the decimals of a finite number are read as
this number (`Json.unsigned_rereadNumber`).
-/

namespace VisualNovel

/-! ## 1. Programs and snapshots that were read -/

/-- A program that was read from the text of a script. -/
def Program.Parsed (program : Program) : Prop :=
  ∃ files strict counter path source reached,
    ofSource files strict counter path source = .ok (program, reached)

theorem Program.Parsed.wellFormed {program : Program} (h : program.Parsed) :
    program.WellFormed := by
  obtain ⟨files, strict, counter, path, source, reached, read⟩ := h
  exact wellFormed_ofSource read

theorem Program.parsed_ofFile {files : FileTree} {strict : Bool} {counter reached : Ordinal}
    {path : Text} {program : Program}
    (h : ofFile files strict counter path = .ok (program, reached)) : program.Parsed :=
  ⟨_, _, _, _, _, _, (ofFile_eq_ok h).2⟩

namespace Library

/-- Every program of a library was read. -/
def Parsed (library : Library) : Prop :=
  ∀ script edition, library.shelf.get? script = some edition → edition.program.Parsed

variable {library : Library}

theorem parsed_empty : Parsed {} := fun _ _ found => by cases found

theorem Parsed.remember (h : library.Parsed) {program : Program} (parsed : program.Parsed) :
    (library.remember program).Parsed := by
  intro script edition found
  rcases get?_remember found with old | ⟨-, new⟩
  · exact h script edition old
  · exact new ▸ parsed

theorem Parsed.evict (h : library.Parsed) (path : Text) : (library.evict path).Parsed :=
  fun script edition found => h script edition (get?_evict found)

theorem Parsed.load (h : library.Parsed) (files : FileTree) (path : Text) :
    (library.load files path).library.Parsed := by
  intro script edition found
  rcases get?_load found with old | ⟨-, reached, read⟩
  · exact h script edition old
  · exact Program.parsed_ofFile read

end Library

namespace Snapshot

variable {τ : Type}

/-- A snapshot that was read from a text, on whatever clock. -/
def Found (data : Snapshot τ) : Prop :=
  ∃ text j saved, ∃ clock : Float → τ,
    Json.parse? text = some j ∧ ofJson? j = some saved ∧ data = saved.mapTime clock

theorem Found.savable {data : Snapshot τ} (h : data.Found) : data.Savable := by
  obtain ⟨text, j, saved, clock, parsed, read, rfl⟩ := h
  exact (savable_of_ofJson? (Json.orderly_of_parse? parsed) read).mapTime clock

theorem found_of_stores [Clock τ] {files : FileTree} {data : Snapshot τ} (h : files.Stores data) :
    data.Found := by
  obtain ⟨path, saved, loaded, rfl⟩ := h
  unfold load at loaded
  split at loaded
  · cases loaded
  · split at loaded
    · cases loaded
    · next j parsed =>
      split at loaded
      · next read =>
        cases loaded
        obtain ⟨text, -, parsed⟩ := Option.bind_eq_some_iff.mp parsed
        exact ⟨text, j, saved, Clock.ofMillis, parsed, read, rfl⟩
      · cases loaded

end Snapshot

/-! ## 2. Games that can be saved -/

variable {τ : Type} [Clock τ]

/-- The programs of a game were read, and its state is savable. -/
structure Game.Savable (g : Game τ) : Prop where
  program : g.program.Parsed
  entry : g.entry.Parsed
  library : g.library.Parsed
  state : g.state.Savable

namespace Game

variable {g t : Game τ}

omit [Clock τ] in
theorem Savable.offered (h : g.Savable) {script : Text} {program : Program}
    (offers : g.Offers script program) : program.Parsed := by
  unfold Offers at offers
  split at offers
  · exact offers ▸ h.program
  · obtain ⟨edition, found, rfl⟩ := offers
    exact h.library _ edition found

theorem Savable.snapshot (h : g.Savable) : g.snapshot.Savable :=
  Snapshot.savable_ofState h.state _ _

/-- Every change of a game keeps it savable. -/
theorem Change.savable {given : Snapshot τ → Prop} (handed : ∀ data, given data → data.Savable)
    (change : Change given g t) (h : g.Savable) : t.Savable := by
  cases change with
  | state change => exact { h with state := change.savable h.program.wellFormed h.state }
  | around | request => exact { h with }
  | openVideo | lookVideo | closeVideo => exact { h with state := { h.state with } }
  | load path => exact { h with library := h.library.load g.files path }
  | evict path => exact { h with library := h.library.evict path }
  | clearLibrary => exact { h with library := fun _ _ found => by cases found }
  | save path => exact { h with }
  | call mem free shelved found =>
    have parsed := h.library _ _ shelved
    have known := h.state.introduceAll parsed.wellFormed
    exact { h with program := parsed, state := { known with index := trivial } }
  | stray mem free shelved =>
    have parsed := h.library _ _ shelved
    have known := h.state.introduceAll parsed.wellFormed
    exact { h with program := parsed, state := { known with } }
  | restart =>
    exact { h with
      program := h.entry
      state := State.savable_empty.introduceAll h.entry.wellFormed }
  | @resume data program source offers inside =>
    have parsed := h.offered offers
    have savable : data.Savable := source.elim (handed data) fun stored =>
      (Snapshot.found_of_stores stored).savable
    exact { h with
      program := parsed
      state := (savable.toState g.now).introduceAll parsed.wellFormed }

/-- A game at its beginning. -/
theorem savable_start {setup : Setup τ} {library : Library} {files : FileTree} {program : Program}
    (parsed : program.Parsed) (shelf : library.Parsed) :
    (start setup library files program).Savable where
  program := parsed
  entry := parsed
  library := shelf.remember parsed
  state := State.savable_empty.introduceAll parsed.wellFormed

end Game

/-- Operations that hand over only snapshots that were taken, or read from a text. -/
def KnownSnapshots (taken : List (Snapshot τ)) (op : Operation τ) : Prop :=
  ∀ data, op.Hands data → data ∈ taken ∨ data.Found

/-- A session with programs that were read has only games that can be saved. -/
theorem Played.savable {start g : Game τ} {taken : List (Snapshot τ)}
    (played : Played KnownSnapshots start taken g) (first : start.Savable) : g.Savable := by
  refine (played.invariant (Q := Snapshot.Savable) first (fun _ h => h.snapshot) ?_ ?_).1
  · intro taken op known good data hands
    exact (known data hands).elim (good data) Snapshot.Found.savable
  · exact fun given g t handed change h => change.savable handed h

/-! ## 3. Files that are read again -/

/-- A file holds the text that it was replaced by. -/
theorem FileTree.read_of_replaceIn {files after : FileTree} {directory path text : Text}
    (h : files.replaceIn directory path text = (.ok (), after)) : after.read path = .ok text := by
  unfold replaceIn at h
  split at h
  · cases h
  · exact (replace_ok h).1

/-- A file that can be read is there. -/
theorem FileTree.pathExists_of_read {files : FileTree} {path text : Text}
    (h : files.read path = .ok text) : files.pathExists path = true := by
  unfold read at h
  unfold pathExists
  split at h
  · next found => rw [found]; rfl
  · cases h
  · cases h

namespace Snapshot

theorem load_of_read {files : FileTree} {path text : Text} {j : Json} {data : Snapshot Float}
    (read : files.read path = .ok text) (parsed : Json.parse? text = some j)
    (accepted : ofJson? j = some data) : load files path = (some data, []) := by
  simp [load, FileTree.pathExists_of_read read, read, Except.toOption, parsed, accepted]

theorem replaceIn_of_save {data : Snapshot Float} {files : FileTree} {path : Text}
    (done : (data.save files path).result = .ok true) :
    files.replaceIn (Path.directory path) path data.fileText =
      (.ok (), (data.save files path).files) := by
  unfold save at done ⊢
  split
  · next same => exact same
  · next e after same =>
    rw [same] at done
    simp only at done
    split at done
    · split at done <;> cases done
    · cases done

end Snapshot

namespace PlayerState

theorem read_of_write {path : Text} {state : PlayerState} {w w' : World}
    (done : write path state w = .ok () w') : w'.files.read path = .ok state.toJson.compact := by
  have files : Job.files w = .ok w.files w := rfl
  rw [write, Job.replaceFile, run_bind_ok files] at done
  rcases replaced : w.files.replaceIn (Path.directory (Path.absolute path)) path
      state.toJson.compact with ⟨e | ⟨⟩, after⟩
  · rw [replaced] at done
    cases done
  · rw [replaced] at done
    cases done
    exact FileTree.read_of_replaceIn replaced

theorem read_eq_ok {path text : Text} {j : Json} {state : PlayerState} {data : Snapshot Float}
    {w : World} (found : w.files.read path = .ok text) (parsed : Json.parse? text = some j)
    (accepted : ofJson j = .ok (state, data)) : read path w = .ok (state, data) w := by
  have there := FileTree.pathExists_of_read found
  have files : Job.files w = .ok w.files w := rfl
  rw [read, run_bind_ok files]
  simp [there, found, Except.toOption, parsed, accepted]

/-- The reader of state files finds the fields that the writer makes. -/
theorem ofJson_toJson {s : PlayerState} {data : Snapshot Float} (named : s.project ≠ [])
    (accepted : Snapshot.ofJson? s.save = some data) : ofJson s.toJson = .ok (s, data) := by
  have field : ∀ name, s.toJson.field? (Text.ofString name) = _ := Json.field?_record _
  have object : s.toJson.fields?.isNone = false := rfl
  simp [ofJson, object, Json.need, field, List.lookup, Json.text?, Option.filter, named, accepted,
    pure, Except.pure]

theorem mapNumbers_toJson (s : PlayerState) (f : Float → Float) :
    s.toJson.mapNumbers f = toJson ⟨s.project, s.save.mapNumbers f⟩ := Json.mapNumbers_record _

theorem orderly_toJson {s : PlayerState} (h : s.save.Orderly) : s.toJson.Orderly :=
  Json.orderly_record (by simp only [List.map]; decide) (by simp [h])

theorem numbers_toJson (s : PlayerState) : s.toJson.numbers = s.save.numbers := by
  simp [toJson, Json.record, Json.numbers, Json.fieldNumbers]

end PlayerState

namespace Snapshot.Savable

variable {data : Snapshot Float} (h : data.Savable)
  (finite : ∀ x ∈ data.toJson.numbers, Number.isFinite x = true)

include h finite

/-- The numbers come back from their decimals, and the snapshot with them. -/
theorem ofJson?_reread :
    ∃ found, ofJson? (data.toJson.mapNumbers Json.rereadNumber) = some found ∧
      found.toJson.unsigned = data.toJson.unsigned :=
  h.ofJson?_mapNumbers finite fun x mem => Json.unsigned_rereadNumber (finite x mem)

/-- A save that is done is loaded as the same snapshot. -/
theorem load_save {files : FileTree} {path : Text}
    (done : (data.save files path).result = .ok true) :
    ∃ found, load (data.save files path).files path = (some found, []) ∧
      found.toJson.unsigned = data.toJson.unsigned := by
  obtain ⟨found, accepted, same⟩ := h.ofJson?_reread finite
  rw [← h.orderly.reread_eq finite] at accepted
  have text := FileTree.read_of_replaceIn (replaceIn_of_save done)
  exact ⟨found, load_of_read text (Json.parse?_indented _) accepted, same⟩

/-- A state file that is written is read as the same snapshot. -/
theorem read_write {path project : Text} (named : project ≠ []) {w w' : World}
    (done : PlayerState.write path ⟨project, data.toJson⟩ w = .ok () w') :
    ∃ image found, PlayerState.read path w' = .ok (⟨project, image⟩, found) w' ∧
      image.unsigned = data.toJson.unsigned ∧ found.toJson.unsigned = data.toJson.unsigned := by
  obtain ⟨found, accepted, same⟩ := h.ofJson?_reread finite
  have text := PlayerState.read_of_write done
  have parsed := Json.parse?_compact (PlayerState.toJson ⟨project, data.toJson⟩)
  rw [(PlayerState.orderly_toJson h.orderly).reread_eq
    ((PlayerState.numbers_toJson _).symm ▸ finite), PlayerState.mapNumbers_toJson] at parsed
  exact ⟨_, found, PlayerState.read_eq_ok text parsed (PlayerState.ofJson_toJson named accepted),
    Json.unsigned_mapNumbers fun x mem => Json.unsigned_rereadNumber (finite x mem), same⟩

end Snapshot.Savable

/-! ## 4. Everything that is saved is accepted -/

/-- Every save that the program writes is one that it accepts. In a session with programs that were
read, let the numbers of a snapshot be finite. Then the snapshot has the shape that the reader of
saves asks for. A save that was written gives the same snapshot back, up to the signs of zeros and
without a warning, and so does a state file that was written for a project with a name. -/
theorem saved_accepted {setup : Setup τ} {library : Library} {files : FileTree}
    {program : Program} (parsed : program.Parsed) (shelf : library.Parsed)
    {taken : List (Snapshot τ)} {g : Game τ}
    (played : Played KnownSnapshots (Game.start setup library files program) taken g)
    {data : Snapshot Float} (own : data = g.snapshot.mapTime Clock.toMillis)
    (finite : ∀ x ∈ data.toJson.numbers, Number.isFinite x = true) :
    (∃ found, Snapshot.ofJson? data.toJson = some found ∧
      found.toJson.unsigned = data.toJson.unsigned) ∧
    (∀ (files : FileTree) (path : Text), (data.save files path).result = .ok true →
      ∃ found, Snapshot.load (data.save files path).files path = (some found, []) ∧
        found.toJson.unsigned = data.toJson.unsigned) ∧
    ∀ (path project : Text) (w w' : World), project ≠ [] →
      PlayerState.write path ⟨project, data.toJson⟩ w = .ok () w' →
      ∃ image found, PlayerState.read path w' = .ok (⟨project, image⟩, found) w' ∧
        image.unsigned = data.toJson.unsigned ∧ found.toJson.unsigned = data.toJson.unsigned := by
  have savable : data.Savable :=
    own ▸ (played.savable (Game.savable_start parsed shelf)).snapshot.mapTime _
  refine ⟨?_, ?_, ?_⟩
  · simpa using savable.ofJson?_mapNumbers (f := id) finite fun _ _ => rfl
  · intro files path done
    exact savable.load_save finite done
  · intro path project w w' named done
    exact savable.read_write finite named done

/-- A story that fills a save, up to a choice. -/
def pouchSource : Text :=
  "set gold 2.5; meter show gold \"Gold\" 0 10; item add key \"Key\" \"Opens a door.\";
    camera 0 -0 1.5; hotspot add door 10 20 30 40 -> inside; \"A door.\";
    ask \"Go in?\" timeout 5 default 1 \"Yes\" -> inside; label inside:"

/-- The story when its choice is pending, a quarter of a second after it began. -/
def pouchGame (program : Program) : Game Float :=
  (Operation.frame [] 250.0).after <| Operation.advance.after <| Operation.run.after <|
    gameIn (soloFiles pouchSource) program

/-- The save and the state file of the story are read again. -/
theorem saved_accepted_pouch :
    ∃ program reached,
      Program.ofFile (soloFiles pouchSource) false (.nth 0) "/game/main.vn" = .ok (program, reached) ∧
      let data := (pouchGame program).snapshot.mapTime Clock.toMillis
      data.waiting.isSome = true ∧
      (∀ x ∈ data.toJson.numbers, Number.isFinite x = true) ∧
      (∃ found, Snapshot.ofJson? data.toJson = some found ∧
        found.toJson.unsigned = data.toJson.unsigned) ∧
      (data.save {} "/saves/quick.json").result = .ok true ∧
      (∃ found, Snapshot.load (data.save {} "/saves/quick.json").files "/saves/quick.json" =
          (some found, []) ∧ found.toJson.unsigned = data.toJson.unsigned) ∧
      ∃ w, PlayerState.write "/state.json" ⟨"pouch", data.toJson⟩ ⟨{}, #[]⟩ = .ok () w ∧
        ∃ image found, PlayerState.read "/state.json" w = .ok (⟨"pouch", image⟩, found) w ∧
          image.unsigned = data.toJson.unsigned ∧ found.toJson.unsigned = data.toJson.unsigned := by
  obtain ⟨⟨program, reached⟩, found, form⟩ := exists_ok
    (x := Program.ofFile (soloFiles pouchSource) false (.nth 0) "/game/main.vn")
    (f := fun r =>
      let data := (pouchGame r.1).snapshot.mapTime Clock.toMillis
      (data.waiting.isSome,
        decide (∀ x ∈ data.toJson.numbers, Number.isFinite x = true),
        decide ((data.save {} "/saves/quick.json").result = .ok true),
        match PlayerState.write "/state.json" ⟨"pouch", data.toJson⟩ ⟨{}, #[]⟩ with
          | .ok _ _ => true
          | .error _ _ => false))
    (b := (true, true, true, true)) (by decide +kernel)
  simp only [Prod.mk.injEq, decide_eq_true_eq] at form
  obtain ⟨pending, finite, done, written⟩ := form
  have played : Played KnownSnapshots (gameIn (soloFiles pouchSource) program) []
      (pouchGame program) :=
    .act (.act (.act .start fun _ => nofun) fun _ => nofun) fun _ => nofun
  obtain ⟨accepted, saves, states⟩ :=
    saved_accepted (Program.parsed_ofFile found) Library.parsed_empty played rfl finite
  refine ⟨program, reached, found, pending, finite, accepted, done, saves _ _ done, ?_⟩
  split at written
  · next w wrote => exact ⟨w, wrote, states _ _ _ w (by decide) wrote⟩
  · cases written

end VisualNovel
