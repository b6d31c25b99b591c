import VisualNovel.Proofs.Engine.Session
import VisualNovel.Proofs.Script.Steady
import VisualNovel.Proofs.Story.SaveFile

/-!
The programs of a project.

A game plays one program, remembers the one it began with, and keeps others in its library. As long
as nobody but the story writes files, all of them are readings of the texts that the project had at
first (`Game.Stocked`): scripts keep their texts, and what the story writes are saves, which are no
scripts.
-/

namespace VisualNovel

variable {τ : Type} {original : Text → Option Text}

/-! ## 1. Saves among scripts -/

theorem Snapshot.head?_fileText (data : Snapshot Float) :
    data.fileText.head? = some (Text.unit '\x7b') := by
  rw [fileText, toJson, Json.record, fields, List.map_cons, Json.indented, ← Json.valueText_broad,
    Json.Spacing.valueText]
  rfl

/-- Saves are no scripts. -/
theorem FileTree.Holds.save {files : FileTree} (h : files.Holds original) (data : Snapshot Float)
    (path : Text) : (data.save files path).files.Holds original := by
  intro place text found
  rcases data.adds_save files path place text found with old | rfl
  · exact h place text old
  · exact .inr data.head?_fileText

theorem FileTree.Within.holds {files : FileTree} (h : files.Within original) :
    files.Holds original := fun path text found => .inl (h path text found)

/-- A program is the reading of its own script. -/
theorem Reading.own {script : Text} {program : Program} (h : Reading original script program)
    (absolute : Path.absolute script = script) : Reading original program.script program := by
  rw [h.script_eq, absolute]
  exact h

/-! ## 2. Games that are stocked from a project -/

/-- The programs of a game are readings of the first texts, and its files hold these texts and
saves. -/
structure Game.Stocked (original : Text → Option Text) (g : Game τ) : Prop where
  program : Reading original g.program.script g.program
  entry : Reading original g.entry.script g.entry
  shelf : ∀ script edition, g.library.shelf.get? script = some edition →
    Reading original script edition.program
  files : g.files.Holds original

namespace Game.Stocked

variable {g t : Game τ}

/-- A library of a project stays one when a script is loaded. -/
theorem loaded (h : g.Stocked original) (path : Text) {script : Text} {edition : Edition}
    (found : (g.library.load g.files path).library.shelf.get? script = some edition) :
    Reading original script edition.program := by
  rcases Library.get?_load found with old | ⟨same, reached, read⟩
  · exact h.shelf script edition old
  · have reading := Reading.ofFile h.files read
    rwa [same, Path.absolute_absolute, ← same] at reading

/-- The program that a game has at hand for a script is that of the script. -/
theorem offered (h : g.Stocked original) {script : Text} {program : Program}
    (absolute : Path.absolute script = script) (offers : g.Offers script program) :
    Reading original script program := by
  unfold Game.Offers at offers
  split at offers
  · next same =>
    subst offers
    have read := h.program
    rwa [read.script_eq, ← same] at read
  · obtain ⟨edition, found, rfl⟩ := offers
    rw [absolute] at found
    exact h.shelf script edition found

/-- A new game over a program of the project. -/
theorem start {setup : Setup τ} [Clock τ] {library : Library} {files : FileTree} {program : Program}
    (holds : files.Holds original) (read : Reading original program.script program)
    (shelf : ∀ script edition, library.shelf.get? script = some edition →
      Reading original script edition.program) :
    (Game.start setup library files program).Stocked original where
  program := read
  entry := read
  shelf script edition found := by
    rcases Library.get?_remember found with old | ⟨same, new⟩
    · exact shelf script edition old
    · rw [same, new, ← read.script_eq]
      exact read
  files := holds

end Game.Stocked

/-- Every change of a game keeps it stocked. -/
theorem Game.Change.stocked [Clock τ] {given : Snapshot τ → Prop} {g t : Game τ}
    (change : Game.Change given g t) (h : g.Stocked original) : t.Stocked original := by
  have called : ∀ {resolved : Text} {edition : Edition},
      g.library.shelf.get? (Path.absolute resolved) = some edition →
      Reading original edition.program.script edition.program :=
    fun shelved => (h.shelf _ _ shelved).own (Path.absolute_absolute _)
  cases change with
  | state | around | request | openVideo | lookVideo | closeVideo => exact { h with }
  | load path => exact { h with shelf := fun _ _ => h.loaded path }
  | evict path =>
    exact { h with
      shelf := fun script edition found => h.shelf script edition (Library.get?_evict found) }
  | clearLibrary => exact { h with shelf := fun script edition found => by cases found }
  | save path => exact { h with files := h.files.save _ path }
  | call mem free shelved found => exact { h with program := called shelved }
  | stray mem free shelved => exact { h with program := called shelved }
  | restart => exact { h with program := h.entry }
  | resume source offers =>
    have absolute := Path.absolute_resolve g.setup.root
    exact { h with program := (h.offered (absolute _) offers).own (absolute _) }

/-- The script of a project with one script. -/
theorem script_of_solo {source script : Text} {program : Program}
    (h : Reading (soloFiles source).text? script program) : script = "/game/main.vn" := by
  obtain ⟨_, _, text, _, _, first, _⟩ := h
  unfold FileTree.text? FileTree.nodeAt at first
  by_cases root : script = Path.root
  · simp [root] at first
  · by_cases main : script = "/game/main.vn"
    · exact main
    · simp [root, soloFiles, Table.get?, Table.lookup_cons, main] at first

end VisualNovel
