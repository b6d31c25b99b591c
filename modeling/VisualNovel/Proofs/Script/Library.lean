import VisualNovel.Proofs.Script.Linking
import VisualNovel.Proofs.Table
import VisualNovel.Script.Library

/-!
What a library holds.

A library changes in three ways: a script is loaded, a program is put in, a script is taken out. A
load finds the script, cannot read it, or reads it, and then it is put in like any other program
(`load_cases`). The lemmas say where a program on the shelf comes from after such a change, so that a
property of all programs of a library is kept as soon as it holds of the one that came.
-/

namespace VisualNovel.Library

variable {library : Library} {files : FileTree} {path script : Text} {edition : Edition}

/-- A load finds the script on the shelf, or it cannot be read, or it is read and put in. -/
theorem load_cases (library : Library) (files : FileTree) (path : Text) :
    (∃ edition, library.shelf.get? (Path.absolute path) = some edition ∧
      library.load files path = ⟨.ok edition, library, []⟩) ∨
    library.shelf.get? (Path.absolute path) = none ∧
      ((∃ fault,
        Program.ofFile files library.strict (.nth 0) (Path.absolute path) = .error fault ∧
        library.load files path = ⟨.error fault, library,
          [⟨.debug, "loader", Text.ofString "parsing " ++ Path.absolute path⟩]⟩) ∨
      ∃ program reached,
        Program.ofFile files library.strict (.nth 0) (Path.absolute path) =
          .ok (program, reached) ∧
        program.script = Path.absolute path ∧
        library.load files path = ⟨.ok ⟨program, library.readings⟩, library.remember program,
          [⟨.debug, "loader", Text.ofString "parsing " ++ Path.absolute path⟩]⟩) := by
  cases found : library.shelf.get? (Path.absolute path) with
  | some edition => exact .inl ⟨edition, rfl, by simp only [load, found]⟩
  | none =>
    refine .inr ⟨rfl, ?_⟩
    cases read : Program.ofFile files library.strict (.nth 0) (Path.absolute path) with
    | error fault => exact .inl ⟨fault, rfl, by simp only [load, found, read]⟩
    | ok result =>
      obtain ⟨program, reached⟩ := result
      have own : program.script = Path.absolute path := by
        rw [Program.script_of_ofFile read, Path.absolute_absolute]
      refine .inr ⟨program, reached, rfl, own, ?_⟩
      simp only [load, found, read, remember, own, Path.absolute_absolute]

/-- A program that is there after another was put in was there before, or is that one. -/
theorem get?_remember {program : Program}
    (found : (library.remember program).shelf.get? script = some edition) :
    library.shelf.get? script = some edition ∨
      script = Path.absolute program.script ∧ edition.program = program := by
  rw [remember, Table.get?_set] at found
  split at found
  · next same =>
    cases found
    exact .inr ⟨same, rfl⟩
  · exact .inl found

/-- A program that is there after a load was there before, or was read by it. -/
theorem get?_load (found : (library.load files path).library.shelf.get? script = some edition) :
    library.shelf.get? script = some edition ∨ script = Path.absolute path ∧
      ∃ reached, Program.ofFile files library.strict (.nth 0) script =
        .ok (edition.program, reached) := by
  rcases library.load_cases files path with
    ⟨old, -, same⟩ | ⟨-, ⟨fault, -, same⟩ | ⟨program, reached, read, own, same⟩⟩ <;>
    rw [same] at found
  · exact .inl found
  · exact .inl found
  · refine (get?_remember found).imp_right fun ⟨place, new⟩ => ?_
    rw [own, Path.absolute_absolute] at place
    exact ⟨place, reached, by rw [place, new, read]⟩

theorem strict_load (library : Library) (files : FileTree) (path : Text) :
    (library.load files path).library.strict = library.strict := by
  rcases library.load_cases files path with
    ⟨edition, -, same⟩ | ⟨-, ⟨fault, -, same⟩ | ⟨program, reached, -, -, same⟩⟩ <;> rw [same]
  rfl

/-- A program that is there after a script was taken out was there before. -/
theorem get?_evict (found : (library.evict path).shelf.get? script = some edition) :
    library.shelf.get? script = some edition := by
  rw [evict, Table.get?_erase] at found
  split at found
  · cases found
  · exact found

/-- A script that is loaded stands in the library. -/
theorem shelved_of_load (h : (library.load files path).result = .ok edition) :
    (library.load files path).library.shelf.get? (Path.absolute path) = some edition := by
  rcases library.load_cases files path with
    ⟨old, found, same⟩ | ⟨-, ⟨fault, -, same⟩ | ⟨program, reached, -, own, same⟩⟩ <;>
    rw [same] at h ⊢ <;> cases h
  · exact found
  · rw [remember, own, Path.absolute_absolute]
    exact Table.get?_set_self _ _ _

end VisualNovel.Library
