import VisualNovel.Proofs.Engine.Stock
import VisualNovel.Proofs.Script.Lasting
import VisualNovel.Proofs.Story.SaveOutcome

/-!
Scripts among saves.

A story reads scripts and writes saves, both in one tree of files. A save touches its file and the place
beside it, and makes directories (`Snapshot.sameBeyond_save`), so all that a story can write are the
places of its saves (`SavePlace`). Where these have nothing to do with its scripts, the scripts read the
same for the whole time it is played (`FileTree.Steady`); for scripts that can be read it is enough that
no file stands at such a place at first (`FileTree.steady_of_apart`).
-/

namespace VisualNovel

variable {original : Text → Option Text}

/-! ## 1. Scripts that can be read -/

/-- A script gives a program, read from these files. -/
def FileTree.Tells (files : FileTree) (script : Text) (program : Program) : Prop :=
  ∃ reached, Program.ofFile files false (.nth 0) script = .ok (program, reached)

namespace FileTree.Tells

variable {files : FileTree} {script : Text} {program : Program}

/-- A program of the files is a reading of their texts. -/
theorem reading (h : files.Tells script program) :
    Reading files.text? (Path.absolute script) program := by
  obtain ⟨reached, read⟩ := h
  exact Reading.ofFile files.within_text?.holds read

theorem absolute (h : files.Tells script program) : files.Tells (Path.absolute script) program := by
  obtain ⟨reached, read⟩ := h
  refine ⟨reached, ?_⟩
  rw [Program.ofFile, Path.absolute_absolute]
  exact read

theorem of_absolute (h : files.Tells (Path.absolute script) program) : files.Tells script program := by
  obtain ⟨reached, read⟩ := h
  rw [Program.ofFile, Path.absolute_absolute] at read
  exact ⟨reached, read⟩

theorem unique {other : Program} (h : files.Tells script program) (h' : files.Tells script other) :
    program = other := h.reading.unique h'.reading

theorem own (h : files.Tells script program) : files.Tells program.script program := by
  rw [h.reading.script_eq, Path.absolute_absolute]
  exact h.absolute

end FileTree.Tells

/-! ## 2. The places of saves -/

/-- What a save touches: its file, and the place beside it. -/
def savePlaces (path : Text) : List Text := [Path.absolute path, Path.absolute (besidePath path)]

/-- A save changes no file but its own and the one beside it, whatever comes of it. -/
theorem Snapshot.sameBeyond_save (data : Snapshot Float) (files : FileTree) (path : Text) :
    files.SameBeyond (savePlaces path) (data.save files path).files := by
  have beside : ∀ place ∈ [Path.absolute (besidePath path)], place ∈ savePlaces path := by
    simp [savePlaces]
  unfold Snapshot.save
  split
  · next after replaced => exact (FileTree.replaceIn_ok replaced).2.2.2
  · next e after replaced =>
    have same := (FileTree.sameBeyond_of_replaceIn_error replaced).mono beside
    simp only
    split
    · split
      · next cleaned hclean => exact same.trans ((FileTree.unlink_eq_ok hclean).1.mono beside)
      · exact same
    · exact same

/-- The file of a slot, or that of the quick save. -/
def saveFile (savePath : Text) (slot : Option Text) : Text :=
  (slot.map (slotPath savePath)).getD savePath

/-- The saves of a story: the quick save, and the slots that commands of scripts name. Any script
counts, since a call or a save can lead to it. -/
inductive SlotNamed (original : Text → Option Text) : Option Text → Prop
  | quick : SlotNamed original none
  | slot {script slot : Text} {program : Program} (read : Reading original script program)
      (mem : .save (some slot) ∈ program.commands) : SlotNamed original (some slot)

/-- The places that the saves of a story touch. -/
def SavePlace (original : Text → Option Text) (savePath place : Text) : Prop :=
  ∃ slot, SlotNamed original slot ∧ place ∈ savePlaces (saveFile savePath slot)

/-- Outside of some places every path has its text in the later tree, or none. -/
def FileTree.Spares (places : Text → Prop) (files later : FileTree) : Prop :=
  ∀ place, ¬ places place → later.text? place = files.text? place

namespace FileTree

variable {places more : Text → Prop} {files later last : FileTree}

theorem Spares.refl (places : Text → Prop) (files : FileTree) : Spares places files files :=
  fun _ _ => rfl

theorem Spares.trans (h : Spares places files later) (h' : Spares places later last) :
    Spares places files last := fun place other => (h' place other).trans (h place other)

theorem Spares.mono (h : Spares places files later) (sub : ∀ place, places place → more place) :
    Spares more files later := fun place other => h place fun mem => other (sub place mem)

theorem SameBeyond.spares {listed : List Text} (h : SameBeyond listed files later)
    (sub : ∀ place ∈ listed, places place) : Spares places files later :=
  fun place other => h.text?_eq fun mem => other (sub place mem)

end FileTree

/-! ## 3. Scripts that stay -/

/-- The scripts of a story: those that give a program, and those that a call names. -/
inductive FileTree.Names (files : FileTree) : Text → Prop
  | told {script : Text} {program : Program} (told : files.Tells script program) :
      files.Names (Path.absolute script)
  | called {script path resolved label : Text} {program : Program}
      (read : Reading files.text? script program)
      (mem : .call path resolved label ∈ program.commands) : files.Names (Path.absolute resolved)

/-- The scripts of the story read in a later tree as they did at first. -/
def FileTree.Retells (files later : FileTree) : Prop :=
  ∀ script, files.Names script →
    Program.ofFile later false (.nth 0) script = Program.ofFile files false (.nth 0) script

/-- The trees that a tree comes to by saves of the scripts, whatever they save. -/
inductive FileTree.SavesTo (files : FileTree) (savePath : Text) : FileTree → FileTree → Prop
  | done (now : FileTree) : SavesTo files savePath now now
  | save {now later : FileTree} {script : Text} {program : Program} {slot : Option Text}
      (read : Reading files.text? script program) (mem : .save slot ∈ program.commands)
      (data : Snapshot Float)
      (rest : SavesTo files savePath (data.save now (saveFile savePath slot)).files later) :
      SavesTo files savePath now later

/-- Whatever is saved from now on, the scripts of the story stay. -/
def FileTree.Steady (files : FileTree) (savePath : Text) (now : FileTree) : Prop :=
  ∀ later, files.SavesTo savePath now later → files.Retells later

namespace FileTree

variable {files now later : FileTree} {savePath script : Text} {program : Program}

theorem Retells.refl (files : FileTree) : files.Retells files := fun _ _ => rfl

theorem Steady.retells (h : files.Steady savePath now) : files.Retells now := h now (.done now)

theorem Steady.saved (h : files.Steady savePath now) {slot : Option Text}
    (read : Reading files.text? script program) (mem : .save slot ∈ program.commands)
    (data : Snapshot Float) :
    files.Steady savePath (data.save now (saveFile savePath slot)).files :=
  fun later rest => h later (.save read mem data rest)

/-- The saves of the scripts touch nothing but the places of saves. -/
theorem SavesTo.spares (h : files.SavesTo savePath now later) :
    now.Spares (SavePlace files.text? savePath) later := by
  induction h with
  | done now => exact .refl _ now
  | @save now later script program slot read mem data rest ih =>
    have named : SlotNamed files.text? slot := by
      cases slot with
      | none => exact .quick
      | some slot => exact .slot read mem
    have places : ∀ place ∈ savePlaces (saveFile savePath slot),
        SavePlace files.text? savePath place := fun place touched => ⟨slot, named, touched⟩
    exact ((data.sameBeyond_save now _).spares places).trans ih

theorem Names.own (told : files.Tells script program) : files.Names program.script := by
  have named := Names.told told
  rwa [← Path.absolute_absolute, ← told.reading.script_eq] at named

/-- A script that gives a program still gives it. -/
theorem Retells.tells (h : files.Retells now) (told : files.Tells script program) :
    now.Tells script program := by
  obtain ⟨reached, read⟩ := told.absolute
  exact .of_absolute ⟨reached, (h _ (.told told)).trans read⟩

/-- Where no file stands at the place of a save, scripts that give programs are steady. -/
theorem steady_of_apart
    (apart : ∀ place, SavePlace files.text? savePath place → files.text? place = none)
    (known : ∀ script, files.Names script → ∃ program, files.Tells script program) :
    files.Steady savePath files := by
  intro later saved script named
  have spared := saved.spares
  obtain ⟨program, reached, read⟩ := known script named
  have lasts : files.Lasts later := by
    intro path text node
    have found : files.text? path = some text := by rw [text?, node]
    have other : ¬ SavePlace files.text? savePath path := by
      intro place
      rw [apart path place] at found
      cases found
    rw [← spared path other] at found
    unfold text? at found
    split at found
    · next node =>
      cases found
      exact node
    · cases found
  rw [read, Program.ofFile_lasts lasts read]

end FileTree
end VisualNovel
