import VisualNovel.Proofs.Relay.Scripts
import VisualNovel.Proofs.Story.Measured

/-!
Two trees of files that hold the same saves.

Two games that tell the same story save at the same places, but not always the same: in one of them a
sprite may still be moving that stands still in the other. So their trees have the same paths, and
related texts in their files (`FileTree.Paired`). What an operation does to a tree depends on the paths
alone, so it comes to the same in both and leaves trees of this kind (`Paired.replaceIn`). That goes for
saving (`Paired.save`).

A number that is not finite is written as `null`, and where a sprite needs the number the save is refused.
So two snapshots that differ in their sprites only need not be read alike. They are if the numbers of
these sprites are finite (`Snapshot.Measured`): then both are refused for the same reason, or both are
read, as two such snapshots again (`Snapshot.Alike.ofJson?_reread`).
-/

namespace VisualNovel

/-! ## 1. Operations on two trees -/

/-- Two outcomes alike: both give related results, or both fail in the same way. -/
inductive Outcomes {ε α β : Type} (R : α → β → Prop) : Except ε α → Except ε β → Prop
  | ok {a : α} {b : β} (same : R a b) : Outcomes R (.ok a) (.ok b)
  | error (e : ε) : Outcomes R (.error e) (.error e)

/-- Two nodes of one kind, with related texts. -/
inductive FileNode.Paired (R : Text → Text → Prop) : FileNode → FileNode → Prop
  | file {t t' : Text} (same : R t t') : Paired R (.file t) (.file t')
  | directory : Paired R .directory .directory

/-- Two trees with the same paths, and related texts in their files. -/
def FileTree.Paired (R : Text → Text → Prop) (left right : FileTree) : Prop :=
  ∀ path, Option.Rel (FileNode.Paired R) (left.nodeAt path) (right.nodeAt path)

namespace FileTree

variable {R : Text → Text → Prop} {left right : FileTree}

namespace Paired

theorem node? (h : Paired R left right) (path : Text) :
    Option.Rel (FileNode.Paired R) (left.node? path) (right.node? path) := by
  unfold FileTree.node?
  split
  · exact .none
  · exact h _

theorem set (h : Paired R left right) (name : Text) {n n' : FileNode} (same : FileNode.Paired R n n') :
    Paired R ⟨left.nodes.set name n⟩ ⟨right.nodes.set name n'⟩ := by
  intro path
  rw [nodeAt_set, nodeAt_set]
  split
  · exact .some .directory
  · split
    · exact .some same
    · exact h path

theorem erase (h : Paired R left right) (name : Text) :
    Paired R ⟨left.nodes.erase name⟩ ⟨right.nodes.erase name⟩ := by
  intro path
  rw [nodeAt_erase, nodeAt_erase]
  split
  · exact .some .directory
  · split
    · exact .none
    · exact h path

theorem pathExists_eq (h : Paired R left right) (path : Text) :
    left.pathExists path = right.pathExists path := by
  have node := h.node? path
  unfold pathExists
  generalize left.node? path = n, right.node? path = n' at node ⊢
  cases node <;> rfl

theorem isDirectory_eq (h : Paired R left right) (path : Text) :
    left.isDirectory path = right.isDirectory path := by
  have node := h.node? path
  unfold isDirectory
  generalize left.node? path = n, right.node? path = n' at node ⊢
  rcases node with ⟨same⟩ | _
  · cases same <;> rfl
  · rfl

theorem read (h : Paired R left right) (path : Text) :
    Outcomes R (left.read path) (right.read path) := by
  have node := h.node? path
  unfold FileTree.read
  generalize left.node? path = n, right.node? path = n' at node ⊢
  rcases node with ⟨same⟩ | _
  · cases same with
    | file same => exact .ok same
    | directory => exact .error _
  · exact .error _

theorem makeEach (h : Paired R left right) (asked : Text) (paths : List Text) :
    Outcomes (Paired R) (makeEach asked paths left) (makeEach asked paths right) := by
  induction paths generalizing left right with
  | nil => exact .ok h
  | cons path rest ih =>
    have node := h path
    unfold FileTree.makeEach
    generalize left.nodeAt path = n, right.nodeAt path = n' at node ⊢
    rcases node with ⟨same⟩ | _
    · cases same with
      | file => exact .error _
      | directory => exact ih h
    · exact ih (h.set path .directory)

theorem makeDirectory (h : Paired R left right) (path : Text) :
    Outcomes (Paired R) (left.makeDirectory path) (right.makeDirectory path) := by
  unfold FileTree.makeDirectory
  simp only
  split
  · exact .error _
  · exact h.makeEach _ _

theorem write (h : Paired R left right) (path : Text) {t t' : Text} (same : R t t') :
    Outcomes (Paired R) (left.write path t) (right.write path t') := by
  have node := h (Path.absolute path)
  have around := h (Path.directory (Path.absolute path))
  have written := h.set (Path.absolute path) (.file same)
  unfold FileTree.write
  simp only
  split
  · exact .error _
  generalize left.nodeAt (Path.absolute path) = n, right.nodeAt (Path.absolute path) = n' at node ⊢
  rcases node with ⟨node⟩ | _
  · cases node with
    | file => exact .ok written
    | directory => exact .error _
  generalize left.nodeAt (Path.directory (Path.absolute path)) = n,
    right.nodeAt (Path.directory (Path.absolute path)) = n' at around ⊢
  rcases around with ⟨node⟩ | _
  · cases node with
    | file => exact .error _
    | directory => exact .ok written
  · exact .error _

theorem unlink (h : Paired R left right) (path : Text) :
    Outcomes (Paired R) (left.unlink path) (right.unlink path) := by
  have node := h.node? path
  unfold FileTree.unlink
  generalize left.node? path = n, right.node? path = n' at node ⊢
  rcases node with ⟨node⟩ | _
  · cases node with
    | file => exact .ok (h.erase _)
    | directory => exact .error _
  · exact .error _

theorem rename (h : Paired R left right) (source target : Text) :
    Outcomes (Paired R) (left.rename source target) (right.rename source target) := by
  have moves := h.read source
  unfold FileTree.rename
  generalize left.read source = r, right.read source = r' at moves ⊢
  cases moves with
  | error => exact .error _
  | @ok t t' same =>
    have written := h.write target same
    simp only [h.isDirectory_eq]
    split
    · exact .error _
    generalize left.write target t = w, right.write target t' = w' at written ⊢
    cases written with
    | error => exact .error _
    | ok moved =>
      simp only
      split
      · exact .ok moved
      · exact .ok (moved.erase _)

/-- A text that is written beside a file and moved over it: both trees come to the same. -/
theorem replace (h : Paired R left right) (path : Text) {t t' : Text} (same : R t t') :
    (left.replace path t).1 = (right.replace path t').1 ∧
      Paired R (left.replace path t).2 (right.replace path t').2 := by
  have written := h.write (besidePath path) same
  unfold FileTree.replace
  simp only
  generalize left.write (besidePath path) t = w, right.write (besidePath path) t' = w' at written ⊢
  cases written with
  | error => exact ⟨rfl, h⟩
  | @ok l r written =>
    have moved := written.rename (besidePath path) path
    simp only
    generalize l.rename (besidePath path) path = m, r.rename (besidePath path) path = m' at moved ⊢
    cases moved with
    | error => exact ⟨rfl, written⟩
    | ok moved => exact ⟨rfl, moved⟩

theorem replaceIn (h : Paired R left right) (directory path : Text) {t t' : Text} (same : R t t') :
    (left.replaceIn directory path t).1 = (right.replaceIn directory path t').1 ∧
      Paired R (left.replaceIn directory path t).2 (right.replaceIn directory path t').2 := by
  have made := h.makeDirectory directory
  unfold FileTree.replaceIn
  generalize left.makeDirectory directory = m, right.makeDirectory directory = m' at made ⊢
  cases made with
  | error => exact ⟨rfl, h⟩
  | ok made => exact made.replace path same

/-- Two saves of related texts are done or refused alike. -/
theorem save (h : Paired R left right) (path : Text) {data data' : Snapshot Float}
    (same : R data.fileText data'.fileText) :
    (data.save left path).result = (data'.save right path).result ∧
      Paired R (data.save left path).files (data'.save right path).files := by
  obtain ⟨outcome, after⟩ := h.replaceIn (Path.directory path) path same
  unfold Snapshot.save
  generalize left.replaceIn (Path.directory path) path data.fileText = l,
    right.replaceIn (Path.directory path) path data'.fileText = r at outcome after ⊢
  obtain ⟨done, later⟩ := l
  obtain ⟨done', later'⟩ := r
  simp only at outcome after
  subst outcome
  cases done with
  | ok => exact ⟨rfl, after⟩
  | error e =>
    have cleaned := after.unlink (besidePath path)
    simp only [after.pathExists_eq]
    split
    · generalize later.unlink (besidePath path) = c, later'.unlink (besidePath path) = c' at cleaned ⊢
      cases cleaned with
      | error => exact ⟨rfl, after⟩
      | ok cleaned => exact ⟨rfl, cleaned⟩
    · exact ⟨rfl, after⟩

end Paired
end FileTree

/-! ## 2. Snapshots that differ in their sprites -/

namespace Snapshot

variable {τ : Type}

/-- Two snapshots that differ in their sprites only. -/
def Alike (data data' : Snapshot τ) : Prop := { data with sprites := data'.sprites } = data'

theorem Alike.mapTime {σ : Type} {data data' : Snapshot τ} (h : data.Alike data') (f : τ → σ) :
    (data.mapTime f).Alike (data'.mapTime f) := by
  rw [← h]
  rfl

/-- Two snapshots that differ in their sprites only have the same in every other field of their files. -/
theorem Alike.field?_reread {data data' : Snapshot Float} (h : data.Alike data') {name : String}
    (other : name ≠ "sprites") :
    (Json.reread data'.toJson).field? name = (Json.reread data.toJson).field? name := by
  rw [toJson, toJson, Json.reread_record data.inOrder_fields, Json.reread_record data'.inOrder_fields,
    Json.field?_record, Json.field?_record, ← h]
  simp only [fields, List.map, List.lookup, beq_eq_false_iff_ne.mpr other]

theorem bind_eq_map_bind {α β : Type} {x y : Option α} {f g : α → Option β} {h : β → β} (same : x = y)
    (each : ∀ a, f a = (g a).map h) : x.bind f = (y.bind g).map h := by
  subst same
  rw [Option.map_bind]
  exact Option.bind_congr fun a _ => each a

theorem some_bind_eq_map_bind {α β : Type} {x y : Option α} {a b : α} {f g : α → Option β} {h : β → β}
    (left : x = some a) (right : y = some b) (same : f a = (g b).map h) :
    x.bind f = (y.bind g).map h := by
  subst left right
  exact same

/-- What differs in the sprites only is read alike but for them, where the sprites can be read. -/
theorem Alike.read?_reread {data data' : Snapshot Float} (h : data.Alike data')
    {sprites sprites' : Table (Sprite Float)}
    (found : Json.table? (sprite? .file) (Json.reread (tableJson data.sprites spriteJson)) = some sprites)
    (found' : Json.table? (sprite? .file) (Json.reread (tableJson data'.sprites spriteJson)) =
      some sprites') :
    read? .file (Json.reread data'.toJson) =
      (read? .file (Json.reread data.toJson)).map ({ · with sprites := sprites' }) := by
  have field : ∀ data : Snapshot Float, ("sprites", tableJson data.sprites spriteJson) ∈ data.fields :=
    fun _ => List.mem_of_getElem? (i := 5) rfl
  have own : ∀ data : Snapshot Float,
      (Json.reread data.toJson).need "sprites" (Json.table? (sprite? .file)) =
        Json.table? (sprite? .file) (Json.reread (tableJson data.sprites spriteJson)) :=
    fun data => Json.need_reread data.inOrder_fields (field data) _
  have need : ∀ {α : Type} {name : String} (read : Json → Option α), name ≠ "sprites" →
      (Json.reread data'.toJson).need name read = (Json.reread data.toJson).need name read :=
    fun read other => by rw [Json.need, h.field?_reread other, Json.need]
  have allow : ∀ {α : Type} {name : String} (read : Json → Option α), name ≠ "sprites" →
      (Json.reread data'.toJson).allow name read = (Json.reread data.toJson).allow name read :=
    fun read other => by rw [Json.allow, h.field?_reread other, Json.allow]
  have orNull : ∀ {α : Type} {name : String} (read : Json → Option α), name ≠ "sprites" →
      Rules.file.orNull (Json.reread data'.toJson) name read =
        Rules.file.orNull (Json.reread data.toJson) name read :=
    fun read other => by simp [Json.needOrNull, h.field?_reread other]
  -- The fields in the order in which they are read: those up to the sprites, the sprites, and the rest.
  unfold read?
  iterate 4 refine bind_eq_map_bind (need _ (by decide)) fun _ => ?_
  refine some_bind_eq_map_bind ((own data').trans found') ((own data).trans found) ?_
  iterate 5 refine bind_eq_map_bind (need _ (by decide)) fun _ => ?_
  refine bind_eq_map_bind (orNull _ (by decide)) fun _ => ?_
  refine bind_eq_map_bind (allow _ (by decide)) fun _ => ?_
  refine bind_eq_map_bind (orNull _ (by decide)) fun _ => ?_
  refine bind_eq_map_bind (allow _ (by decide)) fun _ => ?_
  iterate 5 refine bind_eq_map_bind (need _ (by decide)) fun _ => ?_
  refine bind_eq_map_bind (allow _ (by decide)) fun _ => ?_
  rfl

/-- Two snapshots that differ in their sprites only are refused for the same reason, or read as two
such snapshots. -/
theorem Alike.ofJson?_reread {data data' : Snapshot Float} (h : data.Alike data')
    (measured : data.Measured) (measured' : data'.Measured) :
    ∃ sprites, ofJson? (Json.reread data'.toJson) =
      (ofJson? (Json.reread data.toJson)).map ({ · with sprites }) := by
  obtain ⟨sprites, found⟩ := Option.isSome_iff_exists.mp (data.reads_sprites_iff.mpr measured)
  obtain ⟨sprites', found'⟩ := Option.isSome_iff_exists.mp (data'.reads_sprites_iff.mpr measured')
  have version : (Json.reread data'.toJson).need "save_version" Json.num? =
      (Json.reread data.toJson).need "save_version" Json.num? := by
    rw [Json.need, h.field?_reread (by decide), Json.need]
  refine ⟨sprites', ?_⟩
  unfold ofJson?
  refine bind_eq_map_bind version fun _ => ?_
  rw [h.read?_reread found found']
  cases read? .file (Json.reread data.toJson) with
  | none => rfl
  | some data =>
    simp only [Option.map_some, Option.bind_eq_bind, Option.bind_some]
    rw [apply_ite (Option.map _)]
    rfl

end Snapshot

/-! ## 3. Loading from two trees -/

/-- What two games of a story have in one file: a text that was there at first, or two saves that differ
in their sprites only. Such saves were taken while the story was running, and their script can be
read. -/
inductive FileTree.SameText (files : FileTree) (root : Text) : Text → Text → Prop
  | first {path text : Text} (found : files.text? path = some text) : SameText files root text text
  | saves {data data' : Snapshot Float} (alike : data.Alike data') (idle : data.waiting = none)
      (told : ∃ program, files.Tells (Path.fromProject root data.script) program) :
      SameText files root data.fileText data'.fileText

/-- A tree as it was at first. -/
theorem FileTree.paired_self (files : FileTree) (root : Text) :
    files.Paired (files.SameText root) files := by
  intro path
  cases node : files.nodeAt path with
  | none => exact .none
  | some n =>
    cases n with
    | file text => exact .some (.file (.first (by rw [text?, node])))
    | directory => exact .some .directory

namespace Snapshot

/-- A file gives the save that its text is. -/
theorem load_of_file {files : FileTree} {path text : Text}
    (held : files.node? path = some (.file text)) :
    (load files path).1 = (Json.parse? text).bind ofJson? := by
  have there : files.pathExists path = true := by
    rw [FileTree.pathExists, held]
    rfl
  have read : (files.read path).toOption = some text := by
    rw [FileTree.read, held]
    rfl
  rw [load, there, read, Option.bind_some]
  simp only [Bool.not_true, Bool.false_eq_true, if_false]
  cases Json.parse? text with
  | none => rfl
  | some j =>
    rw [Option.bind_some]
    simp only
    cases ofJson? j <;> rfl

/-- A file is loaded alike from two such trees, if the sprites in both files have the numbers that they
need. -/
theorem load_paired {files left right : FileTree} {root : Text}
    (noSaves : FileTree.NoSaves files.text?) (h : left.Paired (files.SameText root) right)
    (path : Text)
    (measured : ∀ data : Snapshot Float, left.read path = .ok data.fileText → data.Measured)
    (measured' : ∀ data : Snapshot Float, right.read path = .ok data.fileText → data.Measured) :
    ((load left path).1 = none ∧ (load right path).1 = none) ∨
      ∃ found found', (load left path).1 = some found ∧ (load right path).1 = some found' ∧
        found.Alike found' ∧ found.waiting = none ∧
        ∃ program, files.Tells (Path.fromProject root found.script) program := by
  have nothing : ∀ {tree : FileTree}, tree.node? path = none ∨ tree.node? path = some .directory →
      (load tree path).1 = none := by
    intro tree node
    rcases node with node | node
    · rw [load, FileTree.pathExists, node]
      rfl
    · rw [load, FileTree.pathExists, FileTree.read, node]
      rfl
  have node := h.node? path
  cases first : left.node? path with
  | none =>
    cases second : right.node? path with
    | none => exact .inl ⟨nothing (.inl first), nothing (.inl second)⟩
    | some n =>
      rw [first, second] at node
      cases node
  | some n =>
    cases second : right.node? path with
    | none =>
      rw [first, second] at node
      cases node
    | some n' =>
      rw [first, second] at node
      rcases node with ⟨node⟩
      cases node with
      | directory => exact .inl ⟨nothing (.inr first), nothing (.inr second)⟩
      | @file text text' same =>
        cases same with
        | first there =>
          -- A text of the beginning is not a save.
          exact .inl ⟨(load_of_file first).trans (noSaves _ _ there),
            (load_of_file second).trans (noSaves _ _ there)⟩
        | @saves data data' alike idle told =>
          have taken : ∀ {tree : FileTree} {data : Snapshot Float},
              tree.node? path = some (.file data.fileText) →
              (load tree path).1 = ofJson? (Json.reread data.toJson) := by
            intro tree data held
            rw [load_of_file held, fileText, Json.parse?_indented, Option.bind_some]
          obtain ⟨sprites, same⟩ := alike.ofJson?_reread
            (measured data (by rw [FileTree.read, first])) (measured' data' (by rw [FileTree.read, second]))
          rw [taken first, taken second, same]
          cases read : ofJson? (Json.reread data.toJson) with
          | none => exact .inl ⟨rfl, rfl⟩
          | some found =>
            have again := reread_of_ofJson? read
            refine .inr ⟨found, { found with sprites }, rfl, rfl, rfl, ?_, again.script ▸ told⟩
            have waits := again.waiting
            rw [idle] at waits
            simpa using waits

end Snapshot
end VisualNovel
