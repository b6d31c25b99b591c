import VisualNovel.Proofs.Path
import VisualNovel.Proofs.Stateful
import VisualNovel.Proofs.Table
import VisualNovel.Script.Program

/-!
Included files inside the whole program.

A file that is included directly, or through a chain of includes, keeps its own order of commands:
its unit begins somewhere in the program, and from there on each command is that of the file with
its names put below the scopes of the chain. What the file calls its own label is found in the
program under that longer name, at the place where the label now stands.

`Part` is one include, `Included` a chain of them. Each level renames the commands, renames the
labels and moves both behind what is already there; `ScriptUnit.Holds` says that a unit stands
inside another one in this way, and it composes along a chain. Renaming twice is renaming once by
the longer list of scopes, because a name below a scope carries a point: it is not the reserved
target, and it does not begin with the root mark unless its scope does.
-/

namespace VisualNovel

/-! ## 1. Names below scopes -/

/-- A name below scopes, the outermost first. -/
def dotted (scopes : List Text) (name : Text) : Text :=
  scopes.foldr (fun scope inner => scope ++ Text.ofString "." ++ inner) name

/-- The name below scopes, for names that a scope applies to. -/
def underScopes (scopes : List Text) (name : Text) : Text :=
  if name.startsWith rootMark || name = inventoryToggle then name else dotted scopes name

/-- What becomes of a target of a file below scopes: one with the root mark loses it, the reserved
one stays, and any other is put below the scopes. -/
def linked (scopes : List Text) (target : Text) : Text :=
  if target.startsWith rootMark then target.drop 2
  else if target = inventoryToggle then target
  else dotted scopes target

theorem dotted_append (outer inner : List Text) (name : Text) :
    dotted (outer ++ inner) name = dotted outer (dotted inner name) := by
  simp [dotted, List.foldr_append]

theorem underScopes_nil (name : Text) : underScopes [] name = name := by
  unfold underScopes
  split <;> rfl

/-- A name below a scope begins with the root mark only if the scope does. -/
theorem startsWith_rootMark_scope {scope : Text} (h : scope.startsWith rootMark = false)
    (name : Text) : (scope ++ Text.ofString "." ++ name).startsWith rootMark = false := by
  have hmark : rootMark = [58, 58] := by decide
  have hpoint : Text.ofString "." = [46] := by decide
  rw [hmark] at h ⊢
  rw [hpoint]
  match scope with
  | [] => simp [Text.startsWith, List.isPrefixOf]
  | [u] => simp [Text.startsWith, List.isPrefixOf]
  | u :: v :: rest => simpa [Text.startsWith, List.isPrefixOf] using h

/-- A name below a scope is not the reserved target, which has no point. -/
theorem scope_ne_inventoryToggle (scope name : Text) :
    scope ++ Text.ofString "." ++ name ≠ inventoryToggle := by
  intro h
  have hpoint : Text.unit '.' ∉ inventoryToggle := by decide
  apply hpoint
  rw [← h]
  have : Text.ofString "." = [Text.unit '.'] := by decide
  simp [this]

/-- A name that is put below scopes can be put below further ones. -/
theorem dotted_plain {scopes : List Text} (hs : ∀ s ∈ scopes, Text.startsWith s rootMark = false)
    {name : Text} (hm : name.startsWith rootMark = false) (hi : name ≠ inventoryToggle) :
    (dotted scopes name).startsWith rootMark = false ∧ dotted scopes name ≠ inventoryToggle := by
  cases scopes with
  | nil => exact ⟨hm, hi⟩
  | cons scope rest =>
    exact ⟨startsWith_rootMark_scope (hs scope List.mem_cons_self) _,
      scope_ne_inventoryToggle scope _⟩

theorem underScopes_of_plain {scopes : List Text} {name : Text}
    (hm : name.startsWith rootMark = false) (hi : name ≠ inventoryToggle) :
    underScopes scopes name = dotted scopes name := by
  simp [underScopes, hm, hi]

theorem linked_of_plain {scopes : List Text} {name : Text} (hm : name.startsWith rootMark = false)
    (hi : name ≠ inventoryToggle) : linked scopes name = dotted scopes name := by
  simp [linked, hm, hi]

/-- Renaming by inner scopes and then by outer ones is renaming by all of them. -/
theorem underScopes_underScopes (outer : List Text) {inner : List Text}
    (hs : ∀ s ∈ inner, Text.startsWith s rootMark = false) (name : Text) :
    underScopes outer (underScopes inner name) = underScopes (outer ++ inner) name := by
  by_cases hm : name.startsWith rootMark = true
  · simp [underScopes, hm]
  · by_cases hi : name = inventoryToggle
    · simp [underScopes, hi]
    · have hm' : name.startsWith rootMark = false := by simpa using hm
      obtain ⟨hd, hd'⟩ := dotted_plain hs hm' hi
      rw [underScopes_of_plain hm' hi, underScopes_of_plain hm' hi, underScopes_of_plain hd hd',
        dotted_append]

/-- The last step of linking takes the root mark away. -/
theorem stripRootMark_underScopes {scopes : List Text}
    (hs : ∀ s ∈ scopes, Text.startsWith s rootMark = false) (name : Text) :
    stripRootMark (underScopes scopes name) = linked scopes name := by
  by_cases hm : name.startsWith rootMark = true
  · simp [underScopes, linked, stripRootMark, hm]
  · have hm' : name.startsWith rootMark = false := by simpa using hm
    by_cases hi : name = inventoryToggle
    · have : inventoryToggle.startsWith rootMark = false := by decide
      simp [underScopes, linked, stripRootMark, hi, this]
    · rw [underScopes_of_plain hm' hi, linked_of_plain hm' hi]
      simp [stripRootMark, (dotted_plain hs hm' hi).1]

/-! ## 2. Renamed commands -/

namespace Command

theorem mapTargets_id (c : Command) : c.mapTargets (fun t => t) (some fun n => n) = c := by
  cases c <;> simp [mapTargets]

theorem mapTargets_mapTargets (f g : Text → Text) (p q : Text → Text) (c : Command) :
    (c.mapTargets f (some p)).mapTargets g (some q) =
      c.mapTargets (fun t => g (f t)) (some fun n => q (p n)) := by
  cases c <;> simp [mapTargets]

/-- Without a change for labels the names of labels stay as they were. -/
theorem mapTargets_mapTargets_none (f g : Text → Text) (p : Text → Text) (c : Command) :
    (c.mapTargets f (some p)).mapTargets g none = c.mapTargets (fun t => g (f t)) (some p) := by
  cases c <;> simp [mapTargets]

theorem targets_mapTargets (f : Text → Text) (p : Option (Text → Text)) (c : Command) :
    (c.mapTargets f p).targets = c.targets.map f := by
  cases c with
  | label name => cases p <;> rfl
  | choice prompt options timeout timeoutDefault =>
    simp [mapTargets, targets, List.map_map, Function.comp_def]
  | _ => rfl

end Command

/-! ## 3. A unit inside another one -/

namespace ScriptUnit

/-- `part` stands in `whole` from a command on, with its names put below scopes. -/
structure Holds (whole : ScriptUnit) (offset : Nat) (scopes : List Text) (part : ScriptUnit) :
    Prop where
  command : ∀ i c, part.commands[i]? = some c →
    whole.commands[offset + i]? =
      some (c.mapTargets (underScopes scopes) (some (underScopes scopes)))
  label : ∀ name i, part.labels.get? name = some i →
    whole.labels.get? (dotted scopes name) = some (offset + i)

theorem Holds.refl (u : ScriptUnit) : u.Holds 0 [] u := by
  have hid : underScopes [] = fun name => name := funext underScopes_nil
  constructor
  · intro i c hc
    rw [hid, Command.mapTargets_id, Nat.zero_add]
    exact hc
  · intro name i hi
    rw [Nat.zero_add]
    exact hi

theorem Holds.trans {u v w : ScriptUnit} {j k : Nat} {outer inner : List Text}
    (hs : ∀ s ∈ inner, Text.startsWith s rootMark = false) (hwv : w.Holds j outer v)
    (hvu : v.Holds k inner u) : w.Holds (j + k) (outer ++ inner) u := by
  have hrename : (fun name => underScopes outer (underScopes inner name)) =
      underScopes (outer ++ inner) := funext (underScopes_underScopes outer hs)
  constructor
  · intro i c hc
    have := hwv.command _ _ (hvu.command i c hc)
    rw [Command.mapTargets_mapTargets, hrename, ← Nat.add_assoc] at this
    exact this
  · intro name i hi
    have := hwv.label _ _ (hvu.label name i hi)
    rw [← dotted_append, ← Nat.add_assoc] at this
    exact this

/-- `whole` begins with the commands of `part` and keeps its labels where they are. -/
structure Extends (part whole : ScriptUnit) : Prop where
  commands : ∃ more, whole.commands = part.commands ++ more
  label : ∀ name i, part.labels.get? name = some i → whole.labels.get? name = some i

theorem Extends.refl (u : ScriptUnit) : u.Extends u := ⟨⟨#[], by simp⟩, fun _ _ h => h⟩

theorem Extends.trans {u v w : ScriptUnit} (huv : u.Extends v) (hvw : v.Extends w) :
    u.Extends w := by
  obtain ⟨xs, hxs⟩ := huv.commands
  obtain ⟨ys, hys⟩ := hvw.commands
  refine ⟨⟨xs ++ ys, ?_⟩, fun name i h => hvw.label name i (huv.label name i h)⟩
  rw [hys, hxs, Array.append_assoc]

theorem Extends.command {u v : ScriptUnit} (h : u.Extends v) {i : Nat} {c : Command}
    (hc : u.commands[i]? = some c) : v.commands[i]? = some c := by
  obtain ⟨more, hmore⟩ := h.commands
  obtain ⟨hlt, -⟩ := Array.getElem?_eq_some_iff.mp hc
  rw [hmore, Array.getElem?_append_left hlt]
  exact hc

theorem Holds.extends {part whole larger : ScriptUnit} {offset : Nat} {scopes : List Text}
    (h : whole.Holds offset scopes part) (hl : whole.Extends larger) :
    larger.Holds offset scopes part :=
  ⟨fun i c hc => hl.command (h.command i c hc), fun name i hi => hl.label _ _ (h.label name i hi)⟩

/-! ## 4. Linking one include -/

/-- Adding labels keeps those that are there, and brings in the new ones at their offset. -/
theorem addLabels_get? {file scope : Text} {offset : Nat} {added : List (Text × Nat)}
    {labels result : Table Nat} (h : addLabels file scope offset added labels = .ok result) :
    (∀ name i, labels.get? name = some i → result.get? name = some i) ∧
      ∀ name i, added.lookup name = some i →
        result.get? (scope ++ Text.ofString "." ++ name) = some (offset + i) := by
  induction added generalizing labels with
  | nil =>
    cases h
    exact ⟨fun _ _ h => h, fun _ _ h => by cases h⟩
  | cons entry rest ih =>
    obtain ⟨first, index⟩ := entry
    simp only [addLabels] at h
    split at h
    · cases h
    · rename_i hnew
      obtain ⟨hkept, hadded⟩ := ih h
      have habsent := Table.contains_eq_false (Bool.eq_false_iff.mpr hnew)
      constructor
      · intro name i hi
        refine hkept name i ?_
        rw [Table.get?_set, if_neg]
        · exact hi
        · rintro rfl
          rw [habsent] at hi
          cases hi
      · intro name i hi
        rw [Table.lookup_cons] at hi
        split at hi
        · rename_i heq
          cases hi
          subst heq
          exact hkept _ _ (Table.get?_set_self _ _ _)
        · exact hadded name i hi

theorem extends_append {file scope : Text} {whole part result : ScriptUnit}
    (h : whole.append file scope part = .ok result) :
    whole.Extends result ∧ result.Holds whole.commands.size [scope] part := by
  obtain ⟨labels, hlabels, hresult⟩ := except_bind_eq_ok.mp h
  cases hresult
  obtain ⟨hkept, hadded⟩ := addLabels_get? hlabels
  refine ⟨⟨⟨_, rfl⟩, hkept⟩, ⟨?_, hadded⟩⟩
  intro i c hc
  rw [Array.getElem?_append_right (Nat.le_add_right _ _), Nat.add_sub_cancel_left,
    Array.getElem?_map, hc]
  rfl

end ScriptUnit

/-! ## 5. Chains of includes -/

/-- A file to be read: its text, the files that led to it, and the number of the last check block
before it. `depth` bounds the includes within it. -/
structure Source where
  depth : Nat
  chain : List Text
  file : Text
  text : Text
  counter : Ordinal
  deriving DecidableEq, Repr

namespace Source

/-- The outermost file of a program. -/
def outermost (files : FileTree) (counter : Ordinal) (path text : Text) : Source :=
  ⟨files.fileCount + 1, [Path.absolute path], Path.absolute path, text, counter⟩

/-- An included file, read when the last check block has a number. -/
def part (files : FileTree) (depth : Nat) (chain : List Text) (path : Text) (counter : Ordinal) :
    Source :=
  ⟨depth, chain ++ [path], path, (files.read path).toOption.getD [], counter⟩

/-- Reads the file and those it includes. -/
def unit (files : FileTree) (s : Source) : Except Fault (ScriptUnit × Ordinal) :=
  readUnit files s.depth s.chain s.file s.text s.counter

/-- Reads one include and puts it behind what is already there. -/
def addInclude (files : FileTree) (depth : Nat) (chain : List Text) (file : Text)
    (so : ScriptUnit × Ordinal) (inc : Include) : Except Fault (ScriptUnit × Ordinal) := do
  if chain.contains inc.path then
    throw { cause := .script (.includeCycle (chain ++ [inc.path])), file := some file }
  let (unit, counter) ← (part files depth chain inc.path so.2).unit files
  let whole ← so.1.append file inc.scope unit
  return (whole, counter)

end Source

/-- The commands and labels of a file itself. -/
def Draft.unit (d : Draft) : ScriptUnit := ⟨d.commands, d.labels⟩

/-- One file includes another: `offset` commands of the whole come before those of the part. -/
inductive Part (files : FileTree) : Source → Nat → Text → Source → Prop
  | intro {depth : Nat} {chain : List Text} {file text : Text} {counter reached : Ordinal}
      {draft : Draft} {before after : List Include} {inc : Include} {whole : ScriptUnit}
      (hdraft : readDraft files file text counter = .ok draft)
      (hincludes : draft.includes = before ++ inc :: after)
      (hbefore : before.foldlM (Source.addInclude files depth chain file)
        (draft.unit, draft.counter) = .ok (whole, reached)) :
      Part files ⟨depth + 1, chain, file, text, counter⟩ whole.commands.size inc.scope
        (Source.part files depth chain inc.path reached)

theorem Part.first {files : FileTree} {depth offset : Nat} {chain : List Text} {file text : Text}
    {counter reached : Ordinal} {draft : Draft} {inc : Include} {after : List Include}
    (hdraft : readDraft files file text counter = .ok draft)
    (hincludes : draft.includes = inc :: after) (hsize : draft.commands.size = offset)
    (hcounter : draft.counter = reached) :
    Part files ⟨depth + 1, chain, file, text, counter⟩ offset inc.scope
      (Source.part files depth chain inc.path reached) := by
  subst hsize hcounter
  have hbefore : ([] : List Include).foldlM (Source.addInclude files depth chain file)
      (draft.unit, draft.counter) = .ok (draft.unit, draft.counter) := rfl
  exact .intro hdraft hincludes hbefore

/-- One file includes another through a chain of includes, with the offset and the scopes of the
chain, the outermost first. Every file counts as included in itself. -/
inductive Included (files : FileTree) : Source → Nat → List Text → Source → Prop
  | self (s : Source) : Included files s 0 [] s
  | through {s t u : Source} {j k : Nat} {scope : Text} {scopes : List Text}
      (hpart : Part files s j scope t) (hinner : Included files t k scopes u) :
      Included files s (j + k) (scope :: scopes) u

namespace Source

theorem unit_succ (files : FileTree) (depth : Nat) (chain : List Text) (file text : Text)
    (counter : Ordinal) :
    unit files ⟨depth + 1, chain, file, text, counter⟩ =
      (readDraft files file text counter >>= fun draft =>
        draft.includes.foldlM (addInclude files depth chain file) (draft.unit, draft.counter)) :=
  rfl

theorem addInclude_eq_ok {files : FileTree} {depth : Nat} {chain : List Text} {file : Text}
    {whole result : ScriptUnit} {counter reached : Ordinal} {inc : Include}
    (h : addInclude files depth chain file (whole, counter) inc = .ok (result, reached)) :
    ∃ unit, (part files depth chain inc.path counter).unit files = .ok (unit, reached) ∧
      whole.append file inc.scope unit = .ok result := by
  unfold addInclude at h
  split at h
  · cases h
  · obtain ⟨⟨unit, next⟩, hunit, hrest⟩ := except_bind_eq_ok.mp h
    obtain ⟨larger, happend, hlast⟩ := except_bind_eq_ok.mp hrest
    cases hlast
    exact ⟨unit, hunit, happend⟩

/-- Further includes only add to what is there. -/
theorem extends_foldlM {files : FileTree} {depth : Nat} {chain : List Text} {file : Text}
    {includes : List Include} {whole result : ScriptUnit} {counter reached : Ordinal}
    (h : includes.foldlM (addInclude files depth chain file) (whole, counter) =
      .ok (result, reached)) : whole.Extends result := by
  induction includes generalizing whole counter with
  | nil =>
    cases h
    exact .refl _
  | cons inc rest ih =>
    rw [List.foldlM_cons] at h
    obtain ⟨⟨larger, middle⟩, hfirst, hrest⟩ := except_bind_eq_ok.mp h
    obtain ⟨unit, -, happend⟩ := addInclude_eq_ok hfirst
    exact (ScriptUnit.extends_append happend).1.trans (ih hrest)

end Source

/-- A part of a file that can be read can be read itself, and its unit stands in that of the
file. -/
theorem Part.holds {files : FileTree} {s t : Source} {offset : Nat} {scope : Text}
    (hpart : Part files s offset scope t) {whole : ScriptUnit} {reached : Ordinal}
    (hread : s.unit files = .ok (whole, reached)) :
    ∃ unit last, t.unit files = .ok (unit, last) ∧ whole.Holds offset [scope] unit := by
  cases hpart with
  | intro hdraft hincludes hbefore =>
    obtain ⟨draft, hdraft', hfold⟩ := except_bind_eq_ok.mp hread
    cases hdraft.symm.trans hdraft'
    rw [hincludes, List.foldlM_append] at hfold
    obtain ⟨first, hbefore', hrest⟩ := except_bind_eq_ok.mp hfold
    cases hbefore.symm.trans hbefore'
    rw [List.foldlM_cons] at hrest
    obtain ⟨⟨larger, last⟩, hstep, hafter⟩ := except_bind_eq_ok.mp hrest
    obtain ⟨unit, hunit, happend⟩ := Source.addInclude_eq_ok hstep
    exact ⟨unit, last, hunit,
      (ScriptUnit.extends_append happend).2.extends (Source.extends_foldlM hafter)⟩

theorem Included.holds {files : FileTree} {s t : Source} {offset : Nat} {scopes : List Text}
    (hs : ∀ scope ∈ scopes, Text.startsWith scope rootMark = false)
    (hinc : Included files s offset scopes t) {whole : ScriptUnit} {reached : Ordinal}
    (hread : s.unit files = .ok (whole, reached)) :
    ∃ unit last, t.unit files = .ok (unit, last) ∧ whole.Holds offset scopes unit := by
  -- along the chain: what holds the part, holds what the part holds
  induction hinc generalizing whole reached with
  | self s => exact ⟨whole, reached, hread, .refl whole⟩
  | through hpart hinner ih =>
    obtain ⟨middle, counter, hmiddle, hholds⟩ := hpart.holds hread
    have hrest := fun scope hscope => hs scope (List.mem_cons_of_mem _ hscope)
    obtain ⟨unit, last, hunit, hinside⟩ := ih hrest hmiddle
    exact ⟨unit, last, hunit, hholds.trans hrest hinside⟩

/-- Every include of a file that can be read is a part of it. -/
theorem exists_part {files : FileTree} {s : Source} {draft : Draft} {whole : ScriptUnit}
    {reached : Ordinal} {inc : Include} (hread : s.unit files = .ok (whole, reached))
    (hdraft : readDraft files s.file s.text s.counter = .ok draft) (hinc : inc ∈ draft.includes) :
    ∃ offset t, Part files s offset inc.scope t ∧ t.file = inc.path := by
  obtain ⟨depth, chain, file, text, counter⟩ := s
  cases depth with
  | zero => cases hread
  | succ depth =>
    obtain ⟨before, after, hsplit⟩ := List.append_of_mem hinc
    obtain ⟨draft', hdraft', hfold⟩ := except_bind_eq_ok.mp hread
    cases hdraft.symm.trans hdraft'
    rw [hsplit, List.foldlM_append] at hfold
    obtain ⟨⟨first, middle⟩, hbefore, -⟩ := except_bind_eq_ok.mp hfold
    exact ⟨_, _, .intro hdraft hsplit hbefore, rfl⟩

/-- A file with one include has one part, and one without has none: what is read for it is the file
itself and what is read for its part. -/
theorem Included.forall_of_single {files : FileTree} {P : Source → Prop} {depth : Nat}
    {chain : List Text} {file text : Text} {counter : Ordinal} {draft : Draft}
    (hdraft : readDraft files file text counter = .ok draft)
    (own : P ⟨depth + 1, chain, file, text, counter⟩) {includes : List Include}
    (hincludes : draft.includes = includes) (few : includes.length ≤ 1)
    (inside : ∀ inc ∈ includes, ∀ offset scopes t,
      Included files (.part files depth chain inc.path draft.counter) offset scopes t → P t)
    (offset : Nat) (scopes : List Text) (t : Source)
    (hinc : Included files ⟨depth + 1, chain, file, text, counter⟩ offset scopes t) : P t := by
  cases hinc with
  | self => exact own
  | through hpart hinner =>
    cases hpart with
    | @intro _ _ _ _ _ _ _ before after inc whole hdraft' split hbefore =>
      cases hdraft.symm.trans hdraft'
      rw [hincludes] at split
      subst split
      obtain rfl : before = [] := by
        rw [List.length_append, List.length_cons] at few
        exact List.length_eq_zero_iff.mp (by omega)
      cases hbefore
      exact inside inc (by simp) _ _ _ hinner

/-! ## 6. The program -/

theorem Program.ofSource_eq_ok {files : FileTree} {strict : Bool} {counter reached : Ordinal}
    {path source : Text} {program : Program}
    (h : Program.ofSource files strict counter path source = .ok (program, reached)) :
    ∃ unit, (Source.outermost files counter path source).unit files = .ok (unit, reached) ∧
      program = ⟨Path.absolute path, unit.commands.map (Command.mapTargets stripRootMark none),
        unit.labels⟩ := by
  obtain ⟨⟨unit, last⟩, hunit, hrest⟩ := except_bind_eq_ok.mp h
  refine ⟨unit, ?_⟩
  cases strict with
  | false =>
    cases hrest
    exact ⟨hunit, rfl⟩
  | true =>
    simp only [↓reduceIte] at hrest
    obtain ⟨_, -, hlast⟩ := except_bind_eq_ok.mp hrest
    cases hlast
    exact ⟨hunit, rfl⟩

/-- A script that is read from its file is read from the text there. -/
theorem Program.ofFile_eq_ok {files : FileTree} {strict : Bool} {counter reached : Ordinal}
    {path : Text} {program : Program}
    (h : ofFile files strict counter path = .ok (program, reached)) :
    files.isFile (Path.absolute path) = true ∧
      ofSource files strict counter (Path.absolute path)
        ((files.read (Path.absolute path)).toOption.getD []) = .ok (program, reached) := by
  unfold ofFile at h
  simp only at h
  split at h
  · next there => exact ⟨there, h⟩
  · cases h

/-- A program that is read from a file knows the absolute path of its script. -/
theorem Program.script_of_ofFile {files : FileTree} {strict : Bool} {counter reached : Ordinal}
    {path : Text} {program : Program}
    (h : ofFile files strict counter path = .ok (program, reached)) :
    program.script = Path.absolute path := by
  obtain ⟨unit, -, rfl⟩ := ofSource_eq_ok (ofFile_eq_ok h).2
  exact Path.absolute_absolute path

/-- The unit of an included file inside the program, where targets have lost the root mark. -/
theorem Included.inProgram {files : FileTree} {strict : Bool} {counter reached : Ordinal}
    {path source : Text} {program : Program}
    (hprogram : Program.ofSource files strict counter path source = .ok (program, reached))
    {offset : Nat} {scopes : List Text} {part : Source}
    (hinc : Included files (.outermost files counter path source) offset scopes part)
    (hs : ∀ scope ∈ scopes, Text.startsWith scope rootMark = false) :
    ∃ unit last, part.unit files = .ok (unit, last) ∧
      (∀ i c, unit.commands[i]? = some c → program.commands[offset + i]? =
        some (c.mapTargets (linked scopes) (some (underScopes scopes)))) ∧
      ∀ name i, unit.labels.get? name = some i →
        program.labels.get? (dotted scopes name) = some (offset + i) := by
  obtain ⟨whole, hwhole, rfl⟩ := Program.ofSource_eq_ok hprogram
  obtain ⟨unit, last, hunit, hholds⟩ := hinc.holds hs hwhole
  have hstrip : (fun target => stripRootMark (underScopes scopes target)) = linked scopes :=
    funext (stripRootMark_underScopes hs)
  refine ⟨unit, last, hunit, ?_, hholds.label⟩
  intro i c hc
  rw [Array.getElem?_map, hholds.command i c hc, Option.map_some,
    Command.mapTargets_mapTargets_none, hstrip]

/-- An included file inside the program: its own includes are found below it, its commands stand in
order with their names put below the scopes, and its labels are where these commands now stand. -/
theorem included_resolves {files : FileTree} {strict : Bool} {counter reached : Ordinal}
    {path source : Text} {program : Program}
    (hprogram : Program.ofSource files strict counter path source = .ok (program, reached))
    {offset : Nat} {scopes : List Text} {part : Source}
    (hinc : Included files (.outermost files counter path source) offset scopes part)
    (hs : ∀ scope ∈ scopes, Text.startsWith scope rootMark = false) :
    ∃ unit last, part.unit files = .ok (unit, last) ∧
      (∀ draft, readDraft files part.file part.text part.counter = .ok draft →
        ∀ inc ∈ draft.includes, ∃ j t, Part files part j inc.scope t ∧ t.file = inc.path) ∧
      (∀ i c, unit.commands[i]? = some c →
        program.commands[offset + i]? =
            some (c.mapTargets (linked scopes) (some (underScopes scopes))) ∧
          (c.mapTargets (linked scopes) (some (underScopes scopes))).targets =
            c.targets.map (linked scopes)) ∧
      (∀ name i, unit.labels.get? name = some i → name.startsWith rootMark = false →
        name ≠ inventoryToggle →
        linked scopes name = dotted scopes name ∧
          program.labels.get? (dotted scopes name) = some (offset + i)) ∧
      (∀ name, linked scopes (rootMark ++ name) = name) ∧
      linked scopes inventoryToggle = inventoryToggle := by
  obtain ⟨unit, last, hunit, hcommands, hlabels⟩ := hinc.inProgram hprogram hs
  refine ⟨unit, last, hunit, ?_, ?_, ?_, ?_, ?_⟩
  · intro draft hdraft inc hmem
    exact exists_part hunit hdraft hmem
  · intro i c hc
    exact ⟨hcommands i c hc, Command.targets_mapTargets _ _ c⟩
  · intro name i hi hm hr
    exact ⟨linked_of_plain hm hr, hlabels name i hi⟩
  · intro name
    have hmark : (rootMark ++ name).startsWith rootMark = true := by
      simp [Text.startsWith]
    simp [linked, hmark, show rootMark.length = 2 by decide]
  · simp [linked, show inventoryToggle.startsWith rootMark = false by decide]

/-- Three files, each of which includes the next. -/
def nestedFiles : FileTree :=
  ⟨⟨[("/main.vn", .file "include \"a.vn\" as a; go a.b.x; label t: \"top\";"),
    ("/a.vn", .file "include \"b.vn\" as b; label y: go b.x;"),
    ("/b.vn", .file "label x: \"deep\"; go x; go ::t;")]⟩⟩

/-- The text of the outermost of the three. -/
def nestedSource : Text := (nestedFiles.read "/main.vn").toOption.getD []

theorem nestedFiles_included :
    ∃ program reached part,
      Program.ofSource nestedFiles true (.nth 0) "/main.vn" nestedSource = .ok (program, reached) ∧
      Included nestedFiles (.outermost nestedFiles (.nth 0) "/main.vn" nestedSource) 5 ["a", "b"]
        part ∧
      program.commands[7]? = some (.jump "a.b.x") ∧ program.labels.get? "a.b.x" = some 5 := by
  obtain ⟨⟨program, reached⟩, hprogram, -⟩ := exists_ok (f := fun _ => ()) (b := ())
    (x := Program.ofSource nestedFiles true (.nth 0) "/main.vn" nestedSource) (by decide +kernel)
  obtain ⟨outer, houter, ho⟩ := exists_ok
    (f := fun d => (d.includes, d.commands.size, d.counter)) (b := ([⟨"/a.vn", "a"⟩], 3, .nth 0))
    (x := readDraft nestedFiles "/main.vn" nestedSource (.nth 0)) (by decide +kernel)
  obtain ⟨inner, hinner, hi⟩ := exists_ok
    (f := fun d => (d.includes, d.commands.size, d.counter)) (b := ([⟨"/b.vn", "b"⟩], 2, .nth 0))
    (x := readDraft nestedFiles "/a.vn" ((nestedFiles.read "/a.vn").toOption.getD []) (.nth 0))
    (by decide +kernel)
  obtain ⟨ho₁, ho₂, ho₃⟩ : outer.includes = _ ∧ outer.commands.size = _ ∧ outer.counter = _ := by
    simpa using ho
  obtain ⟨hi₁, hi₂, hi₃⟩ : inner.includes = _ ∧ inner.commands.size = _ ∧ inner.counter = _ := by
    simpa using hi
  let deep := Source.part nestedFiles 2 ["/main.vn", "/a.vn"] "/b.vn" (.nth 0)
  have hinc : Included nestedFiles (.outermost nestedFiles (.nth 0) "/main.vn" nestedSource) 5
      ["a", "b"] deep := by
    have hmain : Source.outermost nestedFiles (.nth 0) "/main.vn" nestedSource =
      ⟨3 + 1, ["/main.vn"], "/main.vn", nestedSource, .nth 0⟩ := by decide +kernel
    rw [hmain]
    exact .through (.first houter ho₁ ho₂ ho₃) (.through (.first hinner hi₁ hi₂ hi₃) (.self _))
  obtain ⟨unit, last, hunit, -, hcommands, hlabels, -, -⟩ :=
    included_resolves hprogram hinc (by decide)
  obtain ⟨read, hread, hr⟩ := exists_ok
    (f := fun r => (r.1.commands[2]?, r.1.labels.get? "x")) (b := (some (.jump "x"), some 0))
    (x := deep.unit nestedFiles) (by decide +kernel)
  cases hunit.symm.trans hread
  obtain ⟨hjump, hlabel⟩ : unit.commands[2]? = _ ∧ unit.labels.get? "x" = _ := by simpa using hr
  refine ⟨program, reached, deep, hprogram, hinc, ?_, ?_⟩
  · exact (hcommands 2 _ hjump).1
  · exact (hlabels "x" 0 hlabel (by decide) (by decide)).2

end VisualNovel
