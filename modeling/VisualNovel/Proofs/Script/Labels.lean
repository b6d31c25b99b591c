import VisualNovel.Proofs.Script.WellFormed

/-!
The labels of a program are those of its commands.

A draft enters a label in its table together with the command, and no other statement adds a label
command, so table and commands agree in every draft (`Draft.Tabled`). Linking moves the entries of
an included file by the number of commands before it, and gives names and entries the same scope as
long as the scope applies to the names: `addLabels_entries` says that nothing is lost or overwritten
on the way. In every program the entries stand at label commands, each at one of its own
(`ScriptUnit.Pointed`); where all names are plain, the table is the list of the label commands
(`ScriptUnit.Exact`).
-/

namespace VisualNovel

/-! ## 1. Drafts -/

/-- The table of a draft holds its label commands, but for the one name that no table keeps. -/
structure Draft.Tabled (d : Draft) : Prop where
  spells : d.cursor.Spells Text.IsName
  keys : d.labels.keys.Nodup
  entry : ∀ name i, (name, i) ∈ d.labels.entries → d.commands[i]? = some (.label name)
  command : ∀ name i, d.commands[i]? = some (.label name) → name ≠ unrecordedName →
    (name, i) ∈ d.labels.entries

/-- A new label comes behind the others. -/
theorem entries_setLabel {labels : Table Nat} {name : Text} (new : labels.contains name = false)
    (index : Nat) : (Builder.setLabel labels name index).entries =
      if name = unrecordedName then labels.entries else labels.entries ++ [(name, index)] := by
  unfold Builder.setLabel
  split
  · rfl
  · refine Table.setEntry_of_not_mem (fun present => ?_) index
    rw [Table.mem_keys_iff.mp present] at new
    cases new

theorem Draft.kept_tabled (files : FileTree) : Draft.Kept Text.IsName files Draft.Tabled where
  skip := Statement.isName_checkMark
  spells _ h := h.spells
  cursor d c h htokens _ := { h with spells := by unfold Cursor.Spells; rw [htokens]; exact h.spells }
  counter _ _ h := { h with }
  push d command h _ plain := by
    refine { h with entry := fun name i mem => ?_, command := fun name i found => ?_ }
    · exact (ScriptUnit.extends_push d.unit command).command (h.entry name i mem)
    · rw [Array.getElem?_push] at found
      split at found
      · exact (plain name (Option.some.inj found)).elim
      · exact h.command name i found
  label d name h new := by
    have entries := entries_setLabel new d.commands.size
    refine { h with keys := ?_, entry := fun other i mem => ?_, command := fun other i found => ?_ }
    · unfold Builder.setLabel
      split
      · exact h.keys
      · exact Table.nodup_keys_set h.keys name _
    · rw [entries] at mem
      have old := fun mem => (ScriptUnit.extends_push d.unit (.label name)).command
        (h.entry other i mem)
      split at mem
      · exact old mem
      · rcases List.mem_append.mp mem with before | last
        · exact old before
        · cases List.mem_singleton.mp last
          exact Array.getElem?_push_size
    · intro kept
      rw [entries]
      rw [Array.getElem?_push] at found
      split at found
      · next last =>
        cases found
        rw [if_neg kept, last]
        exact List.mem_append_right _ List.mem_cons_self
      · have before := h.command other i found kept
        split
        · exact before
        · exact List.mem_append_left _ before
  includes _ _ h _ _ _ := { h with }

theorem readDraft_tabled {files : FileTree} {file source : Text} {counter : Ordinal} {draft : Draft}
    (h : readDraft files file source counter = .ok draft) : draft.Tabled := by
  obtain ⟨tokens, htokens, a, hrun⟩ := readDraft_eq_ok h
  refine (Statement.builds_inFile (Draft.kept_tabled files) _ _ ?_ a draft hrun).1
  exact ⟨by simpa [Cursor.Spells] using isName_of_tokenize htokens, by simp [Table.keys], by simp,
    by simp⟩

/-! ## 2. Units -/

namespace Command

theorem mapTargets_eq_label {f p : Text → Text} {c : Command} {name : Text} :
    c.mapTargets f (some p) = .label name ↔ ∃ inner, c = .label inner ∧ p inner = name := by
  cases c <;> simp [mapTargets]

theorem mapTargets_none_eq_label {f : Text → Text} {c : Command} {name : Text} :
    c.mapTargets f none = .label name ↔ c = .label name := by
  cases c <;> simp [mapTargets]

end Command

namespace ScriptUnit

/-- Every entry stands at a label command, and no two stand at the same. -/
structure Pointed (u : ScriptUnit) : Prop where
  keys : u.labels.keys.Nodup
  entry : ∀ e ∈ u.labels.entries, ∃ name, u.commands[e.2]? = some (.label name)
  distinct : ∀ e ∈ u.labels.entries, ∀ e' ∈ u.labels.entries, e.2 = e'.2 → e = e'

/-- The entries are the label commands, and scopes apply to all their names. -/
structure Exact (u : ScriptUnit) : Prop where
  entries : ∀ name i, (name, i) ∈ u.labels.entries ↔ u.commands[i]? = some (.label name)
  plain : ∀ name i, (name, i) ∈ u.labels.entries → name.Unmarked ∧ name ≠ inventoryToggle

theorem Pointed.inside {u : ScriptUnit} (h : u.Pointed) {e : Text × Nat}
    (mem : e ∈ u.labels.entries) : e.2 < u.commands.size := by
  obtain ⟨name, found⟩ := h.entry e mem
  exact (Array.getElem?_eq_some_iff.mp found).1

/-- Adding labels loses none and overwrites none. -/
theorem addLabels_entries {file scope : Text} {offset : Nat} {added : List (Text × Nat)}
    {labels result : Table Nat} (h : addLabels file scope offset added labels = .ok result) :
    result.entries = labels.entries ++
        added.map (fun e => (scope ++ Text.ofString "." ++ e.1, offset + e.2)) ∧
      (labels.keys.Nodup → result.keys.Nodup) := by
  induction added generalizing labels with
  | nil =>
    cases h
    exact ⟨(List.append_nil _).symm, id⟩
  | cons entry rest ih =>
    obtain ⟨first, index⟩ := entry
    simp only [addLabels] at h
    split at h
    · cases h
    · next new =>
      obtain ⟨entries, keys⟩ := ih h
      have missing : scope ++ Text.ofString "." ++ first ∉ labels.keys :=
        fun present => new (Table.mem_keys_iff.mp present)
      refine ⟨?_, fun distinct => keys (Table.nodup_keys_set distinct _ _)⟩
      rw [entries, Table.set, Table.setEntry_of_not_mem missing]
      simp

theorem Pointed.append {file scope : Text} {whole part result : ScriptUnit} (hwhole : whole.Pointed)
    (hpart : part.Pointed) (h : whole.append file scope part = .ok result) : result.Pointed := by
  obtain ⟨larger, holds⟩ := extends_append h
  obtain ⟨labels, hlabels, hresult⟩ := except_bind_eq_ok.mp h
  cases hresult
  obtain ⟨entries, keys⟩ := addLabels_entries hlabels
  have behind : ∀ e ∈ part.labels.entries.map (fun e =>
      (scope ++ Text.ofString "." ++ e.1, whole.commands.size + e.2)),
      whole.commands.size ≤ e.2 := by
    intro e mem
    obtain ⟨inner, -, rfl⟩ := List.mem_map.mp mem
    exact Nat.le_add_right _ _
  refine ⟨keys hwhole.keys, fun e mem => ?_, fun e mem e' mem' same => ?_⟩
  · rw [entries] at mem
    rcases List.mem_append.mp mem with before | added
    · obtain ⟨name, found⟩ := hwhole.entry e before
      exact ⟨name, larger.command found⟩
    · obtain ⟨inner, inside, rfl⟩ := List.mem_map.mp added
      obtain ⟨name, found⟩ := hpart.entry inner inside
      exact ⟨_, holds.command _ _ found⟩
  · rw [entries] at mem mem'
    rcases List.mem_append.mp mem with before | added <;>
      rcases List.mem_append.mp mem' with before' | added'
    · exact hwhole.distinct e before e' before' same
    · have := hwhole.inside before
      have := behind e' added'
      omega
    · have := hwhole.inside before'
      have := behind e added
      omega
    · obtain ⟨inner, inside, rfl⟩ := List.mem_map.mp added
      obtain ⟨inner', inside', rfl⟩ := List.mem_map.mp added'
      rw [hpart.distinct inner inside inner' inside' (Nat.add_left_cancel same)]

theorem Exact.append {file scope : Text} {whole part result : ScriptUnit} (hwhole : whole.Exact)
    (hpart : part.Exact) (hscope : scope.Unmarked)
    (h : whole.append file scope part = .ok result) : result.Exact := by
  obtain ⟨labels, hlabels, hresult⟩ := except_bind_eq_ok.mp h
  cases hresult
  obtain ⟨entries, -⟩ := addLabels_entries hlabels
  -- Below the scope, entries and commands have the same name.
  have below : ∀ {name i}, (name, i) ∈ part.labels.entries →
      inScope scope name = scope ++ Text.ofString "." ++ name := by
    intro name i mem
    obtain ⟨unmarked, other⟩ := hpart.plain name i mem
    unfold Text.Unmarked at unmarked
    simp [inScope, unmarked, other]
  constructor
  · intro name i
    rw [entries, List.mem_append, List.mem_map]
    constructor
    · rintro (before | ⟨⟨inner, k⟩, inside, same⟩)
      · have found := (hwhole.entries name i).mp before
        rw [Array.getElem?_append_left (Array.getElem?_eq_some_iff.mp found).1]
        exact found
      · cases same
        have found := (hpart.entries inner k).mp inside
        rw [Array.getElem?_append_right (Nat.le_add_right _ _), Nat.add_sub_cancel_left,
          Array.getElem?_map, found, ← below inside]
        rfl
    · intro found
      by_cases first : i < whole.commands.size
      · rw [Array.getElem?_append_left first] at found
        exact .inl ((hwhole.entries name i).mpr found)
      · rw [Array.getElem?_append_right (Nat.le_of_not_lt first), Array.getElem?_map] at found
        obtain ⟨c, there, renamed⟩ := Option.map_eq_some_iff.mp found
        obtain ⟨inner, rfl, rfl⟩ := Command.mapTargets_eq_label.mp renamed
        have inside := (hpart.entries inner _).mpr there
        refine .inr ⟨(inner, i - whole.commands.size), inside, ?_⟩
        rw [below inside]
        exact Prod.ext rfl (Nat.add_sub_of_le (Nat.le_of_not_lt first))
  · intro name i mem
    rw [entries] at mem
    rcases List.mem_append.mp mem with before | added
    · exact hwhole.plain name i before
    · obtain ⟨inner, -, same⟩ := List.mem_map.mp added
      cases same
      exact ⟨startsWith_rootMark_scope hscope _, scope_ne_inventoryToggle _ _⟩

end ScriptUnit

/-! ## 3. Files and what they include -/

theorem Draft.Tabled.pointed {d : Draft} (h : d.Tabled) : d.unit.Pointed := by
  refine ⟨h.keys, fun e mem => ⟨e.1, h.entry e.1 e.2 mem⟩, fun e mem e' mem' same => ?_⟩
  have found := h.entry e.1 e.2 mem
  rw [same, h.entry e'.1 e'.2 mem'] at found
  have name : e'.1 = e.1 := Command.label.inj (Option.some.inj found)
  exact Prod.ext name.symm same

instance (t : Text) : Decidable t.Unmarked := inferInstanceAs (Decidable (_ = false))

/-- A draft whose label names a scope applies to and a table keeps, and whose scopes keep that
up. -/
structure Draft.Plain (d : Draft) : Prop where
  label : ∀ name, Command.label name ∈ d.commands →
    name.Unmarked ∧ name ≠ inventoryToggle ∧ name ≠ unrecordedName
  scope : ∀ inc ∈ d.includes, inc.scope.Unmarked

theorem Draft.Tabled.exact {d : Draft} (h : d.Tabled) (plain : d.Plain) : d.unit.Exact := by
  have named : ∀ name (i : Nat), d.commands[i]? = some (.label name) →
      name.Unmarked ∧ name ≠ inventoryToggle ∧ name ≠ unrecordedName :=
    fun name i found => plain.label name (Array.mem_of_getElem? found)
  refine ⟨fun name i => ⟨h.entry name i, fun found => ?_⟩, fun name i mem => ?_⟩
  · exact h.command name i found (named name i found).2.2
  · have found := named name i (h.entry name i mem)
    exact ⟨found.1, found.2.1⟩

/-- All files that are read for a source have plain names. -/
def Source.PlainNames (files : FileTree) (s : Source) : Prop :=
  ∀ offset scopes part draft, Included files s offset scopes part →
    readDraft files part.file part.text part.counter = .ok draft → draft.Plain

namespace Source

variable {files : FileTree} {s : Source} {whole : ScriptUnit} {reached : Ordinal}

theorem PlainNames.part {t : Source} (h : s.PlainNames files) {offset : Nat} {scope : Text}
    (hpart : Part files s offset scope t) : t.PlainNames files :=
  fun _ _ part draft hinc hdraft => h _ _ part draft (.through hpart hinc) hdraft

/-- The names of a file with at most one include, and those of its part. -/
theorem PlainNames.of_single {depth : Nat} {chain : List Text} {file text : Text} {counter : Ordinal}
    {draft : Draft} (hdraft : readDraft files file text counter = .ok draft) (own : draft.Plain)
    {includes : List Include} (hincludes : draft.includes = includes) (few : includes.length ≤ 1)
    (part : ∀ inc ∈ includes, (Source.part files depth chain inc.path draft.counter).PlainNames files) :
    PlainNames files ⟨depth + 1, chain, file, text, counter⟩ := by
  have plain : ∀ d, readDraft files file text counter = .ok d → d.Plain := by
    intro d hd
    cases hdraft.symm.trans hd
    exact own
  intro offset scopes t d hinc
  refine Included.forall_of_single
    (P := fun t => ∀ d, readDraft files t.file t.text t.counter = .ok d → d.Plain) hdraft plain
    hincludes few (fun inc mem offset scopes t hinc d hd => ?_) offset scopes t hinc d
  exact part inc mem offset scopes t d hinc hd

/-- What every step of a fold keeps, where a step also knows those before it. -/
theorem foldlM_keeps_after {ε α β : Type} {f : β → α → Except ε β} {P : β → Prop} {xs : List α}
    {s r : β} (step : ∀ before x after, xs = before ++ x :: after → ∀ t u : β,
      before.foldlM f s = .ok t → P t → f t x = .ok u → P u) (first : P s)
    (h : xs.foldlM f s = .ok r) : P r := by
  induction xs using List.reverseRecOn generalizing r with
  | nil =>
    cases h
    exact first
  | append_singleton xs x ih =>
    rw [List.foldlM_append] at h
    obtain ⟨t, ht, hx⟩ := except_bind_eq_ok.mp h
    rw [List.foldlM_cons] at hx
    obtain ⟨u, hu, hr⟩ := except_bind_eq_ok.mp hx
    cases hr
    refine step xs x [] rfl t _ ht (ih (fun before y after split t u ht pt hu => ?_) ht) hu
    exact step before y (after ++ [x]) (by rw [split]; simp) t u ht pt hu

theorem pointed_of_unit (h : s.unit files = .ok (whole, reached)) : whole.Pointed := by
  obtain ⟨depth, chain, file, text, counter⟩ := s
  induction depth generalizing chain file text counter whole reached with
  | zero => cases h
  | succ depth ih =>
    rw [unit_succ] at h
    obtain ⟨draft, hdraft, hparts⟩ := except_bind_eq_ok.mp h
    refine foldlM_keeps (P := fun so => so.1.Pointed) ?_ (readDraft_tabled hdraft).pointed hparts
    rintro inc - ⟨whole, counter⟩ ⟨larger, reached⟩ old hstep
    obtain ⟨inner, hinner, happend⟩ := addInclude_eq_ok hstep
    exact ScriptUnit.Pointed.append old (ih _ _ _ _ hinner) happend

theorem exact_of_unit (plain : s.PlainNames files) (h : s.unit files = .ok (whole, reached)) :
    whole.Exact := by
  obtain ⟨depth, chain, file, text, counter⟩ := s
  induction depth generalizing chain file text counter whole reached with
  | zero => cases h
  | succ depth ih =>
    rw [unit_succ] at h
    obtain ⟨draft, hdraft, hparts⟩ := except_bind_eq_ok.mp h
    have own := plain _ _ _ draft (.self _) hdraft
    refine foldlM_keeps_after (P := fun so => so.1.Exact) ?_ ((readDraft_tabled hdraft).exact own)
      hparts
    rintro before inc after split ⟨whole, counter⟩ ⟨larger, reached⟩ hbefore old hstep
    obtain ⟨inner, hinner, happend⟩ := addInclude_eq_ok hstep
    have below := plain.part (.intro hdraft split hbefore)
    have scope := own.scope inc (split ▸ List.mem_append_right _ List.mem_cons_self)
    exact ScriptUnit.Exact.append old (ih _ _ _ _ below hinner) scope happend

end Source

/-! ## 4. Programs -/

/-- In every program an entry of the label table stands at a label command, and different names
stand at different ones. Where no label name and no scope begins with the root mark, and no label
has the reserved name or the one that no table keeps, the table is exactly the list of the label
commands, so that these have different names. -/
theorem label_table_exact {files : FileTree} {strict : Bool} {counter reached : Ordinal}
    {path source : Text} {program : Program}
    (h : Program.ofSource files strict counter path source = .ok (program, reached)) :
    (∀ name (i : Nat), (name, i) ∈ program.labels.entries →
      i < program.commands.size ∧ ∃ label, program.commands[i]? = some (.label label)) ∧
    (∀ name other i, (name, i) ∈ program.labels.entries → (other, i) ∈ program.labels.entries →
      name = other) ∧
    program.labels.keys.Nodup ∧
    ((Source.outermost files counter path source).PlainNames files →
      (∀ name (i : Nat), (name, i) ∈ program.labels.entries ↔
        program.commands[i]? = some (.label name)) ∧
      ∀ name (i j : Nat), program.commands[i]? = some (.label name) →
        program.commands[j]? = some (.label name) → i = j) := by
  obtain ⟨unit, hunit, rfl⟩ := Program.ofSource_eq_ok h
  have pointed := Source.pointed_of_unit hunit
  -- The last step of linking changes no label command.
  have label : ∀ (i : Nat) name, (unit.commands.map (Command.mapTargets stripRootMark none))[i]? =
      some (.label name) ↔ unit.commands[i]? = some (.label name) := by
    intro i name
    rw [Array.getElem?_map, Option.map_eq_some_iff]
    constructor
    · rintro ⟨c, found, same⟩
      rw [found, Command.mapTargets_none_eq_label.mp same]
    · exact fun found => ⟨_, found, rfl⟩
  refine ⟨fun name i mem => ?_, fun name other i mem mem' => ?_, pointed.keys, fun plain => ?_⟩
  · obtain ⟨inner, found⟩ := pointed.entry _ mem
    rw [Array.size_map]
    exact ⟨pointed.inside mem, inner, (label i inner).mpr found⟩
  · exact congrArg Prod.fst (pointed.distinct _ mem _ mem' rfl)
  · have exact := (Source.exact_of_unit plain hunit).entries
    refine ⟨fun name i => (exact name i).trans (label i name).symm, fun name i j hi hj => ?_⟩
    have mem := (exact name i).mpr ((label i name).mp hi)
    have mem' := (exact name j).mpr ((label j name).mp hj)
    exact Option.some.inj ((Table.get?_of_mem pointed.keys mem).symm.trans
      (Table.get?_of_mem pointed.keys mem'))

/-- Two files with a check block each. -/
def blockFiles : FileTree :=
  ⟨⟨[("/main.vn",
      .file "include \"a.vn\" as a; label top: check x > 5 \x7b \"Again.\"; \x7d go a.x;"),
    ("/a.vn", .file "label x: check y > 5 \x7b go x; \x7d")]⟩⟩

/-- The text of the outermost of the two. -/
def blockSource : Text := (blockFiles.read "/main.vn").toOption.getD []

/-- The labels of their program: each file has a label and the end of its block. -/
def blockLabels : List (Text × Nat) :=
  [("top", 0), ("__check_skip_1", 3), ("a.x", 5), ("a.__check_skip_2", 8)]

theorem label_table_exact_blocks :
    ∃ program reached,
      Program.ofSource blockFiles true (.nth 0) "/main.vn" blockSource = .ok (program, reached) ∧
      (Source.outermost blockFiles (.nth 0) "/main.vn" blockSource).PlainNames blockFiles ∧
      program.labels.entries = blockLabels ∧
      ∀ name (i : Nat), (name, i) ∈ blockLabels ↔ program.commands[i]? = some (.label name) := by
  obtain ⟨⟨program, reached⟩, hprogram, entries⟩ := exists_ok (f := fun r => r.1.labels.entries)
    (b := blockLabels)
    (x := Program.ofSource blockFiles true (.nth 0) "/main.vn" blockSource) (by decide +kernel)
  obtain ⟨outer, houter, ho⟩ := exists_ok
    (f := fun d => (d.includes, d.commands, d.counter))
    (b := ([⟨"/a.vn", "a"⟩], #[.label "top", .jumpIf "x" .le (.literal (.num 5.0)) "__check_skip_1",
      .say none "Again.", .label "__check_skip_1", .jump "a.x"], .nth 1))
    (x := readDraft blockFiles "/main.vn" blockSource (.nth 0)) (by decide +kernel)
  obtain ⟨inner, hinner, hi⟩ := exists_ok
    (f := fun d => (d.includes, d.commands))
    (b := ([], #[.label "x", .jumpIf "y" .le (.literal (.num 5.0)) "__check_skip_2", .jump "x",
      .label "__check_skip_2"]))
    (x := readDraft blockFiles "/a.vn" ((blockFiles.read "/a.vn").toOption.getD []) (.nth 1))
    (by decide +kernel)
  obtain ⟨includes, commands, counter⟩ : outer.includes = _ ∧ outer.commands = _ ∧
    outer.counter = _ := by simpa using ho
  obtain ⟨includes', commands'⟩ : inner.includes = _ ∧ inner.commands = _ := by simpa using hi
  have plain : outer.Plain := by
    refine ⟨fun name named => ?_, by rw [includes]; decide⟩
    obtain rfl | rfl : name = "top" ∨ name = "__check_skip_1" := by simpa [commands] using named
    · decide
    · decide
  have plain' : inner.Plain := by
    refine ⟨fun name named => ?_, by rw [includes']; decide⟩
    obtain rfl | rfl : name = "x" ∨ name = "__check_skip_2" := by simpa [commands'] using named
    · decide
    · decide
  have names : (Source.outermost blockFiles (.nth 0) "/main.vn" blockSource).PlainNames blockFiles := by
    refine .of_single houter plain includes (by decide) fun inc mem => ?_
    rw [List.mem_singleton.mp mem, counter]
    exact .of_single hinner plain' includes' (by decide) nofun
  obtain ⟨-, -, -, table⟩ := label_table_exact hprogram
  refine ⟨program, reached, hprogram, names, entries, ?_⟩
  rw [← entries]
  exact (table names).1

end VisualNovel
