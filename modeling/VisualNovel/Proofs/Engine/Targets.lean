import VisualNovel.Proofs.Engine.Exits

/-!
Where choices and clicks lead.

Targets are checked where a script is read, but they are followed much later: they are copied into
choices, points of a map, buttons and hotspots, and from there into saves. In a story of one script
all of them keep leading to labels of it (`State.Change.leads`), so that no operation ever fails for
want of a label (`labels_found`). A call changes that, since it takes up another program.
-/

namespace VisualNovel

variable {τ : Type} {P : Text → Prop}

/-! ## 1. Targets of states -/

/-- Everything in a state that can be chosen or clicked has a target of a kind. -/
structure State.Leads (P : Text → Prop) (s : State τ) : Prop where
  options : ∀ c ∈ s.choice, ∀ o ∈ c.options, P o.target
  points : ∀ p ∈ s.map.points, P p.target
  buttons : ∀ b ∈ s.hud.values, P b.target
  hotspots : ∀ h ∈ s.hotspots.values, P h.target

theorem State.Leads.of_holds {s : State τ} (h : s.Leads P) {target : Text}
    (held : s.Holds target) : P target := by
  cases held with
  | option pending mem => exact h.options _ pending _ mem
  | point mem => exact h.points _ mem
  | button mem => exact h.buttons _ mem
  | hotspot mem => exact h.hotspots _ mem

theorem State.leads_iff {s : State τ} : s.Leads P ↔ s.ExitsIn fun x => P x.target :=
  ⟨fun h => ⟨h.options, h.points, h.buttons, h.hotspots⟩,
    fun h => ⟨h.options, h.points, h.buttons, h.hotspots⟩⟩

/-- Every change of a state puts only targets of the program into it. -/
theorem State.Change.leads [Clock τ] {program : Program} {s t : State τ}
    (known : ∀ c ∈ program.commands, ∀ target ∈ c.targets, P target)
    (change : s.Change program t) (h : s.Leads P) : t.Leads P := by
  refine State.leads_iff.mpr (change.exitsIn (fun c inside fill x made => ?_) (State.leads_iff.mp h))
  exact known c inside x.target (Command.target_mem made)

theorem State.leads_start (program : Program) : (({} : State τ).introduceAll program).Leads P :=
  State.leads_iff.mpr (State.exitsIn_start program)

/-! ## 2. Targets of snapshots -/

/-- Everything in a snapshot that can be chosen or clicked has a target of a kind. -/
structure Snapshot.Leads (P : Text → Prop) (data : Snapshot τ) : Prop where
  options : ∀ c, data.waiting = some (.choice c) → ∀ o ∈ c.options, P o.target
  points : ∀ p ∈ data.map.points, P p.target
  buttons : ∀ b ∈ data.hud, P b.target
  hotspots : ∀ h ∈ data.hotspots, P h.target

namespace Snapshot

variable {data : Snapshot τ}

theorem leads_ofState [Clock τ] {s : State τ} (h : s.Leads P) (script : Text) (now : τ) :
    (ofState s script now).Leads P where
  options c waiting := by
    change waitingOf s now = some (.choice c) at waiting
    unfold waitingOf at waiting
    split at waiting
    · next choice pending =>
      cases waiting
      exact h.options choice pending
    all_goals cases waiting
  points := h.points
  buttons := h.buttons
  hotspots := h.hotspots

theorem leads_iff : data.Leads P ↔ data.ExitsIn fun x => P x.target :=
  ⟨fun h => ⟨h.options, h.points, h.buttons, h.hotspots⟩,
    fun h => ⟨h.options, h.points, h.buttons, h.hotspots⟩⟩

/-- A story that is taken up again has the targets of its snapshot. -/
theorem Leads.resumed [Clock τ] (h : data.Leads P) (now : τ) (program : Program) :
    ((data.toState now).introduceAll program).Leads P :=
  State.leads_iff.mpr (((leads_iff.mp h).toState now).introduceAll program)

theorem Leads.mapTime {σ : Type} (h : data.Leads P) (f : τ → σ) : (data.mapTime f).Leads P := by
  refine { h with options := fun c waiting => ?_ }
  obtain ⟨w, before, same⟩ := Option.map_eq_some_iff.mp waiting
  cases w with
  | choice old =>
    cases same
    exact h.options old before
  | wait w => cases same
  | question q => cases same

/-- Targets are found again in a save file. -/
theorem Leads.reread {data found : Snapshot Float} (h : data.Leads P) (again : data.Reread found) :
    found.Leads P := by
  have targets : ∀ {α β : Type} {f : α → Text} {g : β → Text} {xs : List α} {ys : List β},
      ys.map g = xs.map f → (∀ x ∈ xs, P (f x)) → ∀ y ∈ ys, P (g y) := by
    intro α β f g xs ys same all y mem
    have inside : g y ∈ xs.map f := same ▸ List.mem_map_of_mem mem
    obtain ⟨x, old, equal⟩ := List.mem_map.mp inside
    exact equal ▸ all x old
  refine ⟨fun c' waiting => ?_, fun p mem => ?_, targets again.hud h.buttons,
    targets again.hotspots h.hotspots⟩
  · obtain ⟨c, written, same, _⟩ := again.choice c' waiting
    exact targets same (h.options c written)
  · refine targets again.points (fun p old => ?_) p (Array.mem_toList_iff.mpr mem)
    exact h.points p (Array.mem_toList_iff.mp old)

end Snapshot

/-! ## 3. Stories of one script -/

/-- A snapshot of a story of one script. -/
structure Snapshot.Settled (root : Text) (program : Program) (data : Snapshot τ) : Prop where
  script : data.script = Path.toProject root program.script
  leads : data.Leads program.Leads
  natural : data.index.Natural

/-- A game of a story of one script: it stays with the script, inside of it, and all that it holds
leads to labels of it. -/
structure Game.Settled (original : Text → Option Text) (root : Text) (program : Program)
    (g : Game τ) : Prop where
  place : g.setup.root = root
  plays : g.program = program
  began : g.entry = program
  leads : g.state.Leads program.Leads
  next : g.state.Inside program.commands.size
  files : g.files.Saves original (Snapshot.Settled root program)

namespace Game.Settled

variable [Clock τ] {original : Text → Option Text} {root : Text} {program : Program}
variable {given : Snapshot τ → Prop} {g t : Game τ}

theorem snapshot (h : g.Settled original root program) : g.snapshot.Settled root program where
  script := by rw [← h.place, ← h.plays]; rfl
  leads := Snapshot.leads_ofState h.leads _ _
  natural := by
    obtain ⟨n, _, place⟩ := h.next
    simp only [Game.snapshot, Snapshot.ofState, place, Ordinal.Natural]

end Game.Settled

section

variable [Clock τ] {original : Text → Option Text} {root : Text} {program : Program}
variable {given : Snapshot τ → Prop} {g t : Game τ}

/-- Every change keeps a story of one script settled. -/
theorem Game.Change.settled (noSaves : FileTree.NoSaves original) (formed : program.WellFormed)
    (resolved : program.Resolved) (alone : ¬ program.Calls)
    (small : program.commands.size < Ordinal.bound)
    (handed : ∀ data, given data → data.Settled root program) (change : Game.Change given g t)
    (h : g.Settled original root program) : t.Settled original root program := by
  have single : ∀ {path resolved label}, .call path resolved label ∈ g.program.commands → False :=
    fun mem => alone (h.plays ▸ ⟨_, _, _, mem⟩)
  cases change with
  | state change =>
    rw [h.plays] at change
    refine { h with leads := change.leads resolved h.leads, next := ?_ }
    exact change.inside (fun name i found => Nat.le_of_lt (formed.labels name i found)) h.next
  | around | request | load | evict | clearLibrary => exact { h with }
  | openVideo | lookVideo | closeVideo => exact { h with leads := { h.leads with } }
  | save path =>
    refine { h with files := h.files.save ?_ path }
    exact { h.snapshot with leads := h.snapshot.leads.mapTime _ }
  | call mem => exact (single mem).elim
  | stray mem => exact (single mem).elim
  | restart =>
    exact { h with
            plays := h.began, leads := State.leads_start _, next := State.inside_start _ _ }
  | @resume data other source offers behind =>
    have settled : data.Settled root program := by
      rcases source with own | ⟨path, saved, found, rfl⟩
      · exact handed data own
      · obtain ⟨written, good, again⟩ := h.files.load noSaves found
        exact
          { script := again.script.trans good.script
            leads := (good.leads.reread again).mapTime _
            natural := Snapshot.natural_of_load found }
    -- The snapshot is of the script that is played, so that the program stays.
    have same : other = program := by
      rw [settled.script, h.place, Path.fromProject_toProject, Game.Offers, h.plays,
        if_pos rfl] at offers
      exact offers
    subst same
    obtain ⟨n, inside, place⟩ := settled.natural.inside small behind
    obtain ⟨characters, frame⟩ := (data.toState g.now).introduceAll_frame other
    refine { h with plays := rfl, leads := settled.leads.resumed _ _, next := ?_ }
    rw [frame]
    exact ⟨n, inside, place⟩

omit [Clock τ] in
/-- A settled game misses no label. -/
theorem Game.Settled.not_misses (h : g.Settled original root program) (resolved : program.Resolved)
    (name : Text) : ¬ g.Misses name := by
  rintro ⟨missing, other, target, rfl, held⟩
  have leads : program.Leads target := by
    rcases held with own | ⟨c, mem, named⟩
    · exact h.leads.of_holds own
    · exact resolved c (h.plays ▸ mem) target named
  obtain ⟨unmarked, known⟩ := leads
  rw [unmarked.stripRootMark_eq] at missing other
  rcases known with reserved | label
  · exact other reserved
  · rw [h.plays] at missing
    rw [Table.contains, missing] at label
    cases label

end

/-- A program that was read with strict labels and calls no other script is sound: however it is
played, no operation but a jump from outside ever fails for want of a label, and the next command is
one of the program, or the program is done. -/
theorem labels_found [Clock τ] {scripts : FileTree} {counter reached : Ordinal} {path source : Text}
    {program : Program}
    (read : Program.ofSource scripts true counter path source = .ok (program, reached))
    (alone : ¬ program.Calls) (small : program.commands.size < Ordinal.bound)
    {setup : Setup τ} {library : Library} {files : FileTree}
    (noSaves : FileTree.NoSaves files.text?) {taken : List (Snapshot τ)} {g : Game τ}
    (played : Played (fun taken op => OwnSnapshots taken op ∧ ∀ target, op ≠ .jump target)
      (Game.start setup library files program) taken g) :
    (∃ n ≤ g.program.commands.size, g.state.index = .nth n) ∧
    ∀ op : Operation τ, OwnSnapshots taken op → (∀ target, op ≠ .jump target) →
      ∀ failure, op.failure? g = some failure → ∀ name, ¬ failure.Lacks name := by
  have formed := Program.wellFormed_ofSource read
  have resolved := Program.resolved_of_strict read
  have start : (Game.start setup library files program).Settled files.text? setup.root program :=
    { place := rfl
      plays := rfl
      began := rfl
      leads := State.leads_start program
      next := State.inside_start _ _
      files := files.within_text?.saves _ }
  obtain ⟨settled, good⟩ := played.invariant start (fun g h => h.snapshot)
    (fun taken op ok good data hands => good data (ok.1 data hands))
    fun given g t handed change => change.settled noSaves formed resolved alone small handed
  refine ⟨settled.plays ▸ settled.next, fun op own other failure failed name lacks => ?_⟩
  obtain ⟨u, changes, missed⟩ := Operation.fails_of_failure? failed other name lacks
  have still : u.Settled files.text? setup.root program :=
    changes.keep (fun g t change => change.settled noSaves formed resolved alone small
      fun data hands => good data (own data hands)) settled
  rcases missed with misses | calls
  · exact still.not_misses resolved name misses
  · exact alone (still.plays ▸ calls)

/-- A story that goes back to its beginning. -/
def againSource : Text := "label a: \"Hello.\"; go a;"

/-- The line is shown, dismissed, and the story goes on. -/
theorem labels_found_again :
    ∃ program reached,
      Program.ofSource {} true (.nth 0) "/game/main.vn" againSource = .ok (program, reached) ∧
      let g : Game Float :=
        Operation.advance.after (Operation.run.after (gameIn (soloFiles againSource) program))
      ∀ failure, Operation.run.failure? g = some failure → ∀ name, ¬ failure.Lacks name := by
  obtain ⟨⟨program, reached⟩, read, commands⟩ := exists_ok
    (x := Program.ofSource {} true (.nth 0) "/game/main.vn" againSource)
    (f := fun r => r.1.commands) (b := #[.label "a", .say none "Hello.", .jump "a"])
    (by decide +kernel)
  change program.commands = _ at commands
  have alone : ¬ program.Calls := by
    rintro ⟨_, _, _, mem⟩
    simp [commands] at mem
  have small : program.commands.size < Ordinal.bound := by
    rw [commands]
    decide
  have noSaves : FileTree.NoSaves (soloFiles againSource).text? :=
    FileTree.noSaves_text? (by decide +kernel)
  have played : Played (fun taken op => OwnSnapshots taken op ∧ ∀ target, op ≠ .jump target)
      (gameIn (τ := Float) (soloFiles againSource) program) []
      (Operation.advance.after (Operation.run.after (gameIn (soloFiles againSource) program))) := by
    refine .act (.act .start ⟨ownSnapshots_of_ne fun _ => nofun, fun _ => nofun⟩) ⟨?_, fun _ => nofun⟩
    exact ownSnapshots_of_ne fun _ => nofun
  refine ⟨program, reached, read, ?_⟩
  exact (labels_found read alone small noSaves played).2 .run (ownSnapshots_of_ne fun _ => nofun)
    fun _ => nofun

end VisualNovel
