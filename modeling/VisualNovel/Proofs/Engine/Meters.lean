import VisualNovel.Proofs.Engine.Blockers
import VisualNovel.Proofs.Engine.Deal
import VisualNovel.Proofs.Story.Reloaded

/-!
Meters show their variables.

A meter keeps the value that it shows, while its variable lives among the variables of the story.
`Variables.Shown` says that each meter shows what its variable has now, moved into its range, and every
dealing with variables and meters keeps it. A save file has one zero, so that a value that comes
from a file can differ from that of its variable in the sign of a zero, and in nothing else.
-/

namespace VisualNovel

variable {τ : Type}

/-! ## 1. Meters and variables -/

/-- Each meter shows its variable, up to the sign of a zero. -/
structure Variables.Shown (vars : Variables) (meters : Table Meter) : Prop where
  distinct : vars.keys.Nodup
  apart : meters.keys.Nodup
  value : ∀ name m, (name, m) ∈ meters.entries → Number.unsigned m.value =
    Number.unsigned (({ vars } : State Unit).meterValue name m.min m.max)

namespace Variables.Shown

variable {s : State τ} {vars : Variables} {meters : Table Meter}

theorem empty (distinct : vars.keys.Nodup) : Variables.Shown vars {} :=
  ⟨distinct, by simp [Table.keys], by simp⟩

theorem start : ({} : State τ).vars.Shown ({} : State τ).meters := .empty (by simp [Table.keys])

/-- What keeps the store keeps the meters. -/
theorem of_store (h : s.vars.Shown s.meters) {t : State τ} (same : t.store = s.store) :
    t.vars.Shown t.meters := by
  have vars : t.vars = s.vars := congrArg Store.vars same
  have meters : t.meters = s.meters := congrArg Store.meters same
  rw [vars, meters]
  exact h

/-- Some of the meters. -/
theorem sub (h : vars.Shown meters) {fewer : Table Meter} (apart : fewer.keys.Nodup)
    (part : ∀ e ∈ fewer.entries, e ∈ meters.entries) : vars.Shown fewer :=
  ⟨h.distinct, apart, fun name m mem => h.value name m (part _ mem)⟩

/-- A meter is shown. -/
theorem showMeter (h : s.vars.Shown s.meters) (name label : Text) (min max : Float)
    (color : Option Text) :
    s.vars.Shown (s.meters.set name ⟨label, min, max, s.meterValue name min max, color⟩) := by
  refine ⟨h.distinct, Table.nodup_keys_set h.apart _ _, fun other m mem => ?_⟩
  rcases Table.mem_setEntry mem with new | old
  · cases new
    rfl
  · exact h.value other m old

/-- The value of one variable changes, and its meter shows the new one. -/
theorem refresh (h : s.vars.Shown s.meters) {t : State τ} {name : Text} (meters : t.meters = s.meters)
    (distinct : t.vars.keys.Nodup)
    (others : ∀ other, other ≠ name → t.vars.get? other = s.vars.get? other) :
    (t.refreshMeter name).vars.Shown (t.refreshMeter name).meters := by
  refine ⟨distinct, ?_, fun other m mem => ?_⟩
  · rw [State.refreshMeter, Table.keys_modify, meters]
    exact h.apart
  obtain ⟨⟨key, old⟩, inside, same⟩ := List.mem_map.mp mem
  rw [meters] at inside
  by_cases own : key = name
  · rw [if_pos own] at same
    cases same
    rw [own]
    rfl
  · rw [if_neg own] at same
    obtain ⟨rfl, rfl⟩ := Prod.mk.inj same
    have kept : t.vars.get? key = s.vars.get? key := others key own
    have value := h.value key old inside
    simp only [State.meterValue, State.refreshMeter, ← kept] at value ⊢
    exact value

theorem setVariable (h : s.vars.Shown s.meters) (name : Text) (value : Value) :
    (s.setVariable name value).vars.Shown (s.setVariable name value).meters := by
  refine h.refresh rfl (Table.nodup_keys_set h.distinct _ _) fun other differs => ?_
  rw [Table.get?_set, if_neg differs]

theorem refreshMeter (h : s.vars.Shown s.meters) (name : Text) :
    (s.refreshMeter name).vars.Shown (s.refreshMeter name).meters :=
  h.refresh rfl h.distinct fun _ _ => rfl

end Variables.Shown

/-- One dealing with a state keeps its meters. -/
theorem State.Deal.shown {terms : Terms τ} {perPage : Float} {s t : State τ}
    (deal : s.Deal terms perPage t) (h : s.vars.Shown s.meters) : t.vars.Shown t.meters := by
  cases deal with
  | setVariable name value => exact h.setVariable name value
  | showMeter => exact h.showMeter ..
  | refreshMeter name => exact h.refreshMeter name
  | eraseMeter name =>
    exact h.sub (Table.nodup_keys_erase h.apart name) fun e mem => (List.mem_filter.mp mem).1
  | clearMeters => exact .empty h.distinct
  | @takeItem id amount =>
    obtain ⟨inventory, same⟩ := s.takeItem_frame id amount
    rw [same]
    exact h
  | addItem | clearItems | turn | sound => exact h

/-! ## 2. Snapshots and save files -/

namespace Snapshot

/-- The meters of a snapshot show its variables. -/
def Shown (data : Snapshot τ) : Prop := data.vars.Shown data.meters

/-- The value of a variable has the same numeric view in the file. -/
theorem number?_reread {v w : Value}
    (h : Json.storyValue? Json.finite? (Json.reread (Json.ofValue v)) = some w) :
    Option.Rel (fun x y => Number.unsigned x = Number.unsigned y) v.number? w.number? := by
  have same : ∀ x : Option Float,
      Option.Rel (fun x y => Number.unsigned x = Number.unsigned y) x x := by
    rintro (_ | x)
    · exact .none
    · exact .some rfl
  cases v with
  | num x =>
    rw [Json.ofValue, Json.reread] at h
    split at h
    · next finite =>
      obtain ⟨y, read, rfl⟩ := Option.map_eq_some_iff.mp h
      obtain ⟨stays, rfl⟩ : Number.isFinite (Json.rereadNumber x) = true ∧ Json.rereadNumber x = y := by
        simpa [Json.finite?] using read
      simp only [Value.number?, finite, stays, if_true]
      exact .some (Json.unsigned_rereadNumber finite).symm
    · cases h
  | str t =>
    cases h
    exact same _
  | bool b =>
    cases h
    exact same _

theorem meter?_reread {m m' : Meter} (h : meter? .file (Json.reread (meterJson m)) = some m') :
    Number.unsigned m'.min = Number.unsigned m.min ∧ Number.unsigned m'.max = Number.unsigned m.max ∧
      Number.unsigned m'.value = Number.unsigned m.value := by
  obtain ⟨fields, form, inOrder, min, max, value⟩ : ∃ fields, meterJson m = .record fields ∧
      Json.InOrder (fields.map fun f => Text.ofString f.1) ∧ ("min", .num m.min) ∈ fields ∧
      ("max", .num m.max) ∈ fields ∧ ("value", .num m.value) ∈ fields :=
    ⟨_, rfl, by simp only [List.map]; decide, by simp, by simp, by simp⟩
  have number : Rules.file.number = Json.finite? := rfl
  rw [form] at h
  simp only [meter?, number, Json.need_reread inOrder min, Json.need_reread inOrder max,
    Json.need_reread inOrder value, Option.bind_eq_bind, Option.bind_eq_some_iff, Option.pure_def,
    Option.some.injEq] at h
  obtain ⟨_, _, min', hmin, max', hmax, value', hvalue, _, _, rfl⟩ := h
  exact ⟨unsigned_of_finite? hmin, unsigned_of_finite? hmax, unsigned_of_finite? hvalue⟩

/-- Meters that come back from a file show the variables that come back. -/
theorem Reloaded.shown {data found : Snapshot Float} (again : data.Reloaded found)
    (h : data.Shown) : found.Shown := by
  have vars := matches_reread h.distinct again.vars
  have meters := matches_reread h.apart again.meters
  refine ⟨vars.distinct, meters.distinct, fun name m' mem => ?_⟩
  obtain ⟨m, written, read⟩ := meters.back name m' mem
  obtain ⟨min, max, value⟩ := meter?_reread read
  rw [value, h.value name m written]
  refine Number.clamp_congr ?_ min.symm max.symm
  have related := vars.get? h.distinct name
  change Number.unsigned (((data.vars.get? name).bind Value.number?).getD m.min) =
    Number.unsigned (((found.vars.get? name).bind Value.number?).getD m'.min)
  generalize data.vars.get? name = v at related ⊢
  generalize found.vars.get? name = w at related ⊢
  cases related with
  | none => exact min.symm
  | @some v w read =>
    have views := number?_reread read
    rw [Option.bind_some, Option.bind_some]
    generalize v.number? = x at views ⊢
    generalize w.number? = y at views ⊢
    cases views with
    | none => exact min.symm
    | some same => exact same

theorem shown_ofState [Clock τ] {s : State τ} (h : s.vars.Shown s.meters) (script : Text) (now : τ) :
    (ofState s script now).Shown :=
  h.sub (Table.nodup_keys_recordEntries h.apart) fun _ => Table.mem_of_mem_recordEntries

end Snapshot

/-! ## 3. Games -/

variable [Clock τ]

/-- The meters of a game show its variables, and so do those of all saves among its files. -/
structure Game.Shown (g : Game τ) : Prop where
  state : g.state.vars.Shown g.state.meters
  files : g.files.AllSaves Snapshot.Shown

/-- The terms of sessions that go on only from snapshots of this kind. -/
def Terms.shown : Terms τ := ⟨fun _ => True, fun _ => True, Snapshot.Shown⟩

theorem Game.Deal.shown {g t : Game τ} (deal : Game.Deal Terms.shown g t) (h : g.Shown) : t.Shown := by
  cases deal with
  | aside same => exact ⟨h.state.of_store same.store, same.files ▸ h.files⟩
  | state deal => exact { h with state := deal.shown h.state }
  | ask => exact { h with }
  | save path =>
    have taken : g.snapshot.Shown := Snapshot.shown_ofState h.state _ _
    exact { h with files := h.files.save (fun found again => again.shown taken) path }
  | restart => exact { h with state := Variables.Shown.start.of_store (State.store_introduceAll _ _) }
  | @resume data program source =>
    have shown : data.Shown := by
      rcases source with given | ⟨path, saved, found, rfl⟩
      · exact given
      · exact h.files.load found
    have resumed : (data.toState g.now).vars.Shown (data.toState g.now).meters := shown
    exact { h with state := resumed.of_store (State.store_introduceAll _ _) }

/-- Every meter of a game that is played from a new one shows the numeric view of its variable, or
its least value without one, moved into its range, up to the sign of a zero. Sessions may use every
operation, and hand over the snapshots that they took. -/
theorem meters_show_variables {setup : Setup τ} {library : Library} {files : FileTree}
    {program : Program} (noSaves : FileTree.NoSaves files.text?) {taken : List (Snapshot τ)}
    {g : Game τ} (played : Played OwnSnapshots (Game.start setup library files program) taken g)
    {name : Text} {m : Meter} (mem : (name, m) ∈ g.state.meters.entries) :
    Number.unsigned m.value = Number.unsigned
      (Number.clamp (((g.state.vars.get? name).bind Value.number?).getD m.min) m.min m.max) := by
  have start : (Game.start setup library files program).Shown :=
    ⟨Variables.Shown.start.of_store (State.store_introduceAll _ _), noSaves.all _⟩
  have cover : (Terms.shown : Terms τ).Cover fun _ => True := Terms.cover_all fun _ => trivial
  have shown := (played.deals cover trivial start
    (fun g h => Snapshot.shown_ofState h.state _ _)
    (fun taken op own good => ⟨fun _ _ => trivial, fun data hands => good data (own data hands)⟩)
    fun g t deal h => deal.shown h).1
  exact shown.state.value name m mem

/-- A story with a meter whose variable grows out of its range. -/
def trackedStory : Program :=
  { script := "/game/main.vn"
    commands := #[.showMeter "luck" "Luck" 0.0 10.0 none, .addVariable "luck" 25.0]
    labels := {} }

/-- A new game of the story. -/
def trackedGame : Game Float :=
  gameIn (soloFiles "meter show luck \"Luck\" 0 10;\ntrack luck 25;") trackedStory

/-- The meter of the story is full in the end. -/
theorem meters_show_variables_full :
    (Operation.run.after trackedGame).state.vars.get? "luck" = some (.num 25.0) ∧
    Number.unsigned 10.0 = Number.unsigned (Number.clamp
      ((((Operation.run.after trackedGame).state.vars.get? "luck").bind Value.number?).getD 0.0)
      0.0 10.0) := by
  have noSaves : FileTree.NoSaves
      (soloFiles "meter show luck \"Luck\" 0 10;\ntrack luck 25;").text? :=
    FileTree.noSaves_text? (by decide)
  have played : Played OwnSnapshots trackedGame [] (Operation.run.after trackedGame) :=
    .act .start (ownSnapshots_of_ne fun _ => nofun)
  have full : (Text.ofString "luck", (⟨"Luck", 0.0, 10.0, 10.0, none⟩ : Meter)) ∈
      (Operation.run.after trackedGame).state.meters.entries := by
    decide +kernel
  exact ⟨by decide +kernel, meters_show_variables noSaves played full⟩

end VisualNovel
