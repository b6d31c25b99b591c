import VisualNovel.Proofs.Script.Linking

/-!
What a new name changes.

A command is put together from the targets it names, the name of a label, and all the rest of it. The
three parts are independent of one another and make up the command (`Command.eq_of_parts`). Renaming
changes each target by one function and the name of a label by another, and leaves the rest as it is
(`targets_mapTargets`, `labelName?_mapTargets`, `besides_mapTargets`). So all laws of renaming are laws
of lists of names.
-/

namespace VisualNovel
namespace Command

/-! ## 1. Parts of a command -/

/-- The name of a label. -/
def labelName? : Command → Option Text
  | .label name => some name
  | _ => none

/-- What a command is besides its targets and the name of a label, which are left blank. -/
def besides : Command → Command
  | .label _ => .label []
  | .jump _ => .jump []
  | .jumpIf name op value _ => .jumpIf name op value []
  | .hotspot name shape _ => .hotspot name shape []
  | .button b => .button { b with target := [] }
  | .choice prompt options timeout timeoutDefault =>
    .choice prompt (options.map fun o => { o with target := [] }) timeout timeoutDefault
  | .mapPoint title pos corners _ => .mapPoint title pos corners []
  | command => command

/-- The command with targets put into the places for them, and with a name for a label. -/
def fill (targets : List Text) (name : Option Text) : Command → Command
  | .label _ => .label (name.getD [])
  | .jump _ => .jump (targets.headD [])
  | .jumpIf var op value _ => .jumpIf var op value (targets.headD [])
  | .hotspot spot shape _ => .hotspot spot shape (targets.headD [])
  | .button b => .button { b with target := targets.headD [] }
  | .choice prompt options timeout timeoutDefault =>
    .choice prompt (List.zipWith (fun o target => { o with target }) options targets) timeout
      timeoutDefault
  | .mapPoint title pos corners _ => .mapPoint title pos corners (targets.headD [])
  | command => command

theorem zipWith_targets (options : List ChoiceOption) :
    List.zipWith (fun (o : ChoiceOption) target => { o with target })
      (options.map fun o => { o with target := [] }) (options.map (·.target)) = options := by
  induction options with
  | nil => rfl
  | cons o rest ih => simp only [List.map_cons, List.zipWith_cons_cons, ih]

/-- A command is made up of its parts. -/
theorem fill_besides (c : Command) : c.besides.fill c.targets c.labelName? = c := by
  cases c with
  | choice prompt options timeout timeoutDefault =>
    simp only [besides, targets, fill, zipWith_targets]
  | _ => rfl

theorem eq_of_parts {c d : Command} (targets : d.targets = c.targets)
    (label : d.labelName? = c.labelName?) (rest : d.besides = c.besides) : d = c := by
  rw [← fill_besides d, ← fill_besides c, targets, label, rest]

/-! ## 2. Renaming -/

@[simp] theorem labelName?_mapTargets (f : Text → Text) (h : Option (Text → Text)) (c : Command) :
    (c.mapTargets f h).labelName? = c.labelName?.map (h.getD id) := by
  cases c with
  | label name => cases h <;> rfl
  | _ => rfl

@[simp] theorem besides_mapTargets (f : Text → Text) (h : Option (Text → Text)) (c : Command) :
    (c.mapTargets f h).besides = c.besides := by
  cases c with
  | label name => cases h <;> rfl
  | choice prompt options timeout timeoutDefault =>
    simp only [mapTargets, besides, List.map_map, Function.comp_def]
  | _ => rfl

/-- Renaming twice is renaming once, targets and labels apart. -/
theorem mapTargets_comp (f g : Text → Text) (h k : Option (Text → Text)) (c : Command) :
    (c.mapTargets f h).mapTargets g k =
      c.mapTargets (g ∘ f) (some (k.getD id ∘ h.getD id)) := by
  apply eq_of_parts
  · simp only [targets_mapTargets, List.map_map]
  · simp only [labelName?_mapTargets, Option.map_map, Option.getD_some]
  · simp only [besides_mapTargets]

/-- Without a change for labels they keep their names. -/
theorem mapTargets_some_id (f : Text → Text) (c : Command) :
    c.mapTargets f (some id) = c.mapTargets f none := by
  apply eq_of_parts
  · simp only [targets_mapTargets]
  · simp only [labelName?_mapTargets, Option.getD_some, Option.getD_none]
  · simp only [besides_mapTargets]

/-- Renaming twice without a change for labels. -/
theorem mapTargets_none_comp (f g : Text → Text) (c : Command) :
    (c.mapTargets f none).mapTargets g none = c.mapTargets (g ∘ f) none := by
  rw [mapTargets_comp, ← mapTargets_some_id]
  rfl

/-- Names that stay as they are change nothing. -/
theorem mapTargets_none_id (c : Command) : c.mapTargets id none = c := by
  rw [← mapTargets_some_id]
  exact c.mapTargets_id

end Command
end VisualNovel
