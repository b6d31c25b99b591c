import VisualNovel.Proofs.Story.Stage

/-!
Letting time pass at once or bit by bit.

Where nothing is waited for, what a state becomes when time passes depends on the moment that is
reached alone, and not on the moments at which it was looked at before (`State.elapse_elapse`). A
track gives its numbers from its own beginning, one that is done has reached its goal and stays done
(`Track.Fits.done_later`), and what is taken away at a moment would be taken away later as well.
-/

namespace VisualNovel

variable {τ : Type}

/-! ## 1. Numbers, tracks and tables -/

theorem length_between (progress : Float) (source goal : List Float) :
    (between progress source goal).length = goal.length := by
  induction goal generalizing source with
  | nil => cases source <;> rfl
  | cons target rest ih => cases source <;> simp [between, ih]

/-- The numbers of an action are replaced by new ones. -/
theorem Sprite.put_put (s : Sprite τ) (action : TrackAction) (before : List Float)
    {values : List Float} (full : values.length = action.arity) :
    (s.put action before).put action values = s.put action values := by
  cases action with
  | alpha =>
    obtain ⟨x, rfl⟩ := List.length_eq_one_iff.mp full
    rfl
  | move | size =>
    obtain ⟨x, y, rfl⟩ := List.length_eq_two.mp full
    rfl

/-- Different actions change different numbers. -/
theorem Sprite.put_comm (s : Sprite τ) {action other : TrackAction} (apart : action ≠ other)
    (xs ys : List Float) : (s.put action xs).put other ys = (s.put other ys).put action xs := by
  cases action <;> cases other <;> first | exact absurd rfl apart | rfl

theorem Tracks.eq_empty {tracks : Tracks τ} (empty : tracks.isEmpty = true) : tracks = {} := by
  obtain ⟨move, size, alpha⟩ := tracks
  simpa [isEmpty, TrackAction.all, get?] using empty

namespace Table

variable {α : Type} {t : Table α} {name : Text}

/-- What is not taken away is found as before. -/
theorem get?_without {names : List Text} (stays : name ∉ names) :
    (⟨t.entries.filter fun e => e.1 ∉ names⟩ : Table α).get? name = t.get? name := by
  obtain ⟨entries⟩ := t
  rw [get?, get?]
  induction entries with
  | nil => rfl
  | cons e rest ih =>
    obtain ⟨key, value⟩ := e
    rw [lookup_cons]
    by_cases taken : key ∈ names
    · have other : name ≠ key := fun same => stays (same ▸ taken)
      rw [List.filter_cons_of_neg (by simpa using taken), ih, if_neg other]
    · rw [List.filter_cons_of_pos (by simpa using taken), lookup_cons, ih]

/-- Among changed values of which some are dropped, a name has its changed value unless that one was
dropped. -/
theorem get?_filter_map {β : Type} (distinct : t.keys.Nodup) (f : α → β) (keep : β → Bool) :
    (⟨(t.entries.map fun e => (e.1, f e.2)).filter (keep ·.2)⟩ : Table β).get? name =
      ((t.get? name).map f).filter keep := by
  obtain ⟨entries⟩ := t
  rw [get?, get?]
  induction entries with
  | nil => rfl
  | cons e rest ih =>
    obtain ⟨key, value⟩ := e
    rw [keys, List.map_cons, List.nodup_cons] at distinct
    rw [lookup_cons, List.map_cons]
    by_cases own : name = key
    · subst own
      have missing : rest.lookup name = none := by
        rw [List.lookup_eq_none_iff]
        rintro ⟨key, value⟩ mem
        simpa using fun same : name = key => distinct.1 (same ▸ List.mem_map.mpr ⟨_, mem, rfl⟩)
      cases kept : keep (f value) with
      | true => simp [kept, Option.filter]
      | false => simp [kept, ih distinct.2, missing, Option.filter]
    · cases kept : keep (f value) with
      | true => simp [kept, lookup_cons, own, ih distinct.2]
      | false => simp [kept, own, ih distinct.2]

end Table

/-! ## 2. One track -/

variable [Clock τ] {a b : τ}

namespace Track

variable {track : Track τ} {action : TrackAction}

theorem done_iff : (track.sample a).done = true ↔ 1.0 ≤ track.portion a := by
  simp only [sample]
  split <;> simp_all

theorem values_of_done (done : (track.sample a).done = true) :
    (track.sample a).values = track.goal := by
  simp only [sample, if_pos (done_iff.mp done)]

theorem length_values (track : Track τ) (now : τ) :
    (track.sample now).values.length = track.goal.length := by
  simp only [sample]
  split
  · rfl
  · exact length_between _ _ _

/-- A track that is done stays done. -/
theorem Fits.done_later (fits : track.Fits action) (forward : Clock.Forward τ)
    (later : Clock.le a b = true) (done : (track.sample a).done = true) :
    (track.sample b).done = true := by
  have lasts : ¬ track.duration ≤ 0.0 := Number.not_le_of_lt fits.duration
  rw [done_iff, portion, if_neg lasts] at done ⊢
  have some := Number.pos_of_one_le (Number.le_ordered (Number.le_iff_unpack.mp done)).2 done
  exact Number.one_le_div_mono fits.duration
    (forward.sub_mono _ later (Number.pos_of_div_pos fits.duration some).1) done

end Track

/-! ## 3. One sprite and its tracks -/

namespace Sprite

theorem follow_comm (s : Sprite τ) {action other : TrackAction} (apart : action ≠ other)
    (track track' : Option (Track τ)) :
    (s.follow a action track).follow b other track' =
      (s.follow b other track').follow a action track := by
  cases track <;> cases track' <;> first | rfl | exact s.put_comm apart _ _

/-- What a sprite has from a track earlier does not matter later. -/
theorem follow_follow (s : Sprite τ) {action : TrackAction} {track : Option (Track τ)}
    (fits : ∀ t ∈ track, t.Fits action) (forward : Clock.Forward τ) (later : Clock.le a b = true) :
    (s.follow a action track).follow b action (track.filter fun t => !(t.sample a).done) =
      s.follow b action track := by
  cases track with
  | none => rfl
  | some t =>
    have fit := fits t rfl
    cases ends : (t.sample a).done with
    | true =>
      have values := Track.values_of_done ends
      have values' := Track.values_of_done (fit.done_later forward later ends)
      simp [Option.filter, ends, follow, values, values']
    | false =>
      have full := (t.length_values b).trans fit.goal
      simpa [Option.filter, ends, follow] using s.put_put action _ full

theorem along_along (s : Sprite τ) {tracks : Tracks τ} (fit : tracks.Fit)
    (forward : Clock.Forward τ) (later : Clock.le a b = true) :
    (s.along a tracks).along b (tracks.left a) = s.along b tracks := by
  have again : ∀ (s : Sprite τ) action,
      (s.follow a action (tracks.get? action)).follow b action ((tracks.left a).get? action) =
        s.follow b action (tracks.get? action) := by
    intro s action
    rw [Tracks.get?_left]
    exact s.follow_follow (fit action) forward later
  simp only [along, TrackAction.all, List.foldl_cons, List.foldl_nil]
  rw [follow_comm _ (by decide : TrackAction.alpha ≠ .move),
    follow_comm _ (by decide : TrackAction.size ≠ .move), again,
    follow_comm _ (by decide : TrackAction.alpha ≠ .size), again, again]

/-- A sprite on its way is to be taken away when it would be without being on its way. -/
theorem isGone_along (s : Sprite τ) (tracks : Tracks τ) :
    (s.along a tracks).isGone b = s.isGone b := by
  obtain ⟨leaving, transition⟩ := s.along_leaving a tracks
  rw [isGone, isGone, leaving, transition]

theorem isGone_later {s : Sprite τ} (forward : Clock.Forward τ) (later : Clock.le a b = true)
    (gone : s.isGone a = true) : s.isGone b = true := by
  rw [isGone, Bool.and_eq_true] at gone ⊢
  cases ends : s.transition with
  | none => simp [ends] at gone
  | some t =>
    rw [ends] at gone
    exact ⟨gone.1, forward.le_trans gone.2 later⟩

end Sprite

namespace Tracks

/-- Of the tracks that are left, those are left later that would be left of all. -/
theorem left_left {tracks : Tracks τ} (fit : tracks.Fit) (forward : Clock.Forward τ)
    (later : Clock.le a b = true) : (tracks.left a).left b = tracks.left b := by
  have twice : ∀ action, ((tracks.get? action).filter fun t => !(t.sample a).done).filter
      (fun t => !(t.sample b).done) = (tracks.get? action).filter fun t => !(t.sample b).done := by
    intro action
    cases found : tracks.get? action with
    | none => rfl
    | some t =>
      cases ends : (t.sample a).done with
      | true => simp [Option.filter, ends, (fit action t found).done_later forward later ends]
      | false => simp [Option.filter, ends]
  have move := twice .move
  have size := twice .size
  have alpha := twice .alpha
  simp only [get?] at move size alpha
  simp only [left, move, size, alpha]

theorem isEmpty_left {tracks : Tracks τ} (fit : tracks.Fit) (forward : Clock.Forward τ)
    (later : Clock.le a b = true) (empty : (tracks.left a).isEmpty = true) :
    (tracks.left b).isEmpty = true := by
  rw [← left_left fit forward later, eq_empty empty]
  rfl

end Tracks

/-! ## 4. States -/

namespace State

/-- What a state becomes when time passes: what is due ends, and sprites move. -/
def elapse (s : State τ) (now : τ) (voicePlaying : Bool) : State τ :=
  (s.expire now voicePlaying).moveSprites now

variable {s : State τ}

/-- The sprites that stay at a moment, with the numbers of their tracks. -/
def carried (s : State τ) (now : τ) : Table (Sprite τ) :=
  ⟨(s.sprites.entries.filter fun e => !(s.gone now).contains e.1).map fun e =>
    (e.1, e.2.along now ((s.tracks.get? e.1).getD {}))⟩

/-- Their tracks that are not done at that moment. -/
def unfinished (s : State τ) (now : τ) : Table (Tracks τ) :=
  ⟨((s.tracks.entries.filter fun e => !(s.gone now).contains e.1).map fun e =>
    (e.1, e.2.left now)).filter (!·.2.isEmpty)⟩

theorem carried_eq (s : State τ) (now : τ) : s.carried now =
    ⟨(s.sprites.entries.filter fun e => e.1 ∉ s.gone now).map fun e =>
      (e.1, e.2.along now ((s.tracks.get? e.1).getD {}))⟩ := by
  simp only [carried, List.contains_eq_mem, decide_not]

theorem unfinished_eq (s : State τ) (now : τ) : s.unfinished now =
    ⟨((s.tracks.entries.filter fun e => e.1 ∉ s.gone now).map fun e =>
      (e.1, e.2.left now)).filter (!·.2.isEmpty)⟩ := by
  simp only [unfinished, List.contains_eq_mem, decide_not]

/-- What is due ends, and the sprites that stay follow their tracks. -/
theorem elapse_eq (staged : s.Staged) (regular : s.Regular) (now : τ) (voicePlaying : Bool) :
    s.elapse now voicePlaying = { s with
      wait := (s.expire now voicePlaying).wait
      notification := s.notification.filter fun n => !Clock.reached now n.due
      blend := s.blend.filter fun b => !b.isOver now
      sprites := s.carried now
      tracks := s.unfinished now } := by
  have rest := staged.expire now voicePlaying
  have distinct := (regular.expire now voicePlaying).spriteNames.distinct
  have moved : (s.expire now voicePlaying).sprites.mapNamed (fun name sprite => sprite.along now
      (((s.expire now voicePlaying).tracks.get? name).getD {})) = s.carried now := by
    rw [expire_eq, Table.mapNamed, carried_eq]
    congr 1
    refine List.map_congr_left fun e mem => ?_
    rw [Table.get?_without (by simpa using (List.mem_filter.mp mem).2)]
  rw [elapse, moveSprites_eq distinct rest.distinct rest.moving, moved, expire_eq,
    unfinished_eq]

theorem Staged.elapse (staged : s.Staged) (regular : s.Regular) (now : τ) (voicePlaying : Bool) :
    (s.elapse now voicePlaying).Staged :=
  (staged.expire now voicePlaying).moveSprites (regular.expire now voicePlaying) now

theorem Regular.elapse (regular : s.Regular) (now : τ) (voicePlaying : Bool) :
    (s.elapse now voicePlaying).Regular :=
  (regular.expire now voicePlaying).moveSprites now

/-- Nothing is waited for where nothing was. -/
theorem wait_expire (idle : s.wait = none) (now : τ) (voicePlaying : Bool) :
    (s.expire now voicePlaying).wait = none := by
  unfold expire
  rw [removeSprites_eq, idle]

/-- What has not been taken away yet is taken away later as it would have been. -/
theorem mem_gone_elapse (staged : s.Staged) (regular : s.Regular) {voicePlaying : Bool}
    {name : Text} :
    name ∈ (s.elapse a voicePlaying).gone b ↔ name ∈ s.gone b ∧ name ∉ s.gone a := by
  rw [mem_gone_iff (regular.elapse a voicePlaying).spriteNames, elapse_eq staged regular,
    carried_eq]
  constructor
  · rintro ⟨_, mem, gone⟩
    obtain ⟨⟨key, sprite⟩, inside, same⟩ := List.mem_map.mp mem
    obtain ⟨old, stays⟩ := List.mem_filter.mp inside
    cases same
    rw [Sprite.isGone_along] at gone
    exact ⟨(mem_gone_iff regular.spriteNames).mpr ⟨sprite, old, gone⟩, of_decide_eq_true stays⟩
  · rintro ⟨gone, stays⟩
    obtain ⟨sprite, mem, gone⟩ := (mem_gone_iff regular.spriteNames).mp gone
    refine ⟨_, List.mem_map_of_mem (List.mem_filter.mpr ⟨mem, decide_eq_true stays⟩), ?_⟩
    rw [Sprite.isGone_along]
    exact gone

/-- A sprite goes away at the first moment, at the second one, or not at all. -/
theorem gone_elapse (staged : s.Staged) (regular : s.Regular) (forward : Clock.Forward τ)
    (later : Clock.le a b = true) (voicePlaying : Bool) (name : Text) :
    (name ∈ s.gone a ∧ name ∈ s.gone b) ∨
      (name ∉ s.gone a ∧ name ∈ (s.elapse a voicePlaying).gone b ∧ name ∈ s.gone b) ∨
      (name ∉ s.gone a ∧ name ∉ (s.elapse a voicePlaying).gone b ∧ name ∉ s.gone b) := by
  have sooner : name ∈ s.gone a → name ∈ s.gone b := by
    rw [mem_gone_iff regular.spriteNames, mem_gone_iff regular.spriteNames]
    rintro ⟨sprite, mem, gone⟩
    exact ⟨sprite, mem, Sprite.isGone_later forward later gone⟩
  rw [mem_gone_elapse staged regular]
  tauto

/-- A sprite that has stayed has those of its tracks that were left. -/
theorem tracks_elapse (staged : s.Staged) (regular : s.Regular) (voicePlaying : Bool) {name : Text}
    (stays : name ∉ s.gone a) : ((s.elapse a voicePlaying).tracks.get? name).getD {} =
      ((s.tracks.get? name).getD {}).left a := by
  have distinct :
      (⟨s.tracks.entries.filter fun e => e.1 ∉ s.gone a⟩ : Table (Tracks τ)).keys.Nodup :=
    staged.distinct.sublist (List.filter_sublist.map _)
  rw [elapse_eq staged regular, unfinished_eq,
    Table.get?_filter_map distinct (Tracks.left a) (fun tracks => !tracks.isEmpty),
    Table.get?_without stays]
  cases s.tracks.get? name with
  | none => rfl
  | some tracks =>
    cases empty : (tracks.left a).isEmpty with
    | true =>
      rw [Option.map_some, Option.getD_some, Tracks.eq_empty empty]
      rfl
    | false => simp [Option.filter, empty]

theorem carried_elapse (staged : s.Staged) (regular : s.Regular) (forward : Clock.Forward τ)
    (later : Clock.le a b = true) (voicePlaying : Bool) :
    (s.elapse a voicePlaying).carried b = s.carried b := by
  have entries : (s.elapse a voicePlaying).sprites = s.carried a := by
    rw [elapse_eq staged regular]
  rw [carried_eq, entries, carried_eq, carried_eq]
  simp only [← List.filterMap_eq_filter, ← List.filterMap_eq_map, List.filterMap_filterMap]
  congr 1
  refine List.filterMap_congr fun e _ => ?_
  rcases gone_elapse staged regular forward later voicePlaying e.1 with
    ⟨first, gone⟩ | ⟨first, second, gone⟩ | ⟨first, second, stays⟩
  · simp [Option.guard, first, gone]
  · simp [Option.guard, first, second, gone]
  · have tracks := tracks_elapse staged regular voicePlaying first
    have along := e.2.along_along (staged.fit_getD e.1) forward later
    simp [Option.guard, first, second, stays, tracks, along]

theorem unfinished_elapse (staged : s.Staged) (regular : s.Regular) (forward : Clock.Forward τ)
    (later : Clock.le a b = true) (voicePlaying : Bool) :
    (s.elapse a voicePlaying).unfinished b = s.unfinished b := by
  have entries : (s.elapse a voicePlaying).tracks = s.unfinished a := by
    rw [elapse_eq staged regular]
  rw [unfinished_eq, entries, unfinished_eq, unfinished_eq]
  simp only [← List.filterMap_eq_filter, ← List.filterMap_eq_map, List.filterMap_filterMap]
  congr 1
  refine List.filterMap_congr fun e mem => ?_
  have fit := staged.fits e mem
  have left := Tracks.left_left fit forward later
  have empty := Tracks.isEmpty_left fit forward later
  rcases gone_elapse staged regular forward later voicePlaying e.1 with
    ⟨first, gone⟩ | ⟨first, second, gone⟩ | ⟨first, second, stays⟩
  · simp [Option.guard, first, gone]
  · cases done : (e.2.left a).isEmpty <;> simp [Option.guard, first, second, gone, done]
  · -- Tracks that are all done at the first moment are so at the second one.
    cases done : (e.2.left a).isEmpty with
    | true => simp [Option.guard, first, stays, done, empty done]
    | false => simp [Option.guard, first, second, stays, done, left]

/-- Where nothing is waited for, the moments in between do not matter. -/
theorem elapse_elapse (staged : s.Staged) (regular : s.Regular) (forward : Clock.Forward τ)
    (idle : s.wait = none) (later : Clock.le a b = true) (voicePlaying voicePlaying' : Bool) :
    (s.elapse a voicePlaying).elapse b voicePlaying' = s.elapse b voicePlaying' := by
  have form := elapse_eq staged regular a voicePlaying
  have between := staged.elapse regular a voicePlaying
  have idle' : (s.elapse a voicePlaying).wait = none := by
    rw [form]
    exact wait_expire idle a voicePlaying
  have due : ∀ {α : Type} (x : Option α) {p q : α → Bool}, (∀ y, p y = true → q y = true) →
      (x.filter fun y => !p y).filter (fun y => !q y) = x.filter fun y => !q y := by
    intro α x p q sooner
    cases x with
    | none => rfl
    | some y => cases first : p y <;> simp [Option.filter, first, sooner y]
  have notification :
      (s.elapse a voicePlaying).notification.filter (fun n => !Clock.reached b n.due) =
        s.notification.filter fun n => !Clock.reached b n.due := by
    rw [form]
    exact due _ fun n sooner => forward.le_trans sooner later
  have blend : (s.elapse a voicePlaying).blend.filter (fun t => !t.isOver b) =
      s.blend.filter fun t => !t.isOver b := by
    rw [form]
    exact due _ fun t sooner => forward.le_trans sooner later
  rw [elapse_eq between (regular.elapse a voicePlaying), elapse_eq staged regular b, notification,
    blend, carried_elapse staged regular forward later,
    unfinished_elapse staged regular forward later, wait_expire idle', wait_expire idle, form]

end State
end VisualNovel
