import VisualNovel.Proofs.Story.Regular

/-!
Sprites and their tracks.

The sprites of a state and the tracks that move them are two tables. `State.Staged` says how they belong
together: every name with tracks is that of a sprite, a track stands under its own action, takes time
and leads from as many numbers to as many as the action changes, and a sprite that is leaving has a
transition that ends. Every change that a story makes keeps this (`Change.staged`).

Letting time pass works on both tables at once, entry by entry while they are changed. Where the tables
belong together it is the same as treating every sprite on its own: `removeSprites_eq` says what is
taken away, and `moveSprites_eq` what each sprite and each entry of tracks becomes.
-/

namespace VisualNovel

variable {τ : Type}

/-! ## 1. Tracks that fit -/

/-- How many numbers of a sprite an action changes. -/
def TrackAction.arity : TrackAction → Nat
  | .move | .size => 2
  | .alpha => 1

/-- A track under an action is one of that action, takes time, and has a source and a goal of the right
length. -/
structure Track.Fits (track : Track τ) (action : TrackAction) : Prop where
  own : track.action = action
  duration : 0.0 < track.duration
  source : track.source.length = action.arity
  goal : track.goal.length = action.arity

/-- Every track of a sprite fits. -/
def Tracks.Fit (tracks : Tracks τ) : Prop :=
  ∀ action track, tracks.get? action = some track → track.Fits action

/-- A sprite that is leaving has a transition that takes time. -/
def Sprite.Leaves (s : Sprite τ) : Prop :=
  s.leaving = true → ∃ t, s.transition = some t ∧ 0.0 < t.seconds

theorem AnimationGoal.length_numbers (goal : AnimationGoal) :
    goal.numbers.length = goal.action.arity := by
  cases goal <;> rfl

theorem Sprite.length_numbers (s : Sprite τ) (action : TrackAction) :
    (s.numbers action).length = action.arity := by
  cases action <;> rfl

theorem Sprite.put_leaving (s : Sprite τ) (action : TrackAction) (values : List Float) :
    (s.put action values).leaving = s.leaving ∧ (s.put action values).transition = s.transition := by
  cases action <;> exact ⟨rfl, rfl⟩

namespace Tracks

theorem get?_put (tracks : Tracks τ) (action other : TrackAction) (track : Option (Track τ)) :
    (tracks.put action track).get? other = if other = action then track else tracks.get? other := by
  cases action <;> cases other <;> rfl

theorem put_get? (tracks : Tracks τ) (action : TrackAction) :
    tracks.put action (tracks.get? action) = tracks := by
  cases action <;> rfl

theorem fit_empty : ({} : Tracks τ).Fit := by
  intro action track found
  cases action <;> cases found

theorem Fit.put {tracks : Tracks τ} (h : tracks.Fit) {action : TrackAction}
    {track : Option (Track τ)} (fits : ∀ t ∈ track, t.Fits action) : (tracks.put action track).Fit := by
  intro other t found
  rw [get?_put] at found
  split at found
  · next same =>
    subst same
    exact fits t found
  · exact h other t found

end Tracks

/-! ## 2. One sprite and its tracks -/

/-- A sprite with the numbers of a track at a moment. -/
def Sprite.follow [Clock τ] (now : τ) (s : Sprite τ) (action : TrackAction) :
    Option (Track τ) → Sprite τ
  | some track => s.put action (track.sample now).values
  | none => s

/-- A sprite with the numbers of its tracks at a moment. -/
def Sprite.along [Clock τ] (now : τ) (tracks : Tracks τ) (s : Sprite τ) : Sprite τ :=
  TrackAction.all.foldl (fun s action => s.follow now action (tracks.get? action)) s

/-- The tracks that are not over at a moment. -/
def Tracks.left [Clock τ] (now : τ) (tracks : Tracks τ) : Tracks τ :=
  let goes := fun track : Track τ => !(track.sample now).done
  ⟨tracks.move.filter goes, tracks.size.filter goes, tracks.alpha.filter goes⟩

section Advance

variable [Clock τ]

theorem Tracks.get?_left (now : τ) (tracks : Tracks τ) (action : TrackAction) :
    (tracks.left now).get? action =
      (tracks.get? action).filter fun track => !(track.sample now).done := by
  cases action <;> rfl

theorem Tracks.Fit.left {tracks : Tracks τ} (h : tracks.Fit) (now : τ) : (tracks.left now).Fit := by
  intro action track found
  rw [get?_left] at found
  exact h action track (Option.filter_eq_some_iff.mp found).1

theorem Sprite.along_empty (now : τ) (s : Sprite τ) : s.along now {} = s := rfl

/-- One track after the other: the sprite gets the numbers of all, and those that are over go. -/
theorem advanceAll_eq (now : τ) (s : Sprite τ) (tracks : Tracks τ) :
    TrackAction.all.foldl (advanceTrack now) (s, tracks) = (s.along now tracks, tracks.left now) := by
  obtain ⟨move, size, alpha⟩ := tracks
  have step : ∀ (s : Sprite τ) (tracks : Tracks τ) (action : TrackAction),
      advanceTrack now (s, tracks) action = (s.follow now action (tracks.get? action),
        tracks.put action ((tracks.get? action).filter fun t => !(t.sample now).done)) := by
    intro s tracks action
    unfold advanceTrack Sprite.follow
    have same := tracks.put_get? action
    cases found : tracks.get? action with
    | none =>
      rw [found] at same
      simp [same]
    | some track =>
      rw [found] at same
      cases ends : (track.sample now).done <;> simp [ends, Option.filter, same]
  simp only [TrackAction.all, List.foldl_cons, List.foldl_nil, step]
  rfl

/-- What moves a sprite leaves alone when it goes away. -/
theorem Sprite.along_leaving (now : τ) (tracks : Tracks τ) (s : Sprite τ) :
    (s.along now tracks).leaving = s.leaving ∧ (s.along now tracks).transition = s.transition := by
  have follow : ∀ (s : Sprite τ) action track, (s.follow now action track).leaving = s.leaving ∧
      (s.follow now action track).transition = s.transition := by
    intro s action track
    cases track with
    | none => exact ⟨rfl, rfl⟩
    | some track => exact s.put_leaving action _
  unfold Sprite.along
  generalize TrackAction.all = actions
  induction actions generalizing s with
  | nil => exact ⟨rfl, rfl⟩
  | cons action rest ih =>
    obtain ⟨leaving, transition⟩ := follow s action (tracks.get? action)
    rw [List.foldl_cons, (ih _).1, (ih _).2, leaving, transition]
    exact ⟨rfl, rfl⟩

end Advance

/-! ## 3. All sprites -/

namespace Table

variable {α : Type} {front back : List (Text × α)} {name : Text} {value : α}

/-- An entry in the middle of a table, when its name is set or erased. -/
theorem set_middle (before : name ∉ front.map (·.1)) (new : α) :
    (⟨front ++ (name, value) :: back⟩ : Table α).set name new = ⟨front ++ (name, new) :: back⟩ := by
  rw [set]
  congr 1
  induction front with
  | nil => simp [setEntry]
  | cons e rest ih =>
    rw [List.map_cons, List.mem_cons, not_or] at before
    rw [List.cons_append, setEntry, if_neg (Ne.symm before.1), ih before.2, List.cons_append]

theorem erase_middle (before : name ∉ front.map (·.1)) (behind : name ∉ back.map (·.1)) :
    (⟨front ++ (name, value) :: back⟩ : Table α).erase name = ⟨front ++ back⟩ := by
  have others : ∀ {entries : List (Text × α)}, name ∉ entries.map (·.1) →
      entries.filter (fun e => e.1 ≠ name) = entries := by
    intro entries apart
    rw [List.filter_eq_self]
    intro e mem
    simpa using fun same : e.1 = name => apart (List.mem_map.mpr ⟨e, mem, same⟩)
  rw [erase, List.filter_append, List.filter_cons_of_neg (by simp), others before, others behind]

/-- Where names are distinct, setting the one that is found changes its value. -/
theorem set_eq_mapNamed {t : Table α} (distinct : t.keys.Nodup) (found : t.get? name = some value)
    (change : α → α) :
    t.set name (change value) = t.mapNamed fun n v => if n = name then change v else v := by
  obtain ⟨entries⟩ := t
  rw [set, mapNamed]
  congr 1
  induction entries with
  | nil => cases found
  | cons e rest ih =>
    obtain ⟨key, old⟩ := e
    rw [keys, List.map_cons, List.nodup_cons] at distinct
    rw [get?, lookup_cons] at found
    by_cases own : name = key
    · subst own
      rw [if_pos rfl] at found
      cases found
      have others : rest.map (fun e => (e.1, if e.1 = name then change e.2 else e.2)) = rest.map id :=
        List.map_congr_left fun e mem => by
          rw [if_neg fun same : e.1 = name => distinct.1 (List.mem_map.mpr ⟨e, mem, same⟩)]
          rfl
      rw [setEntry, if_pos rfl, List.map_cons, if_pos rfl, others, List.map_id]
    · rw [if_neg own] at found
      rw [setEntry, if_neg (Ne.symm own), List.map_cons, if_neg (Ne.symm own), ih distinct.2 found]

end Table

namespace State

variable {s : State τ}

/-- Taking sprites away takes their entries out of both tables. -/
theorem removeSprites_eq (s : State τ) (gone : List Text) :
    gone.foldl removeSprite s = { s with
      sprites := ⟨s.sprites.entries.filter fun e => e.1 ∉ gone⟩
      tracks := ⟨s.tracks.entries.filter fun e => e.1 ∉ gone⟩ } := by
  induction gone generalizing s with
  | nil => simp
  | cons id rest ih =>
    rw [List.foldl_cons, ih]
    simp only [removeSprite, Table.erase, List.filter_filter, List.mem_cons, not_or]
    congr 2 <;>
    · congr 1
      funext e
      simp [Bool.and_comm]

variable [Clock τ]

/-- The sprites that are to be taken away at a moment. -/
def gone (s : State τ) (now : τ) : List Text := (s.sprites.values.filter (·.isGone now)).map (·.id)

theorem mem_gone_iff (names : s.sprites.OwnNamed Sprite.id) {now : τ} {name : Text} :
    name ∈ s.gone now ↔ ∃ sprite, (name, sprite) ∈ s.sprites.entries ∧ sprite.isGone now = true := by
  simp only [gone, Table.values, List.mem_map, List.mem_filter]
  constructor
  · rintro ⟨_, ⟨⟨⟨key, sprite⟩, mem, rfl⟩, gone⟩, rfl⟩
    have own := names.own _ mem
    simp only at own gone ⊢
    exact ⟨sprite, own ▸ mem, gone⟩
  · rintro ⟨sprite, mem, gone⟩
    exact ⟨sprite, ⟨⟨_, mem, rfl⟩, gone⟩, (names.own _ mem).symm⟩

/-- What the passing of time ends, with both tables of the stage. -/
theorem expire_eq (s : State τ) (now : τ) (voicePlaying : Bool) :
    s.expire now voicePlaying = { s with
      wait := (s.expire now voicePlaying).wait
      notification := s.notification.filter fun n => !Clock.reached now n.due
      blend := s.blend.filter fun b => !b.isOver now
      sprites := ⟨s.sprites.entries.filter fun e => e.1 ∉ s.gone now⟩
      tracks := ⟨s.tracks.entries.filter fun e => e.1 ∉ s.gone now⟩ } := by
  unfold expire
  rw [removeSprites_eq]
  rfl

/-- The entries of tracks are dealt with one after the other; where there is a sprite under each
name, every sprite follows its own tracks. -/
theorem advanceEntries_eq (now : τ) (entries : List (Text × Tracks τ)) :
    ∀ (sprites : Table (Sprite τ)) (front : List (Text × Tracks τ)), sprites.keys.Nodup →
      ((front ++ entries).map (·.1)).Nodup → (∀ e ∈ entries, e.1 ∈ sprites.keys) →
      entries.foldl (advanceEntry now) (sprites, ⟨front ++ entries⟩) =
        (sprites.mapNamed fun name sprite => sprite.along now ((entries.lookup name).getD {}),
          ⟨front ++ (entries.map fun e => (e.1, e.2.left now)).filter (!·.2.isEmpty)⟩) := by
  induction entries with
  | nil =>
    intro sprites front _ _ _
    simp [Table.mapNamed, Sprite.along_empty]
  | cons e rest ih =>
    intro sprites front distinct apart known
    obtain ⟨name, tracks⟩ := e
    rw [List.map_append, List.map_cons] at apart
    obtain ⟨-, others, across⟩ := List.nodup_append.mp apart
    have inFront : name ∉ front.map (·.1) := fun mem =>
      across name mem name List.mem_cons_self rfl
    have inRest : name ∉ rest.map (·.1) := (List.nodup_cons.mp others).1
    have none : rest.lookup name = none := by
      rw [List.lookup_eq_none_iff]
      rintro ⟨key, value⟩ mem
      simpa using fun same : name = key => inRest (same ▸ List.mem_map.mpr ⟨_, mem, rfl⟩)
    obtain ⟨sprite, found⟩ : ∃ sprite, sprites.get? name = some sprite :=
      Option.isSome_iff_exists.mp (Table.mem_keys_iff.mp (known _ List.mem_cons_self))
    -- The entry moves its own sprite, and what is left of it stays where it is.
    have moved : sprites.set name (sprite.along now tracks) =
        sprites.mapNamed fun n v => if n = name then v.along now tracks else v :=
      Table.set_eq_mapNamed distinct found fun v => v.along now tracks
    have first : advanceEntry now (sprites, ⟨front ++ (name, tracks) :: rest⟩) (name, tracks) =
        (sprites.mapNamed fun n v => if n = name then v.along now tracks else v,
          ⟨front ++ [(name, tracks.left now)].filter (!·.2.isEmpty) ++ rest⟩) := by
      rw [advanceEntry]
      simp only [found, advanceAll_eq, moved]
      cases empty : (tracks.left now).isEmpty with
      | true => simp [Table.erase_middle inFront inRest, empty]
      | false => simp [Table.set_middle inFront, empty]
    rw [List.foldl_cons, first, ih]
    · congr 1
      · simp only [Table.mapNamed, List.map_map]
        congr 1
        refine List.map_congr_left fun e _ => ?_
        simp only [Function.comp_apply, Table.lookup_cons]
        by_cases own : e.1 = name
        · rw [if_pos own, if_pos own, own, none]
          rfl
        · rw [if_neg own, if_neg own]
      · rw [List.append_assoc, List.map_cons, ← List.filter_append]
        rfl
    · rwa [Table.keys_mapNamed]
    · refine apart.sublist ?_
      rw [List.map_append, List.map_append, List.append_assoc]
      exact .append_left (.append_right (List.filter_sublist.map _) _) _
    · intro e mem
      rw [Table.keys_mapNamed]
      exact known e (List.mem_cons_of_mem _ mem)

/-- Where names with tracks are names of sprites, every sprite follows its own tracks, and of the
tracks those stay that are not over. -/
theorem moveSprites_eq (sprites : s.sprites.keys.Nodup) (tracks : s.tracks.keys.Nodup)
    (moving : ∀ name ∈ s.tracks.keys, name ∈ s.sprites.keys) (now : τ) :
    s.moveSprites now = { s with
      sprites := s.sprites.mapNamed fun name sprite =>
        sprite.along now ((s.tracks.get? name).getD {})
      tracks := ⟨(s.tracks.entries.map fun e => (e.1, e.2.left now)).filter (!·.2.isEmpty)⟩ } := by
  have advanced := advanceEntries_eq now s.tracks.entries s.sprites [] sprites tracks
    fun e mem => moving e.1 (List.mem_map_of_mem mem)
  change { s with
    sprites := (s.tracks.entries.foldl (advanceEntry now) (s.sprites, ⟨[] ++ s.tracks.entries⟩)).1
    tracks := (s.tracks.entries.foldl (advanceEntry now) (s.sprites, ⟨[] ++ s.tracks.entries⟩)).2 } = _
  rw [advanced]
  rfl

end State

/-! ## 4. Sprites and tracks that belong together -/

namespace State

/-- How the sprites of a state and the tracks that move them belong together. -/
structure Staged (s : State τ) : Prop where
  distinct : s.tracks.keys.Nodup
  /-- What has tracks is a sprite. -/
  moving : ∀ name ∈ s.tracks.keys, name ∈ s.sprites.keys
  fits : ∀ e ∈ s.tracks.entries, e.2.Fit
  leaves : ∀ e ∈ s.sprites.entries, e.2.Leaves

namespace Staged

variable {s : State τ}

/-- Nothing moves, and each sprite leaves as it should. -/
theorem still (tracks : s.tracks = {}) (leaves : ∀ e ∈ s.sprites.entries, e.2.Leaves) : s.Staged where
  distinct := by simp [tracks, Table.keys]
  moving := by simp [tracks, Table.keys]
  fits := by simp [tracks]
  leaves := leaves

/-- Sprites may be added and changed. -/
theorem withSprites (h : s.Staged) {sprites : Table (Sprite τ)}
    (stay : ∀ name ∈ s.sprites.keys, name ∈ sprites.keys)
    (leaves : ∀ e ∈ sprites.entries, e.2.Leaves) : ({ s with sprites } : State τ).Staged :=
  { h with moving := fun name mem => stay name (h.moving name mem), leaves }

theorem setSprite (h : s.Staged) (name : Text) {sprite : Sprite τ} (leaves : sprite.Leaves) :
    ({ s with sprites := s.sprites.set name sprite } : State τ).Staged := by
  refine h.withSprites (fun key mem => Table.mem_keys_set.mpr (.inr mem)) fun e mem => ?_
  rcases Table.mem_setEntry mem with rfl | old
  · exact leaves
  · exact h.leaves e old

/-- A sprite may get tracks. -/
theorem setTracks (h : s.Staged) {name : Text} (known : name ∈ s.sprites.keys) {tracks : Tracks τ}
    (fit : tracks.Fit) : ({ s with tracks := s.tracks.set name tracks } : State τ).Staged where
  distinct := Table.nodup_keys_set h.distinct _ _
  moving key mem := by
    rcases Table.mem_keys_set.mp mem with rfl | old
    · exact known
    · exact h.moving key old
  fits e mem := by
    rcases Table.mem_setEntry mem with rfl | old
    · exact fit
    · exact h.fits e old
  leaves := h.leaves

/-- The tracks of a sprite fit, and so does what it has before it is animated. -/
theorem fit_getD (h : s.Staged) (name : Text) : ((s.tracks.get? name).getD {}).Fit := by
  cases found : s.tracks.get? name with
  | none => exact Tracks.fit_empty
  | some tracks => exact h.fits (name, tracks) (Table.mem_of_lookup found)

/-- Sprites are taken away with their tracks. -/
theorem removeAll (h : s.Staged) (gone : List Text) : (gone.foldl removeSprite s).Staged := by
  rw [removeSprites_eq]
  refine ⟨h.distinct.sublist (List.filter_sublist.map _), fun name mem => ?_, fun e mem => ?_,
    fun e mem => ?_⟩
  · obtain ⟨e, inside, rfl⟩ := List.mem_map.mp mem
    obtain ⟨old, stays⟩ := List.mem_filter.mp inside
    obtain ⟨e', inside', same⟩ := List.mem_map.mp (h.moving e.1 (List.mem_map_of_mem old))
    rw [← same] at stays ⊢
    exact List.mem_map_of_mem (List.mem_filter.mpr ⟨inside', stays⟩)
  · exact h.fits e (List.mem_filter.mp mem).1
  · exact h.leaves e (List.mem_filter.mp mem).1

theorem hideSprite (h : s.Staged) (name : Text) (transition : Option (Transition τ)) :
    (s.hideSprite name transition).Staged := by
  unfold State.hideSprite
  split
  · next t =>
    split
    · next lasts =>
      refine h.withSprites (by simp) fun e mem => ?_
      obtain ⟨old, inside, rfl⟩ := List.mem_map.mp mem
      split
      · exact fun _ => ⟨t, rfl, lasts⟩
      · exact h.leaves old inside
    · exact h.removeAll [name]
  · exact h.removeAll [name]

/-- A track that is begun takes time, because one that takes none is over at once. -/
theorem animate (h : s.Staged) {name : Text} {sprite : Sprite τ}
    (found : s.sprites.get? name = some sprite) (goal : AnimationGoal) {seconds : Float}
    (ordered : Number.Ordered seconds) (ease : Ease) (now : τ) :
    (s.animate name sprite goal seconds ease now).Staged := by
  have known := Table.mem_keys_of_get? found
  have fit := h.fit_getD name
  unfold State.animate
  simp only
  split
  · have leaves : (sprite.put goal.action goal.numbers).Leaves := by
      obtain ⟨leaving, transition⟩ := sprite.put_leaving goal.action goal.numbers
      rw [Sprite.Leaves, leaving, transition]
      exact h.leaves (name, sprite) (Table.mem_of_lookup found)
    exact (h.setSprite name leaves).setTracks (Table.mem_keys_set.mpr (.inl rfl)) (fit.put (by simp))
  · next lasts =>
    refine h.setTracks known (fit.put ?_)
    rintro track ⟨⟩
    exact
      { own := rfl
        duration := Number.pos_of_not_le (Number.ordered_mul ordered (by decide +kernel)) lasts
        source := sprite.length_numbers _
        goal := goal.length_numbers }

section Time

variable [Clock τ]

/-- Sprites that move stay, and tracks that go on fit. -/
theorem moveSprites (h : s.Staged) (regular : s.Regular) (now : τ) : (s.moveSprites now).Staged := by
  rw [moveSprites_eq regular.spriteNames.distinct h.distinct h.moving]
  have fewer : (((s.tracks.entries.map fun e => (e.1, e.2.left now)).filter
      (!·.2.isEmpty)).map (·.1)).Sublist s.tracks.keys := by
    have sub := ((List.filter_sublist (p := fun e : Text × Tracks τ => !e.2.isEmpty)
      (l := s.tracks.entries.map fun e => (e.1, e.2.left now))).map (·.1))
    rwa [List.map_map] at sub
  refine ⟨h.distinct.sublist fewer, fun name mem => ?_, fun e mem => ?_, fun e mem => ?_⟩
  · simp only [Table.keys_mapNamed]
    exact h.moving name (fewer.mem mem)
  · obtain ⟨old, inside, rfl⟩ := List.mem_map.mp (List.mem_filter.mp mem).1
    exact (h.fits old inside).left now
  · obtain ⟨old, inside, rfl⟩ := List.mem_map.mp mem
    obtain ⟨leaving, transition⟩ := old.2.along_leaving now ((s.tracks.get? old.1).getD {})
    rw [Sprite.Leaves, leaving, transition]
    exact h.leaves old inside

theorem expire (h : s.Staged) (now : τ) (voicePlaying : Bool) : (s.expire now voicePlaying).Staged := by
  unfold State.expire
  extract_lets wait notification blend gone
  apply Staged.removeAll
  exact { h with }

/-- When time has passed, a sprite whose time to leave is over is not there any more. -/
theorem get?_of_gone (h : s.Staged) (regular : s.Regular) (now : τ) (voicePlaying : Bool)
    {name : Text} {sprite : Sprite τ} (found : s.sprites.get? name = some sprite)
    (gone : sprite.isGone now = true) :
    ((s.expire now voicePlaying).moveSprites now).sprites.get? name = none := by
  have taken : name ∈ s.gone now :=
    (mem_gone_iff regular.spriteNames).mpr ⟨sprite, Table.mem_of_lookup found, gone⟩
  have rest := h.expire now voicePlaying
  have distinct := (regular.expire now voicePlaying).spriteNames.distinct
  rw [moveSprites_eq distinct rest.distinct rest.moving, ← Option.not_isSome_iff_eq_none]
  intro known
  have mem := Table.mem_keys_iff.mpr known
  rw [Table.keys_mapNamed, expire_eq] at mem
  obtain ⟨e, inside, rfl⟩ := List.mem_map.mp mem
  simpa [taken] using (List.mem_filter.mp inside).2

end Time
end Staged

variable {program : Program} {s t : State τ}

/-- Introducing characters leaves the stage alone. -/
theorem Staged.introduceAll (h : s.Staged) (program : Program) : (s.introduceAll program).Staged := by
  obtain ⟨characters, same⟩ := s.introduceAll_frame program
  rw [same]
  exact { h with }

/-- Every change that the story of a program makes leaves sprites and tracks that belong together. -/
theorem Change.staged [Clock τ] (formed : program.WellFormed) (change : s.Change program t)
    (regular : s.Regular) (h : s.Staged) : t.Staged := by
  cases change with
  | placeSprite named staying screen pos =>
    exact h.setSprite _ fun leaving => absurd (staying.symm.trans leaving) Bool.false_ne_true
  | hideSprite name transition => exact h.hideSprite name transition
  | removeSprite id => exact h.removeAll [id]
  | clearSprites => exact .still rfl fun e none => by cases none
  | animate found mem now => exact h.animate found _ (formed.commands _ mem) _ now
  | stopAll => exact .still rfl h.leaves
  | stopSprite name =>
    exact
      { distinct := Table.nodup_keys_erase h.distinct name
        moving := fun key mem => h.moving key (Table.mem_keys_erase.mp mem).1
        fits := fun e mem => h.fits e (List.mem_filter.mp mem).1
        leaves := h.leaves }
  | moveSprites now => exact h.moveSprites regular now
  | takeItem id amount =>
    obtain ⟨_, same⟩ := s.takeItem_frame id amount
    rw [same]
    exact { h with }
  | _ => exact { h with }

end State
end VisualNovel
