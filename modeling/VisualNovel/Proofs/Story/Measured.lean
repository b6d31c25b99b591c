import VisualNovel.Proofs.Story.SaveImage

/-!
Sprites that come back from a save file.

A number that is not finite is written as `null`. Where a sprite may lack the number, it is read without
it; where it needs the number, its place or the length of its transition, the whole file is refused. So
the sprites of a save are read back exactly if all numbers that they need are finite
(`Snapshot.reads_sprites_iff`), whatever the rest of the file holds.
-/

namespace VisualNovel

/-- The numbers that a sprite needs: its place, size and look, and those of its transition. -/
def Sprite.measures (s : Sprite Float) : List Float :=
  [s.z, s.pos.x, s.pos.y, s.alpha] ++ s.size.toList.flatMap (fun p => [p.x, p.y]) ++
    s.transition.toList.flatMap fun t => [t.seconds, t.started]

namespace Snapshot

/-- The sprites that the file of a snapshot holds. In every game their names are apart; of several
entries under one name the last one would count. -/
def filedSprites (data : Snapshot Float) : Table (Sprite Float) :=
  .ofEntries (recordOrder data.sprites.entries)

/-- Every sprite in the file of the snapshot has the numbers that a sprite needs. -/
def Measured (data : Snapshot Float) : Prop :=
  ∀ s ∈ data.filedSprites.values, ∀ x ∈ s.measures, Number.isFinite x = true

/-! ## 1. Numbers and points -/

theorem reads_number_iff (x : Float) :
    (Json.finite? (Json.reread (.num x))).isSome = true ↔ Number.isFinite x = true := by
  rw [Json.reread]
  split
  · next finite =>
    have again : Number.isFinite (Json.rereadNumber x) = true := by
      rw [← Number.isFinite_unsigned, Json.unsigned_rereadNumber finite, Number.isFinite_unsigned, finite]
    refine iff_of_true ?_ finite
    rw [Json.finite?, if_pos again]
    rfl
  · next other => exact iff_of_false (fun read => by cases read) other

theorem reads_point_iff (p : Point) :
    (Json.point? Json.finite? (Json.reread (.ofPoint p))).isSome = true ↔
      Number.isFinite p.x = true ∧ Number.isFinite p.y = true := by
  have items : Json.reread (.ofPoint p) = .arr [Json.reread (.num p.x), Json.reread (.num p.y)] := rfl
  rw [← reads_number_iff, ← reads_number_iff, items]
  cases x : Json.finite? (Json.reread (.num p.x)) <;> cases y : Json.finite? (Json.reread (.num p.y)) <;>
    simp [Json.point?, Json.list?, Json.items?, x, y]

/-- What may be missing is read where it is missing, and where it can be read. -/
theorem reads_orNone_iff {α β : Type} {read : Json → Option β} {write : α → Json}
    (solid : ∀ a, Json.reread (write a) ≠ .null) (x : Option α) :
    (Json.orNone read (Json.reread (.orNull (x.map write)))).isSome = true ↔
      ∀ a ∈ x, (read (Json.reread (write a))).isSome = true := by
  cases x with
  | none => simp [Json.orNull, Json.reread]
  | some a =>
    change (Json.orNone read (Json.reread (write a))).isSome = true ↔ _
    unfold Json.orNone
    split
    · next null => exact absurd null (solid a)
    · simp

/-- A number that may be missing is missing in the file also if it is not finite. -/
theorem reads_number? (x : Option Float) :
    (Json.orNone Json.finite? (Json.reread (.ofNumber? x))).isSome = true := by
  cases x with
  | none => rfl
  | some x =>
    change (Json.orNone Json.finite? (Json.reread (.num x))).isSome = true
    unfold Json.orNone
    split
    · rfl
    · next solid =>
      rw [Option.isSome_map, reads_number_iff]
      by_contra other
      exact solid (if_neg other)

/-! ## 2. Sprites -/

theorem reads_transition_iff (t : Transition Float) :
    (transition? .file (Json.reread (transitionJson t))).isSome = true ↔
      Number.isFinite t.seconds = true ∧ Number.isFinite t.started = true := by
  have style : Json.reread (.str t.style.word) = .str t.style.word := rfl
  rw [← reads_number_iff, ← reads_number_iff, transitionJson,
    Json.reread_record (by simp only [List.map]; decide)]
  simp [transition?, List.lookup, style, Option.isSome_iff_exists, Option.bind_eq_some_iff]

/-- A sprite is read back exactly if it has the numbers that it needs. -/
theorem reads_sprite_iff (id : Text) (s : Sprite Float) :
    (sprite? .file id (Json.reread (spriteJson s))).isSome = true ↔
      ∀ x ∈ s.measures, Number.isFinite x = true := by
  have text : ∀ t, Json.reread (.str t) = .str t := fun _ => rfl
  have text? : ∀ t, Json.reread (.ofText? t) = .ofText? t := by rintro (_ | _) <;> rfl
  have leaving : Json.reread (.bool s.leaving) = .bool s.leaving := rfl
  have place : ∀ p, Json.reread (.ofPoint p) ≠ .null := fun _ null => by cases null
  have fading : ∀ t, Json.reread (transitionJson t) ≠ .null := fun _ null => by cases null
  -- No field is read in view of another one, so that a sprite is read if each of its fields is.
  have fields : (sprite? .file id (Json.reread (spriteJson s))).isSome = true ↔
      (Json.finite? (Json.reread (.num s.z))).isSome = true ∧
        (Json.point? Json.finite? (Json.reread (.ofPoint s.pos))).isSome = true ∧
        (Json.orNone (Json.point? Json.finite?)
          (Json.reread (.orNull (s.size.map Json.ofPoint)))).isSome = true ∧
        (Json.finite? (Json.reread (.num s.alpha))).isSome = true ∧
        (Json.orNone Json.finite? (Json.reread (.ofNumber? s.floating.amplitude))).isSome = true ∧
        (Json.orNone Json.finite? (Json.reread (.ofNumber? s.floating.speed))).isSome = true ∧
        (Json.orNone (transition? .file)
          (Json.reread (.orNull (s.transition.map transitionJson)))).isSome = true := by
    rw [spriteJson, Json.reread_record (by simp only [List.map]; decide)]
    simp [sprite?, List.lookup, text, text?, leaving, Option.isSome_iff_exists,
      Option.bind_eq_some_iff]
  simp only [fields, reads_number_iff, reads_point_iff, reads_number?, reads_orNone_iff place,
    reads_orNone_iff fading, reads_transition_iff, Sprite.measures, List.forall_mem_append]
  cases s.size <;> cases s.transition <;> simp <;> tauto

/-! ## 3. Tables of sprites -/

theorem isSome_mapM {α β : Type} {f : α → Option β} {xs : List α} :
    (xs.mapM f).isSome = true ↔ ∀ x ∈ xs, (f x).isSome = true := by
  induction xs with
  | nil => simp
  | cons x rest ih =>
    rw [List.mapM_cons, List.forall_mem_cons, ← ih]
    cases f x with
    | none => simp
    | some y => cases rest.mapM f <;> simp

/-- A table is read if each of its values is. -/
theorem reads_table_iff {α : Type} {read : Text → Json → Option α} {fields : List (Text × Json)} :
    (Json.table? read (.obj fields)).isSome = true ↔
      ∀ f ∈ fields, (read f.1 f.2).isSome = true := by
  change (((fields.mapM fun f => (read f.1 f.2).map (f.1, ·)).map Table.mk)).isSome = true ↔ _
  simp only [Option.isSome_map, isSome_mapM]

/-- The sprites of a save are read back exactly if they have the numbers that they need. -/
theorem reads_sprites_iff (data : Snapshot Float) :
    (Json.table? (sprite? .file) (Json.reread (tableJson data.sprites spriteJson))).isSome = true ↔
      data.Measured := by
  have filed : Json.reread (tableJson data.sprites spriteJson) =
      .obj (recordOrder (data.filedSprites.map fun s => Json.reread (spriteJson s)).entries) := by
    rw [tableJson, Json.reread, Json.rereadFields_eq_map, Json.orderedFields, filedSprites,
      ← Table.ofEntries_map, List.map_map]
    rfl
  rw [filed, reads_table_iff]
  constructor
  · intro each s mem
    obtain ⟨e, inside, rfl⟩ := List.mem_map.mp mem
    have held := (perm_recordOrder _).mem_iff.mpr
      (List.mem_map_of_mem (f := fun e => (e.1, Json.reread (spriteJson e.2))) inside)
    exact (reads_sprite_iff e.1 e.2).mp (each _ held)
  · intro measured f mem
    obtain ⟨e, inside, rfl⟩ := List.mem_map.mp ((perm_recordOrder _).mem_iff.mp mem)
    exact (reads_sprite_iff e.1 e.2).mpr (measured e.2 (List.mem_map_of_mem inside))

end Snapshot
end VisualNovel
