import VisualNovel.Proofs.Clock
import VisualNovel.Proofs.Engine.Session

/-!
Showing something again.

What is shown is put together from four sources: what the command says, the definition of a
character, the size of the picture, and the sprite of the same name that is there already. The last
one is what the first showing changes. It does not matter: what a sprite takes from the one before
it (`SpriteSpec.spriteOver_self`, `CharacterShow.spriteOver_self`) and the place where it goes
(`Sprite.settled_settled`) are the same again when the one before it is itself. So to show something
twice is to show it once (`shown_again`), whatever was there before.
-/

namespace VisualNovel

variable {τ : Type}

/-! ## 1. Sprites over sprites -/

/-- The size of a picture that is there. -/
def Surface.extent (surface : Surface) : Point := ⟨surface.width, surface.height⟩

/-- The sprite that a script adds by itself, over one of the same name. -/
def SpriteSpec.spriteOver (spec : SpriteSpec) (picture : Text → Option Surface) (now : τ)
    (existing : Option (Sprite τ)) : Sprite τ :=
  { id := spec.name
    kind := .ofAsset spec.kind
    value := spec.value
    anchor := spec.anchor.or (existing.bind (·.anchor))
    z := (spec.z.or (existing.map (·.z))).getD 0.0
    pos := ⟨0.0, 0.0⟩
    size :=
      match spec.kind with
      | .image => spec.size.or (((picture spec.value).map (·.extent)).or (existing.bind (·.size)))
      | .rect => some ((spec.size.or (existing.bind (·.size))).getD ⟨0.0, 0.0⟩)
    floating :=
      { amplitude := spec.floating.amplitude.or (existing.bind (·.floating.amplitude))
        speed := spec.floating.speed.or (existing.bind (·.floating.speed)) }
    transition := Transition.ofSpec spec.transition now }

/-- The sprite of a character with the picture at a path, over one of the same name. -/
def CharacterShow.spriteOver (spec : CharacterShow) (character : Character) (path : Text)
    (picture : Text → Option Surface) (now : τ) (existing : Option (Sprite τ)) : Sprite τ :=
  { id := spec.ident
    kind := .character
    value := path
    anchor := spec.anchor.or character.anchor
    z := (spec.z.or (character.z.or (existing.map (·.z)))).getD 0.0
    pos := ⟨0.0, 0.0⟩
    size := ((picture path).map (·.extent)).or (existing.bind (·.size))
    floating :=
      { amplitude := spec.floating.amplitude.or character.floating.amplitude
        speed := spec.floating.speed.or character.floating.speed }
    transition := Transition.ofSpec spec.transition now }

/-- The sprite where it goes, with the alpha value of the one that was there. -/
def Sprite.settled (sprite : Sprite τ) (pos : Option Point) (screen : Screen)
    (existing : Option (Sprite τ)) : Sprite τ :=
  { sprite with
    pos := State.placeOf sprite pos existing screen
    alpha := (existing.map (·.alpha)).getD 255.0 }

theorem or_or_self {α : Type} (first second : Option α) :
    first.or (first.or second) = first.or second := by
  cases first <;> rfl

theorem getD_getD {α : Type} (first : Option α) (last : α) :
    first.getD (first.getD last) = first.getD last := by
  cases first <;> rfl

/-- What a sprite takes from the one before it, it takes from itself as well. -/
theorem SpriteSpec.spriteOver_self (spec : SpriteSpec) (picture : Text → Option Surface) (now : τ)
    (existing : Option (Sprite τ)) (pos : Point) (alpha : Float) :
    spec.spriteOver picture now (some { spec.spriteOver picture now existing with pos, alpha }) =
      spec.spriteOver picture now existing := by
  cases kind : spec.kind with
  | image =>
    cases found : picture spec.value <;>
      simp [spriteOver, kind, found, or_or_self, getD_getD]
  | rect => simp [spriteOver, kind, or_or_self, getD_getD]

theorem CharacterShow.spriteOver_self (spec : CharacterShow) (character : Character) (path : Text)
    (picture : Text → Option Surface) (now : τ) (existing : Option (Sprite τ)) (pos : Point)
    (alpha : Float) :
    spec.spriteOver character path picture now
        (some { spec.spriteOver character path picture now existing with pos, alpha }) =
      spec.spriteOver character path picture now existing := by
  -- A number that the command gives hides the one of the character, so it is looked at first.
  cases z : spec.z with
  | some => cases found : picture path <;> simp [spriteOver, z, found]
  | none => cases found : picture path <;> simp [spriteOver, z, found, getD_getD]

/-- A sprite goes where it is. -/
theorem Sprite.settled_settled (sprite : Sprite τ) (pos : Option Point) (screen : Screen)
    (existing : Option (Sprite τ)) :
    sprite.settled pos screen (some (sprite.settled pos screen existing)) =
      sprite.settled pos screen existing := by
  cases pos with
  | some p => simp [settled, State.placeOf]
  | none =>
    cases anchor : sprite.anchor with
    | some words => simp [settled, State.placeOf, anchor]
    | none =>
      -- Without an anchor the second showing looks at where the first one has put the sprite.
      cases existing with
      | some old => simp [settled, State.placeOf, anchor]
      | none => simp [settled, State.placeOf, anchor]

/-! ## 2. The stage -/

theorem State.placeSprite_eq (s : State τ) (screen : Screen) (sprite : Sprite τ)
    (pos : Option Point) :
    s.placeSprite screen sprite pos =
      { s with
        sprites := s.sprites.set sprite.id
          (sprite.settled pos screen (s.sprites.get? sprite.id)) } := rfl

/-- The state with a sprite that is made over the one of its name. -/
def State.showOver (s : State τ) (screen : Screen) (name : Text)
    (make : Option (Sprite τ) → Sprite τ) (pos : Option Point) : State τ :=
  s.placeSprite screen (make (s.sprites.get? name)) pos

/-- What is made over itself as over the one before it, is shown twice as once. -/
theorem State.showOver_showOver (s : State τ) (screen : Screen) {name : Text}
    {make : Option (Sprite τ) → Sprite τ} (pos : Option Point)
    (named : ∀ existing, (make existing).id = name)
    (again : ∀ existing p alpha,
      make (some { make existing with pos := p, alpha }) = make existing) :
    (s.showOver screen name make pos).showOver screen name make pos =
      s.showOver screen name make pos := by
  obtain ⟨existing, before⟩ : ∃ existing, s.sprites.get? name = existing := ⟨_, rfl⟩
  have once : s.showOver screen name make pos =
      { s with sprites := s.sprites.set name ((make existing).settled pos screen existing) } := by
    rw [showOver, before, placeSprite_eq, named, before]
  have there : (s.showOver screen name make pos).sprites.get? name =
      some ((make existing).settled pos screen existing) := by
    rw [once, Table.get?_set_self]
  have remade : make (some ((make existing).settled pos screen existing)) = make existing :=
    again existing _ _
  rw [showOver, there, remade, placeSprite_eq, named, there, Sprite.settled_settled, once]
  simp only [Table.set_set]

/-- The game when the pictures have become other ones. -/
def Game.withPictures (g : Game τ) (picture : Text → Option Surface) : Game τ :=
  { g with setup := { g.setup with picture } }

/-- The game that has asked for something, and shows a sprite made over the one of its name. -/
def Game.shown (g : Game τ) (r : AssetRequest) (name : Text)
    (make : (Text → Option Surface) → τ → Option (Sprite τ) → Sprite τ) (pos : Option Point) :
    Game τ :=
  { g with
    requests := g.requests.push r
    state := g.state.showOver g.setup.screen name (make g.setup.picture g.now) pos }

/-- A second showing only asks once more. -/
theorem Game.shown_shown (g : Game τ) {first second : AssetRequest} {name : Text}
    {make : (Text → Option Surface) → τ → Option (Sprite τ) → Sprite τ} {pos : Option Point}
    {picture : Text → Option Surface} (same : make picture g.now = make g.setup.picture g.now)
    (named : ∀ picture now existing, (make picture now existing).id = name)
    (again : ∀ picture now existing p alpha,
      make picture now (some { make picture now existing with pos := p, alpha }) =
        make picture now existing) :
    ((g.shown first name make pos).withPictures picture).shown second name make pos =
      { (g.shown first name make pos).withPictures picture with
        requests := (g.requests.push first).push second } := by
  simp [shown, withPictures, same, State.showOver_showOver _ _ pos (named _ _) (again _ _)]

/-! ## 3. The commands -/

/-- Whether a command shows a sprite or a character. -/
def Command.isShow : Command → Bool
  | .show _ | .showCharacter _ => true
  | _ => false

/-- What the command to show a sprite asks for, over a sprite of the same name. -/
def SpriteSpec.request (spec : SpriteSpec) (existing : Option (Sprite τ)) : AssetRequest :=
  match spec.kind with
  | .image => .loadImage spec.value "sprites"
  | .rect =>
    .makeRectSurface spec.value ((spec.size.or (existing.bind (·.size))).getD ⟨0.0, 0.0⟩)

/-- A sprite depends on no picture but the one that its command loads. -/
theorem SpriteSpec.spriteOver_congr (spec : SpriteSpec) {existing : Option (Sprite τ)} (now : τ)
    {picture picture' : Text → Option Surface}
    (same : ∀ path kind, AssetRequest.loadImage path kind = spec.request existing →
      picture' path = picture path) :
    spec.spriteOver picture' now = spec.spriteOver picture now := by
  funext existing
  cases kind : spec.kind with
  | image => simp [spriteOver, same spec.value "sprites" (by simp [request, kind])]
  | rect => simp [spriteOver, kind]

namespace Action

theorem showSprite_eq (spec : SpriteSpec) (g : Game τ) :
    showSprite spec g = .ok ()
      (g.shown (spec.request (g.state.sprites.get? spec.name)) spec.name spec.spriteOver
        spec.pos) := by
  cases kind : spec.kind with
  | image =>
    cases found : g.setup.picture spec.value <;>
      simp [showSprite, kind, Game.shown, State.showOver, SpriteSpec.spriteOver,
        SpriteSpec.request, run_bind, request, change, found, Surface.extent]
  | rect =>
    simp [showSprite, kind, Game.shown, State.showOver, SpriteSpec.spriteOver, SpriteSpec.request,
      run_bind, request, change]

theorem showCharacter_eq {spec : CharacterShow} {g : Game τ} {character : Character} {path : Text}
    (known : g.state.characters.get? spec.ident = some character)
    (found : character.picture? spec.expression = some path) :
    showCharacter spec g = .ok ()
      (g.shown (.loadImage path "sprites") spec.ident (spec.spriteOver character path)
        (spec.pos.or character.pos)) := by
  cases picture : g.setup.picture path <;>
    simp [showCharacter, known, found, Game.shown, State.showOver, CharacterShow.spriteOver,
      run_bind, request, change, picture, Surface.extent]

/-- A character that is not known, or has no such picture, is not shown. -/
theorem showCharacter_unknown {spec : CharacterShow} {g : Game τ}
    (unknown : (g.state.characters.get? spec.ident).bind (·.picture? spec.expression) = none) :
    ∃ logs, showCharacter spec g = .ok () { g with logs } := by
  cases known : g.state.characters.get? spec.ident with
  | none => simp [showCharacter, known, run_bind, log]
  | some character =>
    rw [known] at unknown
    have missing : character.picture? spec.expression = none := unknown
    simp [showCharacter, known, missing, run_bind, log]

end Action

/-- To show something twice is to show it once. The command to show a sprite or a character does not
fail. Done again at once it does not fail either, and leaves the state and all else as they are,
apart from the lists of requests and log records: whatever was there before, and whatever the
pictures are by then that it does not load. -/
theorem shown_again [Clock τ] (g : Game τ) {c : Command} (shows : c.isShow = true) :
    ∃ t asked, Action.execute c g = .ok () t ∧ t.requests = g.requests ++ asked ∧
      ∀ picture : Text → Option Surface,
        (∀ path kind, AssetRequest.loadImage path kind ∈ asked →
          picture path = g.setup.picture path) →
        ∃ requests logs,
          Action.execute c (t.withPictures picture) =
            .ok () { t.withPictures picture with requests, logs } := by
  cases c with
  | «show» spec =>
    refine ⟨_, #[spec.request (g.state.sprites.get? spec.name)], Action.showSprite_eq spec g, rfl,
      fun picture same => ?_⟩
    have made := spec.spriteOver_congr g.now fun path kind asked =>
      same path kind (Array.mem_singleton.mpr asked)
    exact ⟨_, _, (Action.showSprite_eq spec _).trans <| congrArg (EStateM.Result.ok ()) <|
      g.shown_shown made (fun _ _ _ => rfl) spec.spriteOver_self⟩
  | showCharacter spec =>
    cases shown : (g.state.characters.get? spec.ident).bind (·.picture? spec.expression) with
    | none =>
      obtain ⟨logs, once⟩ := Action.showCharacter_unknown shown
      refine ⟨_, #[], once, by simp, fun picture same => ?_⟩
      obtain ⟨logs', twice⟩ := Action.showCharacter_unknown
        (g := Game.withPictures { g with logs } picture) shown
      exact ⟨_, logs', twice⟩
    | some path =>
      obtain ⟨character, known, found⟩ := Option.bind_eq_some_iff.mp shown
      refine ⟨_, #[.loadImage path "sprites"], Action.showCharacter_eq known found, rfl,
        fun picture same => ?_⟩
      have here : picture path = g.setup.picture path := same path _ (Array.mem_singleton.mpr rfl)
      have made : spec.spriteOver character path picture g.now =
          spec.spriteOver character path g.setup.picture g.now := by
        funext existing
        simp [CharacterShow.spriteOver, here]
      have twice := Action.showCharacter_eq
        (g := (g.shown (.loadImage path "sprites") spec.ident (spec.spriteOver character path)
          (spec.pos.or character.pos)).withPictures picture) known found
      exact ⟨_, _, twice.trans <| congrArg (EStateM.Result.ok ()) <|
        g.shown_shown made (fun _ _ _ => rfl) (spec.spriteOver_self character path)⟩
  | _ => cases shows

/-- A lamp that is going out and is leaving. -/
def lampStory : Text :=
  "add image lamp \"lamp.png\" left top z 2;\nanimate lamp alpha 0 2;\noff lamp fade 1;\n\"Gone?\";"

/-- The picture of the lamp; the others are as given. -/
def lampPicture (others : Option Surface) (path : Text) : Option Surface :=
  if path = "lamp.png" then some ⟨40.0, 90.0⟩ else others

/-- The game in which the lamp is leaving. -/
def lampGame (program : Program) : Game Int :=
  Operation.run.after <| (gameIn (soloFiles lampStory) program).withPictures <|
    lampPicture (some ⟨0.0, 0.0⟩)

/-- The command that shows the lamp again, and says nothing else. -/
def lampAgain : Command := .show { kind := .image, name := "lamp", value := "lamp.png" }

/-- The lamp comes back, stays where it was and keeps its track. A second command changes nothing,
although no other picture can be loaded by then. -/
theorem shown_again_lamp :
    ∃ program reached,
      Program.ofFile (soloFiles lampStory) false (.nth 0) "/game/main.vn" = .ok (program, reached) ∧
      ((lampGame program).state.sprites.get? "lamp").map (·.leaving) = some true ∧
      ∃ t requests logs, Action.execute lampAgain (lampGame program) = .ok () t ∧
        ((t.state.sprites.get? "lamp").map fun s => (s.leaving, s.anchor, s.z)) =
          some (false, some (Text.ofString "left top"), 2.0) ∧
        t.state.tracks.contains "lamp" = true ∧
        Action.execute lampAgain (t.withPictures (lampPicture none)) =
          .ok () { t.withPictures (lampPicture none) with requests, logs } := by
  obtain ⟨⟨program, reached⟩, found, form⟩ := exists_ok
    (x := Program.ofFile (soloFiles lampStory) false (.nth 0) "/game/main.vn")
    (f := fun r =>
      let g := lampGame r.1
      ((g.state.sprites.get? "lamp").map (·.leaving), g.setup.picture "lamp.png",
        match Action.execute lampAgain g with
        | .ok _ t =>
          decide (t.requests.toList = g.requests.toList ++ [.loadImage "lamp.png" "sprites"]) &&
            decide (((t.state.sprites.get? "lamp").map fun s => (s.leaving, s.anchor, s.z)) =
              some (false, some (Text.ofString "left top"), 2.0)) &&
            t.state.tracks.contains "lamp"
        | .error _ _ => false))
    (b := (some true, some ⟨40.0, 90.0⟩, true)) (by decide +kernel)
  obtain ⟨t, asked, once, grown, again⟩ := shown_again (lampGame program) (c := lampAgain) rfl
  simp only [Prod.mk.injEq, once, grown, Array.toList_append, List.append_cancel_left_eq,
    Bool.and_eq_true, decide_eq_true_eq] at form
  obtain ⟨leaving, picture, ⟨loaded, back⟩, moving⟩ := form
  obtain ⟨requests, logs, twice⟩ := again (lampPicture none) <| by
    intro path kind mem
    rw [Array.mem_def, loaded, List.mem_singleton] at mem
    cases mem
    exact picture.symm
  exact ⟨program, reached, found, leaving, t, requests, logs, once, back, moving, twice⟩

end VisualNovel
