import VisualNovel.Proofs.Engine.Deal
import VisualNovel.Proofs.Number.Range
import VisualNovel.Proofs.Story.Reloaded

/-!
The inventory and its pages.

Items of one kind are counted, and the inventory shows so many kinds a page. `Table.Stowed` says that
each kind is there at least once, and that the page that is open is one of the pages. Items that
are put in keep this, if there are some (`Stowed.add`), and items that are taken out do in any case, because
a kind of which none are left goes away (`Stowed.take`). Nothing looks at what is put in, though: a script
may add no items of a kind, which are listed from then on (`inventory_lists_nothing`).
-/

namespace VisualNovel

variable {τ : Type}

/-! ## 1. Pages -/

/-- The last page of so many kinds of items. -/
def lastPage (perPage : Float) (size : Nat) : Float :=
  Number.maximum 1.0 (Number.ceil (Float.ofNat size / perPage)) - 1.0

/-- A page from the first to the last one. -/
structure IsPage (perPage : Float) (size : Nat) (page : Float) : Prop where
  whole : Number.Integral page
  least : 0.0 ≤ page
  most : page ≤ lastPage perPage size

/-- So many items fit on a page: some, and not infinitely many. -/
structure FitsPages (perPage : Float) : Prop where
  finite : Number.isFinite perPage = true
  positive : 0.0 < perPage

theorem FitsPages.regular {perPage : Float} (fits : FitsPages perPage) :
    Number.isRegular perPage = true := by
  unfold Number.isRegular
  rcases Number.unpack_of_pos fits.positive with form | ⟨m, e, some, form⟩
  · rcases Number.isFinite_iff.mp fits.finite with ⟨s, other⟩ | ⟨s, m, e, some, other⟩
    · rw [form] at other
      cases other
    · rw [form] at other
      cases other
  · rw [form]

/-- There is a first page. -/
theorem FitsPages.lastPage {perPage : Float} (fits : FitsPages perPage) (size : Nat) :
    Number.Integral (lastPage perPage size) ∧ 0.0 ≤ VisualNovel.lastPage perPage size := by
  have quotient := Number.ordered_div (Number.ordered_ofNat size) fits.regular
  have pages := Number.integral_ceil quotient
  have whole : Number.Integral
      (Number.maximum 1.0 (Number.ceil (Float.ofNat size / perPage))) := by
    rcases Number.maximum_eq_or 1.0 (Number.ceil (Float.ofNat size / perPage)) with same | same
    · exact same.symm ▸ Number.integral_one
    · exact same.symm ▸ pages
  have some := Number.pos_of_one_le whole.ordered
    (Number.le_maximum Number.integral_one.ordered pages.ordered)
  exact ⟨whole.sub Number.integral_one (by decide), whole.zero_le_sub_one some⟩

/-- A page that is moved into the range of pages. -/
theorem FitsPages.isPage_clamp {perPage page delta : Float} (fits : FitsPages perPage)
    (whole : Number.Integral page) (turned : Number.isWhole delta = true) (size : Nat) :
    IsPage perPage size (Number.clamp (page + delta) 0.0 (VisualNovel.lastPage perPage size)) := by
  obtain ⟨steps, finite⟩ := Number.isWhole_iff.mp turned
  obtain ⟨last, least⟩ := fits.lastPage size
  obtain ⟨inside, low, high⟩ :=
    (whole.add steps finite).clamp Number.integral_zero last least
  exact ⟨inside, low, high⟩

/-! ## 2. Items -/

/-- Every kind of items is there at least once, under a name that a save keeps. -/
structure Table.Counted (inventory : Table Item) : Prop where
  distinct : inventory.keys.Nodup
  recorded : unrecordedName ∉ inventory.keys
  counts : ∀ e ∈ inventory.entries, Number.Integral e.2.count ∧ 0.0 < e.2.count

namespace Table.Counted

variable {inventory : Table Item} {s : State τ}

theorem empty : Counted {} := ⟨by simp [keys], by simp [keys], by simp⟩

theorem set (h : inventory.Counted) {id : Text} {item : Item} (named : id ≠ unrecordedName)
    (whole : Number.Integral item.count) (some : 0.0 < item.count) :
    (inventory.set id item).Counted where
  distinct := nodup_keys_set h.distinct id item
  recorded mem := by
    rcases mem_keys_set.mp mem with same | old
    · exact named same.symm
    · exact h.recorded old
  counts e mem := by
    rcases mem_setEntry mem with rfl | old
    · exact ⟨whole, some⟩
    · exact h.counts e old

/-- Some items of a kind are put in. -/
theorem add (h : s.inventory.Counted) {id : Text} {item : Item} (named : id ≠ unrecordedName)
    (whole : Number.isWhole item.count = true) (some : 0.0 < item.count) :
    (s.addItem id item).inventory.Counted := by
  obtain ⟨steps, finite⟩ := Number.isWhole_iff.mp whole
  unfold State.addItem
  simp only
  split
  · next old found =>
    obtain ⟨count, held⟩ := h.counts _ (mem_of_lookup found)
    exact h.set named (count.add steps finite) (count.add_pos steps finite held some)
  · exact h.set named steps some

/-- Items of a kind are taken out. The kind goes away if none are left. -/
theorem take (h : s.inventory.Counted) (id : Text) {amount : Float}
    (whole : Number.isWhole amount = true) : (s.takeItem id amount).inventory.Counted := by
  obtain ⟨steps, finite⟩ := Number.isWhole_iff.mp whole
  unfold State.takeItem
  split
  · exact h
  · next old found =>
    obtain ⟨count, -⟩ := h.counts _ (mem_of_lookup found)
    have left := count.sub steps finite
    simp only
    split
    · refine ⟨nodup_keys_erase h.distinct id, fun mem => h.recorded (mem_keys_erase.mp mem).1, ?_⟩
      exact fun e mem => h.counts e (List.mem_filter.mp mem).1
    · next more =>
      have named : id ≠ unrecordedName := fun same => h.recorded (same ▸ mem_keys_of_get? found)
      exact h.set named left (Number.pos_of_not_le left.ordered more)

end Table.Counted

/-- Every kind of items is there at least once, and the page is one of the pages. -/
structure Table.Stowed (perPage : Float) (inventory : Table Item) (page : Float) : Prop where
  counted : inventory.Counted
  page : IsPage perPage inventory.size page

/-- The page is moved, when it is turned or when the items change. -/
theorem Table.Counted.scroll {s : State τ} {perPage delta : Float} (h : s.inventory.Counted)
    (fits : FitsPages perPage) (page : Number.Integral s.inventoryPage)
    (turned : Number.isWhole delta = true) :
    (s.scroll perPage delta).inventory.Stowed perPage (s.scroll perPage delta).inventoryPage where
  counted := h
  page := fits.isPage_clamp page turned s.inventory.size

/-- A table that matches such a one, and a page that is the same, up to the sign of zeros. -/
theorem Table.Stowed.congr {perPage page page' : Float} {t t' : Table Item}
    (h : t.Stowed perPage page) (fits : FitsPages perPage)
    (items : t.Matches (fun _ old new => Number.unsigned old.count = Number.unsigned new.count) t')
    (same : Number.unsigned page = Number.unsigned page') : t'.Stowed perPage page' := by
  refine ⟨⟨items.distinct, fun mem => h.counted.recorded (items.mem_keys.mp mem), ?_⟩, ?_⟩
  · rintro ⟨name, new⟩ mem
    obtain ⟨old, inside, counts⟩ := items.back name new mem
    obtain ⟨whole, some⟩ := h.counted.counts _ inside
    exact ⟨Number.integral_congr counts whole, (Number.lt_congr rfl counts).mp some⟩
  · have whole := Number.integral_congr same h.page.whole
    have last := (fits.lastPage t.size).1.ordered
    have zero := Number.integral_zero.ordered
    rw [items.size_eq h.counted.distinct]
    exact ⟨whole,
      Number.le_congr rfl same h.page.least zero h.page.whole.ordered zero whole.ordered,
      Number.le_congr same rfl h.page.most h.page.whole.ordered last whole.ordered last⟩

/-- A new story has no items. -/
theorem Table.stowed_start {perPage : Float} (fits : FitsPages perPage) :
    ({} : State τ).inventory.Stowed perPage ({} : State τ).inventoryPage where
  counted := .empty
  page := ⟨Number.integral_zero, Number.le_refl Number.integral_zero.ordered, (fits.lastPage 0).2⟩

/-! ## 3. Dealings with items -/

/-- A command about items with a number of them, and with some if it puts them in. -/
def Command.CountsItems : Command → Prop
  | .addItem id _ _ _ amount =>
    id ≠ unrecordedName ∧ Number.isWhole amount = true ∧ 0.0 < amount
  | .removeItem _ amount => Number.isWhole amount = true
  | _ => True

/-- A snapshot whose items are stowed. -/
def Snapshot.Stowed (perPage : Float) (data : Snapshot τ) : Prop :=
  data.inventory.Stowed perPage data.inventoryPage

/-- The terms of sessions in which items are counted. -/
def Terms.stowing (perPage : Float) : Terms τ :=
  ⟨Command.CountsItems, fun delta => Number.isWhole delta = true, Snapshot.Stowed perPage⟩

/-- One dealing with a state keeps the items stowed. -/
theorem State.Deal.stowed {perPage : Float} {s t : State τ}
    (deal : s.Deal (Terms.stowing perPage) perPage t) (fits : FitsPages perPage)
    (h : s.inventory.Stowed perPage s.inventoryPage) :
    t.inventory.Stowed perPage t.inventoryPage := by
  have stays : Number.isWhole 0.0 = true := Number.integral_zero.isWhole (by decide)
  cases deal with
  | @addItem id name description icon amount known =>
    obtain ⟨named, whole, some⟩ := known
    have counted : (s.addItem id ⟨name, description, icon, amount⟩).inventory.Counted :=
      h.counted.add named whole some
    exact counted.scroll fits h.page.whole stays
  | @takeItem id amount known =>
    obtain ⟨inventory, same⟩ := s.takeItem_frame id amount
    have page : (s.takeItem id amount).inventoryPage = s.inventoryPage := by rw [same]
    exact (h.counted.take id known).scroll fits (page ▸ h.page.whole) stays
  | clearItems =>
    have counted : ({ s with inventory := {} } : State τ).inventory.Counted := .empty
    exact counted.scroll fits h.page.whole stays
  | @turn delta turned =>
    refine h.counted.scroll fits h.page.whole ?_
    rcases turned with rfl | rfl | whole
    · decide
    · decide
    · exact whole
  | setVariable | showMeter | refreshMeter | eraseMeter | clearMeters | sound => exact h

/-- What keeps the store keeps the items. -/
theorem State.stowed_of_store {perPage : Float} {s t : State τ}
    (h : s.inventory.Stowed perPage s.inventoryPage) (same : t.store = s.store) :
    t.inventory.Stowed perPage t.inventoryPage := by
  have items : t.inventory = s.inventory := congrArg Store.inventory same
  have page : t.inventoryPage = s.inventoryPage := congrArg Store.inventoryPage same
  rw [items, page]
  exact h

namespace Snapshot

variable {perPage : Float}

theorem item?_reread {item item' : Item}
    (h : item? .file (Json.reread (itemJson item)) = some item') :
    Number.unsigned item.count = Number.unsigned item'.count := by
  obtain ⟨fields, form, inOrder, count⟩ : ∃ fields, itemJson item = .record fields ∧
      Json.InOrder (fields.map fun f => Text.ofString f.1) ∧ ("count", .num item.count) ∈ fields :=
    ⟨_, rfl, by simp only [List.map]; decide, by simp⟩
  have number : Rules.file.number = Json.finite? := rfl
  rw [form] at h
  simp only [item?, number, Json.need_reread inOrder count, Option.bind_eq_bind,
    Option.bind_eq_some_iff, Option.pure_def, Option.some.injEq] at h
  obtain ⟨_, _, _, _, _, _, count', read, rfl⟩ := h
  exact (unsigned_of_finite? read).symm

/-- Items that come back from a file are stowed as they were. -/
theorem Reloaded.stowed {data found : Snapshot Float} (again : data.Reloaded found)
    (fits : FitsPages perPage) (h : data.Stowed perPage) : found.Stowed perPage := by
  have items := matches_reread h.counted.distinct again.inventory
  exact h.congr fits (items.mono fun _ _ _ => item?_reread) (unsigned_of_finite? again.page).symm

theorem stowed_ofState [Clock τ] {s : State τ} (h : s.inventory.Stowed perPage s.inventoryPage)
    (fits : FitsPages perPage) (script : Text) (now : τ) : (ofState s script now).Stowed perPage := by
  have items := Table.matches_recorded h.counted.distinct h.counted.recorded
  exact h.congr fits (items.mono fun _ _ _ same => same ▸ rfl) rfl

end Snapshot

/-! ## 4. Games -/

variable [Clock τ]

/-- The items of a game are stowed, and so are those of all saves among its files. -/
structure Game.Stowed (perPage : Float) (g : Game τ) : Prop where
  same : g.setup.settings.itemsPerPage = perPage
  state : g.state.inventory.Stowed perPage g.state.inventoryPage
  files : g.files.AllSaves (Snapshot.Stowed perPage)

theorem Game.Deal.stowed {perPage : Float} {g t : Game τ}
    (deal : Game.Deal (Terms.stowing perPage) g t) (fits : FitsPages perPage)
    (h : g.Stowed perPage) : t.Stowed perPage := by
  cases deal with
  | aside same =>
    exact ⟨same.setup ▸ h.same, State.stowed_of_store h.state same.store, same.files ▸ h.files⟩
  | state deal =>
    rw [h.same] at deal
    exact { h with state := deal.stowed fits h.state }
  | ask => exact { h with }
  | save path =>
    have taken : g.snapshot.Stowed perPage := Snapshot.stowed_ofState h.state fits _ _
    exact { h with files := h.files.save (fun found again => again.stowed fits taken) path }
  | restart =>
    exact { h with
      state := State.stowed_of_store (Table.stowed_start fits) (State.store_introduceAll _ _) }
  | @resume data program source =>
    have stowed : data.Stowed perPage := by
      rcases source with given | ⟨path, saved, found, rfl⟩
      · exact given
      · exact h.files.load found
    have resumed : (data.toState g.now).inventory.Stowed perPage (data.toState g.now).inventoryPage :=
      stowed
    exact { h with state := State.stowed_of_store resumed (State.store_introduceAll _ _) }

/-- Every script of a project that puts items in puts some in, and under a name that a save keeps. -/
def AddsSome (original : Text → Option Text) : Prop :=
  ∀ script program, Reading original script program →
    ∀ id name description icon amount,
      .addItem id name description icon amount ∈ program.commands →
        id ≠ unrecordedName ∧ 0.0 < amount

/-- Items are counted in whole numbers by any script. -/
theorem AddsSome.known {original : Text → Option Text} (adds : AddsSome original) {script : Text}
    {program : Program} (read : Reading original script program) {c : Command}
    (mem : c ∈ program.commands) : c.CountsItems := by
  have spelled := read.wellFormed.commands c mem
  cases c with
  | addItem id name description icon amount =>
    obtain ⟨named, some⟩ := adds script program read id name description icon amount mem
    exact ⟨named, spelled.2, some⟩
  | removeItem id amount => exact spelled
  | _ => trivial

/-- Operations that turn whole pages, and hand over snapshots whose items are stowed, or any that were
taken. -/
def TurnsPages (perPage : Float) (taken : List (Snapshot τ)) (op : Operation τ) : Prop :=
  (∀ delta, op = .scroll delta → Number.isWhole delta = true) ∧
    ∀ data, op.Hands data → data ∈ taken ∨ data.Stowed perPage

/-- In every game that is played from a new one, each kind of items is there at least once, and the
page that is open is one of the pages, by its number, if these can be counted. Scripts put some items
in when they put in any, and every save and every snapshot from outside does not say otherwise. -/
theorem inventory_counts_and_page {setup : Setup τ} {library : Library} {files : FileTree}
    {program : Program} {original : Text → Option Text} (texts : files.Within original)
    (read : Reading original program.script program)
    (shelf : ∀ script edition, library.shelf.get? script = some edition →
      Reading original script edition.program)
    (fits : FitsPages setup.settings.itemsPerPage) (adds : AddsSome original)
    (saves : files.AllSaves (Snapshot.Stowed setup.settings.itemsPerPage))
    {taken : List (Snapshot τ)} {g : Game τ}
    (played : Played (TurnsPages setup.settings.itemsPerPage)
      (Game.start setup library files program) taken g) :
    (∀ e ∈ g.state.inventory.entries, 1.0 ≤ e.2.count) ∧
      let last := g.state.pageCount g.setup.settings.itemsPerPage - 1.0
      0.0 ≤ g.state.inventoryPage ∧ g.state.inventoryPage ≤ last ∧
        (Number.isFinite last = true → Number.isWhole g.state.inventoryPage = true) := by
  have start : (Game.start setup library files program).Stowed setup.settings.itemsPerPage :=
    ⟨rfl, State.stowed_of_store (Table.stowed_start fits) (State.store_introduceAll _ _), saves⟩
  have cover : (Terms.stowing setup.settings.itemsPerPage : Terms τ).Cover (Game.Stocked original) :=
    Terms.cover_stocked fun script program read c => adds.known read
  have stowed := (played.deals cover (Game.Stocked.start texts.holds read shelf) start
    (fun g h => Snapshot.stowed_ofState h.state fits _ _)
    (fun taken op ok good => ⟨ok.1, fun data hands => (ok.2 data hands).elim (good data) id⟩)
    fun g t deal h => deal.stowed fits h).1
  obtain ⟨same, ⟨counted, page⟩, -⟩ := stowed
  refine ⟨fun e mem => ?_, page.least, ?_, fun finite => ?_⟩
  · obtain ⟨whole, some⟩ := counted.counts e mem
    exact whole.one_le some
  · rw [same]
    exact page.most
  · rw [same] at finite
    exact page.whole.isWhole (Number.isFinite_of_between page.whole.ordered page.least page.most finite)

/-- A story with three coins, of which two are spent. -/
def coinSource : Text :=
  "item add coin \"Coin\" \"Round.\" amount 3; item remove coin amount 2; \"Hello.\";"

/-- The game is set up as usual. -/
def coinSetup : Setup Float :=
  { root := "/game", savePath := "/game/quick.json", assetRoot := "/game" }

/-- One coin is left on the only page, also after the page was turned. -/
theorem inventory_counts_and_page_coins :
    ∃ program reached,
      Program.ofFile (soloFiles coinSource) false (.nth 0) "/game/main.vn" =
        .ok (program, reached) ∧
      let g : Game Float :=
        (Operation.scroll 1.0).after
          (Operation.run.after (.start coinSetup {} (soloFiles coinSource) program))
      (∀ e ∈ g.state.inventory.entries, 1.0 ≤ e.2.count) ∧
        0.0 ≤ g.state.inventoryPage ∧
        g.state.inventoryPage ≤ g.state.pageCount g.setup.settings.itemsPerPage - 1.0 := by
  obtain ⟨⟨program, reached⟩, found, commands⟩ := exists_ok
    (x := Program.ofFile (soloFiles coinSource) false (.nth 0) "/game/main.vn")
    (f := fun r => r.1.commands)
    (b := #[.addItem "coin" "Coin" "Round." none 3.0, .removeItem "coin" 2.0, .say none "Hello."])
    (by decide +kernel)
  have read : Reading (soloFiles coinSource).text? "/game/main.vn" program :=
    Reading.ofFile (FileTree.within_text? _).holds found
  have adds : AddsSome (soloFiles coinSource).text? := by
    intro script other reading id name description icon amount mem
    obtain rfl := script_of_solo reading
    obtain rfl := reading.unique read
    rw [commands] at mem
    obtain ⟨rfl, -, -, -, rfl⟩ : id = "coin" ∧ name = "Coin" ∧ description = "Round." ∧
        icon = none ∧ amount = 3.0 := by
      simpa using mem
    decide
  have fits : FitsPages coinSetup.settings.itemsPerPage := ⟨by decide, by decide⟩
  have noSaves : FileTree.NoSaves (soloFiles coinSource).text? := FileTree.noSaves_text? (by decide)
  have ran : Played (TurnsPages coinSetup.settings.itemsPerPage)
      (.start coinSetup {} (soloFiles coinSource) program) []
      (Operation.run.after (.start coinSetup {} (soloFiles coinSource) program)) :=
    .act .start ⟨fun _ => nofun, fun _ => nofun⟩
  have turned : TurnsPages coinSetup.settings.itemsPerPage []
      (.scroll 1.0 : Operation Float) := by
    refine ⟨fun delta same => ?_, fun _ => nofun⟩
    cases same
    decide
  obtain ⟨counts, least, most, -⟩ := inventory_counts_and_page (FileTree.within_text? _)
    (read.own rfl) (fun _ _ found => by cases found) fits adds (noSaves.all _) (ran.act turned)
  exact ⟨program, reached, found, counts, least, most⟩

/-! ## 5. Nothing is put in -/

/-- A story that puts no coins in. -/
def noCoinSource : Text := "item add coin \"Coin\" \"Round.\" amount 0; \"Hello.\";"

/-- Nothing looks at what a script puts in: the inventory lists a coin of which there are none. -/
theorem inventory_lists_nothing :
    ∃ (program : Program) (g : Game Float) (item : Item),
      Reading (soloFiles noCoinSource).text? program.script program ∧
      Played OwnSnapshots (gameIn (τ := Float) (soloFiles noCoinSource) program) [] g ∧
      (Text.ofString "coin", item) ∈ g.state.inventory.entries ∧ ¬ 1.0 ≤ item.count := by
  obtain ⟨⟨program, reached⟩, found, listed⟩ := exists_ok
    (x := Program.ofFile (soloFiles noCoinSource) false (.nth 0) "/game/main.vn")
    (f := fun r =>
      (Operation.run.after (gameIn (τ := Float) (soloFiles noCoinSource) r.1)).state.inventory)
    (b := ⟨[("coin", ⟨"Coin", "Round.", none, 0.0⟩)]⟩) (by decide +kernel)
  have played : Played OwnSnapshots (gameIn (τ := Float) (soloFiles noCoinSource) program) []
      (Operation.run.after (gameIn (soloFiles noCoinSource) program)) :=
    .act .start (ownSnapshots_of_ne fun _ => nofun)
  have read := Reading.ofFile (FileTree.within_text? _).holds found
  exact ⟨program, _, ⟨"Coin", "Round.", none, 0.0⟩, read.own rfl, played, by simp [listed], by decide⟩

end VisualNovel
