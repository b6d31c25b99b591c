import VisualNovel.Proofs.Script.Library

/-!
A library hides nothing.

A library is asked for scripts, is given programs, and is told to take scripts out. As long as the
files do not change, a load gives what reading the script afresh gives (`Program.fresh`), whatever
the library was asked before and however the path is spelled. The invariant is `Library.Faithful`:
each program on the shelf is the fresh one and stands under its own absolute path. What is on the
shelf can be told from the requests alone: the scripts that were brought and not taken out since
(`Library.Held`).
-/

namespace VisualNovel

variable {files : FileTree} {strict : Bool} {path : Text} {program : Program}

/-! ## 1. Reading afresh -/

/-- What reading a script file afresh gives: its program, or why there is none. -/
def Program.fresh (files : FileTree) (strict : Bool) (path : Text) : Except Fault Program :=
  (ofFile files strict (.nth 0) path).map (·.1)

/-- All spellings of a path give the same. -/
theorem Program.fresh_of_absolute_eq {spelling : Text}
    (same : Path.absolute spelling = Path.absolute path) :
    fresh files strict spelling = fresh files strict path := by
  unfold fresh ofFile
  rw [same]

theorem Program.fresh_eq (files : FileTree) (strict : Bool) (path : Text) :
    fresh files strict path = (ofFile files strict (.nth 0) (Path.absolute path)).map (·.1) :=
  (fresh_of_absolute_eq (Path.absolute_absolute path)).symm

/-- A program knows the absolute path of its script. -/
theorem Program.script_of_fresh (h : fresh files strict path = .ok program) :
    program.script = Path.absolute path := by
  unfold fresh at h
  cases read : ofFile files strict (.nth 0) path with
  | error fault =>
    rw [read] at h
    cases h
  | ok found =>
    rw [read] at h
    cases h
    exact script_of_ofFile read

namespace Library

variable {library : Library} {key : Text}

/-! ## 2. Requests -/

/-- What a library is asked to do. -/
inductive Request where
  | load (path : Text)
  | remember (program : Program)
  | evict (path : Text)
  | clear
  | has (path : Text)

/-- The library after a request. -/
def serve (files : FileTree) (library : Library) : Request → Library
  | .load path => (library.load files path).library
  | .remember program => library.remember program
  | .evict path => library.evict path
  | .clear => library.clear
  | .has _ => library

/-- The library after some requests. -/
def serveAll (files : FileTree) (library : Library) (requests : List Request) : Library :=
  requests.foldl (serve files) library

/-- The request puts a script on the shelf, unless it is there. -/
def Request.Brings (files : FileTree) (strict : Bool) (key : Text) : Request → Prop
  | .load path =>
    Path.absolute path = key ∧ ∃ program, Program.fresh files strict path = .ok program
  | .remember program => Path.absolute program.script = key
  | .evict _ | .clear | .has _ => False

/-- The request takes a script from the shelf. -/
def Request.Takes (key : Text) : Request → Prop
  | .evict path => Path.absolute path = key
  | .clear => True
  | .load _ | .remember _ | .has _ => False

/-- A script that was brought, and was not taken out since then. -/
def Held (files : FileTree) (strict : Bool) (requests : List Request) (key : Text) : Prop :=
  ∃ before request after, requests = before ++ request :: after ∧
    request.Brings files strict key ∧ ∀ later ∈ after, ¬ later.Takes key

/-- What is held after one more request. -/
theorem held_concat {requests : List Request} {request : Request} :
    Held files strict (requests ++ [request]) key ↔
      request.Brings files strict key ∨ Held files strict requests key ∧ ¬ request.Takes key := by
  constructor
  · rintro ⟨before, brought, after, split, brings, kept⟩
    rcases List.eq_nil_or_concat after with rfl | ⟨after, last, rfl⟩
    · obtain ⟨-, same⟩ := List.append_inj' split rfl
      cases same
      exact .inl brings
    · rw [List.concat_eq_append, ← List.cons_append, ← List.append_assoc] at split
      rw [List.concat_eq_append] at kept
      obtain ⟨rfl, same⟩ := List.append_inj' split rfl
      cases same
      refine .inr ⟨⟨before, brought, after, rfl, brings, fun later mem => ?_⟩, ?_⟩
      · exact kept later (List.mem_append_left _ mem)
      · exact kept request (List.mem_append_right _ List.mem_cons_self)
  · rintro (brings | ⟨⟨before, brought, after, rfl, brings, kept⟩, stays⟩)
    · exact ⟨requests, request, [], rfl, brings, by simp⟩
    · refine ⟨before, brought, after ++ [request], by simp, brings, fun later mem => ?_⟩
      rcases List.mem_append.mp mem with old | new
      · exact kept later old
      · exact List.mem_singleton.mp new ▸ stays

/-! ## 3. Loading -/

/-- Every program on the shelf is the one that its script gives afresh, under the path of its
script. -/
structure Faithful (files : FileTree) (library : Library) : Prop where
  fresh : ∀ key edition, library.shelf.get? key = some edition →
    Program.fresh files library.strict key = .ok edition.program
  absolute : ∀ key edition, library.shelf.get? key = some edition → Path.absolute key = key
  distinct : library.paths.Nodup

theorem Faithful.script_eq (h : library.Faithful files) {edition : Edition}
    (found : library.shelf.get? key = some edition) : edition.program.script = key := by
  rw [Program.script_of_fresh (h.fresh key edition found), h.absolute key edition found]

/-- A load gives what reading afresh gives. -/
theorem Faithful.load_eq (h : library.Faithful files) (path : Text) :
    (library.load files path).result.map (·.program) =
      Program.fresh files library.strict (Path.absolute path) := by
  rcases library.load_cases files path with
    ⟨edition, found, same⟩ | ⟨-, ⟨fault, read, same⟩ | ⟨program, reached, read, -, same⟩⟩ <;>
    rw [same]
  · rw [h.fresh _ _ found]
    rfl
  · rw [Program.fresh, read]
    rfl
  · rw [Program.fresh, read]
    rfl

/-- A load that fails changes nothing. -/
theorem library_of_load_error {fault : Fault}
    (failed : (library.load files path).result = .error fault) :
    (library.load files path).library = library := by
  rcases library.load_cases files path with
    ⟨edition, -, same⟩ | ⟨-, ⟨fault, -, same⟩ | ⟨program, reached, -, -, same⟩⟩ <;>
    rw [same] at failed ⊢
  · cases failed

/-! ## 4. A request -/

theorem strict_serve (library : Library) (request : Request) :
    (serve files library request).strict = library.strict := by
  cases request with
  | load path => exact library.strict_load files path
  | remember | evict | clear | has => rfl

theorem mem_paths_remember (library : Library) (program : Program) :
    key ∈ (library.remember program).paths ↔
      Path.absolute program.script = key ∨ key ∈ library.paths := by
  rw [remember, paths, Table.mem_keys_set, eq_comm]
  rfl

/-- One more program, which its script gives afresh. -/
theorem Faithful.remember (h : library.Faithful files)
    (read : Program.fresh files library.strict path = .ok program) :
    (library.remember program).Faithful files where
  fresh key edition found := by
    rcases get?_remember found with old | ⟨place, rfl⟩
    · exact h.fresh key edition old
    · rw [Program.script_of_fresh read, Path.absolute_absolute] at place
      rw [place]
      exact (Program.fresh_of_absolute_eq (Path.absolute_absolute path)).trans read
  absolute key edition found := by
    rcases get?_remember found with old | ⟨place, -⟩
    · exact h.absolute key edition old
    · rw [place, Path.absolute_absolute]
  distinct := Table.nodup_keys_set h.distinct _ _

/-- A request keeps a library faithful, if a program that it gives is one that a script gives
afresh. -/
theorem Faithful.serve (h : library.Faithful files) (request : Request)
    (given : ∀ program, request = .remember program →
      ∃ path, Program.fresh files library.strict path = .ok program) :
    (serve files library request).Faithful files := by
  cases request with
  | load path =>
    rcases library.load_cases files path with
      ⟨edition, -, same⟩ | ⟨-, ⟨fault, -, same⟩ | ⟨program, reached, read, -, same⟩⟩ <;>
      rw [Library.serve, same]
    · exact h
    · exact h
    · exact h.remember (by rw [Program.fresh, read]; rfl)
  | remember program =>
    obtain ⟨path, read⟩ := given program rfl
    exact h.remember read
  | evict path =>
    exact ⟨fun key edition found => h.fresh key edition (get?_evict found),
      fun key edition found => h.absolute key edition (get?_evict found),
      Table.nodup_keys_erase h.distinct _⟩
  | clear => exact ⟨nofun, nofun, List.nodup_nil⟩
  | has path => exact h

/-- What is on the shelf after a request. -/
theorem mem_paths_serve (library : Library) (request : Request) :
    key ∈ (serve files library request).paths ↔
      request.Brings files library.strict key ∨ key ∈ library.paths ∧ ¬ request.Takes key := by
  cases request with
  | load path =>
    simp only [serve, Request.Brings, Request.Takes, not_false_eq_true, and_true,
      Program.fresh_eq]
    rcases library.load_cases files path with
      ⟨edition, found, same⟩ | ⟨-, ⟨fault, read, same⟩ | ⟨program, reached, read, own, same⟩⟩ <;>
      rw [same]
    · -- What is there already stays, and it is no matter whether it could be read.
      have there : Path.absolute path ∈ library.paths := Table.mem_keys_of_get? found
      exact ⟨.inr, fun h => h.elim (fun brings => brings.1 ▸ there) id⟩
    · simp [read, Except.map]
    · rw [mem_paths_remember, own, Path.absolute_absolute, read]
      simp [Except.map]
  | remember program => simp [serve, mem_paths_remember, Request.Brings, Request.Takes]
  | evict path =>
    simp [serve, evict, paths, Request.Brings, Request.Takes, Table.mem_keys_erase, eq_comm]
  | clear => simp [serve, clear, paths, Table.keys, Request.Brings, Request.Takes]
  | has path => simp [serve, Request.Brings, Request.Takes]

/-! ## 5. Requests one after the other -/

theorem serveAll_concat (files : FileTree) (library : Library) (requests : List Request)
    (request : Request) : serveAll files library (requests ++ [request]) =
      serve files (serveAll files library requests) request := by
  simp [serveAll]

theorem strict_serveAll (library : Library) (requests : List Request) :
    (serveAll files library requests).strict = library.strict := by
  induction requests using List.reverseRecOn with
  | nil => rfl
  | append_singleton requests request ih => rw [serveAll_concat, strict_serve, ih]

theorem faithful_serveAll (files : FileTree) (strict : Bool) (requests : List Request)
    (given : ∀ program, .remember program ∈ requests →
      ∃ path, Program.fresh files strict path = .ok program) :
    (serveAll files { strict } requests).Faithful files := by
  induction requests using List.reverseRecOn with
  | nil => exact ⟨nofun, nofun, List.nodup_nil⟩
  | append_singleton requests request ih =>
    have before := ih fun program mem => given program (List.mem_append_left _ mem)
    rw [serveAll_concat]
    refine before.serve request fun program same => ?_
    rw [strict_serveAll]
    exact given program (List.mem_append_right _ (List.mem_singleton.mpr same.symm))

/-- What stands on the shelf is what is held. -/
theorem mem_paths_serveAll (files : FileTree) (strict : Bool) (requests : List Request) :
    key ∈ (serveAll files { strict } requests).paths ↔ Held files strict requests key := by
  induction requests using List.reverseRecOn with
  | nil => simp [serveAll, paths, Table.keys, Held]
  | append_singleton requests request ih =>
    rw [serveAll_concat, mem_paths_serve, strict_serveAll, ih, held_concat]

/-- A library hides nothing. Whatever it was asked before, a load gives what reading its script
afresh gives, program or fault, and a load that fails leaves the library as it was. On the shelf stand
programs under the absolute paths of their own scripts, each path once: exactly the scripts that were
loaded or given and not taken out since. -/
theorem library_hides_nothing (files : FileTree) (strict : Bool) (requests : List Request)
    (given : ∀ program, .remember program ∈ requests →
      ∃ path, Program.fresh files strict path = .ok program) :
    let library := serveAll files { strict } requests
    (∀ path, (library.load files path).result.map (·.program) =
      Program.fresh files strict (Path.absolute path)) ∧
    (∀ path fault, (library.load files path).result = .error fault →
      (library.load files path).library = library) ∧
    (∀ key edition, library.shelf.get? key = some edition →
      Path.absolute key = key ∧ edition.program.script = key) ∧
    library.paths.Nodup ∧
    (∀ key, key ∈ library.paths ↔ Held files strict requests key) ∧
    ∀ path, library.has path = true ↔ Held files strict requests (Path.absolute path) := by
  intro library
  have faithful : library.Faithful files := faithful_serveAll files strict requests given
  have same : library.strict = strict := strict_serveAll _ requests
  refine ⟨fun path => ?_, fun path fault => library_of_load_error,
    fun key edition found => ⟨faithful.absolute key edition found, faithful.script_eq found⟩,
    faithful.distinct, fun key => mem_paths_serveAll files strict requests, fun path => ?_⟩
  · rw [faithful.load_eq, same]
  · rw [← mem_paths_serveAll, has, ← Table.mem_keys_iff]
    rfl

/-- A script that can be read, and one that cannot. -/
def errandFiles : FileTree :=
  ⟨⟨[("/main.vn", .file "label start: go start;"), ("/broken.vn", .file "\x7d")]⟩⟩

theorem library_hides_nothing_errand :
    ∃ program, Program.fresh errandFiles true "/main.vn" = .ok program ∧
      let requests : List Request := [.load "broken.vn", .remember program, .evict "x/../main.vn",
        .load "./main.vn", .has "broken.vn"]
      (∀ given, .remember given ∈ requests →
        ∃ path, Program.fresh errandFiles true path = .ok given) ∧
      ((serveAll errandFiles { strict := true } requests).load errandFiles "//main.vn").result.map
        (·.program) = .ok program ∧
      (serveAll errandFiles { strict := true } requests).has "a/../main.vn" = true := by
  obtain ⟨program, read, -⟩ := exists_ok (f := fun _ => ()) (b := ())
    (x := Program.fresh errandFiles true "/main.vn") (by decide +kernel)
  have given : ∀ given, .remember given ∈ ([.load "broken.vn", .remember program,
      .evict "x/../main.vn", .load "./main.vn", .has "broken.vn"] : List Request) →
      ∃ path, Program.fresh errandFiles true path = .ok given := by
    intro other mem
    obtain rfl : other = program := by simpa using mem
    exact ⟨_, read⟩
  obtain ⟨loads, -, -, -, -, has⟩ := library_hides_nothing errandFiles true _ given
  have spelled (spelling : Text) (same : Path.absolute spelling = Path.absolute "/main.vn") :
      Program.fresh errandFiles true spelling = .ok program := by
    rw [Program.fresh_of_absolute_eq same, read]
  refine ⟨program, read, given, ?_, ?_⟩
  · rw [loads]
    exact spelled _ (by decide)
  · exact (has _).mpr ⟨[.load "broken.vn", .remember program, .evict "x/../main.vn"],
      .load "./main.vn", [.has "broken.vn"], rfl, ⟨by decide, program, spelled _ (by decide)⟩,
      by simp [Request.Takes]⟩

end Library
end VisualNovel
