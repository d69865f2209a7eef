import LivePreview.Proofs.Loader.Report

/-!
# Files that leave no trace

A preview has no use for the entry and its namesakes, for files that start an application of their
own, for files of no known kind and for scripts that do not compile. Without them (`Builder.prune`)
a project has the same registry, but for the list of what was skipped (`registry_prune`), so a build
gives the same payload and the same report, but for that list (`build_prune`). That list tells of
the scripts that do not compile (`tells_skipped`).
-/

namespace LivePreview

/-- The registry, with another list of what was skipped. -/
def Registry.skipping (r : Registry) (files : List SkippedModule) : Registry :=
  { r with skipped := files }

/-- The output, with another list of what was skipped. -/
def Output.skipping (o : Output) (files : List (String × String)) : Output :=
  { o with report := { o.report with skipped := files } }

namespace Builder

variable (b : Builder)

/-- The file is the entry or a script of its name, or starts an application of its own. -/
def setsAside (path : String) : Bool :=
  Registry.isEntry path b.entryPath || b.bootstrap.isMatch path

/-- What is wrong with a script that cannot be compiled. -/
def failure? (path source : String) : Option CompileError :=
  if Path.isScript path then
    match Registry.compile b.config.jsx path source with
    | .ok _ => none
    | .error e => some e
  else none

/-- The preview has a use for the file. -/
def uses (path source : String) : Bool :=
  !(b.setsAside path || Path.classify path == .other || (b.failure? path source).isSome)

/-- The project without the files that the preview has no use for. -/
def prune (p : Project) : Project :=
  ⟨p.files.filterMap fun path source => if b.uses path source then some source else none⟩

/-- What is skipped of a file. -/
def skip? (path source : String) : Option SkippedModule :=
  if b.setsAside path then none else (b.failure? path source).map (⟨path, ·⟩)

/-- What is skipped of a project. -/
def skipped (p : Project) : List SkippedModule :=
  p.toList.filterMap fun file => b.skip? file.1 file.2

/-- `told` tells of the scripts that do not compile, each once, in the order of their paths. -/
structure Tells (p : Project) (told : List (String × String)) : Prop where
  ordered : (told.map (·.1)).Pairwise (· < ·)
  mem : ∀ path message, (path, message) ∈ told ↔
    ∃ source e, p.get? path = some source ∧ b.setsAside path = false ∧
      b.failure? path source = some e ∧ e.message = message

variable {b}

theorem toList_prune (p : Project) :
    (b.prune p).toList = p.toList.filter fun file => b.uses file.1 file.2 := by
  rw [← List.filterMap_eq_filter]
  show p.toList.filterMap _ = _
  congr 1
  funext file
  cases h : b.uses file.1 file.2 with
  | true => simp [Option.guard, h]
  | false => simp [Option.guard, h]

/-! ## The registry -/

/-- A file is skipped, or added in the same way whatever was skipped before, or nothing at all. -/
theorem addFile_skipping (r : Registry) (before : List SkippedModule) (path source : String) :
    Registry.addFile b.entryPath b.bootstrap b.config.jsx (r.skipping before) (path, source) =
      (if b.uses path source then
          Registry.addFile b.entryPath b.bootstrap b.config.jsx r (path, source)
        else r).skipping (before ++ (b.skip? path source).toList) := by
  cases aside : Registry.isEntry path b.entryPath || b.bootstrap.isMatch path with
  | true => simp [Registry.addFile, uses, skip?, setsAside, aside]
  | false =>
    cases kind : Path.classify path with
    | other =>
      simp [Registry.addFile, uses, skip?, setsAside, failure?, Path.isScript, aside, kind]
    | stylesheet =>
      simp [Registry.addFile, uses, skip?, setsAside, failure?, Path.isScript, aside, kind]
      rfl
    | script e =>
      cases compiled : Registry.compile b.config.jsx path source with
      | ok m =>
        simp [Registry.addFile, uses, skip?, setsAside, failure?, Path.isScript, aside, kind,
          compiled]
        rfl
      | error e =>
        simp [Registry.addFile, uses, skip?, setsAside, failure?, Path.isScript, aside, kind,
          compiled]
        rfl

theorem foldl_addFile_skipping (files : List (String × String)) (r : Registry)
    (before : List SkippedModule) :
    files.foldl (Registry.addFile b.entryPath b.bootstrap b.config.jsx) (r.skipping before) =
      ((files.filter fun file => b.uses file.1 file.2).foldl
          (Registry.addFile b.entryPath b.bootstrap b.config.jsx) r).skipping
        (before ++ files.filterMap fun file => b.skip? file.1 file.2) := by
  induction files generalizing r before with
  | nil => simp
  | cons file files ih =>
    have front : (b.skip? file.1 file.2).toList ++
          files.filterMap (fun file => b.skip? file.1 file.2) =
        (file :: files).filterMap fun file => b.skip? file.1 file.2 := by
      cases h : b.skip? file.1 file.2 with
      | none => simp [h]
      | some s => simp [h]
    rw [List.foldl_cons, addFile_skipping, ih, List.append_assoc, front]
    cases h : b.uses file.1 file.2 with
    | true => simp [h]
    | false => simp [h]

/-- Without the files that the preview has no use for, a project has the same registry but for what
was skipped. -/
theorem registry_prune (request : Request) :
    b.registry request =
      (b.registry { request with files := b.prune request.files }).skipping
        (b.skipped request.files) := by
  have run := foldl_addFile_skipping (b := b) request.files.toList {} []
  rw [← toList_prune] at run
  exact run

/-! ## What a build skips -/

theorem mem_skipped {p : Project} {s : SkippedModule} :
    s ∈ b.skipped p ↔ ∃ source, p.get? s.path = some source ∧ b.setsAside s.path = false ∧
      b.failure? s.path source = some s.error := by
  unfold skipped skip?
  rw [List.mem_filterMap]
  constructor
  · rintro ⟨⟨path, source⟩, file, hs⟩
    cases aside : b.setsAside path with
    | true => simp [aside] at hs
    | false =>
      simp only [aside, Bool.false_eq_true, if_false] at hs
      obtain ⟨e, he, rfl⟩ := Option.map_eq_some_iff.1 hs
      exact ⟨source, Table.get?_of_mem file, aside, he⟩
  · rintro ⟨source, file, aside, he⟩
    exact ⟨(s.path, source), Table.mem_of_get? file, by simp [aside, he]⟩

theorem tells_skipped (p : Project) :
    b.Tells p ((b.skipped p).map fun s => (s.path, s.error.message)) where
  ordered := by
    rw [List.map_map, List.pairwise_map]
    refine List.Pairwise.filterMap _ (fun file file' before s hs s' hs' => ?_) p.files.sorted
    have path {file : String × String} {s : SkippedModule} (h : b.skip? file.1 file.2 = some s) :
        s.path = file.1 := by
      unfold skip? at h
      split at h
      · cases h
      · obtain ⟨e, -, rfl⟩ := Option.map_eq_some_iff.1 h
        rfl
    show s.path < s'.path
    rw [path hs, path hs']
    exact before
  mem path message := by
    rw [List.mem_map]
    constructor
    · rintro ⟨s, hs, eq⟩
      obtain ⟨rfl, rfl⟩ := Prod.mk.inj eq
      obtain ⟨source, file, aside, he⟩ := mem_skipped.1 hs
      exact ⟨source, s.error, file, aside, he, rfl⟩
    · rintro ⟨source, e, file, aside, he, rfl⟩
      exact ⟨⟨path, e⟩, mem_skipped.2 ⟨source, file, aside, he⟩, rfl⟩

/-! ## Builds -/

/-- Without the files that the preview has no use for, a request is built in the same way, and
fails in the same way, but for what was skipped. -/
theorem build_prune (request : Request) :
    b.build request =
      (b.build { request with files := b.prune request.files }).map fun o =>
        o.skipping ((b.skipped request.files).map fun s => (s.path, s.error.message)) := by
  unfold build
  rw [registry_prune request]
  cases Module.lower .entry b.entryPath request.entrySource with
  | error e => rfl
  | ok entry =>
    cases ht : Script.transpile b.config.jsx b.entryPath entry.code with
    | error e => simp [ht, bind, Except.bind, Except.map]
    | ok js =>
      simp only [ht, bind, Except.bind, pure, Except.pure, Except.map]
      rfl

end Builder

/-- Two requests for the same entry, stylesheet and packages, whose projects differ in files that
the preview has no use for, give the same payload and the same report but for what was skipped, or
fail in the same way. What was skipped are the scripts that do not compile. -/
theorem build_without_trace {b : Builder} {r s : Request} (source : r.entrySource = s.entrySource)
    (stylesheet : r.stylesheet = s.stylesheet) (dependencies : r.dependencies = s.dependencies)
    (files : b.prune r.files = b.prune s.files) :
    (∃ e, b.build r = .error e ∧ b.build s = .error e) ∨
      ∃ o o', b.build r = .ok o ∧ b.build s = .ok o' ∧ o'.payload = o.payload ∧
        o'.report = { o.report with skipped := o'.report.skipped } ∧
        b.Tells r.files o.report.skipped ∧ b.Tells s.files o'.report.skipped := by
  have same : { r with files := b.prune r.files } = { s with files := b.prune s.files } := by
    rw [source, stylesheet, dependencies, files]
  rw [Builder.build_prune r, Builder.build_prune s, same]
  cases b.build { s with files := b.prune s.files } with
  | error e => exact .inl ⟨e, rfl, rfl⟩
  | ok o => exact .inr ⟨_, _, rfl, rfl, rfl, rfl, Builder.tells_skipped _, Builder.tells_skipped _⟩

/-- A broken script, an old entry and a note beside a module leave no trace. -/
theorem build_without_trace_broken :
    let r : Request := {
      entrySource := "import \"./card\""
      files := .ofList [("broken.js", "let = ;"), ("card.js", "export const card = 1;")] }
    let s : Request := { r with
      files := .ofList [("App.tsx", "old"), ("card.js", "export const card = 1;"), ("notes", "")] }
    ∃ o o', Builder.standard.build r = .ok o ∧ Builder.standard.build s = .ok o' ∧
      o'.payload = o.payload ∧ o.report.skipped.map (·.1) = ["broken.js"] ∧
      o'.report.skipped = [] := by
  intro r s
  obtain ⟨o, ho, skipped⟩ := exists_ok (x := Builder.standard.build r)
    (p := fun o => o.report.skipped.map (·.1) == ["broken.js"]) (by decide +kernel)
  obtain ⟨o', ho', skipped'⟩ := exists_ok (x := Builder.standard.build s)
    (p := fun o => o.report.skipped == []) (by decide +kernel)
  have files : Builder.standard.prune r.files = Builder.standard.prune s.files := by decide +kernel
  rcases build_without_trace (b := .standard) (r := r) (s := s) rfl rfl rfl files with
    ⟨e, he, -⟩ | ⟨q, q', hq, hq', payload, -⟩
  · cases ho.symm.trans he
  · cases ho.symm.trans hq
    cases ho'.symm.trans hq'
    exact ⟨o, o', ho, ho', payload, eq_of_beq skipped, eq_of_beq skipped'⟩

end LivePreview
