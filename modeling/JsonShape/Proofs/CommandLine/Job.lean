import JsonShape.Proofs.CommandLine.Effects
import JsonShape.Proofs.CommandLine.Temporary

/-!
# Jobs done in several runs

A job takes in files and keeps a snapshot. Done in several runs, one for each group of the files, where
each but the first goes on from the snapshot of the one before, it ends with the same output and the same
directory as in one run over all files, and rendering the snapshot gives that output once more
(`Job.run_inferGroups`). One run takes the directory from one snapshot to the next (`Job.run_infer`), and
by induction so do any number of runs (`Job.run_resumeGroups`).
-/

set_option autoImplicit false

namespace JsonShape

open Run

variable {here : List String}

/-- What the runs of a job have in common. -/
structure Job where
  config : Option String
  pretty : Bool
  verbose : Bool
  form : Option InputForm
  recordPath : Option String
  splitArrays : Bool
  rendering : RenderOptions
  /-- Where the snapshot is kept. -/
  place : String

namespace Job

variable (job : Job)

/-- What is asked of one run. -/
def request (origin : Option String) (files : List String) : InferRequest :=
  ⟨files, job.form, job.recordPath, job.splitArrays, origin, some job.place, job.rendering⟩

/-- A run that takes in files, from nothing or from a snapshot on. -/
def infer (origin : Option String) (files : List String) : Invocation :=
  ⟨job.config, job.pretty, job.verbose, .infer (job.request origin files)⟩

/-- A run that renders the snapshot. -/
def render : Invocation := ⟨job.config, job.pretty, job.verbose, .render job.place job.rendering⟩

section
variable {m : Type → Type} [Monad m]

/-- Runs that go on from the snapshot, for one group of files after another. Gives the output of the last
one, or what has been given before. -/
def resumeGroups (disk : Disk m) (out : String) : List (List String) → ExceptT Failure m String
  | [] => pure out
  | files :: groups => do
    let out ← (job.infer (some job.place) files).run disk
    resumeGroups disk out groups

/-- Runs for one group of files after another, of which only the first starts from nothing. Gives the
output of the last one. -/
def inferGroups (disk : Disk m) : List (List String) → ExceptT Failure m String
  | [] => pure ""
  | files :: groups => do
    let out ← (job.infer none files).run disk
    job.resumeGroups disk out groups

end

/-- The settings that the runs go by, where some are kept in a file. -/
def settings (kept : Settings) : Settings := override (job.request none []) kept

/-- What a run writes of a survey. -/
def output (kept : Settings) (survey : Survey) : String :=
  Run.output job.pretty (survey.render (combine kept.rendering job.rendering)).toJson

/-! ## What has been saved -/

/-- What has been saved after some of the groups can be read back. -/
theorem reload_take {d : Directory here} {settings : InputSettings} {detectors : Detectors}
    {records : String → List Json} {groups : List (List String)}
    (decodes : ∀ path ∈ groups.flatten, Decodes d settings path (records path)) {n : Nat}
    (shallow : ((Survey.start detectors).observeAll
      ((groups.take n).flatten.flatMap records)).snapshot.toJson.nesting < 128)
    (faithful : ((Survey.start detectors).observeAll
      ((groups.take n).flatten.flatMap records)).shape.Faithful) :
    ((Survey.start detectors).observeAll ((groups.take n).flatten.flatMap records)).reload detectors =
      .ok ((Survey.start detectors).observeAll ((groups.take n).flatten.flatMap records)) := by
  refine Survey.reload_observeAll detectors (fun v hv => ?_) shallow faithful
  obtain ⟨path, hp, hv⟩ := List.mem_flatMap.1 hv
  obtain ⟨files, hfiles, hp⟩ := List.mem_flatten.1 hp
  have given : path ∈ groups.flatten := List.mem_flatten.2 ⟨files, List.mem_of_mem_take hfiles, hp⟩
  obtain ⟨text, -, decoded⟩ := decodes path given
  exact Records.canonical_of_decode decoded v hv

/-! ## Directories for a job -/

/-- A file is not one of two. -/
def Apart (d : Directory here) (old new path : String) : Prop :=
  ∀ place ∈ d.place? path, place.1 ≠ old ∧ place.1 ≠ new

/-- A directory in which the job's settings are kept, and where every save succeeds: the place of the
snapshot and the one beside it can be files', which are not the file of the settings. -/
structure Ready (d : Directory here) (input : Option String) (kept : Settings) (old new : String) :
    Prop where
  read : (readSettings (d.still input) job.config).run.run = .ok kept
  valid : (job.settings kept).validate = .ok ()
  place : d.filePlace? job.place = some new
  beside : d.filePlace? (temporaryPath job.place) = some old
  apart : ∀ path ∈ job.config, Apart d old new path

section
variable {job} {d : Directory here} {input : Option String} {kept : Settings} {old new : String}
  (ready : job.Ready d input kept old new)
include ready

/-- What is not the snapshot's is found as before. -/
theorem Ready.look_replaced {path : String} (apart : Apart d old new path) (content : Content) :
    (d.replaced old new content).look path = d.look path := by
  have folders := Directory.sameFolders_replaced ready.place ready.beside content
  refine (folders.look fun place hp => ?_).symm
  obtain ⟨ho, hn⟩ := apart place hp
  rw [Directory.get?_files_replaced, if_neg hn.symm, if_neg ho.symm]

theorem Ready.look_place (text : String) :
    (d.replaced old new (.text text)).look job.place = .text text := by
  have folders := Directory.sameFolders_replaced ready.place ready.beside (.text text)
  have place := ready.place
  rw [folders.filePlace?] at place
  rw [Directory.look_of_filePlace? place, Directory.get?_files_replaced, if_pos rfl]
  rfl

/-- Once a snapshot has been saved, the directory is as ready as before. -/
theorem Ready.replaced (content : Content) :
    job.Ready (d.replaced old new content) input kept old new := by
  have folders := Directory.sameFolders_replaced ready.place ready.beside content
  refine ⟨?_, ready.valid, ?_, ?_, fun path hp place found => ?_⟩
  · have read := ready.read
    cases config : job.config with
    | none =>
      rw [config] at read
      exact read
    | some path =>
      rw [config, run_readSettings] at read
      rw [run_readSettings, ready.look_replaced (ready.apart path config)]
      exact read
  · rw [← folders.filePlace?]
    exact ready.place
  · rw [← folders.filePlace?]
    exact ready.beside
  · rw [← folders.place?] at found
    exact ready.apart path hp place found

/-! ## One run -/

/-- A run takes its files into the survey that it starts from, and saves the snapshot. -/
theorem run_infer {origin : Option String} {start : Survey}
    (begins : Begins d input kept.detectors origin start) {files : List String}
    (some : files ≠ []) {records : String → List Json}
    (decodes : ∀ path ∈ files, Decodes d (job.settings kept).input path (records path)) :
    ((job.infer origin files).run (Directory.disk input)).run.run d =
      (.ok (job.output kept (start.observeAll (files.flatMap records))),
        d.replaced old new (.text (start.observeAll (files.flatMap records)).snapshot.toText)) := by
  have gathered : (gather (d.still input) (job.settings kept) (job.request origin files)).run.run =
      .ok (start.observeAll (files.flatMap records)) := run_gather begins some decodes
  have prepared :
      (prepare (d.still input) (job.infer origin files).config (job.request origin files)).run.run =
        .ok (job.settings kept, start.observeAll (files.flatMap records)) :=
    run_prepare (run_chooseSettings ready.read ready.valid) gathered
  rw [Invocation.run_infer rfl, prepared]
  simp only [request, run_save_of_places, ready.beside, ready.place]
  rfl

/-! ## Several runs -/

/-- Runs that go on from the snapshot of a survey take their files into it, group by group. -/
theorem run_resumeGroups {records : String → List Json} {groups : List (List String)}
    (each : ∀ files ∈ groups, files ≠ [])
    (decodes : ∀ path ∈ groups.flatten, Decodes d (job.settings kept).input path (records path))
    (apart : ∀ path ∈ groups.flatten, Apart d old new path) {survey : Survey}
    (reloads : ∀ n < groups.length,
      (survey.observeAll ((groups.take n).flatten.flatMap records)).reload kept.detectors =
        .ok (survey.observeAll ((groups.take n).flatten.flatMap records))) :
    (job.resumeGroups (Directory.disk input) (job.output kept survey) groups).run.run
        (d.replaced old new (.text survey.snapshot.toText)) =
      (.ok (job.output kept (survey.observeAll (groups.flatten.flatMap records))),
        d.replaced old new
          (.text (survey.observeAll (groups.flatten.flatMap records)).snapshot.toText)) := by
  induction groups generalizing survey with
  | nil => rfl
  | cons files groups ih =>
    have begins : Begins (d.replaced old new (.text survey.snapshot.toText)) input kept.detectors
        (some job.place) survey :=
      .resumed (run_resume (ready.look_place survey.snapshot.toText) (reloads 0 (Nat.zero_lt_succ _)))
    have there : ∀ path ∈ files, Decodes (d.replaced old new (.text survey.snapshot.toText))
        (job.settings kept).input path (records path) := by
      intro path hp
      have hp := List.mem_append_left groups.flatten hp
      obtain ⟨text, look, decoded⟩ := decodes path hp
      exact ⟨text, (ready.look_replaced (apart path hp) _).trans look, decoded⟩
    have first := run_infer (ready.replaced _) begins (each files List.mem_cons_self) there
    rw [Directory.replaced_replaced] at first
    rw [resumeGroups, run_bind, first, List.flatten_cons, List.flatMap_append,
      Survey.observeAll_append]
    refine ih (fun group hg => each group (List.mem_cons_of_mem _ hg))
      (fun path hp => decodes path (List.mem_append_right _ hp))
      (fun path hp => apart path (List.mem_append_right _ hp)) fun n hn => ?_
    have := reloads (n + 1) (Nat.succ_lt_succ hn)
    rwa [List.take_succ_cons, List.flatten_cons, List.flatMap_append, Survey.observeAll_append]
      at this

/-- The output is what rendering the snapshot gives. -/
theorem run_render {survey : Survey} (reload : survey.reload kept.detectors = .ok survey) :
    (job.render.run (Directory.disk input)).run.run
        (d.replaced old new (.text survey.snapshot.toText)) =
      (.ok (job.output kept survey), d.replaced old new (.text survey.snapshot.toText)) := by
  have read := (ready.replaced (.text survey.snapshot.toText)).read
  have resumed : (resume ((d.replaced old new (.text survey.snapshot.toText)).still input)
      kept.detectors job.place).run.run = .ok survey :=
    run_resume (ready.look_place survey.snapshot.toText) reload
  have run := Invocation.run_render (i := job.render) rfl
    (d.replaced old new (.text survey.snapshot.toText)) input
  have config : job.render.config = job.config := rfl
  simp only [config, read, resumed] at run
  exact run

/-- A job comes to the same in one run over all files as in several runs over groups of them, of which
each but the first goes on from the snapshot of the one before: the same output, and the same directory
with the same text in place of the snapshot. Rendering that gives the output once more. What is saved after
each group must not nest too deep, and the ends of its ranges must be read back. -/
theorem run_inferGroups {groups : List (List String)} (some : groups ≠ [])
    (each : ∀ files ∈ groups, files ≠ []) {records : String → List Json}
    (decodes : ∀ path ∈ groups.flatten, Decodes d (job.settings kept).input path (records path))
    (apart : ∀ path ∈ groups.flatten, Apart d old new path)
    (shallow : ∀ n < groups.length, ((Survey.start kept.detectors).observeAll
      ((groups.take (n + 1)).flatten.flatMap records)).snapshot.toJson.nesting < 128)
    (faithful : ∀ n < groups.length, ((Survey.start kept.detectors).observeAll
      ((groups.take (n + 1)).flatten.flatMap records)).shape.Faithful) :
    ∃ out text e,
      (job.inferGroups (Directory.disk input) groups).run.run d = (.ok out, e) ∧
      ((job.infer none groups.flatten).run (Directory.disk input)).run.run d = (.ok out, e) ∧
      e.look job.place = .text text ∧
      (job.render.run (Directory.disk input)).run.run e = (.ok out, e) := by
  have reloads := fun n hn => reload_take decodes (shallow n hn) (faithful n hn)
  cases groups with
  | nil => exact absurd rfl some
  | cons files groups =>
    have first := run_infer ready .fresh (each files List.mem_cons_self) fun path hp =>
      decodes path (List.mem_append_left _ hp)
    have rest := run_resumeGroups ready (fun group hg => each group (List.mem_cons_of_mem _ hg))
      (fun path hp => decodes path (List.mem_append_right _ hp))
      (fun path hp => apart path (List.mem_append_right _ hp)) fun n hn => by
        have := reloads n (Nat.lt_succ_of_lt hn)
        rwa [List.take_succ_cons, List.flatten_cons, List.flatMap_append, Survey.observeAll_append]
          at this
    rw [← Survey.observeAll_append, ← List.flatMap_append] at rest
    have whole := run_infer ready .fresh
      (List.append_ne_nil_of_left_ne_nil (each files List.mem_cons_self) groups.flatten) decodes
    have last := reloads groups.length (Nat.lt_succ_self _)
    rw [List.take_succ_cons, List.take_length] at last
    refine ⟨_, _, _, ?_, whole, ready.look_place _, run_render ready last⟩
    rw [inferGroups, run_bind, first]
    exact rest

end

/-- Two files in two runs. -/
theorem run_inferGroups_of_two :
    let d : Directory := ⟨[("a.json", .text "true\n\n[null]"), ("b.json", .text "null")]⟩
    let job : Job := ⟨none, false, false, some .jsonLines, none, false, .bare, "s.json"⟩
    let groups := [["a.json"], ["b.json"]]
    job.Ready d none .standard "s.tmp" "s.json" ∧
      ∃ out text e,
        (job.inferGroups (Directory.disk none) groups).run.run d = (.ok out, e) ∧
        ((job.infer none groups.flatten).run (Directory.disk none)).run.run d = (.ok out, e) ∧
        e.look "s.json" = .text text ∧
        (job.render.run (Directory.disk none)).run.run e = (.ok out, e) := by
  intro d job groups
  have ready : job.Ready d none .standard "s.tmp" "s.json" :=
    { read := rfl
      valid := rfl
      place := by decide +kernel
      beside := by decide +kernel
      apart := fun _ h => nomatch h }
  let records (path : String) : List Json :=
    if path = "a.json" then [.bool true, .array [.null]] else [.null]
  have decodes : ∀ path ∈ groups.flatten,
      Decodes d (job.settings .standard).input path (records path) := by
    intro path hp
    rcases List.mem_pair.1 hp with rfl | rfl
    · exact ⟨"true\n\n[null]", by decide +kernel, rfl⟩
    · exact ⟨"null", by decide +kernel, rfl⟩
  have apart : ∀ path ∈ groups.flatten, Apart d "s.tmp" "s.json" path := by
    intro path hp
    rcases List.mem_pair.1 hp with rfl | rfl
    · have place : d.place? "a.json" = some ("a.json", false) := by decide +kernel
      rw [Apart, place]
      decide
    · have place : d.place? "b.json" = some ("b.json", false) := by decide +kernel
      rw [Apart, place]
      decide
  have shallow : ∀ n < groups.length, ((Survey.start Settings.standard.detectors).observeAll
      ((groups.take (n + 1)).flatten.flatMap records)).snapshot.toJson.nesting < 128 := by decide
  have faithful : ∀ n < groups.length, ((Survey.start Settings.standard.detectors).observeAll
      ((groups.take (n + 1)).flatten.flatMap records)).shape.Faithful := by decide
  exact ⟨ready, run_inferGroups ready (by decide) (by decide) decodes apart shallow faithful⟩

end Job

end JsonShape
