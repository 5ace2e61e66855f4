import Mathlib.Data.String.Basic
import JsonShape.CommandLine.Run
import JsonShape.Proofs.Directory.Saving
import JsonShape.Proofs.Survey.Reload

/-!
# What a run does to a directory

All that `infer` does before it saves a snapshot only looks at the directory, so it does what it would
do if nothing could be changed (`Looks`, `Run.prepare`). What comes then is one of a few cases
(`Invocation.run_infer`): a failure before anything is changed, an output and no change, or a snapshot
saved, which is a text written beside its place and then, if that can be done, moved there
(`run_save`).
-/

set_option autoImplicit false

namespace JsonShape

variable {here : List String}

/-- Access to a directory in which nothing can be changed. -/
def Directory.still (d : Directory here) (input : Option String) : Disk Id where
  look path := d.look path
  write _ _ := false
  move _ _ := false
  input := input

namespace Run

/-! ## Actions that only look -/

section
variable {α β : Type}

/-- What a step that follows another one starts from. -/
theorem run_bind (a : ExceptT Failure (StateM (Directory here)) α)
    (f : α → ExceptT Failure (StateM (Directory here)) β) (d : Directory here) :
    (a >>= f).run.run d =
      match a.run.run d with
      | (.ok x, e) => (f x).run.run e
      | (.error failure, e) => (.error failure, e) := by
  change (ExceptT.bindCont f (a.run.run d).1).run (a.run.run d).2 = _
  rcases a.run.run d with ⟨failure | x, e⟩ <;> rfl

/-- The same where nothing can be changed. -/
theorem run_bind_still (b : ExceptT Failure Id α) (g : α → ExceptT Failure Id β) :
    (b >>= g).run.run =
      match b.run.run with
      | .ok x => (g x).run.run
      | .error failure => .error failure := by
  change (ExceptT.bindCont g b.run.run : Id (Except Failure β)) = _
  rcases b.run.run with failure | x <;> rfl

/-- An action gives what another one gives that cannot change anything, and leaves the directory as it
is. -/
def Looks (d : Directory here) (a : ExceptT Failure (StateM (Directory here)) α)
    (b : ExceptT Failure Id α) : Prop :=
  a.run.run d = (b.run.run, d)

variable {d : Directory here}

theorem looks_result (r : Except Failure α) :
    Looks d (ExceptT.mk (pure r)) (ExceptT.mk (pure r)) := rfl

theorem looks_pure (x : α) : Looks d (pure x) (pure x) := rfl

theorem looks_throw (failure : Failure) :
    Looks d (throw failure : ExceptT Failure (StateM (Directory here)) α) (throw failure) := rfl

theorem Looks.bind {a : ExceptT Failure (StateM (Directory here)) α} {b : ExceptT Failure Id α}
    {f : α → ExceptT Failure (StateM (Directory here)) β} {g : α → ExceptT Failure Id β}
    (h : Looks d a b) (hf : ∀ x, Looks d (f x) (g x)) : Looks d (a >>= f) (b >>= g) := by
  rw [Looks, run_bind, h, run_bind_still]
  rcases b.run.run with failure | x
  · rfl
  · exact hf x

end

/-! ## Before a snapshot is saved -/

section
variable {m : Type → Type} [Monad m]

/-- All that `infer` does before it saves or writes anything. -/
def prepare (disk : Disk m) (config : Option String) (request : InferRequest) :
    ExceptT Failure m (Settings × Survey) := do
  let settings ← chooseSettings disk config request
  let survey ← gather disk settings request
  pure (settings, survey)

end

section
variable (d : Directory here) (input : Option String)

theorem looks_look (path : String) :
    Looks d (ExceptT.lift ((Directory.disk input).look path))
      (ExceptT.lift ((d.still input).look path)) := rfl

theorem looks_readText (path : String) :
    Looks d (readText (Directory.disk input) path) (readText (d.still input) path) := by
  refine (looks_look d input path).bind fun found => ?_
  cases found with
  | missing => exact looks_throw _
  | unreadable => exact looks_throw _
  | text contents => exact looks_pure contents

theorem looks_readSettings (path : Option String) :
    Looks d (readSettings (Directory.disk input) path) (readSettings (d.still input) path) := by
  cases path with
  | none => exact looks_pure _
  | some path =>
    refine (looks_look d input path).bind fun found => ?_
    cases found with
    | missing => exact looks_throw _
    | unreadable => exact looks_throw _
    | text contents => exact looks_result _

theorem looks_chooseSettings (config : Option String) (request : InferRequest) :
    Looks d (chooseSettings (Directory.disk input) config request)
      (chooseSettings (d.still input) config request) :=
  (looks_readSettings d input config).bind fun _ =>
    (looks_result _).bind fun _ => looks_pure _

theorem looks_resume (detectors : Detectors) (path : String) :
    Looks d (resume (Directory.disk input) detectors path) (resume (d.still input) detectors path) :=
  (looks_readText d input path).bind fun _ => looks_result _

theorem looks_takeInFiles (settings : InputSettings) (paths : List String) (survey : Survey) :
    Looks d (takeInFiles (Directory.disk input) settings paths survey)
      (takeInFiles (d.still input) settings paths survey) := by
  induction paths generalizing survey with
  | nil => exact looks_pure survey
  | cons path paths ih =>
    exact (looks_readText d input path).bind fun _ => (looks_result _).bind ih

theorem looks_takeInStandard (settings : InputSettings) (survey : Survey) :
    Looks d (takeInStandard (Directory.disk input) settings survey)
      (takeInStandard (d.still input) settings survey) := by
  have read : Looks d (ExceptT.lift (Directory.disk input).input)
      (ExceptT.lift (d.still input).input) := rfl
  refine read.bind fun found => ?_
  cases found with
  | none => exact looks_throw _
  | some text => exact looks_result _

theorem looks_gather (settings : Settings) (request : InferRequest) :
    Looks d (gather (Directory.disk input) settings request)
      (gather (d.still input) settings request) := by
  have taken (survey : Survey) : Looks d
      (if request.files.isEmpty then takeInStandard (Directory.disk input) settings.input survey
        else takeInFiles (Directory.disk input) settings.input request.files survey)
      (if request.files.isEmpty then takeInStandard (d.still input) settings.input survey
        else takeInFiles (d.still input) settings.input request.files survey) := by
    split
    · exact looks_takeInStandard d input settings.input survey
    · exact looks_takeInFiles d input settings.input request.files survey
  unfold gather
  cases request.resume with
  | none => exact (looks_pure (Survey.start settings.detectors)).bind taken
  | some path => exact (looks_resume d input settings.detectors path).bind taken

end

/-! ## What is read -/

section
variable {d : Directory here} {input : Option String}

theorem run_readText (path : String) : (readText (d.still input) path).run.run =
    match d.look path with
    | .missing => .error (.fileNotFound path)
    | .unreadable => .error .fileAccess
    | .text contents => .ok contents := by
  refine (run_bind_still _ _).trans ?_
  change (match d.look path with
    | .missing => throw (.fileNotFound path)
    | .unreadable => throw .fileAccess
    | .text contents => pure contents : ExceptT Failure Id String).run.run = _
  cases d.look path <;> rfl

theorem run_readSettings (path : String) : (readSettings (d.still input) (some path)).run.run =
    match d.look path with
    | .missing => .error (.fileNotFound path)
    | .unreadable => .error (.configuration "Failed to read config file")
    | .text contents => Settings.ofYaml contents := by
  refine (run_bind_still _ _).trans ?_
  change (match d.look path with
    | .missing => throw (.fileNotFound path)
    | .unreadable => throw (.configuration "Failed to read config file")
    | .text contents => ExceptT.mk (pure (Settings.ofYaml contents)) :
      ExceptT Failure Id Settings).run.run = _
  cases d.look path <;> rfl

/-- The snapshot of a survey is resumed where it is found, if it can be read back. -/
theorem run_resume {detectors : Detectors} {path : String} {survey : Survey}
    (found : d.look path = .text survey.snapshot.toText)
    (reload : survey.reload detectors = .ok survey) :
    (resume (d.still input) detectors path).run.run = .ok survey := by
  rw [resume, run_bind_still, run_readText, found]
  exact reload

/-- At a path is a text that decodes to records. -/
def Decodes (d : Directory here) (settings : InputSettings) (path : String) (records : List Json) :
    Prop :=
  ∃ text, d.look path = .text text ∧ Records.decode settings text = .ok records

/-- Files that decode are taken in, record by record. -/
theorem run_takeInFiles {settings : InputSettings} {records : String → List Json}
    {paths : List String} (decodes : ∀ path ∈ paths, Decodes d settings path (records path))
    (survey : Survey) : (takeInFiles (d.still input) settings paths survey).run.run =
      .ok (survey.observeAll (paths.flatMap records)) := by
  induction paths generalizing survey with
  | nil => rfl
  | cons path paths ih =>
    obtain ⟨text, found, decoded⟩ := decodes path List.mem_cons_self
    have taken : takeIn settings path text survey = .ok (survey.observeAll (records path)) := by
      rw [takeIn, decoded]
    rw [takeInFiles, run_bind_still, run_readText, found]
    simp only [run_bind_still, taken]
    refine (ih (fun path hp => decodes path (List.mem_cons_of_mem _ hp)) _).trans ?_
    rw [List.flatMap_cons, Survey.observeAll_append]

/-- The survey that a run starts from: one of nothing, or one that is resumed. -/
inductive Begins (d : Directory here) (input : Option String) (detectors : Detectors) :
    Option String → Survey → Prop where
  | fresh : Begins d input detectors none (Survey.start detectors)
  | resumed {path : String} {survey : Survey}
      (read : (resume (d.still input) detectors path).run.run = .ok survey) :
      Begins d input detectors (some path) survey

/-- The survey of files that decode goes on from where it starts. -/
theorem run_gather {settings : Settings} {request : InferRequest} {records : String → List Json}
    {start : Survey} (begins : Begins d input settings.detectors request.resume start)
    (some : request.files ≠ [])
    (decodes : ∀ path ∈ request.files, Decodes d settings.input path (records path)) :
    (gather (d.still input) settings request).run.run =
      .ok (start.observeAll (request.files.flatMap records)) := by
  have given : request.files.isEmpty = false := List.isEmpty_eq_false_iff.2 some
  have taken : (takeInFiles (d.still input) settings.input request.files start).run.run =
      .ok (start.observeAll (request.files.flatMap records)) := run_takeInFiles decodes start
  rw [gather]
  generalize request.resume = origin at begins
  cases begins with
  | fresh =>
    simp only [given, Bool.false_eq_true, if_false, pure_bind]
    exact taken
  | resumed read =>
    simp only [given, Bool.false_eq_true, if_false, run_bind_still, read]
    exact taken

/-- The settings that are kept are what a run goes by, if what it asks for instead is sound. -/
theorem run_chooseSettings {config : Option String} {request : InferRequest} {kept : Settings}
    (read : (readSettings (d.still input) config).run.run = .ok kept)
    (valid : (override request kept).validate = .ok ()) :
    (chooseSettings (d.still input) config request).run.run = .ok (override request kept) := by
  rw [chooseSettings, run_bind_still, read]
  change (ExceptT.mk (pure (override request kept).validate) >>= fun _ =>
    pure (override request kept) : ExceptT Failure Id Settings).run.run = _
  rw [valid]
  rfl

theorem run_prepare {config : Option String} {request : InferRequest} {settings : Settings}
    {survey : Survey}
    (chosen : (chooseSettings (d.still input) config request).run.run = .ok settings)
    (gathered : (gather (d.still input) settings request).run.run = .ok survey) :
    (prepare (d.still input) config request).run.run = .ok (settings, survey) := by
  rw [prepare, run_bind_still, chosen]
  simp only [run_bind_still, gathered]
  rfl

end

/-! ## Saving -/

/-- A change that is tried is made if it can be. -/
theorem run_change (change? : Directory here → Option (Directory here)) (d : Directory here) :
    (liftM (Directory.change change?) : ExceptT Failure (StateM (Directory here)) Bool).run.run d =
      match change? d with
      | none => (.ok false, d)
      | some e => (.ok true, e) := by
  change (Except.ok (Directory.change change? d).1, (Directory.change change? d).2) = _
  rw [Directory.change]
  cases change? d <;> rfl

/-- A snapshot is saved in two steps. If the second one cannot be made, the first one stays made. -/
theorem run_save (d : Directory here) (input : Option String) (path : String)
    (snapshot : Snapshot) :
    (save (Directory.disk input) path snapshot).run.run d =
      match d.write? (temporaryPath path) snapshot.toText with
      | none => (.error .fileAccess, d)
      | some e =>
        match e.move? (temporaryPath path) path with
        | none => (.error .fileAccess, e)
        | some f => (.ok (), f) := by
  refine (run_bind _ _ d).trans ?_
  simp only [Directory.disk]
  rw [run_change]
  cases d.write? (temporaryPath path) snapshot.toText with
  | none => rfl
  | some e =>
    simp only [Bool.not_true, Bool.false_eq_true, if_false]
    rw [run_bind, run_change]
    cases e.move? (temporaryPath path) path <;> rfl

/-- So it depends on the two places alone what saving comes to. -/
theorem run_save_of_places (d : Directory here) (input : Option String) (path : String)
    (snapshot : Snapshot) :
    (save (Directory.disk input) path snapshot).run.run d =
      match d.filePlace? (temporaryPath path), d.filePlace? path with
      | none, _ => (.error .fileAccess, d)
      | some old, none =>
        (.error .fileAccess, ⟨Entries.insert old (.text snapshot.toText) d.files⟩)
      | some old, some new => (.ok (), d.replaced old new (.text snapshot.toText)) := by
  rw [run_save]
  cases beside : d.filePlace? (temporaryPath path) with
  | none => rw [Directory.write?_eq_none_iff.2 beside]
  | some old =>
    have written : d.write? (temporaryPath path) snapshot.toText =
        some ⟨Entries.insert old (.text snapshot.toText) d.files⟩ :=
      Directory.write?_eq_some_iff.2 ⟨old, beside, rfl⟩
    rw [written]
    simp only [Directory.move?_of_write? beside written]
    cases d.filePlace? path <;> rfl

/-! ## The whole command -/

/-- What `infer` writes of a survey. -/
def inferOutput (i : Invocation) (request : InferRequest) (settings : Settings) (survey : Survey) :
    String :=
  output i.pretty (survey.render (combine settings.rendering request.rendering)).toJson

end Run

open Run in
/-- A run of `infer` fails before it has changed anything, or saves a snapshot if that is asked for and
then gives its output. -/
theorem Invocation.run_infer {i : Invocation} {request : InferRequest}
    (command : i.command = .infer request) (d : Directory here) (input : Option String) :
    (i.run (Directory.disk input)).run.run d =
      match (prepare (d.still input) i.config request).run.run with
      | .error failure => (.error failure, d)
      | .ok (settings, survey) =>
        match request.save with
        | none => (.ok (inferOutput i request settings survey), d)
        | some path =>
          match (save (Directory.disk input) path survey.snapshot).run.run d with
          | (.error failure, e) => (.error failure, e)
          | (.ok (), e) => (.ok (inferOutput i request settings survey), e) := by
  have chosen : (chooseSettings (Directory.disk input) i.config request).run.run d =
      ((chooseSettings (d.still input) i.config request).run.run, d) :=
    looks_chooseSettings d input i.config request
  have gathered (settings : Settings) : (gather (Directory.disk input) settings request).run.run d =
      ((gather (d.still input) settings request).run.run, d) :=
    looks_gather d input settings request
  rw [Invocation.run, command, Run.command, run_bind, run_bind, chosen, prepare, run_bind_still]
  cases (chooseSettings (d.still input) i.config request).run.run with
  | error failure => rfl
  | ok settings =>
    simp only [infer, run_bind, gathered, run_bind_still]
    cases (gather (d.still input) settings request).run.run with
    | error failure => rfl
    | ok survey =>
      cases request.save with
      | none => rfl
      | some path =>
        simp only [run_bind, ExceptT.run_pure, Id.run_pure]
        rcases (save (Directory.disk input) path survey.snapshot).run.run d with ⟨failure | _, e⟩
        · rfl
        · rfl

open Run in
/-- A run of `render` only looks. -/
theorem Invocation.run_render {i : Invocation} {path : String} {rendering : RenderOptions}
    (command : i.command = .render path rendering) (d : Directory here) (input : Option String) :
    (i.run (Directory.disk input)).run.run d =
      match (readSettings (d.still input) i.config).run.run with
      | .error failure => (.error failure, d)
      | .ok settings =>
        match (resume (d.still input) settings.detectors path).run.run with
        | .error failure => (.error failure, d)
        | .ok survey =>
          (.ok (output i.pretty
            (survey.render (combine settings.rendering rendering)).toJson), d) := by
  have kept : (readSettings (Directory.disk input) i.config).run.run d =
      ((readSettings (d.still input) i.config).run.run, d) := looks_readSettings d input i.config
  have resumed (settings : Settings) :
      (resume (Directory.disk input) settings.detectors path).run.run d =
        ((resume (d.still input) settings.detectors path).run.run, d) :=
    looks_resume d input settings.detectors path
  rw [Invocation.run, command, Run.command, run_bind, run_bind, kept]
  cases (readSettings (d.still input) i.config).run.run with
  | error failure => rfl
  | ok settings =>
    simp only [run_bind, resumed]
    cases (resume (d.still input) settings.detectors path).run.run <;> rfl

end JsonShape
