import JsonShape.Proofs.CommandLine.Effects
import JsonShape.Proofs.Json.Reading

/-!
# Files that a run leaves as they are

A run of `infer` ends in one of four ways (`InferEnd`). One that fails leaves every file as it was but
for the one beside the place of the snapshot, and that one too, unless it can be written and the
snapshot's own place cannot be a file's (`Invocation.files_of_infer_error`). One that gives an output
leaves every file as it was but for the one at the place of the snapshot and the one beside it, which is
gone (`Invocation.files_of_infer_ok`). So a failing run can leave a file over (`infer_error_leaves_file`),
and another run can lose a file that has nothing to do with the snapshot but its name
(`infer_ok_loses_file`).
-/

set_option autoImplicit false

namespace JsonShape

open Run

variable {here : List String}

/-! ## The ends of a run -/

/-- The result of a run of `infer`, and the directory that it leaves. -/
inductive InferEnd (i : Invocation) (request : InferRequest) (d : Directory here)
    (input : Option String) : Except Failure String → Directory here → Prop where
  /-- Nothing has been changed when the failure comes. -/
  | failed (failure : Failure) : InferEnd i request d input (.error failure) d
  /-- The snapshot has been written beside its place and cannot be moved there. -/
  | leftOver {path old : String} (survey : Survey) (save : request.save = some path)
      (beside : d.filePlace? (temporaryPath path) = some old) (place : d.filePlace? path = none) :
      InferEnd i request d input (.error .fileAccess)
        ⟨Entries.insert old (.text survey.snapshot.toText) d.files⟩
  | shown {settings : Settings} {survey : Survey} (save : request.save = none)
      (prepared : (prepare (d.still input) i.config request).run.run = .ok (settings, survey)) :
      InferEnd i request d input (.ok (inferOutput i request settings survey)) d
  | saved {settings : Settings} {survey : Survey} {path old new : String}
      (save : request.save = some path)
      (prepared : (prepare (d.still input) i.config request).run.run = .ok (settings, survey))
      (beside : d.filePlace? (temporaryPath path) = some old)
      (place : d.filePlace? path = some new) :
      InferEnd i request d input (.ok (inferOutput i request settings survey))
        (d.replaced old new (.text survey.snapshot.toText))

section
variable {i : Invocation} {request : InferRequest} (command : i.command = .infer request)
  {d d' : Directory here} {input : Option String}
include command

theorem inferEnd_of_run {r : Except Failure String}
    (run : (i.run (Directory.disk input)).run.run d = (r, d')) : InferEnd i request d input r d' := by
  rw [Invocation.run_infer command] at run
  cases prepared : (prepare (d.still input) i.config request).run.run with
  | error failure =>
    rw [prepared] at run
    cases run
    exact .failed failure
  | ok both =>
    obtain ⟨settings, survey⟩ := both
    rw [prepared] at run
    cases save : request.save with
    | none =>
      simp only [save] at run
      cases run
      exact .shown save prepared
    | some path =>
      simp only [save, run_save_of_places] at run
      cases beside : d.filePlace? (temporaryPath path) with
      | none =>
        rw [beside] at run
        cases run
        exact .failed .fileAccess
      | some old =>
        cases place : d.filePlace? path with
        | none =>
          rw [beside, place] at run
          cases run
          exact .leftOver survey save beside place
        | some new =>
          rw [beside, place] at run
          cases run
          exact .saved save prepared beside place

end

/-! ## Runs on a truth value -/

/-- Asks for the schema of a document that is a truth value, and for a snapshot. -/
def truthRequest (save : String) : InferRequest :=
  ⟨["a.json"], none, none, false, none, some save, .bare⟩

/-- The snapshot of a truth value, as a text. -/
def truthText : String := (Snapshot.mk 1 1 .boolean).toText

/-- What comes of that is settled by the two places. -/
theorem run_truth {d : Directory here} (look : d.look "a.json" = .text "true") (path : String) :
    ((Invocation.mk none false false (.infer (truthRequest path))).run
        (Directory.disk none)).run.run d =
      match d.filePlace? (temporaryPath path), d.filePlace? path with
      | none, _ => (.error .fileAccess, d)
      | some old, none => (.error .fileAccess, ⟨Entries.insert old (.text truthText) d.files⟩)
      | some old, some new =>
        (.ok "\x7b\"type\":\"boolean\"\x7d\n", d.replaced old new (.text truthText)) := by
  have decodes : ∀ path ∈ (truthRequest path).files,
      Decodes d (Settings.standard).input path [.bool true] := by
    intro path hp
    rw [List.mem_singleton.1 hp]
    have parsed : Json.read? "true" = some (.bool true) := Json.read?_pretty (.bool true)
    refine ⟨"true", look, ?_⟩
    simp only [Records.decode, Settings.standard, InputSettings.whole, Records.ofJson, parsed]
    rfl
  have gathered : (gather (d.still none) .standard (truthRequest path)).run.run =
      .ok ((Survey.start .all).observeAll (["a.json"].flatMap fun _ => [.bool true])) :=
    run_gather .fresh (List.cons_ne_nil _ _) decodes
  have chosen : (chooseSettings (d.still none) none (truthRequest path)).run.run =
      .ok .standard := rfl
  have prepared : (prepare (d.still none) none (truthRequest path)).run.run =
      .ok (.standard, ⟨.all, .boolean, 1⟩) := run_prepare chosen gathered
  rw [Invocation.run_infer rfl, prepared]
  simp only [truthRequest, run_save_of_places]
  cases d.filePlace? (temporaryPath path) with
  | none => rfl
  | some old => cases d.filePlace? path <;> rfl

/-! ## Runs that fail -/

section
variable {i : Invocation} {request : InferRequest} (command : i.command = .infer request)
  {d d' : Directory here} {input : Option String}
include command

/-- A run that fails changes nothing if the snapshot's place can be a file's whenever the one beside it
can, and never another file than that one. -/
theorem Invocation.files_of_infer_error {failure : Failure}
    (run : (i.run (Directory.disk input)).run.run d = (.error failure, d')) :
    ((∀ path ∈ request.save, (d.filePlace? (temporaryPath path)).isSome = true →
        (d.filePlace? path).isSome = true) → d' = d) ∧
      ∀ name, (∀ path ∈ request.save, d.filePlace? (temporaryPath path) ≠ some name) →
        Entries.get? name d'.files = Entries.get? name d.files := by
  cases inferEnd_of_run command run with
  | failed failure => exact ⟨fun _ => rfl, fun _ _ => rfl⟩
  | leftOver survey save beside place =>
    constructor
    · intro movable
      have some := movable _ save (by rw [beside]; rfl)
      rw [place] at some
      cases some
    · intro name apart
      have other := apart _ save
      rw [beside, ne_eq, Option.some.injEq] at other
      rw [Entries.get?_insert, if_neg other]

end

/-- The second file is missing, and nothing is changed. -/
theorem files_of_infer_error_missing :
    let d : Directory := ⟨[("a.json", .text "true")]⟩
    let i : Invocation := ⟨none, false, false,
      .infer ⟨["a.json", "b.json"], none, none, false, none, some "s.json", .bare⟩⟩
    let ended := (i.run (Directory.disk none)).run.run d
    ended.1 = .error (.fileNotFound "b.json") ∧ ended.2 = d ∧
      Entries.get? "a.json" ended.2.files = some (.text "true") := by
  intro d i ended
  have failed : ended.1 = .error (.fileNotFound "b.json") := by
    change ((i.run (Directory.disk none)).run.run d).1 = _
    rw [Invocation.run_infer rfl]
    rfl
  have run : (i.run (Directory.disk none)).run.run d = (.error (.fileNotFound "b.json"), ended.2) :=
    Prod.ext failed rfl
  have movable : ∀ path ∈ some "s.json", (d.filePlace? (temporaryPath path)).isSome = true →
      (d.filePlace? path).isSome = true := by
    rintro path hp -
    rw [← Option.mem_some_iff.1 hp]
    decide +kernel
  have apart : ∀ path ∈ some "s.json", d.filePlace? (temporaryPath path) ≠ some "a.json" := by
    intro path hp
    rw [← Option.mem_some_iff.1 hp]
    decide +kernel
  exact ⟨failed, (Invocation.files_of_infer_error rfl run).1 movable,
    (Invocation.files_of_infer_error rfl run).2 "a.json" apart⟩

/-- A snapshot is to be kept at the path of a folder. -/
theorem infer_error_leaves_file :
    let d : Directory := ⟨[("a.json", .text "true"), ("d/x", .text "")]⟩
    ((Invocation.mk none false false (.infer (truthRequest "d"))).run
        (Directory.disk none)).run.run d =
        (.error .fileAccess,
          ⟨[("a.json", .text "true"), ("d.tmp", .text truthText), ("d/x", .text "")]⟩) ∧
      Entries.get? "d.tmp" d.files = none := by
  intro d
  have look : d.look "a.json" = .text "true" := by decide +kernel
  have beside : d.filePlace? (temporaryPath "d") = some "d.tmp" := by decide +kernel
  have place : d.filePlace? "d" = none := by decide +kernel
  refine ⟨?_, rfl⟩
  rw [run_truth look, beside, place]
  rfl

/-! ## Runs that give an output -/

section
variable {i : Invocation} {request : InferRequest} (command : i.command = .infer request)
  {d d' : Directory here} {input : Option String}
include command

/-- A run that gives an output changes nothing without a place for a snapshot, and with one it leaves
all files but the snapshot as they were and the one beside it, which is gone. -/
theorem Invocation.files_of_infer_ok {out : String}
    (run : (i.run (Directory.disk input)).run.run d = (.ok out, d')) :
    (request.save = none → d' = d) ∧
      ∀ path ∈ request.save, ∃ settings survey old new,
        (prepare (d.still input) i.config request).run.run = .ok (settings, survey) ∧
        d.filePlace? path = some new ∧ d.filePlace? (temporaryPath path) = some old ∧
        Entries.get? new d'.files = some (.text survey.snapshot.toText) ∧
        (old ≠ new → Entries.get? old d'.files = none) ∧
        ∀ name, name ≠ new → name ≠ old →
          Entries.get? name d'.files = Entries.get? name d.files := by
  cases inferEnd_of_run command run with
  | shown save prepared => exact ⟨fun _ => rfl, fun _ hp => nomatch save.symm.trans hp⟩
  | saved save prepared beside place =>
    refine ⟨fun none => (nomatch save.symm.trans none), fun path hp => ?_⟩
    cases save.symm.trans hp
    refine ⟨_, _, _, _, prepared, place, beside, ?_, fun other => ?_, fun name hn ho => ?_⟩
    · rw [Directory.get?_files_replaced, if_pos rfl]
    · rw [Directory.get?_files_replaced, if_neg other.symm, if_pos rfl]
    · rw [Directory.get?_files_replaced, if_neg hn.symm, if_neg ho.symm]

end

/-- Another file is left as it is. -/
theorem files_of_infer_ok_other :
    let d : Directory := ⟨[("a.json", .text "true"), ("b.json", .text "null")]⟩
    let i : Invocation := ⟨none, false, false, .infer (truthRequest "s.json")⟩
    ∃ out d', (i.run (Directory.disk none)).run.run d = (.ok out, d') ∧
      Entries.get? "s.json" d'.files ≠ none ∧
      Entries.get? "b.json" d'.files = some (.text "null") := by
  intro d i
  have look : d.look "a.json" = .text "true" := by decide +kernel
  have beside : d.filePlace? (temporaryPath "s.json") = some "s.tmp" := by decide +kernel
  have place : d.filePlace? "s.json" = some "s.json" := by decide +kernel
  have run := run_truth look "s.json"
  rw [beside, place] at run
  obtain ⟨_, survey, old, new, -, place', beside', text, -, others⟩ :=
    (Invocation.files_of_infer_ok rfl run).2 "s.json" rfl
  cases place.symm.trans place'
  cases beside.symm.trans beside'
  refine ⟨_, _, run, fun none => ?_, others "b.json" (by decide) (by decide)⟩
  rw [none] at text
  cases text

/-- A file that has the name of the one beside the snapshot is lost. -/
theorem infer_ok_loses_file :
    let d : Directory := ⟨[("a.json", .text "true"), ("s.tmp", .text "old")]⟩
    ((Invocation.mk none false false (.infer (truthRequest "s.json"))).run
        (Directory.disk none)).run.run d =
        (.ok "\x7b\"type\":\"boolean\"\x7d\n",
          ⟨[("a.json", .text "true"), ("s.json", .text truthText)]⟩) := by
  intro d
  have look : d.look "a.json" = .text "true" := by decide +kernel
  have beside : d.filePlace? (temporaryPath "s.json") = some "s.tmp" := by decide +kernel
  have place : d.filePlace? "s.json" = some "s.json" := by decide +kernel
  rw [run_truth look, beside, place]
  rfl

end JsonShape
