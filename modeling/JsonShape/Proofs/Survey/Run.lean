import Mathlib.Data.String.Basic
import JsonShape.Proofs.Schema.Acceptance
import JsonShape.Proofs.Snapshot
import JsonShape.Survey

/-!
# Runs of surveys

A survey goes step by step: it takes in a value, or several, or it is exported and resumed with other
detectors. What a value that comes and a change of detectors do not break, no step breaks, and no step
of a run fails (`Survey.Invariant.run`). `Survey.Covering s seen` is such an invariant: the shape is
well-formed and covers all that has been seen, and the values have been counted, in 64 bits. So the schema that is
rendered at the end of a run accepts every value that was observed on the way (`run_accepts`).
-/

set_option autoImplicit false

namespace JsonShape

namespace Survey

/-- One step of a run. -/
inductive Step where
  | observe (value : Json)
  | observeAll (values : List Json)
  /-- The survey is exported, and resumed with other formats to look for. -/
  | resume (detectors : Detectors)

/-- A survey after one step. -/
def step (s : Survey) : Step → Except Failure Survey
  | .observe v => .ok (s.observe v)
  | .observeAll values => .ok (s.observeAll values)
  | .resume d => Survey.resume d s.snapshot

/-- A survey after several steps, unless one fails. -/
def run (s : Survey) : List Step → Except Failure Survey
  | [] => .ok s
  | step :: rest => do
    let s ← s.step step
    s.run rest

/-- The values that a step takes in. -/
def Step.values : Step → List Json
  | observe v => [v]
  | observeAll values => values
  | resume _ => []

/-- The values that steps take in, in order. -/
def observed (steps : List Step) : List Json := steps.flatMap Step.values

/-! ## Invariants -/

/-- A survey is resumed from its snapshot as it was. -/
theorem resume_snapshot {s : Survey} (d : Detectors) (sound : s.shape.Sound) :
    Survey.resume d s.snapshot = .ok { s with detectors := d } := by
  rw [Survey.resume, Snapshot.validate_of_sound rfl sound]
  rfl

/-- What a survey and the values that it has seen keep to: the shape is sound, and neither a value that
comes nor a change of what is looked for breaks it. -/
structure Invariant (Inv : Survey → List Json → Prop) : Prop where
  sound : ∀ {s : Survey} {seen : List Json}, Inv s seen → s.shape.Sound
  observe : ∀ {s : Survey} {seen : List Json} {v : Json}, Inv s seen → v.Canonical →
    Inv (s.observe v) (seen ++ [v])
  detectors : ∀ {s : Survey} {seen : List Json} (d : Detectors), Inv s seen →
    Inv { s with detectors := d } seen

section
variable {Inv : Survey → List Json → Prop} (keeps : Invariant Inv) {s : Survey} {seen : List Json}
include keeps

theorem Invariant.observeAll (h : Inv s seen) {values : List Json}
    (hv : ∀ v ∈ values, v.Canonical) : Inv (s.observeAll values) (seen ++ values) := by
  induction values generalizing s seen with
  | nil => rwa [List.append_nil]
  | cons v values ih =>
    rw [List.forall_mem_cons] at hv
    have := ih (keeps.observe h hv.1) hv.2
    rwa [List.append_assoc] at this

/-- No step fails, and each keeps the invariant. -/
theorem Invariant.step (h : Inv s seen) {st : Step} (hv : ∀ v ∈ st.values, v.Canonical) :
    ∃ r, s.step st = .ok r ∧ Inv r (seen ++ st.values) := by
  cases st with
  | observe v => exact ⟨_, rfl, keeps.observe h (hv v List.mem_cons_self)⟩
  | observeAll values => exact ⟨_, rfl, keeps.observeAll h hv⟩
  | resume d =>
    refine ⟨_, resume_snapshot d (keeps.sound h), ?_⟩
    rw [Step.values, List.append_nil]
    exact keeps.detectors d h

/-- No run fails, and each keeps the invariant. -/
theorem Invariant.run (h : Inv s seen) {steps : List Step}
    (hv : ∀ v ∈ observed steps, v.Canonical) :
    ∃ r, s.run steps = .ok r ∧ Inv r (seen ++ observed steps) := by
  induction steps generalizing s seen with
  | nil => exact ⟨s, rfl, by rwa [observed, List.flatMap_nil, List.append_nil]⟩
  | cons st steps ih =>
    rw [observed, List.flatMap_cons, List.forall_mem_append] at hv
    obtain ⟨r, hr, hi⟩ := keeps.step h hv.1
    obtain ⟨r', hr', hi'⟩ := ih hi hv.2
    refine ⟨r', ?_, ?_⟩
    · rw [Survey.run, hr]
      exact hr'
    · rwa [observed, List.flatMap_cons, ← List.append_assoc]

end

/-! ## Covering -/

/-- The shape of a survey covers what it has seen. -/
structure Covering (s : Survey) (seen : List Json) : Prop where
  wellFormed : s.shape.WellFormed
  covers : ∀ v ∈ seen, Shape.Covers v s.shape
  count : s.observations = .ofNat seen.length

theorem covering_start (d : Detectors) : (start d).Covering [] :=
  ⟨Shape.wellFormed_unknown, by simp, rfl⟩

theorem invariant_covering : Invariant Covering where
  sound h := h.wellFormed.sound
  observe {s seen v} h hv := by
    refine ⟨Shape.wellFormed_absorb _ v hv h.wellFormed, fun w hw => ?_, ?_⟩
    · rcases List.mem_append.1 hw with hw | hw
      · exact Shape.covers_absorb _ w h.wellFormed (h.covers w hw) hv
      · rw [List.mem_singleton.1 hw]
        exact Shape.covers_absorb_self _ v hv h.wellFormed
    · rw [List.length_append, List.length_singleton, UInt64.ofNat_add, ← h.count]
      rfl
  detectors _ h := ⟨h.wellFormed, h.covers, h.count⟩

theorem Covering.run {s : Survey} {seen : List Json} (h : s.Covering seen) {steps : List Step}
    (hv : ∀ v ∈ observed steps, v.Canonical) :
    ∃ r, s.run steps = .ok r ∧ r.Covering (seen ++ observed steps) :=
  invariant_covering.run h hv

/-! ## Soundness -/

/-- A run from nothing does not fail, and what is rendered at its end, with any options, accepts every
value that was observed, whatever formats were looked for on the way. -/
theorem run_accepts (d : Detectors) (steps : List Step)
    (hv : ∀ v ∈ observed steps, v.Canonical) :
    ∃ s, (start d).run steps = .ok s ∧ s.observations = .ofNat (observed steps).length ∧
      ∀ options, ∀ v ∈ observed steps,
        (s.render options).accepts TextFormat.asserts v = true := by
  obtain ⟨s, hs, hc⟩ := (covering_start d).run hv
  rw [List.nil_append] at hc
  exact ⟨s, hs, hc.count, fun options v hm =>
    Shape.accepts_document options hc.wellFormed (hc.covers v hm)⟩

/-- A run with two kinds of values, and formats looked for only after the first. -/
theorem run_accepts_mixed :
    (∀ v ∈ observed [.observe (.array [.null]), .resume .all, .observe (.string "")],
      v.Canonical) ∧
    ∃ s, (start .none).run [.observe (.array [.null]), .resume .all, .observe (.string "")] =
        .ok s ∧ s.observations = 2 ∧
      ∀ options, ∀ v ∈ [Json.array [.null], .string ""],
        (s.render options).accepts TextFormat.asserts v = true := by
  have canonical : ∀ v ∈ observed
      [.observe (.array [.null]), .resume .all, .observe (.string "")], v.Canonical := by
    simp [observed, Step.values, Json.Canonical, Json.CanonicalItems]
  exact ⟨canonical, run_accepts .none _ canonical⟩

end Survey

end JsonShape
