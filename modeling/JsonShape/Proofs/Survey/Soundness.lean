import Mathlib.Data.String.Basic
import JsonShape.Proofs.Survey.Run

/-!
# Surveys stay sound

A survey begins with nothing or with a snapshot that has passed its check. Whatever it takes in, and
however often it is exported and resumed on the way, its shape keeps all rules for shapes, so it can
always be resumed from its own snapshot, and its count grows by the values that it was given
(`sound_of_run`), as long as 64 bits hold it.
-/

set_option autoImplicit false

namespace JsonShape

namespace Survey

/-- The survey that begins with nothing, or goes on from a snapshot. -/
def begun (d : Detectors) : Option Snapshot → Except Failure Survey
  | none => .ok (start d)
  | some kept => resume d kept

/-- How many values have been counted before a survey begins. -/
def countBefore (origin : Option Snapshot) : UInt64 := origin.elim 0 Snapshot.observations

/-- The shape is well-formed, and what was seen has been added to the count before. -/
structure Sound (before : UInt64) (s : Survey) (seen : List Json) : Prop where
  wellFormed : s.shape.WellFormed
  count : s.observations = before + .ofNat seen.length

theorem Sound.toNat_count {before : UInt64} {s : Survey} {seen : List Json} (h : s.Sound before seen)
    (few : before.toNat + seen.length < 0x10000000000000000) :
    s.observations.toNat = before.toNat + seen.length := by
  have length : seen.length < UInt64.size := Nat.lt_of_le_of_lt (Nat.le_add_left _ _) few
  rw [h.count, UInt64.toNat_add, UInt64.toNat_ofNat_of_lt' length, Nat.mod_eq_of_lt few]

theorem invariant_sound (before : UInt64) : Invariant (Sound before) where
  sound h := h.wellFormed.sound
  observe {s seen v} h hv := by
    refine ⟨Shape.wellFormed_absorb _ v hv h.wellFormed, ?_⟩
    have counted : (s.observe v).observations = s.observations + 1 := rfl
    rw [counted, h.count, List.length_append, List.length_singleton, UInt64.ofNat_add,
      UInt64.add_assoc]
    rfl
  detectors _ h := ⟨h.wellFormed, h.count⟩

/-- A survey begins unless its snapshot is refused. -/
theorem sound_of_begun (d : Detectors) {origin : Option Snapshot}
    (accepted : ∀ kept ∈ origin, kept.shape.Canonical ∧ kept.validate = .ok ()) :
    ∃ s, begun d origin = .ok s ∧ s.Sound (countBefore origin) [] := by
  cases origin with
  | none => exact ⟨start d, rfl, Shape.wellFormed_unknown, rfl⟩
  | some kept =>
    obtain ⟨canonical, valid⟩ := accepted kept rfl
    refine ⟨⟨d, kept.shape, kept.observations⟩, ?_, ⟨canonical, ?_⟩, (UInt64.add_zero _).symm⟩
    · rw [begun, resume, valid]
      rfl
    · exact (Snapshot.validate_eq_ok_iff.1 valid).2

/-- A run from nothing, or from a snapshot that passes its check, does not fail. The shape that it
ends with passes the check, and so does the snapshot, and all values have been counted: exactly, if 64
bits hold the count. So it is for each value: one taken into any shape that passes the check leaves one that passes, and never one
that is unknown. -/
theorem sound_of_run (d : Detectors) (origin : Option Snapshot) (steps : List Step)
    (accepted : ∀ kept ∈ origin, kept.shape.Canonical ∧ kept.validate = .ok ())
    (values : ∀ v ∈ observed steps, v.Canonical) :
    (∃ s r, begun d origin = .ok s ∧ s.run steps = .ok r ∧
      r.shape.Canonical ∧ r.shape.check = none ∧ r.snapshot.validate = .ok () ∧
      r.observations = countBefore origin + .ofNat (observed steps).length ∧
      ((countBefore origin).toNat + (observed steps).length < 0x10000000000000000 →
        r.observations.toNat = (countBefore origin).toNat + (observed steps).length)) ∧
    (∀ (d : Detectors) (t : Shape) (v : Json), t.Canonical → t.check = none → v.Canonical →
      (Shape.absorb d v t).check = none) ∧
    ∀ (d : Detectors) (t : Shape) (v : Json), Shape.absorb d v t ≠ .unknown := by
  refine ⟨?_, fun d t v canonical passes hv => ?_, fun d t v unknown => ?_⟩
  · obtain ⟨s, begins, sound⟩ := sound_of_begun d accepted
    obtain ⟨r, runs, kept⟩ := (invariant_sound _).run sound values
    rw [List.nil_append] at kept
    refine ⟨s, r, begins, runs, kept.wellFormed.canonical, ?_, ?_, kept.count, kept.toNat_count⟩
    · exact Shape.check_of_sound kept.wellFormed.sound
    · exact Snapshot.validate_of_sound rfl kept.wellFormed.sound
  · have wellFormed : t.WellFormed := ⟨canonical, Shape.sound_of_check passes⟩
    exact Shape.check_of_sound (Shape.wellFormed_absorb d v hv wellFormed).sound
  · have known := Shape.isUnknown_absorb d v t
    rw [unknown] at known
    cases known

/-- A run that goes on from a snapshot of seven values, and changes what it looks for on the way. -/
theorem sound_of_run_resumed :
    (∀ kept ∈ some (Snapshot.mk 1 7 (.nullable (.anyOf [.boolean, .object ⟨[], [("a", .boolean)]⟩]))),
      kept.shape.Canonical ∧ kept.validate = .ok ()) ∧
    (∀ v ∈ observed [.observe (.object [("a", .null), ("b", .array [.null])]), .resume .none,
      .observeAll [.string "", .null]], v.Canonical) ∧
    ∃ s r, begun .all
        (some ⟨1, 7, .nullable (.anyOf [.boolean, .object ⟨[], [("a", .boolean)]⟩])⟩) = .ok s ∧
      s.run [.observe (.object [("a", .null), ("b", .array [.null])]), .resume .none,
        .observeAll [.string "", .null]] = .ok r ∧
      r.shape.Canonical ∧ r.shape.check = none ∧ r.snapshot.validate = .ok () ∧
      r.observations.toNat = 10 := by
  have accepted : ∀ kept ∈ some (Snapshot.mk 1 7
      (.nullable (.anyOf [.boolean, .object ⟨[], [("a", .boolean)]⟩]))),
      kept.shape.Canonical ∧ kept.validate = .ok () := by
    intro kept h
    cases h
    refine ⟨?_, rfl⟩
    simp [Shape.Canonical, Shape.CanonicalAlternatives, Shape.CanonicalProperties, Entries.Ordered,
      Entries.keys]
  have values : ∀ v ∈ observed [.observe (.object [("a", .null), ("b", .array [.null])]),
      .resume .none, .observeAll [.string "", .null]], v.Canonical := by
    have ordered : Entries.Ordered [("a", Json.null), ("b", .array [.null])] := by
      unfold Entries.Ordered
      decide
    simp [observed, Step.values, Json.Canonical, Json.CanonicalItems, Json.CanonicalMembers,
      ordered]
  obtain ⟨s, r, begins, runs, canonical, passes, valid, -, count⟩ :=
    (sound_of_run .all _ _ accepted values).1
  exact ⟨accepted, values, s, r, begins, runs, canonical, passes, valid, count (by decide)⟩

end Survey

end JsonShape
