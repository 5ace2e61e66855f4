import Mathlib.Data.String.Basic
import JsonShape.Proofs.Shape.Keys
import JsonShape.Proofs.Survey.Soundness

/-!
# Keys over a run

A run of a survey only goes up in the order of shapes (`below_run`), so what is optional at some time of
it stays optional to its end, at every place of the tree (`optionalStays_run`).
`absorbMembers_keys_and_run` says this together with what one object does to the keys.
-/

set_option autoImplicit false

namespace JsonShape

namespace Survey

open Shape

/-- The shape is well-formed, and whatever is above it is above `t`. -/
structure Above (t : Shape) (s : Survey) : Prop where
  wellFormed : s.shape.WellFormed
  above : ∀ u : Shape, u.WellFormed → Below s.shape u → Below t u

theorem invariant_above (t : Shape) : Invariant fun s _ => s.Above t where
  sound h := h.wellFormed.sound
  observe h hv := by
    refine ⟨wellFormed_absorb _ _ hv h.wellFormed, fun u hu below => h.above u hu ?_⟩
    exact ((below_absorb_iff _ hv h.wellFormed hu).1 below).1
  detectors _ h := ⟨h.wellFormed, h.above⟩

/-- A run goes up in the order of shapes. -/
theorem below_run {s : Survey} (hs : s.shape.WellFormed) {steps : List Step}
    (hv : ∀ v ∈ observed steps, v.Canonical) :
    ∃ r, s.run steps = .ok r ∧ r.shape.WellFormed ∧ Below s.shape r.shape := by
  have above : s.Above s.shape := ⟨hs, fun _ _ below => below⟩
  obtain ⟨r, hr, kept⟩ := @Invariant.run _ (invariant_above s.shape) s [] above steps hv
  exact ⟨r, hr, kept.wellFormed, kept.above _ kept.wellFormed (below_refl kept.wellFormed)⟩

/-- What is optional at some time of a run is so at its end. -/
theorem optionalStays_run (d : Detectors) {origin : Option Snapshot} {before after : List Step}
    (accepted : ∀ kept ∈ origin, kept.shape.Canonical ∧ kept.validate = .ok ())
    (values : ∀ v ∈ observed (before ++ after), v.Canonical) :
    ∃ b s r, begun d origin = .ok b ∧ b.run before = .ok s ∧ s.run after = .ok r ∧
      (∀ f, Node (object f) s.shape → ∃ place, s.shape.fieldsAt? place = some f) ∧
      s.shape.OptionalStays r.shape := by
  rw [observed, List.flatMap_append, List.forall_mem_append] at values
  obtain ⟨b, begins, sound⟩ := sound_of_begun d accepted
  obtain ⟨s, runs, hs, -⟩ := below_run sound.wellFormed values.1
  obtain ⟨r, runs', hr, below⟩ := below_run hs values.2
  exact ⟨b, s, r, begins, runs, runs', fun f => exists_fieldsAt? hs,
    optionalStays_of_below hs hr below⟩

/-- An object that comes leaves of fields what `Fields.TakenIn` says. So what is optional stays optional,
whatever objects come to the fields, and whatever is done in a run of a survey, at every place of its
shape; and no object shape is without a place. -/
theorem absorbMembers_keys_and_run (d : Detectors) {f : Fields Shape} (proper : f.Proper)
    {members : Entries Json} (nodup : (Entries.keys members).Nodup) :
    Fields.TakenIn d members f (absorbMembers d members (f.retire members)) ∧
    (∀ objects : List (Detectors × Entries Json), (∀ o ∈ objects, (Entries.keys o.2).Nodup) →
      Fields.OptionalStays f (takeInAll objects f)) ∧
    ∀ (e : Detectors) (origin : Option Snapshot) (before after : List Step),
      (∀ kept ∈ origin, kept.shape.Canonical ∧ kept.validate = .ok ()) →
      (∀ v ∈ observed (before ++ after), v.Canonical) →
      ∃ b s r, begun e origin = .ok b ∧ b.run before = .ok s ∧ s.run after = .ok r ∧
        (∀ g, Node (object g) s.shape → ∃ place, s.shape.fieldsAt? place = some g) ∧
        s.shape.OptionalStays r.shape :=
  ⟨takenIn_absorbMembers d proper nodup, fun _ => optionalStays_takeInAll proper,
    fun e _ _ _ => optionalStays_run e⟩

/-- Of two required keys an object lacks one; it has the optional one and a new one, and null. In a run,
a key that one of two items lacks is optional and stays so when all items have it. -/
theorem absorbMembers_keys_and_run_null :
    let f : Fields Shape := ⟨[("a", boolean), ("b", boolean)], [("c", string none)]⟩
    let members : Entries Json := [("a", .null), ("c", .string ""), ("d", .bool true)]
    let first : Json := .object [("a", .array [.object [("b", .null)], .object []])]
    let second : Json := .object [("a", .array [.object [("b", .null)]])]
    f.Proper ∧ (Entries.keys members).Nodup ∧
    absorbMembers .none members (f.retire members) =
      ⟨[("a", nullable boolean)], [("b", boolean), ("c", string none), ("d", boolean)]⟩ ∧
    Fields.TakenIn .none members f (absorbMembers .none members (f.retire members)) ∧
    Fields.OptionalStays f (takeInAll [(.none, []), (.all, members)] f) ∧
    ∃ s r, (start .all).run [.observe first] = .ok s ∧
      s.run [.resume .none, .observe second] = .ok r ∧
      ∃ g, r.shape.fieldsAt? [.under "a", .items] = some g ∧
        "b" ∈ Entries.keys g.optional ∧ "b" ∉ Entries.keys g.required := by
  intro f members first second
  have proper : f.Proper := by
    refine ⟨?_, ?_, by simp [f, Entries.keys]⟩
    · unfold Entries.Ordered
      decide
    · simp [f, Entries.Ordered, Entries.keys]
  have nodup : (Entries.keys members).Nodup := by simp [members, Entries.keys]
  have values : ∀ v ∈ observed ([.observe first] ++ [.resume .none, .observe second]),
      v.Canonical := by
    simp [observed, Step.values, first, second, Json.Canonical, Json.CanonicalItems,
      Json.CanonicalMembers, Entries.Ordered, Entries.keys]
  obtain ⟨taken, stays, runs⟩ := absorbMembers_keys_and_run .none proper nodup
  obtain ⟨b, s, r, hb, hs, hr, -, kept⟩ := runs .all none _ _ (by simp) values
  cases hb
  cases hs
  refine ⟨proper, nodup, rfl, taken, stays _ (by simp [Entries.keys, members]), _, r, rfl, hr, ?_⟩
  obtain ⟨g, hg, stays⟩ := kept [.under "a", .items] _ rfl
  exact ⟨g, hg, stays "b" (by decide)⟩

end Survey

end JsonShape
