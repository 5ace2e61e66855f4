import JsonShape.Proofs.Schema.Exactness

/-!
# Integers, however they are spelled

Numbers come to a shape of integers exactly if every one of them is whole and is either spelled as an integer
or safe (`absorbAll_numbers_integral`). So what a safe number is spelled like does not matter. Beyond the
safe numbers it does: a double may there stand for integers next to it, and counts as a number of any kind
(`absorbAll_numbers_spelling`).
-/

set_option autoImplicit false

namespace JsonShape

namespace Number

/-- A number has no fraction. -/
def IsWhole (n : Number) : Prop := (Double.unitsPerOne : Int) ∣ n.position

/-- A number is spelled as an integer, without fraction and exponent. -/
def IsInteger : Number → Prop
  | integer .. => True
  | double .. => False

/-- Two numbers of one value, spelled alike if the value is not safe. -/
structure Respells (m n : Number) : Prop where
  position : m.position = n.position
  beyond : ¬ n.IsSafe → (m.IsInteger ↔ n.IsInteger)

theorem Respells.symm {m n : Number} (h : m.Respells n) : n.Respells m := by
  refine ⟨h.position.symm, fun large => (h.beyond ?_).symm⟩
  rwa [IsSafe, ← h.position]

theorem isWhole_double_iff {value : Double} {finite : value.isFinite = true} :
    (double value finite).IsWhole ↔ value.isWhole = true := by
  obtain ⟨negative, units, fits, rfl⟩ := Double.eq_finite_of_isFinite finite
  have whole : (double (.finite negative units fits) finite).IsWhole ↔ Double.unitsPerOne ∣ units := by
    rw [IsWhole, position, Double.position, Option.getD_some, Int.natCast_dvd, Double.natAbs_signed]
  rw [whole, Double.isWhole, beq_iff_eq, Nat.dvd_iff_mod_eq_zero]

/-- What counts as an integer is whole, and spelled as one or safe. -/
theorem isIntegral_iff {n : Number} :
    n.isIntegral = true ↔ n.IsWhole ∧ (n.IsInteger ∨ n.IsSafe) := by
  cases n with
  | integer value fits =>
    have whole : (integer value fits).IsWhole := Dvd.intro_left value rfl
    simp [isIntegral, whole, IsInteger]
  | double value finite =>
    have safe : value.isSafe = true ↔ (double value finite).IsSafe :=
      isSafe_toDouble_iff (n := double value finite)
    rw [isIntegral, Bool.and_eq_true, isWhole_double_iff, safe]
    simp [IsInteger]

theorem Respells.isIntegral_iff {m n : Number} (h : m.Respells n) :
    m.isIntegral = true ↔ n.isIntegral = true := by
  rw [Number.isIntegral_iff, Number.isIntegral_iff, IsWhole, IsWhole, IsSafe, IsSafe, h.position]
  by_cases safe : n.IsSafe
  · have : n.position.natAbs ≤ Double.maxSafe * Double.unitsPerOne := safe
    simp [this]
  · rw [h.beyond safe]

end Number

namespace Shape

/-- Numbers come to integers if all of them count as one, and to numbers of any kind otherwise. -/
theorem absorbAll_numbers_kind (d : Detectors) {ns : List Number} (h : ns ≠ []) :
    ((∃ range, absorbAll d (ns.map .number) unknown = int range) ↔
      ∀ n ∈ ns, n.isIntegral = true) ∧
    ((∃ range, absorbAll d (ns.map .number) unknown = float range) ↔
      ∃ n ∈ ns, ¬ n.isIntegral = true) := by
  rw [absorbAll_numbers d h, ofNumbers]
  by_cases integral : ns.all Number.isIntegral = true
  · have all := List.all_eq_true.1 integral
    rw [if_pos integral]
    refine ⟨⟨fun _ => all, fun _ => ⟨_, rfl⟩⟩, ⟨?_, ?_⟩⟩
    · rintro ⟨range, he⟩
      cases he
    · rintro ⟨n, hn, other⟩
      exact absurd (all n hn) other
  · have some : ∃ n ∈ ns, ¬ n.isIntegral = true := by
      simpa using integral
    rw [if_neg integral]
    refine ⟨⟨?_, ?_⟩, ⟨fun _ => some, fun _ => ⟨_, rfl⟩⟩⟩
    · rintro ⟨range, he⟩
      cases he
    · intro all
      obtain ⟨n, hn, other⟩ := some
      exact absurd (all n hn) other

/-- Numbers come to integers exactly if all of them are whole and spelled as integers or safe. So the same
values come to the same, unless one that is not safe is spelled both ways. -/
theorem absorbAll_numbers_integral (d : Detectors) {ns : List Number} (nonempty : ns ≠ []) :
    ((∃ range, absorbAll d (ns.map .number) unknown = int range) ↔
      ∀ n ∈ ns, n.IsWhole ∧ (n.IsInteger ∨ n.IsSafe)) ∧
    ((∃ range, absorbAll d (ns.map .number) unknown = float range) ↔
      ∃ n ∈ ns, ¬ (n.IsWhole ∧ (n.IsInteger ∨ n.IsSafe))) ∧
    ∀ ms : List Number, (∀ n ∈ ns, ∃ m ∈ ms, m.Respells n) → (∀ m ∈ ms, ∃ n ∈ ns, m.Respells n) →
      ((∃ range, absorbAll d (ms.map .number) unknown = int range) ↔
        ∃ range, absorbAll d (ns.map .number) unknown = int range) ∧
      ((∃ range, absorbAll d (ms.map .number) unknown = float range) ↔
        ∃ range, absorbAll d (ns.map .number) unknown = float range) := by
  obtain ⟨integers, others⟩ := absorbAll_numbers_kind d nonempty
  simp only [← Number.isIntegral_iff]
  refine ⟨integers, others, fun ms covered covering => ?_⟩
  have nonempty' : ms ≠ [] := by
    obtain ⟨n, hn⟩ := List.exists_mem_of_ne_nil ns nonempty
    obtain ⟨m, hm, -⟩ := covered n hn
    exact List.ne_nil_of_mem hm
  have same : (∀ m ∈ ms, m.isIntegral = true) ↔ ∀ n ∈ ns, n.isIntegral = true := by
    constructor
    · intro all n hn
      obtain ⟨m, hm, respells⟩ := covered n hn
      exact respells.isIntegral_iff.1 (all m hm)
    · intro all m hm
      obtain ⟨n, hn, respells⟩ := covering m hm
      exact respells.isIntegral_iff.2 (all n hn)
  obtain ⟨integers', others'⟩ := absorbAll_numbers_kind d nonempty'
  refine ⟨integers'.trans (same.trans integers.symm), others'.trans (Iff.trans ?_ others.symm)⟩
  simpa only [not_forall, exists_prop] using not_congr same

/-- Three with a point, and the integer that no double is. -/
theorem absorbAll_numbers_integral_mixed :
    let ns : List Number :=
      [.double (.ofInt 3) (by decide +kernel), .integer 0x20000000000001 (by decide)]
    ns ≠ [] ∧ ∃ range, absorbAll .all (ns.map .number) unknown = int range := by
  intro ns
  have nonempty : ns ≠ [] := List.cons_ne_nil _ _
  refine ⟨nonempty, (absorbAll_numbers_integral .all nonempty).1.2 fun n hn => ?_⟩
  rw [← Number.isIntegral_iff]
  have counted : ∀ n ∈ ns, n.isIntegral = true := by decide +kernel
  exact counted n hn

/-- Two to the power of 53 is an integer if it is spelled as one, and with a point it is not, though the
value is the same. -/
theorem absorbAll_numbers_spelling :
    ∃ m n : Number, (Numeral.ofChars? "9007199254740992".toList).bind Numeral.number? = some m ∧
      (Numeral.ofChars? "9007199254740992.0".toList).bind Numeral.number? = some n ∧
      n.IsWhole ∧ m.position = n.position ∧
      (∃ range, absorbAll .all [.number m] unknown = int range) ∧
      (∃ range, absorbAll .all [.number n] unknown = float range) ∧
      ¬ ∃ range, absorbAll .all [.number n] unknown = int range := by
  have same : (Number.double (.ofInt 0x20000000000000) (by decide +kernel)).position =
      (Number.integer 0x20000000000000 (by decide)).position := by decide +kernel
  have counted : (Number.integer 0x20000000000000 (by decide)).isIntegral = true := rfl
  have other : ¬ (Number.double (.ofInt 0x20000000000000) (by decide +kernel)).isIntegral = true := by
    decide +kernel
  have kind (n : Number) :
      ((∃ range, absorbAll .all [.number n] unknown = int range) ↔ n.isIntegral = true) ∧
        ((∃ range, absorbAll .all [.number n] unknown = float range) ↔ ¬ n.isIntegral = true) := by
    have := absorbAll_numbers_kind .all (List.cons_ne_nil n [])
    simpa using this
  refine ⟨.integer 0x20000000000000 (by decide), .double (.ofInt 0x20000000000000) (by decide +kernel),
    by decide +kernel, by decide +kernel, ?_, same.symm, (kind _).1.2 counted, (kind _).2.2 other,
    fun found => other ((kind _).1.1 found)⟩
  rw [Number.IsWhole, same]
  exact Dvd.intro_left _ rfl

end Shape

end JsonShape
