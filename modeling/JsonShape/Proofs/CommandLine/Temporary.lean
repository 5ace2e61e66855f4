import Mathlib.Data.List.TakeDrop
import JsonShape.CommandLine.Run
import JsonShape.Proofs.Directory.Saving

/-!
# The path beside a snapshot

The path under which a snapshot is written first differs from its own in the last part alone, and that
part is a name as well (`Directory.Leads.temporaryPath`). So both places are in one folder, and a saved
snapshot leaves the folders as they were (`Directory.sameFolders_replaced`).
-/

set_option autoImplicit false

namespace JsonShape

namespace Run

/-! ## Names -/

theorem temporaryName_eq (name : List Char) :
    ∃ stem, temporaryName name = stem ++ ".tmp".toList ∧ ∀ c ∈ stem, c ∈ name := by
  unfold temporaryName
  split
  · next front point stem first cut =>
    refine ⟨_, rfl, fun c hc => ?_⟩
    rw [List.span_eq_takeWhile_dropWhile] at cut
    have rest := (Prod.mk.inj cut).2
    have inside : c ∈ name.reverse.dropWhile (· != '.') := by
      rw [rest]
      exact List.mem_cons_of_mem _ (List.mem_reverse.1 hc)
    exact List.mem_reverse.1 ((List.dropWhile_sublist _).mem inside)
  · exact ⟨name, rfl, fun _ => id⟩

theorem slash_not_mem_temporaryName {name : List Char} (h : '/' ∉ name) :
    '/' ∉ temporaryName name := by
  obtain ⟨stem, eq, inside⟩ := temporaryName_eq name
  rw [eq, List.mem_append, not_or]
  exact ⟨fun hm => h (inside _ hm), by decide⟩

theorem isName_temporaryName (name : List Char) : Directory.IsName (temporaryName name) := by
  obtain ⟨stem, eq, -⟩ := temporaryName_eq name
  have long : 4 ≤ (temporaryName name).length := by
    rw [eq, List.length_append]
    exact Nat.le_add_left 4 _
  refine ⟨fun none => ?_, fun point => ?_, fun points => ?_⟩
  · rw [none] at long
    cases long
  · rw [point] at long
    exact absurd long (by decide)
  · rw [points] at long
    exact absurd long (by decide)

/-! ## Paths -/

theorem trimFolder_go_eq_self {cs : List Char} (slash : cs.head? ≠ some '/')
    (point : ∀ rest, cs = '.' :: rest → rest.head? ≠ some '/') : trimFolder.go cs = cs := by
  unfold trimFolder.go
  split
  · exact absurd rfl slash
  · exact absurd rfl (point _ rfl)
  · rfl

section
variable (front : List Char) {name : List Char} (slash : '/' ∉ name)
  (isName : Directory.IsName name)
include slash isName

/-- Nothing is trimmed of a path that ends in a name. -/
theorem trimFolder_eq_self : trimFolder (front ++ name) = front ++ name := by
  have trimmed : trimFolder.go (front ++ name).reverse = (front ++ name).reverse := by
    rw [List.reverse_append]
    -- the last character, and the one before it, if the name has more than one
    cases last : name.reverse with
    | nil => exact absurd (List.reverse_eq_nil_iff.1 last) isName.1
    | cons c rest =>
      have inside (d : Char) (hd : d ∈ c :: rest) : d ≠ '/' := fun same =>
        slash (List.mem_reverse.1 (last ▸ same ▸ hd))
      refine trimFolder_go_eq_self (fun first => ?_) fun back cut first => ?_
      · exact inside c List.mem_cons_self (Option.some.inj first)
      · obtain ⟨rfl, rfl⟩ := List.cons.inj cut
        cases rest with
        | nil => exact isName.2.1 (by rw [← List.reverse_reverse name, last]; rfl)
        | cons d rest =>
          exact inside d (List.mem_cons_of_mem _ List.mem_cons_self) (Option.some.inj first)
  rw [trimFolder, trimmed, List.reverse_reverse]

/-- The path beside one that ends in a name differs in that name. -/
theorem toList_temporaryPath {path : String} (h : path.toList = front ++ name)
    (before : front = [] ∨ ∃ cs, front = cs ++ ['/']) :
    (temporaryPath path).toList = front ++ temporaryName name := by
  have last : ((front ++ name).reverse.takeWhile (· != '/')).reverse = name := by
    have inside : ∀ c ∈ name.reverse, (c != '/') = true := fun c hc =>
      bne_iff_ne.2 fun same => slash (List.mem_reverse.1 (same ▸ hc))
    rw [List.reverse_append, List.takeWhile_append_of_pos inside]
    rcases before with rfl | ⟨cs, rfl⟩ <;> simp
  rw [temporaryPath, h, trimFolder_eq_self front slash isName]
  simp only [last]
  have name : ¬ (name = [] ∨ name = ['.'] ∨ name = ['.', '.']) := by
    rw [not_or, not_or]
    exact isName
  rw [if_neg name, String.toList_ofList, List.length_append,
    Nat.add_sub_cancel, List.take_left]

end

end Run

namespace Directory

open Run

variable {here : List String} {d : Directory here} {path : String}

/-- The path beside one that can be a file's leads into the same folder. -/
theorem Leads.temporaryPath {front : List (List Char)} {part : List Char} {names : List String}
    (h : d.Leads path front part names) :
    d.Leads (Run.temporaryPath path) front (temporaryName part) names := by
  have slash : '/' ∉ part := by
    have := h.slash
    rwa [String.toList_ofList] at this
  have apart := slash_not_mem_temporaryName slash
  have isName := isName_temporaryName part
  rcases eq_append_of_fields_eq h.parts with ⟨rfl, whole⟩ | ⟨before, whole, parts⟩
  · have beside : (Run.temporaryPath path).toList = temporaryName part :=
      toList_temporaryPath [] slash h.isName whole (.inl rfl)
    -- neither path has a slash, so both start in the same folder
    have first {name : List Char} (apart : '/' ∉ name) : name.head? ≠ some '/' :=
      fun head => apart (List.mem_of_mem_head? head)
    have start : origin here (Run.temporaryPath path) = origin here path := by
      rw [origin, origin, beside, whole, if_neg (first apart), if_neg (first slash)]
    refine ⟨?_, isName, ?_, h.there⟩
    · rw [beside, fields_eq_singleton apart]
      rfl
    · rw [start]
      exact h.folder
  · have beside : (Run.temporaryPath path).toList = before ++ '/' :: temporaryName part := by
      rw [List.append_cons] at whole ⊢
      exact toList_temporaryPath _ slash h.isName whole (.inr ⟨before, rfl⟩)
    have start : origin here (Run.temporaryPath path) = origin here path := by
      rw [origin, origin, beside, whole]
      cases before <;> rfl
    refine ⟨?_, isName, ?_, h.there⟩
    · rw [beside, fields_append_cons, fields_eq_singleton apart, parts]
    · rw [start]
      exact h.folder

/-- A snapshot that has been saved leaves the folders as they were. -/
theorem sameFolders_replaced {old new : String} (place : d.filePlace? path = some new)
    (beside : d.filePlace? (Run.temporaryPath path) = some old) (content : Content) :
    SameFolders d (d.replaced old new content) := by
  obtain ⟨front, part, names, leads, rfl, -⟩ := filePlace?_eq_some_iff.1 place
  obtain ⟨_, _, _, leads', rfl, -⟩ := filePlace?_eq_some_iff.1 beside
  have same := leads'.place?.symm.trans leads.temporaryPath.place?
  rw [(Prod.mk.inj (Option.some.inj same)).1]
  exact sameFolders_replace content leads.there leads.temporaryPath.slash leads.slash

end Directory

end JsonShape
