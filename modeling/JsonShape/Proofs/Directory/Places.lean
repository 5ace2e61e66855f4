import Mathlib.Data.List.Induction
import Mathlib.Data.String.Basic
import JsonShape.Disk
import JsonShape.Proofs.Entries.Lookup
import JsonShape.Proofs.Text.Fields

/-!
# Places in a directory

A path can be a file's exactly if its last part is a name, the parts before it lead to a folder, and no
folder has that name there (`filePlace?_eq_some_iff`). So a new file at such a place makes no folder, and
neither does one file taking the place of another in the same folder (`sameFolders_insert`,
`sameFolders_replace`). Where the folders are the same, paths lead to the same places
(`SameFolders.place?`). A path may as well be written from the root (`place?_join_here`).
-/

set_option autoImplicit false

namespace JsonShape

namespace Directory

variable {here : List String} {d e : Directory here}

/-! ## Folders -/

theorem isFolder_iff {name : String} : d.isFolder name = true ↔
    name = "" ∨ ∃ inside ∈ (join here ++ "/") :: Entries.keys d.files,
      name.toList ++ ['/'] <+: inside.toList := by
  have slash (file : String) : (name ++ "/").isPrefixOf file = true ↔
      name.toList ++ ['/'] <+: file.toList := by
    rw [String.isPrefixOf, String.startsWith_string_iff, String.toList_append]
    rfl
  simp only [isFolder, Bool.or_eq_true, String.isEmpty_iff, List.any_eq_true, slash]

/-- What a file lies in, at any depth, is a folder. -/
theorem isFolder_of_prefix {x file : String} (hm : file ∈ Entries.keys d.files)
    (hf : x.toList ++ ['/'] <+: file.toList) : d.isFolder x = true :=
  isFolder_iff.2 (.inr ⟨file, List.mem_cons_of_mem _ hm, hf⟩)

/-- Where everything that a file lies in is a folder too, all folders are. -/
theorem isFolder_mono (h : ∀ file ∈ Entries.keys d.files, ∀ x : String,
    x.toList ++ ['/'] <+: file.toList → e.isFolder x = true) {x : String}
    (hx : d.isFolder x = true) : e.isFolder x = true := by
  rcases isFolder_iff.1 hx with root | ⟨inside, hm, hf⟩
  · exact isFolder_iff.2 (.inl root)
  · rcases List.mem_cons.1 hm with rfl | hm
    · exact isFolder_iff.2 (.inr ⟨_, List.mem_cons_self, hf⟩)
    · exact h inside hm x hf

/-- The same names are those of folders. -/
def SameFolders (d e : Directory here) : Prop := ∀ name, d.isFolder name = e.isFolder name

/-! ## Folders of a file -/

theorem prefix_of_prefix_append {x front name : List Char} (h : '/' ∉ name)
    (hx : x ++ ['/'] <+: front ++ name) : x ++ ['/'] <+: front := by
  rcases List.prefix_or_prefix_of_prefix hx (List.prefix_append front name) with inside | ⟨rest, beyond⟩
  · exact inside
  · rw [← beyond, List.prefix_append_right_inj] at hx
    cases rest using List.reverseRecOn with
    | nil => exact ⟨[], by rw [← beyond, List.append_nil, List.append_nil]⟩
    | append_singleton rest last =>
      rw [← List.append_assoc] at beyond
      obtain ⟨-, rfl⟩ := List.append_inj' beyond rfl |>.imp id List.singleton_inj.1
      exact absurd (hx.subset (List.mem_append_right _ (List.mem_singleton_self _))) h

theorem toList_join_append_singleton {names : List String} (some : names ≠ []) (name : String) :
    (join (names ++ [name])).toList = (join names).toList ++ ['/'] ++ name.toList := by
  rw [join, String.intercalate_append_of_ne_nil some (List.cons_ne_nil _ _),
    String.intercalate_singleton, String.toList_append, String.toList_append]
  rfl

/-- A folder in which a file lies, at any depth, is the file's own or holds that one. -/
theorem prefix_of_prefix_join {x name : String} {names : List String} (h : '/' ∉ name.toList)
    (hx : x.toList ++ ['/'] <+: (join (names ++ [name])).toList) :
    names ≠ [] ∧ x.toList ++ ['/'] <+: (join names).toList ++ ['/'] := by
  by_cases none : names = []
  · subst none
    rw [List.nil_append, join, String.intercalate_singleton] at hx
    exact absurd (hx.subset (List.mem_append_right _ (List.mem_singleton_self _))) h
  · rw [toList_join_append_singleton none] at hx
    exact ⟨none, prefix_of_prefix_append h hx⟩

/-- So another file in the same folder lies in it too. -/
theorem prefix_join_of_prefix_join {x name : String} {names : List String} (h : '/' ∉ name.toList)
    (hx : x.toList ++ ['/'] <+: (join (names ++ [name])).toList) (other : String) :
    x.toList ++ ['/'] <+: (join (names ++ [other])).toList := by
  obtain ⟨some, inside⟩ := prefix_of_prefix_join h hx
  rw [toList_join_append_singleton some]
  exact inside.trans (List.prefix_append _ _)

/-- What a file in a folder that is there lies in is there. -/
theorem isFolder_of_prefix_join {x name : String} {names : List String}
    (there : d.isFolder (join names) = true) (h : '/' ∉ name.toList)
    (hx : x.toList ++ ['/'] <+: (join (names ++ [name])).toList) : d.isFolder x = true := by
  obtain ⟨-, within⟩ := prefix_of_prefix_join h hx
  rcases isFolder_iff.1 there with root | ⟨inside, hm, hf⟩
  · rw [root] at within
    have short := within.length_le
    simp only [String.toList_empty, List.length_append, List.length_singleton] at short
    have none : x.toList.length = 0 := by simpa using short
    exact isFolder_iff.2 (.inl (String.toList_eq_nil_iff.1 (List.length_eq_zero_iff.1 none)))
  · exact isFolder_iff.2 (.inr ⟨inside, hm, within.trans hf⟩)

/-- A file that comes into a folder that is there makes no folder. -/
theorem sameFolders_insert {names : List String} {name : String} (content : Content)
    (there : d.isFolder (join names) = true) (h : '/' ∉ name.toList) :
    SameFolders d ⟨Entries.insert (join (names ++ [name])) content d.files⟩ := by
  refine fun x => Bool.eq_iff_iff.2 ⟨isFolder_mono fun file hm x hf => ?_,
    isFolder_mono fun file hm x hf => ?_⟩
  · exact isFolder_of_prefix (Entries.mem_keys_insert.2 (.inr hm)) hf
  · rcases Entries.mem_keys_insert.1 hm with rfl | hm
    · exact isFolder_of_prefix_join there h hf
    · exact isFolder_of_prefix hm hf

/-- A file that takes the place of another in the same folder makes no folder and leaves all. -/
theorem sameFolders_replace {names : List String} {old new : String} (content : Content)
    (there : d.isFolder (join names) = true) (hold : '/' ∉ old.toList) (hnew : '/' ∉ new.toList) :
    SameFolders d ⟨Entries.insert (join (names ++ [new])) content
      (Entries.erase (join (names ++ [old])) d.files)⟩ := by
  refine fun x => Bool.eq_iff_iff.2 ⟨isFolder_mono fun file hm x hf => ?_,
    isFolder_mono fun file hm x hf => ?_⟩
  · by_cases same : file = join (names ++ [old])
    · subst same
      exact isFolder_of_prefix (Entries.mem_keys_insert.2 (.inl rfl))
        (prefix_join_of_prefix_join hold hf new)
    · exact isFolder_of_prefix
        (Entries.mem_keys_insert.2 (.inr (Entries.mem_keys_erase.2 ⟨hm, same⟩))) hf
  · rcases Entries.mem_keys_insert.1 hm with rfl | hm
    · exact isFolder_of_prefix_join there hnew hf
    · exact isFolder_of_prefix (Entries.mem_keys_erase.1 hm).1 hf

/-! ## Paths -/

/-- Whether a part of a path is a name, and no direction. -/
def IsName (part : List Char) : Prop := part ≠ [] ∧ part ≠ ['.'] ∧ part ≠ ['.', '.']

theorem endsInFolder_append (parts : List (List Char)) (part : List Char) :
    endsInFolder (parts ++ [part]) = false ↔ IsName part := by
  simp [endsInFolder, IsName, and_assoc]

theorem walk_append (front back : List (List Char)) (names : List String) :
    d.walk (front ++ back) names = (d.walk front names).bind (d.walk back) := by
  induction front generalizing names with
  | nil => rfl
  | cons part front ih =>
    rw [List.cons_append, walk, walk]
    split
    · split
      · exact ih names
      · split
        · exact ih _
        · exact ih _
    · rfl

theorem walk_name {part : List Char} (h : IsName part) (names : List String) :
    d.walk [part] names =
      if d.isFolder (join names) then some (names ++ [String.ofList part]) else none := by
  rw [walk, if_neg (not_or.2 ⟨h.1, h.2.1⟩), if_neg h.2.2, walk]

/-- A path that can be a file's: the names that lead to a folder, and the file's own. -/
structure Leads (d : Directory here) (path : String) (front : List (List Char)) (part : List Char)
    (names : List String) : Prop where
  parts : fields '/' path.toList = front ++ [part]
  isName : IsName part
  folder : d.walk front (origin here path) = some names
  there : d.isFolder (join names) = true

section
variable {path : String} {front : List (List Char)} {part : List Char} {names : List String}
  (h : d.Leads path front part names)
include h

theorem Leads.slash : '/' ∉ (String.ofList part).toList := by
  have field : part ∈ fields '/' path.toList := by
    rw [h.parts]
    exact List.mem_append_right _ (List.mem_singleton_self _)
  rw [String.toList_ofList]
  exact separator_not_mem_of_mem_fields field

/-- The empty path has no name in it. -/
theorem Leads.isEmpty_eq_false : path.isEmpty = false := by
  rw [Bool.eq_false_iff, ne_eq, String.isEmpty_iff]
  rintro rfl
  have last : part ∈ fields '/' "".toList := by
    rw [h.parts]
    exact List.mem_append_right _ (List.mem_singleton_self _)
  exact h.isName.1 (List.mem_singleton.1 last)

theorem Leads.place? : d.place? path = some (join (names ++ [String.ofList part]), false) := by
  have whole : d.walk (front ++ [part]) (origin here path) =
      some (names ++ [String.ofList part]) := by
    rw [walk_append, h.folder, Option.bind_some, walk_name h.isName, if_pos h.there]
  simp only [Directory.place?, h.isEmpty_eq_false, Bool.false_eq_true, if_false, h.parts, whole,
    Option.map_some, (endsInFolder_append front part).2 h.isName]

end

/-- A path that does not stand for a folder only ends in a name. -/
theorem exists_leads_of_place? {path name : String} (h : d.place? path = some (name, false)) :
    ∃ front part names, d.Leads path front part names ∧
      name = join (names ++ [String.ofList part]) := by
  rw [place?] at h
  split at h
  · cases h
  · obtain ⟨all, walked, same⟩ := Option.map_eq_some_iff.1 h
    obtain ⟨rfl, ends⟩ := Prod.mk.inj same
    cases parts : fields '/' path.toList using List.reverseRecOn with
    | nil =>
      rw [parts] at ends
      cases ends
    | append_singleton front part =>
      rw [parts] at ends walked
      have isName := (endsInFolder_append front part).1 ends
      rw [walk_append] at walked
      obtain ⟨names, folder, last⟩ := Option.bind_eq_some_iff.1 walked
      rw [walk_name isName] at last
      split at last
      · next there =>
        cases last
        exact ⟨front, part, names, ⟨parts, isName, folder, there⟩, rfl⟩
      · cases last

theorem filePlace?_eq_some_iff {path name : String} : d.filePlace? path = some name ↔
    ∃ front part names, d.Leads path front part names ∧
      name = join (names ++ [String.ofList part]) ∧ d.isFolder name = false := by
  constructor
  · intro h
    rw [filePlace?] at h
    split at h
    · next found folder place =>
      split at h
      · cases h
      · next free =>
        cases h
        rw [Bool.or_eq_true, not_or, Bool.not_eq_true, Bool.not_eq_true] at free
        obtain ⟨rfl, free⟩ := free
        obtain ⟨front, part, names, leads, eq⟩ := exists_leads_of_place? place
        exact ⟨front, part, names, leads, eq, free⟩
    · cases h
  · rintro ⟨front, part, names, leads, rfl, free⟩
    rw [filePlace?, leads.place?]
    simp only [Bool.false_or, free, Bool.false_eq_true, if_false]

/-- What is found where a file can be. -/
theorem look_of_filePlace? {path name : String} (h : d.filePlace? path = some name) :
    d.look path =
      match Entries.get? name d.files with
      | some content => content.lookup
      | none => .missing := by
  obtain ⟨front, part, names, leads, rfl, free⟩ := filePlace?_eq_some_iff.1 h
  rw [look, leads.place?]
  exact (if_neg (Bool.eq_false_iff.1 free)).trans (if_neg Bool.false_ne_true)

/-! ## Paths from the root -/

theorem isFolder_join_of_prefix {names : List String} (h : names <+: here) :
    d.isFolder (join names) = true := by
  obtain ⟨more, rfl⟩ := h
  by_cases none : names = []
  · exact isFolder_iff.2 (.inl (by rw [none]; rfl))
  · refine isFolder_iff.2 (.inr ⟨_, List.mem_cons_self, ?_⟩)
    cases more with
    | nil => simp
    | cons name more =>
      rw [join, join, String.intercalate_append_of_ne_nil none (List.cons_ne_nil _ _)]
      simp

/-- The names of the folder in which one works lead to it. -/
theorem walk_here (names : ∀ name ∈ here, IsName name.toList) {front back : List String}
    (h : here = front ++ back) : d.walk (back.map String.toList) front = some here := by
  induction back generalizing front with
  | nil => rw [List.map_nil, walk, h, List.append_nil]
  | cons name back ih =>
    have there : d.isFolder (join front) = true :=
      isFolder_join_of_prefix (h ▸ List.prefix_append front (name :: back))
    have isName : IsName name.toList := names name (by simp [h])
    rw [List.map_cons, walk, if_pos there, if_neg (not_or.2 ⟨isName.1, isName.2.1⟩),
      if_neg isName.2.2, String.ofList_toList]
    exact ih (by rw [h, List.append_assoc, List.singleton_append])

theorem fields_join_append_singleton {names : List String} (h : ∀ name ∈ names, '/' ∉ name.toList)
    (path : String) : fields '/' (join (names ++ [path])).toList =
      names.map String.toList ++ fields '/' path.toList := by
  induction names with
  | nil => rw [List.nil_append, join, String.intercalate_singleton, List.map_nil, List.nil_append]
  | cons name names ih =>
    rw [List.forall_mem_cons] at h
    have cut : (join (name :: names ++ [path])).toList =
        name.toList ++ '/' :: (join (names ++ [path])).toList := by
      rw [join, List.cons_append, ← List.singleton_append,
        String.intercalate_append_of_ne_nil (List.cons_ne_nil _ _) (by simp),
        String.intercalate_singleton, String.toList_append, String.toList_append, List.append_assoc]
      rfl
    rw [cut, fields_append_cons, fields_eq_singleton h.1, ih h.2]
    rfl

/-- A path from the root through the folder in which one works leads where the rest of it does. -/
theorem place?_join_here (names : ∀ name ∈ here, '/' ∉ name.toList ∧ IsName name.toList)
    {path : String} (some : path ≠ "") (relative : path.toList.head? ≠ Option.some '/') :
    d.place? ("/" ++ join (here ++ [path])) = d.place? path := by
  have chars : ("/" ++ join (here ++ [path])).toList = '/' :: (join (here ++ [path])).toList := by
    rw [String.toList_append]
    rfl
  have parts : fields '/' ("/" ++ join (here ++ [path])).toList =
      [] :: (here.map String.toList ++ fields '/' path.toList) := by
    rw [chars, fields, if_pos rfl, fields_join_append_singleton fun name hm => (names name hm).1]
  have root : d.isFolder (join []) = true := isFolder_join_of_prefix List.nil_prefix
  have walked : d.walk ([] :: (here.map String.toList ++ fields '/' path.toList)) [] =
      d.walk (fields '/' path.toList) here := by
    rw [walk, if_pos root, if_pos (.inl rfl), walk_append,
      walk_here (fun name hm => (names name hm).2) (List.nil_append here).symm, Option.bind_some]
  have last : endsInFolder ([] :: (here.map String.toList ++ fields '/' path.toList)) =
      endsInFolder (fields '/' path.toList) := by
    obtain ⟨first, more, cut⟩ := exists_fields_eq_cons '/' path.toList
    rw [endsInFolder, endsInFolder, ← List.cons_append, List.getLast?_append_of_ne_nil _ (by simp [cut])]
  have empty : ("/" ++ join (here ++ [path])).isEmpty = false := by
    rw [Bool.eq_false_iff, ne_eq, String.isEmpty_iff, ← String.toList_eq_nil_iff, chars]
    exact List.cons_ne_nil _ _
  have holds : path.isEmpty = false := by
    rwa [Bool.eq_false_iff, ne_eq, String.isEmpty_iff]
  have start : origin here ("/" ++ join (here ++ [path])) = [] := by
    rw [origin, chars, List.head?_cons, if_pos rfl]
  have start' : origin here path = here := if_neg relative
  simp only [place?, empty, holds, Bool.false_eq_true, if_false, parts, start, start', walked, last]

/-! ## The same folders -/

namespace SameFolders

variable (h : SameFolders d e)
include h

theorem walk (parts : List (List Char)) (names : List String) :
    d.walk parts names = e.walk parts names := by
  induction parts generalizing names with
  | nil => rfl
  | cons part parts ih => simp only [Directory.walk, h (join names), ih]

theorem place? (path : String) : d.place? path = e.place? path := by
  simp only [Directory.place?, h.walk]

theorem filePlace? (path : String) : d.filePlace? path = e.filePlace? path := by
  simp only [Directory.filePlace?, h.place?, h _]

/-- At a path is what was there, if the file that it leads to is the same. -/
theorem look {path : String} (same : ∀ place ∈ d.place? path,
    Entries.get? place.1 d.files = Entries.get? place.1 e.files) : d.look path = e.look path := by
  simp only [Directory.look, ← h.place?]
  cases found : d.place? path with
  | none => rfl
  | some place =>
    simp only [← h place.1, same place found]

end SameFolders

end Directory

end JsonShape
