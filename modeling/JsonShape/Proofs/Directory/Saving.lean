import JsonShape.Proofs.Directory.Places

/-!
# Files written and moved

A text can be written wherever a file can be, which changes that file and no folder
(`write?_eq_some_iff`, `sameFolders_of_write?`). A file that has just been written can be moved wherever a
file can be (`move?_of_write?`), and then nothing but these two places has changed
(`get?_files_replaced`).
-/

set_option autoImplicit false

namespace JsonShape

namespace Directory

variable {here : List String} {d e : Directory here} {source target text : String} {old new : String}

theorem write?_eq_some_iff : d.write? source text = some e ↔
    ∃ name, d.filePlace? source = some name ∧ e = ⟨Entries.insert name (.text text) d.files⟩ := by
  rw [write?, Option.map_eq_some_iff]
  exact exists_congr fun name => and_congr_right fun _ => eq_comm

theorem write?_eq_none_iff : d.write? source text = none ↔ d.filePlace? source = none := by
  rw [write?, Option.map_eq_none_iff]

theorem sameFolders_of_write? (h : d.write? source text = some e) : SameFolders d e := by
  obtain ⟨name, place, rfl⟩ := write?_eq_some_iff.1 h
  obtain ⟨front, part, names, leads, rfl, -⟩ := filePlace?_eq_some_iff.1 place
  exact sameFolders_insert _ leads.there leads.slash

/-- The directory with a text at one place and nothing at another one. -/
def replaced (d : Directory here) (old new : String) (content : Content) : Directory here :=
  ⟨Entries.insert new content (Entries.erase old d.files)⟩

theorem get?_files_replaced (d : Directory here) (old new : String) (content : Content)
    (name : String) :
    Entries.get? name (d.replaced old new content).files =
      if new = name then some content else if old = name then none
      else Entries.get? name d.files := by
  rw [replaced, Entries.get?_insert, Entries.get?_erase]

/-- Only the last text that is saved counts. -/
theorem replaced_replaced (d : Directory here) (old new : String) (content content' : Content) :
    (d.replaced old new content).replaced old new content' = d.replaced old new content' := by
  simp only [replaced]
  congr 1
  by_cases same : old = new
  · subst same
    rw [Entries.erase_insert, Entries.erase_eq_self]
    rw [Entries.mem_keys_erase, not_and_not_right]
    exact fun _ => rfl
  · have gone : old ∉ Entries.keys (Entries.insert new content (Entries.erase old d.files)) := by
      rw [Entries.mem_keys_insert, Entries.mem_keys_erase, not_or, not_and_not_right]
      exact ⟨Ne.symm same, fun _ => rfl⟩
    rw [Entries.erase_eq_self gone, Entries.insert_insert]

/-- What has been written is moved wherever a file can be. -/
theorem move?_of_write? (place : d.filePlace? source = some old)
    (h : d.write? source text = some e) :
    e.move? source target = (d.filePlace? target).map fun new => d.replaced old new (.text text) := by
  have folders := sameFolders_of_write? h
  obtain ⟨name, place', rfl⟩ := write?_eq_some_iff.1 h
  cases place.symm.trans place'
  have written : Entries.get? old (Entries.insert old (Content.text text) d.files) =
      some (.text text) := by
    rw [Entries.get?_insert, if_pos rfl]
  simp only [move?, ← folders.filePlace?, place, written, Option.bind_eq_bind, Option.bind_some,
    Entries.erase_insert]
  cases d.filePlace? target <;> rfl

end Directory

end JsonShape
