import SchemaGuards.Command.FileTree
import SchemaGuards.Proofs.Result

/-!
# What operations on files leave alone

Making a folder changes no file. Writing changes the one file that the path leads to, and the
path leads there afterwards as well: a file is never one of the folders on the way to it.
-/

namespace SchemaGuards.FileTree

open Result

/-- Every file holds what it held, no file is new, and every folder is still there. -/
structure SameFiles (before after : FileTree) : Prop where
  content (place : Place) : after.content? place = before.content? place
  folder {place : Place} (h : before.node? place = some .folder) :
    after.node? place = some .folder

/-- A path leads to a file that holds a text, and every other file is as it was. -/
structure Written (path text : String) (before after : FileTree) : Prop where
  fetched : after.fetch path = .ok (.text text)
  others : ∃ place, after.locate path = .ok place ∧
    ∀ other, other ≠ place → after.content? other = before.content? other

variable {tree before between after : FileTree} {path text : String} {place other : Place}

theorem SameFiles.refl (tree : FileTree) : SameFiles tree tree := ⟨fun _ => rfl, id⟩

theorem SameFiles.trans (h : SameFiles before between) (h' : SameFiles between after) :
    SameFiles before after :=
  ⟨fun place => (h'.content place).trans (h.content place), fun hf => h'.folder (h.folder hf)⟩

theorem SameFiles.written (h : SameFiles before between) (h' : Written path text between after) :
    Written path text before after := by
  obtain ⟨place, located, others⟩ := h'.others
  exact ⟨h'.fetched, place, located, fun other hne => (others other hne).trans (h.content other)⟩

end SchemaGuards.FileTree
