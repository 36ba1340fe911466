import SchemaGuards.Command.Plan
import Mathlib.Data.List.Infix

/-!
# Where generated modules import from

The types of a source module are imported by a specifier, which leads to a file only where it is
relative or absolute; any other one names a package. An import path is made from a label whose
extension is taken off, and only its first character decides whether more is put before it. So it
leads to a file unless what is left of the label starts with a dot in another way than a relative
path does.
-/

namespace SchemaGuards

namespace Path

/-- No step of a path has a slash. -/
theorem slash_notMem_of_mem_split {cs step : List Char} (h : step ∈ split cs) : '/' ∉ step := by
  induction cs generalizing step with
  | nil =>
      obtain rfl := List.mem_singleton.mp h
      exact List.not_mem_nil
  | cons c cs ih =>
      unfold split at h
      split at h
      · rcases List.mem_cons.mp h with rfl | h
        · exact List.not_mem_nil
        · exact ih h
      · next hc =>
        have hne := split_ne_nil cs
        cases hcs : split cs with
        | nil => exact absurd hcs hne
        | cons first rest =>
            rw [hcs] at h ih
            rcases List.mem_cons.mp h with rfl | h
            · intro hslash
              rcases List.mem_cons.mp hslash with hslash | hslash
              · exact hc hslash.symm
              · exact ih (.head _) hslash
            · exact ih (.tail _ h)

theorem lastStep_mem_split (path : String) : lastStep path ∈ split path.toList := by
  rw [lastStep, inward]
  cases h : split path.toList with
  | nil => exact absurd h (split_ne_nil _)
  | cons first rest =>
      cases hfound : rest.reverse.find? fun step => !isIdle step with
      | none => simp [hfound]
      | some step =>
          have hmem := List.mem_of_find?_eq_some hfound
          simp only [hfound, Option.getD_some]
          exact .tail _ (List.mem_reverse.mp hmem)

theorem slash_notMem_fileName {path name : String} (h : fileName? path = some name) :
    '/' ∉ name.toList := by
  simp only [fileName?] at h
  split at h
  · cases h
  · obtain rfl := Option.some.inj h
    rw [String.toList_ofList]
    exact slash_notMem_of_mem_split (lastStep_mem_split path)

end Path

theorem Command.Origin.slash_notMem_label (origin : Command.Origin) :
    '/' ∉ origin.label.toList := by
  cases origin with
  | input => decide
  | file path =>
      rw [label]
      cases h : Path.fileName? path with
      | none => decide
      | some name => exact Path.slash_notMem_fileName h

/-- A specifier is a relative or an absolute path, and not the name of a package. -/
def IsLocated (specifier : List Char) : Prop :=
  "./".toList <+: specifier ∨ "../".toList <+: specifier ∨ "/".toList <+: specifier

instance : DecidablePred IsLocated := fun _ => inferInstanceAs (Decidable (_ ∨ _ ∨ _))

theorem IsLocated.slash_mem {specifier : List Char} (h : IsLocated specifier) :
    '/' ∈ specifier := by
  rcases h with h | h | h
  · exact h.subset (by decide)
  · exact h.subset (by decide)
  · exact h.subset (by decide)

/-- The endings that are taken off a label. -/
def sourceEndings : List String := [".ts", ".tsx", ".d.ts", ".d.tsx"]

/-- What is left of a label without the longest source ending that it has. -/
def IsStem (label stem : List Char) : Prop :=
  ∃ ending ∈ "" :: sourceEndings, label = stem ++ ending.toList ∧
    ∀ other ∈ sourceEndings, other.toList <:+ label → other.length ≤ ending.length

theorem beforeSuffix?_eq_some_iff {ending cs stem : List Char} :
    beforeSuffix? ending cs = some stem ↔ cs = stem ++ ending := by
  rw [beforeSuffix?]
  constructor
  · intro h
    split at h
    · next hsuffix =>
      obtain ⟨stem', rfl⟩ := List.isSuffixOf_iff_suffix.mp hsuffix
      simp at h
      simp [h]
    · cases h
  · rintro rfl
    have hsuffix : ending.isSuffixOf (stem ++ ending) = true :=
      List.isSuffixOf_iff_suffix.mpr (List.suffix_append stem ending)
    simp [hsuffix]

theorem beforeSuffix?_eq_none_iff {ending cs : List Char} :
    beforeSuffix? ending cs = none ↔ ¬ ending <:+ cs := by
  rw [beforeSuffix?, ← List.isSuffixOf_iff_suffix]
  split <;> simp [*]

/-- Of the source endings, a text that ends in `.ts` or `.tsx` has just that one, and the longer one
if a `.d` stands before it. -/
theorem ending_cases {stem : List Char} {ending other : String} (h : ending ∈ [".ts", ".tsx"])
    (h' : other ∈ sourceEndings) (suffix : other.toList <:+ stem ++ ending.toList) :
    other = ending ∨ other = ".d" ++ ending ∧ ".d".toList <:+ stem := by
  have overlap : ∀ ending ∈ [".ts", ".tsx"], ∀ other ∈ sourceEndings,
      (other.toList <:+ ending.toList ∨ ending.toList <:+ other.toList) →
        other = ending ∨ other = ".d" ++ ending := by decide
  have nested := List.suffix_or_suffix_of_suffix suffix (List.suffix_append stem ending.toList)
  rcases overlap ending h other h' nested with rfl | rfl
  · exact Or.inl rfl
  · obtain ⟨start, hstart⟩ := suffix
    rw [String.toList_append, ← List.append_assoc] at hstart
    exact Or.inr ⟨rfl, start, List.append_cancel_right hstart⟩

theorem isStem_append {stem : List Char} {ending : String} (h : ending ∈ [".ts", ".tsx"]) :
    IsStem (stem ++ ending.toList) ((beforeSuffix? ".d".toList stem).getD stem) := by
  have known : ending ∈ "" :: sourceEndings ∧ ".d" ++ ending ∈ "" :: sourceEndings := by
    revert ending
    decide
  cases hd : beforeSuffix? ".d".toList stem with
  | none =>
      refine ⟨ending, known.1, rfl, ?_⟩
      intro other hother suffix
      rcases ending_cases h hother suffix with rfl | ⟨-, declared⟩
      · exact le_rfl
      · exact absurd declared (beforeSuffix?_eq_none_iff.mp hd)
  | some short =>
      obtain rfl := beforeSuffix?_eq_some_iff.mp hd
      refine ⟨".d" ++ ending, known.2, ?_, ?_⟩
      · rw [Option.getD_some, String.toList_append, List.append_assoc]
      · intro other hother suffix
        rcases ending_cases h hother suffix with rfl | ⟨rfl, -⟩
        · rw [String.length_append]
          exact Nat.le_add_left _ _
        · exact le_rfl

/-- The longest source ending of a label is taken off. -/
theorem isStem_withoutExtension (label : List Char) : IsStem label (withoutExtension label) := by
  rw [withoutExtension]
  cases hts : beforeSuffix? ".ts".toList label with
  | some stem =>
      obtain rfl := beforeSuffix?_eq_some_iff.mp hts
      exact isStem_append (by decide)
  | none =>
      cases htsx : beforeSuffix? ".tsx".toList label with
      | some stem =>
          obtain rfl := beforeSuffix?_eq_some_iff.mp htsx
          exact isStem_append (by decide)
      | none =>
          have ends : ∀ other ∈ sourceEndings,
              ".ts".toList <:+ other.toList ∨ ".tsx".toList <:+ other.toList := by decide
          refine ⟨"", .head _, (List.append_nil _).symm, ?_⟩
          intro other hother suffix
          rcases ends other hother with h | h
          · exact absurd (h.trans suffix) (beforeSuffix?_eq_none_iff.mp hts)
          · exact absurd (h.trans suffix) (beforeSuffix?_eq_none_iff.mp htsx)

theorem importPath_located_iff_stem (label : String) :
    IsLocated (importPath label).toList ↔
      ((withoutExtension label.toList).head? = some '.' →
        IsLocated (withoutExtension label.toList)) := by
  rw [importPath, String.toList_ofList]
  generalize withoutExtension label.toList = stem
  cases stem with
  | nil => simp [isAnchored, IsLocated]
  | cons c rest =>
      by_cases hdot : c = '.'
      · simp [hdot, isAnchored]
      · by_cases hslash : c = '/'
        · simp [hslash, isAnchored, IsLocated]
        · simp [isAnchored, IsLocated, hdot, hslash]

/-- Import paths lead to files unless what is left of the label, without the longest source ending,
starts with a dot and is no relative path by itself. The label of a file has no slash, so its path
leads to a file exactly where what is left does not start with a dot. -/
theorem importPath_located_iff (label : String) :
    IsStem label.toList (withoutExtension label.toList) ∧
    (IsLocated (importPath label).toList ↔
      ((withoutExtension label.toList).head? = some '.' →
        IsLocated (withoutExtension label.toList))) ∧
    ∀ origin : Command.Origin, origin.label = label →
      (IsLocated (importPath label).toList ↔ (withoutExtension label.toList).head? ≠ some '.') := by
  refine ⟨isStem_withoutExtension label.toList, importPath_located_iff_stem label, ?_⟩
  rintro origin rfl
  have bare : ¬ IsLocated (withoutExtension origin.label.toList) := by
    intro located
    obtain ⟨ending, -, hlabel, -⟩ := isStem_withoutExtension origin.label.toList
    apply origin.slash_notMem_label
    rw [hlabel]
    exact List.mem_append_left _ located.slash_mem
  rw [importPath_located_iff_stem]
  simp only [bare, imp_false, ne_eq]

/-- A relative path to a file whose name is an ending, and the label of such a file. -/
theorem importPath_located_iff_endings :
    IsLocated (importPath "../.d.ts").toList ∧ (Command.Origin.file "src/.ts").label = ".ts" ∧
      IsLocated (importPath ".ts").toList := by
  have named : (Command.Origin.file "src/.ts").label = ".ts" := by decide +kernel
  refine ⟨?_, named, ?_⟩
  · apply (importPath_located_iff "../.d.ts").2.1.mpr
    intro _
    decide +kernel
  · apply ((importPath_located_iff ".ts").2.2 (.file "src/.ts") named).mpr
    decide +kernel

/-- The types of a hidden file are imported by the name of a package. -/
theorem not_located_hidden :
    (Command.Origin.ofWord ".hidden.ts").label = ".hidden.ts" ∧
      importPath ".hidden.ts" = ".hidden" ∧ ¬ IsLocated (importPath ".hidden.ts").toList := by
  decide +kernel

end SchemaGuards
