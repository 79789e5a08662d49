import Mathlib
import DocQuery.Proofs.Corpus.Rows
import DocQuery.Proofs.Text.LowerCase
import DocQuery.Proofs.Text.Slice

/-!
Names of documents as link texts. The name of a document is the stem of its path. A link text is taken for
a path, of which the stem is looked up, so that a name finds its document when it is its own stem: what
stands behind a point in the name is left out a second time, and so are blanks around it.
-/

namespace DocQuery

open Text

namespace Path

/-- The stem of a name is the name when there is no point behind its first character. -/
theorem splitName_eq_self_iff {name : List Char} : (splitName name).1 = name ↔ '.' ∉ name.tail := by
  rw [splitName]
  split
  · next c before hBefore =>
      obtain ⟨after, rfl, _⟩ := beforeLast?_eq_some_iff.mp hBefore
      refine iff_of_false (fun hSame => ?_) (fun hNot => hNot (by simp))
      have hLength := congrArg List.length hSame
      simp at hLength
  · next hOther =>
      refine iff_of_true rfl ?_
      cases hBefore : beforeLast? '.' name with
      | none => exact fun hMem => beforeLast?_eq_none_iff.mp hBefore (List.mem_of_mem_tail hMem)
      | some before =>
          obtain ⟨after, rfl, hNot⟩ := beforeLast?_eq_some_iff.mp hBefore
          cases before with
          | nil => exact hNot
          | cons c before => exact absurd hBefore (hOther c before)

/-- A name begins with its stem. -/
theorem splitName_prefix_self (name : List Char) : (splitName name).1 <+: name := by
  rw [splitName]
  split
  · next hBefore =>
      obtain ⟨after, rfl, _⟩ := beforeLast?_eq_some_iff.mp hBefore
      exact List.prefix_append _ _
  · exact List.prefix_rfl

/-- A name with an extension has the name for its stem. -/
theorem splitName_append_md {name : List Char} (hName : name ≠ []) :
    (splitName (name ++ ".md".toList)).1 = name := by
  have hLast : beforeLast? '.' (name ++ ".md".toList) = some name :=
    beforeLast?_eq_some_iff.mpr ⟨['m', 'd'], rfl, by decide⟩
  obtain ⟨c, rest, rfl⟩ := List.exists_cons_of_ne_nil hName
  rw [splitName, hLast]

theorem toList_stem (path : String) : (stem path).toList = (splitName (fileName path)).1 :=
  String.toList_ofList

/-- The stem of a path is a part of it. -/
theorem stem_sublist (path : String) : (stem path).toList.Sublist path.toList := by
  rw [toList_stem]
  exact (splitName_prefix_self _).sublist.trans (suffix_afterLast '/' path.toList).sublist

/-- No slash stands in a stem. -/
theorem slash_not_mem_stem (path : String) : '/' ∉ (stem path).toList := by
  rw [toList_stem]
  exact fun hMem => not_mem_afterLast '/' path.toList ((splitName_prefix_self _).subset hMem)

theorem toList_stem_of_slash_not_mem {path : String} (hSlash : '/' ∉ path.toList) :
    (stem path).toList = (splitName path.toList).1 := by
  rw [toList_stem, fileName, afterLast_of_not_mem hSlash]

/-- A name without an extension is its own stem, and no other name is. -/
theorem stem_eq_self_iff {name : String} (hSlash : '/' ∉ name.toList) :
    stem name = name ↔ '.' ∉ name.toList.tail := by
  rw [← String.toList_inj, toList_stem_of_slash_not_mem hSlash, splitName_eq_self_iff]

/-- The extension `.md` is left out of the stem. -/
theorem stem_append_md {name : String} (hSlash : '/' ∉ name.toList) (hName : name ≠ "") :
    stem (name ++ ".md") = name := by
  have hBoth : '/' ∉ (name ++ ".md").toList := by
    rw [String.toList_append, List.mem_append]
    exact not_or.mpr ⟨hSlash, by decide⟩
  have hSome : name.toList ≠ [] := mt String.toList_eq_nil_iff.mp hName
  rw [← String.toList_inj, toList_stem_of_slash_not_mem hBoth, String.toList_append,
    splitName_append_md hSome]

/-- Cleaning only leaves characters out. -/
theorem clean_sublist (path : String) : (clean path).toList.Sublist path.toList := by
  rw [clean, String.toList_ofList]
  exact (List.dropWhile_suffix _).sublist.trans (infix_trim path.toList).sublist

/-- Nothing is left out when what is left has everything for its stem. -/
theorem clean_eq_self_of_stem {name : String} (h : stem (clean name) = name) : clean name = name := by
  have hPart := stem_sublist (clean name)
  rw [h] at hPart
  exact String.toList_injective ((clean_sublist name).antisymm hPart)

end Path

namespace Corpus

variable {c : Corpus} {path : String}

/-- The only path with its stem is the only one that is kept for it. -/
theorem Coherent.lookup_stemKey (hc : c.Coherent) (hPath : path ∈ c.paths)
    (hOnly : ∀ other ∈ c.paths, Path.stemKey other = Path.stemKey path → other = path) :
    c.stems.lookup (Path.stemKey path) = some [path] := by
  have hMem (other : String) : other ∈ c.sharing (Path.stemKey path) ↔ other = path := by
    rw [mem_sharing_iff]
    constructor
    · exact fun hOther => hOnly other hOther.1 hOther.2
    · rintro rfl
      exact ⟨hPath, rfl⟩
  have hNodup : (c.sharing (Path.stemKey path)).Nodup :=
    (hc.paths_ascending.imp fun hLess => ne_of_lt hLess).filter _
  have hSharing : c.sharing (Path.stemKey path) = [path] := by
    refine List.perm_singleton.mp ((List.perm_ext_iff_of_nodup hNodup (List.nodup_singleton path)).mpr ?_)
    exact fun other => (hMem other).trans List.mem_singleton.symm
  rw [hc.stems_lookup, hSharing, if_neg (List.cons_ne_nil path [])]

/-- A name that is its own stem finds the only document of that name. -/
theorem Coherent.normalize_stem (hc : c.Coherent) (hPath : path ∈ c.paths)
    (hOnly : ∀ other ∈ c.paths, Path.stemKey other = Path.stemKey path → other = path)
    (hFree : ∀ other ∈ c.paths, other = Path.stem path ∨ other = Path.stem path ++ ".md" → other = path)
    (hClean : Path.clean (Path.stem path) = Path.stem path)
    (hStem : Path.stem (Path.stem path) = Path.stem path ∨ path = Path.stem path ++ ".md") :
    c.normalize (Path.stem path) = path := by
  rw [normalize, hClean]
  split
  · next hHere => exact hFree _ (hasPath_iff.mp hHere) (.inl rfl)
  · split
    · next hExtended => exact hFree _ (hasPath_iff.mp hExtended) (.inr rfl)
    · next hNot =>
        have hSame : Path.stemKey (Path.stem path) = Path.stemKey path := by
          rcases hStem with hStem | hExtended
          · rw [Path.stemKey, hStem, ← Path.stemKey]
          · exact absurd (hasPath_iff.mpr (hExtended ▸ hPath)) hNot
        rw [hSame, hc.lookup_stemKey hPath hOnly]

/-- What remains of a name finds a document of that name only when it has that name for its stem, but for a
document at the top. -/
theorem Coherent.stem_of_normalize_stem (hc : c.Coherent) (hPath : path ∈ c.paths)
    (hFound : c.normalize (Path.stem path) = path) :
    Path.stem (Path.clean (Path.stem path)) = Path.stem path ∨
      Path.clean (Path.stem path) ≠ "" ∧ path = Path.clean (Path.stem path) ++ ".md" := by
  rw [normalize] at hFound
  generalize hText : Path.clean (Path.stem path) = text at hFound ⊢
  split at hFound
  · rw [hFound]
    exact .inl rfl
  · next hMissing =>
      split at hFound
      · refine .inr ⟨?_, hFound.symm⟩
        rintro rfl
        -- The stem of the extension alone is the extension, of which something remains.
        rw [← hFound] at hText
        revert hText
        decide
      · split at hFound
        · next only hLookup =>
            rw [hFound] at hLookup
            have hLower := (mem_sharing_iff.mp (hc.mem_sharing_of_lookup hLookup)).2
            have hPart : (Path.stem text).toList.Sublist (Path.stem path).toList := by
              rw [← hText]
              exact (Path.stem_sublist _).trans (Path.clean_sublist _)
            exact .inl (eq_of_sublist_of_lower_eq hPart hLower.symm)
        · rw [hFound] at hMissing
          exact absurd (hasPath_iff.mpr hPath) hMissing

/-- A name that finds a document of that name is its own stem, but for a document at the top. -/
theorem Coherent.clean_of_normalize_stem (hc : c.Coherent) (hPath : path ∈ c.paths)
    (hFound : c.normalize (Path.stem path) = path) :
    Path.clean (Path.stem path) = Path.stem path ∧
      (Path.stem (Path.stem path) = Path.stem path ∨ path = Path.stem path ++ ".md") := by
  rcases hc.stem_of_normalize_stem hPath hFound with hStem | ⟨hSome, hTop⟩
  · have hClean := Path.clean_eq_self_of_stem hStem
    rw [hClean] at hStem
    exact ⟨hClean, .inl hStem⟩
  · have hSlash : '/' ∉ (Path.clean (Path.stem path)).toList :=
      fun hMem => Path.slash_not_mem_stem path ((Path.clean_sublist _).subset hMem)
    have hClean : Path.clean (Path.stem path) = Path.stem path := by
      conv_rhs => rw [hTop]
      exact (Path.stem_append_md hSlash hSome).symm
    rw [hClean] at hTop
    exact ⟨hClean, .inr hTop⟩

/-- After any history the name on the page of a document is the stem of its path. When no other document has
that name in some letter case, nor the name itself or the name with the extension for its path, then a link
with the name means the document exactly when nothing is left out around the name, and there is no point in
it behind its first character or the document lies at the top. -/
theorem normalize_name_iff (events : List Event) (d : Document)
    (hDocument : (after events).document? d.path = some d)
    (hOnly : ∀ path ∈ (after events).paths, path ≠ d.path →
      lower (Path.stem path) ≠ lower (Path.stem d.path))
    (hFree : ∀ path ∈ (after events).paths, path ≠ d.path →
      path ≠ Path.stem d.path ∧ path ≠ Path.stem d.path ++ ".md") :
    (∀ path other, (after events).document? path = some other →
      ∃ file, Object.get (other.page ((after events).outgoingOf path) ((after events).incomingOf path))
          "file" = .object file ∧ Object.get file "name" = .string (Path.stem path)) ∧
    ((after events).normalize (Path.stem d.path) = d.path ↔
      Path.clean (Path.stem d.path) = Path.stem d.path ∧
        ('.' ∉ (Path.stem d.path).toList.tail ∨ d.path = Path.stem d.path ++ ".md")) := by
  have hc := coherent_after events
  have hPath : d.path ∈ (after events).paths :=
    List.mem_map_of_mem ((hc.document?_eq_some_iff d.path d).mp hDocument)
  have hStem := Path.stem_eq_self_iff (Path.slash_not_mem_stem d.path)
  refine ⟨fun path other hOther => ?_, fun hFound => ?_, fun ⟨hClean, hName⟩ => ?_⟩
  · rw [← hc.path_of_document? hOther]
    exact ⟨_, other.get_page_file _ _, rfl⟩
  · rw [← hStem]
    exact hc.clean_of_normalize_stem hPath hFound
  · rw [← hStem] at hName
    refine hc.normalize_stem hPath (fun other hOther hSame => ?_) (fun other hOther hTaken => ?_) hClean hName
    · exact of_not_not fun hNot => hOnly other hOther hNot hSame
    · exact of_not_not fun hNot => hTaken.elim (hFree other hOther hNot).1 (hFree other hOther hNot).2

/-- A point at the beginning of a name is part of it, and one further behind is an extension in a link. -/
def drafts : List Event :=
  [.insert { path := "notes/.draft.md" }, .insert { path := "notes/v1.2.md" }, .insert { path := "Draft.md" }]

/-- The name that begins with a point means its document. -/
theorem normalize_name_iff_drafts :
    (after drafts).document? "notes/.draft.md" = some { path := "notes/.draft.md" } ∧
    (after drafts).normalize ".draft" = "notes/.draft.md" ∧
    (∀ path other, (after drafts).document? path = some other →
      ∃ file, Object.get (other.page ((after drafts).outgoingOf path) ((after drafts).incomingOf path))
          "file" = .object file ∧ Object.get file "name" = .string (Path.stem path)) ∧
    ((after drafts).normalize (Path.stem "notes/.draft.md") = "notes/.draft.md" ↔
      Path.clean (Path.stem "notes/.draft.md") = Path.stem "notes/.draft.md" ∧
        ('.' ∉ (Path.stem "notes/.draft.md").toList.tail ∨
          "notes/.draft.md" = Path.stem "notes/.draft.md" ++ ".md")) := by
  have hDocument : (after drafts).document? "notes/.draft.md" = some { path := "notes/.draft.md" } := by
    rw [document?_after]
    rfl
  have hOnly : ∀ path ∈ (after drafts).paths, path ≠ "notes/.draft.md" →
      lower (Path.stem path) ≠ lower (Path.stem "notes/.draft.md") := by
    decide
  have hFree : ∀ path ∈ (after drafts).paths, path ≠ "notes/.draft.md" →
      path ≠ Path.stem "notes/.draft.md" ∧ path ≠ Path.stem "notes/.draft.md" ++ ".md" := by
    decide
  exact ⟨hDocument, by decide,
    normalize_name_iff drafts { path := "notes/.draft.md" } hDocument hOnly hFree⟩

/-- The only document of a corpus is not found by its name when that has a point in it. -/
theorem not_normalize_name :
    ¬ ∀ (events : List Event) (d : Document), (after events).document? d.path = some d →
      (∀ path ∈ (after events).paths, path ≠ d.path →
        lower (Path.stem path) ≠ lower (Path.stem d.path)) →
      (∀ path ∈ (after events).paths, path ≠ d.path →
        path ≠ Path.stem d.path ∧ path ≠ Path.stem d.path ++ ".md") →
      (after events).normalize (Path.stem d.path) = d.path := by
  intro hAlways
  have hDocument : (after [.insert { path := "notes/v1.2.md" }]).document? "notes/v1.2.md" =
      some { path := "notes/v1.2.md" } := by
    rw [document?_after]
    rfl
  have hFound := hAlways [.insert { path := "notes/v1.2.md" }] { path := "notes/v1.2.md" } hDocument
    (by decide) (by decide)
  revert hFound
  decide

end Corpus
end DocQuery
