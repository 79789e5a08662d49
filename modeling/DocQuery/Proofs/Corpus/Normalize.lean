import Mathlib
import DocQuery.Proofs.Corpus.History

/-!
The path that a link text means, and what that path means in turn. A path is its own meaning when it is
written without what is left out around a link text, which neither an unresolved text nor the path of a
document has to be: blanks are left out before slashes are, so that blanks behind slashes stay.
-/

namespace DocQuery.Corpus

variable {c : Corpus}

/-- What a link text means depends on its clean path only. -/
theorem normalize_congr {text other : String} (h : Path.clean text = Path.clean other) :
    c.normalize text = c.normalize other := by
  rw [normalize, normalize, h]

/-- A link text means a document, or nothing but itself. -/
theorem Coherent.normalize_mem_or_eq_clean (hc : c.Coherent) (text : String) :
    c.normalize text ∈ c.paths ∨ c.normalize text = Path.clean text := by
  rw [normalize]
  split
  · exact .inr rfl
  · split
    · next hExtended => exact .inl (hasPath_iff.mp hExtended)
    · split
      · next hOnly => exact .inl (mem_sharing_iff.mp (hc.mem_sharing_of_lookup hOnly)).1
      · exact .inr rfl

/-- The path of a document means that document when nothing is left out around it. -/
theorem normalize_of_clean {path : String} (hMem : path ∈ c.paths) (hClean : Path.clean path = path) :
    c.normalize path = path := by
  rw [normalize, hClean]
  exact if_pos (hasPath_iff.mpr hMem)

theorem mem_paths_ofDocuments {ds : List Document} {path : String} :
    path ∈ (ofDocuments ds).paths ↔ ∃ d ∈ ds, d.path = path := by
  rw [← hasPath_iff, hasPath, document?_ofDocuments, lastAt?_isSome_iff]

/-- Over documents with paths around which nothing is left out, the meaning of a link text is its own
meaning exactly when it is a document or when nothing more can be left out around the text. -/
theorem normalize_normalize_iff (ds : List Document) (hClean : ∀ d ∈ ds, Path.clean d.path = d.path)
    (text : String) :
    (ofDocuments ds).normalize ((ofDocuments ds).normalize text) = (ofDocuments ds).normalize text ↔
      (ofDocuments ds).has text = true ∨ Path.clean (Path.clean text) = Path.clean text := by
  have hCoherent := coherent_ofDocuments ds
  have hPaths : ∀ path ∈ (ofDocuments ds).paths, Path.clean path = path := by
    intro path hPath
    obtain ⟨d, hMem, rfl⟩ := mem_paths_ofDocuments.mp hPath
    exact hClean d hMem
  have hHas : (ofDocuments ds).has text = true ↔
      (ofDocuments ds).normalize text ∈ (ofDocuments ds).paths := hasPath_iff
  rw [hHas]
  by_cases hMem : (ofDocuments ds).normalize text ∈ (ofDocuments ds).paths
  · exact iff_of_true (normalize_of_clean hMem (hPaths _ hMem)) (.inl hMem)
  · have hText := (hCoherent.normalize_mem_or_eq_clean text).resolve_left hMem
    rw [hText] at hMem ⊢
    rw [or_iff_right hMem]
    constructor
    · intro hFixed
      rcases hCoherent.normalize_mem_or_eq_clean (Path.clean text) with hFound | hAgain
      · exact absurd (hFixed ▸ hFound) hMem
      · exact hAgain.symm.trans hFixed
    · intro hAgain
      exact (normalize_congr hAgain).trans hText

/-- Behind the slash a blank stays, with which no document is found; it is left out the second time. -/
theorem not_normalize_normalize :
    ¬ ∀ (ds : List Document) (text : String),
      (ofDocuments ds).normalize ((ofDocuments ds).normalize text) =
        (ofDocuments ds).normalize text := by
  intro hAlways
  have hTwice := hAlways [{ path := "a.md" }] "/ a"
  revert hTwice
  decide +kernel

/-- A text in other letter case that means a document, whose path means it too. -/
theorem normalize_normalize_iff_revised :
    (∀ d ∈ revised, Path.clean d.path = d.path) ∧
    (ofDocuments revised).normalize "//x/HOME " = "Home.md" ∧
    ((ofDocuments revised).normalize ((ofDocuments revised).normalize "//x/HOME ") =
        (ofDocuments revised).normalize "//x/HOME " ↔
      (ofDocuments revised).has "//x/HOME " = true ∨
        Path.clean (Path.clean "//x/HOME ") = Path.clean "//x/HOME ") := by
  have hClean : ∀ d ∈ revised, Path.clean d.path = d.path := by
    intro d hMem
    simp only [revised, List.mem_cons, List.not_mem_nil, or_false] at hMem
    rcases hMem with rfl | rfl | rfl <;> decide +kernel
  exact ⟨hClean, by decide +kernel, normalize_normalize_iff revised hClean "//x/HOME "⟩

end DocQuery.Corpus
