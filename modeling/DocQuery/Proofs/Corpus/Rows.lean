import Mathlib
import DocQuery.Proofs.Corpus.Normalize

/-!
The rows of a query that selects everything. The rows are found by listing the paths and asking for the
document of each, so that every document has its row exactly when every path means itself.
-/

namespace DocQuery

theorem Document.get_page_file (d : Document) (outgoing incoming : List String) :
    Object.get (d.page outgoing incoming) "file" = .object (d.fileInfo outgoing incoming) := by
  rw [Object.get, page, Keyed.get?_set_self]
  rfl

theorem Document.path_page (d : Document) (outgoing incoming : List String) :
    ∃ file, Object.get (d.page outgoing incoming) "file" = .object file ∧
      Object.get file "path" = .string d.path :=
  ⟨_, d.get_page_file outgoing incoming, rfl⟩

/-- Pages of documents at different paths are different. -/
theorem Document.path_eq_of_page_eq {d other : Document} {outgoing incoming outgoing' incoming' : List String}
    (h : d.page outgoing incoming = other.page outgoing' incoming') : d.path = other.path := by
  obtain ⟨file, hFile, hPath⟩ := d.path_page outgoing incoming
  obtain ⟨file', hFile', hPath'⟩ := other.path_page outgoing' incoming'
  rw [h, hFile', Value.object.injEq] at hFile
  rw [hFile, hPath, Value.string.injEq] at hPath'
  exact hPath'

/-- Leaving out nothing is mapping. -/
theorem filterMap_eq_map_iff {α β : Type} {f : α → Option β} {g : α → β} {xs : List α} :
    xs.filterMap f = xs.map g ↔ ∀ x ∈ xs, f x = some (g x) := by
  induction xs with
  | nil => simp
  | cons x rest ih =>
      rw [List.forall_mem_cons, List.map_cons]
      cases hHead : f x with
      | none =>
          refine iff_of_false (fun h => ?_) nofun
          -- A list that has lost its head is too short.
          have hShort := List.length_filterMap_le f rest
          rw [List.filterMap_cons_none hHead] at h
          rw [h, List.length_cons, List.length_map] at hShort
          omega
      | some y => rw [List.filterMap_cons_some hHead, List.cons.injEq, ih, Option.some.injEq]

namespace Corpus

/-- A document as a row, with what is known about its links. -/
def documentRow (c : Corpus) (path : String) (d : Document) : Row :=
  Row.single (.link (.file path)) (d.page (c.outgoingOf path) (c.incomingOf path))

def documentRows (c : Corpus) : List Row :=
  c.documents.map fun entry => c.documentRow entry.1 entry.2

variable {c : Corpus}

/-- The row that a selected path gives. -/
def row? (c : Corpus) (path : String) : Option Row :=
  (c.page? path).map fun page => Row.single (.link (.file path)) page

theorem rows_everything (c : Corpus) :
    c.rows .everything = .ok (c.documents.filterMap fun entry => c.row? entry.1) := by
  refine congrArg Except.ok ?_
  rw [paths, List.filterMap_map]
  rfl

/-- A path gives the row of its own document exactly when it means itself. -/
theorem Coherent.row?_eq_iff (hc : c.Coherent) {path : String} {d : Document}
    (hMem : (path, d) ∈ c.documents) :
    c.row? path = some (c.documentRow path d) ↔ c.normalize path = path := by
  have hPath : d.path = path := hc.path_eq path d hMem
  rw [row?, page?, Option.map_map]
  constructor
  · intro hRow
    obtain ⟨found, hFound, hEq⟩ := Option.map_eq_some_iff.mp hRow
    rw [← hc.path_of_document? hFound, ← hPath]
    exact Document.path_eq_of_page_eq (congrArg Row.fields hEq)
  · intro hFixed
    rw [hFixed, (hc.document?_eq_some_iff path d).mpr hMem, Option.map_some, Function.comp_apply,
      hPath, documentRow]

/-- A corpus lists the documents inserted last at their paths, by ascending paths. Selecting everything
gives each of them its own row and nothing else, exactly when every path means itself. -/
theorem rows_everything_eq_documentRows_iff (ds : List Document) :
    (ofDocuments ds).paths.Pairwise (· < ·) ∧
    (∀ path d, (path, d) ∈ (ofDocuments ds).documents ↔ lastAt? ds path = some d) ∧
    ((ofDocuments ds).rows .everything = .ok (ofDocuments ds).documentRows ↔
      ∀ d ∈ ds, (ofDocuments ds).normalize d.path = d.path) := by
  have hc := coherent_ofDocuments ds
  refine ⟨hc.paths_ascending, fun path d => ?_, ?_⟩
  · rw [← hc.document?_eq_some_iff, document?_ofDocuments]
  · rw [rows_everything, Except.ok.injEq, documentRows, filterMap_eq_map_iff]
    constructor
    · intro hRows d hMem
      obtain ⟨⟨path, found⟩, hEntry, hPath⟩ :=
        List.mem_map.mp (mem_paths_ofDocuments.mpr ⟨d, hMem, rfl⟩)
      have hRow := hRows _ hEntry
      rw [← hPath]
      exact (hc.row?_eq_iff hEntry).mp hRow
    · rintro hFixed ⟨path, d⟩ hEntry
      obtain ⟨known, hMem, hPath⟩ := mem_paths_ofDocuments.mp (List.mem_map_of_mem hEntry)
      have hMeaning := hFixed known hMem
      rw [hPath] at hMeaning
      exact (hc.row?_eq_iff hEntry).mpr hMeaning

/-- A document whose path begins with a blank has no row. -/
theorem not_rows_everything_eq_documentRows :
    ¬ ∀ ds : List Document,
      (ofDocuments ds).rows .everything = .ok (ofDocuments ds).documentRows := by
  intro hAlways
  have hLength := congrArg (fun rows => rows.toOption.map List.length) (hAlways [{ path := " a.md" }])
  revert hLength
  decide +kernel

end Corpus
end DocQuery
