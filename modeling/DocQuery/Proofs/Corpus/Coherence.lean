import Mathlib.Data.List.Sort
import Mathlib.Data.String.Basic
import DocQuery.Corpus
import DocQuery.Proofs.Ordered

/-!
What a corpus keeps beside its documents, the paths by stem and the knowledge where links lead to, fits
the documents after every change. Such a corpus is determined by what is found at each path.
-/

namespace DocQuery.Corpus

/-- The paths of the documents with a stem. -/
def sharing (c : Corpus) (key : String) : List String :=
  c.paths.filter fun path => Path.stemKey path == key

/-- The parts of a corpus fit together. A stem without documents is not there at all, and what is known
of the links is what the documents say. -/
structure Coherent (c : Corpus) : Prop where
  paths_ascending : c.paths.Pairwise (· < ·)
  path_eq : ∀ path d, (path, d) ∈ c.documents → d.path = path
  stems_ascending : (c.stems.map Prod.fst).Pairwise (· < ·)
  stems_lookup : ∀ key,
    c.stems.lookup key = if c.sharing key = [] then none else some (c.sharing key)
  known_links : ∀ index, c.links? = some index → index = c.findLinks

variable {a b c : Corpus}

theorem hasPath_iff {path : String} : c.hasPath path = true ↔ path ∈ c.paths := by
  rw [hasPath, document?, List.lookup_isSome_iff, paths, List.mem_map]
  simp only [beq_iff_eq, @eq_comm _ path]

theorem mem_sharing_iff {key path : String} :
    path ∈ c.sharing key ↔ path ∈ c.paths ∧ Path.stemKey path = key := by
  rw [sharing, List.mem_filter, beq_iff_eq]

theorem paths_insert (c : Corpus) (d : Document) :
    (c.insert d).paths = Ordered.insert d.path c.paths :=
  Ordered.keys_put d.path d c.documents

theorem document?_insert (c : Corpus) (d : Document) (path : String) :
    (c.insert d).document? path = if path = d.path then some d else c.document? path :=
  Ordered.lookup_put d.path d c.documents path

/-- A document that is inserted joins those with its stem, and no others. -/
theorem sharing_insert (hPaths : c.paths.Pairwise (· < ·)) (d : Document) (key : String) :
    (c.insert d).sharing key =
      if key = Path.stemKey d.path then Ordered.insert d.path (c.sharing key) else c.sharing key := by
  rw [sharing, paths_insert, Ordered.filter_insert d.path hPaths]
  simp only [beq_iff_eq, @eq_comm _ key, sharing]

namespace Coherent

/-- A document is found exactly at its own path. -/
theorem document?_eq_some_iff (hc : c.Coherent) (path : String) (d : Document) :
    c.document? path = some d ↔ (path, d) ∈ c.documents :=
  (Ordered.mem_iff_lookup hc.paths_ascending path d).symm

/-- A document is found at its own path only. -/
theorem path_of_document? (hc : c.Coherent) {path : String} {d : Document}
    (h : c.document? path = some d) : d.path = path :=
  hc.path_eq path d ((hc.document?_eq_some_iff path d).mp h)

/-- The index of stems lists the paths with a stem. -/
theorem setAt_stems (hc : c.Coherent) (key : String) : Ordered.setAt c.stems key = c.sharing key := by
  rw [Ordered.setAt, hc.stems_lookup]
  split
  · next hNone => exact hNone.symm
  · rfl

/-- A path that is the only one kept for a stem is that of a document with the stem. -/
theorem mem_sharing_of_lookup (hc : c.Coherent) {key path : String}
    (hOnly : c.stems.lookup key = some [path]) : path ∈ c.sharing key := by
  rw [← hc.setAt_stems, Ordered.setAt, hOnly]
  exact List.mem_singleton_self path

/-- Links that were found out before are still those of the documents. -/
theorem links_eq (hc : c.Coherent) : c.links = c.findLinks := by
  rw [links]
  cases hLinks : c.links? with
  | none => rfl
  | some index => exact hc.known_links index hLinks

theorem empty : ({} : Corpus).Coherent where
  paths_ascending := .nil
  path_eq _ _ hMem := absurd hMem List.not_mem_nil
  stems_ascending := .nil
  stems_lookup _ := rfl
  known_links _ hKnown := by cases hKnown

/-- Inserting a document keeps the indices right. -/
theorem insert (hc : c.Coherent) (d : Document) : (c.insert d).Coherent where
  paths_ascending := by
    rw [paths_insert]
    exact Ordered.pairwise_insert d.path hc.paths_ascending
  path_eq path other hMem := by
    have hKeys : ((c.insert d).documents.map Prod.fst).Pairwise (· < ·) := by
      rw [← paths, paths_insert]
      exact Ordered.pairwise_insert d.path hc.paths_ascending
    have hFound := (Ordered.mem_iff_lookup hKeys path other).mp hMem
    rw [← document?, document?_insert] at hFound
    split at hFound
    · next hPath => rw [hPath, Option.some.inj hFound]
    · exact hc.path_of_document? hFound
  stems_ascending := by
    rw [Corpus.insert, Ordered.insertAt, Ordered.keys_put]
    exact Ordered.pairwise_insert _ hc.stems_ascending
  stems_lookup key := by
    have hSome : Ordered.insert d.path (c.sharing key) ≠ [] :=
      List.ne_nil_of_mem (Ordered.mem_insert.mpr (.inl rfl))
    rw [sharing_insert hc.paths_ascending, Corpus.insert, Ordered.insertAt, Ordered.lookup_put,
      hc.setAt_stems]
    split
    · next hKey => rw [hKey]
    · exact hc.stems_lookup key
  known_links _ hKnown := by cases hKnown

theorem indexed (hc : c.Coherent) : c.indexed.Coherent where
  paths_ascending := hc.paths_ascending
  path_eq := hc.path_eq
  stems_ascending := hc.stems_ascending
  stems_lookup := hc.stems_lookup
  known_links _ hKnown := (Option.some.inj hKnown).symm.trans hc.links_eq

/-- Two corpora in which the same documents are found agree in everything once it is known where links
lead to. -/
theorem indexed_eq (ha : a.Coherent) (hb : b.Coherent)
    (hSame : ∀ path, a.document? path = b.document? path) : a.indexed = b.indexed := by
  have hDocuments : a.documents = b.documents :=
    Ordered.eq_of_lookup_eq ha.paths_ascending hb.paths_ascending hSame
  have hPaths : a.paths = b.paths := by rw [paths, hDocuments, paths]
  have hStems : a.stems = b.stems := by
    refine Ordered.eq_of_lookup_eq ha.stems_ascending hb.stems_ascending fun key => ?_
    rw [ha.stems_lookup, hb.stems_lookup, sharing, sharing, hPaths]
  have hLinks : a.findLinks = b.findLinks := by
    obtain ⟨documents, stems, known⟩ := a
    cases hDocuments
    cases hStems
    rfl
  have hIndexed (c : Corpus) (hc : c.Coherent) :
      c.indexed = ⟨c.documents, c.stems, some c.findLinks⟩ := by
    rw [← hc.links_eq]
    rfl
  rw [hIndexed a ha, hIndexed b hb, hDocuments, hStems, hLinks]

end Coherent

end DocQuery.Corpus
