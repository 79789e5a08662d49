import Mathlib
import DocQuery.Proofs.Corpus.History

/-!
The two directions of the link index. Both are built document by document from what the links of a
document lead to, so that both say the same: a path is among the outgoing ones of a document exactly
when the document is among the incoming ones of the path.
-/

namespace DocQuery

namespace LinkIndex

/-- A document is replaced in the outgoing direction. -/
theorem lookup_outgoing_add (index : LinkIndex) (path : String) (targets : List String)
    (other : String) :
    (index.add path targets).outgoing.lookup other =
      if other = path then some targets else index.outgoing.lookup other :=
  Ordered.lookup_put path targets index.outgoing other

/-- In the incoming direction nothing is ever taken away. -/
theorem mem_incoming_add (index : LinkIndex) (path : String) (targets : List String)
    (target other : String) :
    other ∈ Ordered.setAt (index.add path targets).incoming target ↔
      other ∈ Ordered.setAt index.incoming target ∨ (other = path ∧ target ∈ targets) := by
  rw [add]
  induction targets generalizing index with
  | nil => simp
  | cons first rest ih =>
      have hRest := ih { index with incoming := Ordered.insertAt first path index.incoming }
      rw [List.foldl_cons, hRest, Ordered.mem_setAt_insertAt, List.mem_cons]
      tauto

end LinkIndex

namespace Corpus

variable {c : Corpus}

/-- The document at a path has a link that means another path. -/
def LinksTo (c : Corpus) (path target : String) : Prop :=
  ∃ d, c.document? path = some d ∧ ∃ link ∈ d.links, c.normalize link = target

theorem mem_targets {d : Document} {target : String} :
    target ∈ c.targets d ↔ ∃ link ∈ d.links, c.normalize link = target := by
  rw [targets, Ordered.mem_ofList, List.mem_map]

/-- The index of some of the documents. -/
def indexOf (c : Corpus) (documents : List (String × Document)) : LinkIndex :=
  documents.foldl (fun index entry => index.add entry.2.path (c.targets entry.2)) {}

/-- Each document adds its own links to the index. -/
theorem indexOf_append_singleton (documents : List (String × Document)) (entry : String × Document) :
    c.indexOf (documents ++ [entry]) =
      (c.indexOf documents).add entry.2.path (c.targets entry.2) := by
  rw [indexOf, List.foldl_append]
  rfl

/-- The outgoing side of the index holds the targets of every document. -/
theorem lookup_outgoing_indexOf {documents : List (String × Document)}
    (hAscending : (documents.map Prod.fst).Pairwise (· < ·))
    (hPaths : ∀ entry ∈ documents, entry.2.path = entry.1) (path : String) :
    (c.indexOf documents).outgoing.lookup path = (documents.lookup path).map c.targets := by
  induction documents using List.reverseRecOn with
  | nil => rfl
  | append_singleton documents entry ih =>
      obtain ⟨last, d⟩ := entry
      rw [List.map_append, List.pairwise_append] at hAscending
      obtain ⟨hBefore, _, hLast⟩ := hAscending
      have hOwn : d.path = last := hPaths _ (List.mem_append_right _ (List.mem_singleton_self _))
      rw [indexOf_append_singleton, LinkIndex.lookup_outgoing_add, hOwn, List.lookup_append,
        Ordered.lookup_cons, ih hBefore fun entry hEntry => hPaths _ (List.mem_append_left _ hEntry)]
      split
      · next hPath =>
          -- The last path is new, so that nothing in front of it is replaced.
          have hNew : documents.lookup path = none := by
            refine Option.eq_none_iff_forall_ne_some.mpr fun other hFound => ?_
            have hMem := (Ordered.mem_iff_lookup hBefore path other).mpr hFound
            have hLess := hLast path (List.mem_map_of_mem hMem) last (List.mem_singleton_self _)
            exact lt_irrefl last (hPath ▸ hLess)
          rw [hNew]
          rfl
      · rw [List.lookup_nil, Option.or_none]

/-- The incoming side of the index holds the documents whose targets a path is among. -/
theorem mem_incoming_indexOf (documents : List (String × Document)) (target path : String) :
    path ∈ Ordered.setAt (c.indexOf documents).incoming target ↔
      ∃ entry ∈ documents, path = entry.2.path ∧ target ∈ c.targets entry.2 := by
  induction documents using List.reverseRecOn with
  | nil => simp [indexOf, Ordered.setAt]
  | append_singleton documents entry ih =>
      rw [indexOf_append_singleton, LinkIndex.mem_incoming_add, ih]
      simp [or_and_right, exists_or]

namespace Coherent

theorem links_eq_indexOf (hc : c.Coherent) : c.links = c.indexOf c.documents := hc.links_eq

/-- The outgoing direction says what the links of the document at a path lead to. -/
theorem mem_outgoingOf_iff (hc : c.Coherent) {path target : String} :
    target ∈ c.outgoingOf path ↔ c.LinksTo path target := by
  rw [outgoingOf, hc.links_eq_indexOf, Ordered.setAt,
    lookup_outgoing_indexOf hc.paths_ascending fun entry hEntry => hc.path_eq _ _ hEntry]
  simp only [LinksTo, document?, ← mem_targets]
  cases c.documents.lookup path with
  | none => simp
  | some d => simp

/-- The incoming direction says the same, read from the other end. -/
theorem mem_incomingOf_iff (hc : c.Coherent) {path target : String} :
    path ∈ c.incomingOf target ↔ c.LinksTo path target := by
  rw [incomingOf, hc.links_eq_indexOf, mem_incoming_indexOf]
  simp only [LinksTo, hc.document?_eq_some_iff, mem_targets]
  constructor
  · rintro ⟨⟨own, d⟩, hEntry, rfl, hTarget⟩
    rw [← hc.path_eq own d hEntry] at hEntry
    exact ⟨d, hEntry, hTarget⟩
  · rintro ⟨d, hEntry, hTarget⟩
    exact ⟨(path, d), hEntry, (hc.path_eq path d hEntry).symm, hTarget⟩

end Coherent

/-- A document links to a path that one of its links means. -/
theorem linksTo_iff {path target : String} {d : Document} (hDocument : c.document? path = some d) :
    c.LinksTo path target ↔ ∃ link ∈ d.links, c.normalize link = target := by
  rw [LinksTo, hDocument]
  constructor
  · rintro ⟨_, hSome, hTarget⟩
    cases hSome
    exact hTarget
  · intro hTarget
    exact ⟨d, rfl, hTarget⟩

/-- After any history the two directions agree about a document, by whatever text each end is named,
and both say what the links of the document lead to now. -/
theorem mem_incoming_iff_mem_outgoing (events : List Event) (d : Document) (source text : String)
    (hDocument : (after events).document? d.path = some d)
    (hSource : (after events).normalize source = d.path) :
    (d.path ∈ (after events).incoming text ↔
      (after events).normalize text ∈ (after events).outgoing source) ∧
    ((after events).normalize text ∈ (after events).outgoing source ↔
      ∃ link ∈ d.links, (after events).normalize link = (after events).normalize text) := by
  have hc := coherent_after events
  have hIncoming : d.path ∈ (after events).incoming text ↔
      (after events).LinksTo d.path ((after events).normalize text) := hc.mem_incomingOf_iff
  have hOutgoing : (after events).normalize text ∈ (after events).outgoing source ↔
      (after events).LinksTo d.path ((after events).normalize text) := by
    rw [outgoing, hSource]
    exact hc.mem_outgoingOf_iff
  exact ⟨hIncoming.trans hOutgoing.symm, hOutgoing.trans (linksTo_iff hDocument)⟩

/-- The link of the first document has become ambiguous and leads to its own text, under which the
document is found from the other end. -/
theorem mem_incoming_iff_mem_outgoing_revisions :
    (after revisions).document? "Home.md" = some { path := "Home.md", links := ["beta"] } ∧
    (after revisions).normalize "x/HOME" = "Home.md" ∧
    (after revisions).normalize " /beta" = "beta" ∧
    "Home.md" ∈ (after revisions).incoming " /beta" ∧
    ("Home.md" ∈ (after revisions).incoming " /beta" ↔
      (after revisions).normalize " /beta" ∈ (after revisions).outgoing "x/HOME") ∧
    ((after revisions).normalize " /beta" ∈ (after revisions).outgoing "x/HOME" ↔
      ∃ link ∈ ["beta"], (after revisions).normalize link = (after revisions).normalize " /beta") := by
  have hDocument : (after revisions).document? "Home.md" =
      some { path := "Home.md", links := ["beta"] } := by
    rw [document?_after]
    rfl
  have hSource : (after revisions).normalize "x/HOME" = "Home.md" := by decide +kernel
  have hBoth := mem_incoming_iff_mem_outgoing revisions { path := "Home.md", links := ["beta"] } "x/HOME"
    " /beta" hDocument hSource
  exact ⟨hDocument, hSource, by decide +kernel, by decide +kernel, hBoth⟩

end Corpus
end DocQuery
