import Mathlib
import DocQuery.Proofs.Corpus.Coherence

/-!
A corpus over time: documents are added and replaced, and questions are asked in between. Whatever has
happened, the corpus answers like a new one of the documents that were inserted last at their paths.
-/

namespace DocQuery.Corpus

/-- What happens to a corpus. -/
inductive Event where
  | insert (d : Document)
  /-- A question about links or pages, for which it is found out where links lead to. -/
  | question

/-- The corpus after an event. -/
def meet (c : Corpus) : Event → Corpus
  | .insert d => c.insert d
  | .question => c.indexed

/-- The corpus after a history of events, which begins without documents. -/
def after (events : List Event) : Corpus := events.foldl meet {}

/-- The documents that are inserted in a history. -/
def inserted (events : List Event) : List Document :=
  events.filterMap fun
    | .insert d => some d
    | .question => none

/-- The document that was inserted last at a path. -/
def lastAt? (ds : List Document) (path : String) : Option Document :=
  ds.reverse.find? fun d => d.path == path

/-- The document inserted last at a path is found there. -/
theorem lastAt?_append_singleton (ds : List Document) (d : Document) (path : String) :
    lastAt? (ds ++ [d]) path = if path = d.path then some d else lastAt? ds path := by
  rw [lastAt?, List.reverse_append, List.reverse_singleton, List.singleton_append]
  split
  · next hPath => exact List.find?_cons_of_pos (beq_iff_eq.mpr hPath.symm)
  · next hPath => exact List.find?_cons_of_neg (mt beq_iff_eq.mp (Ne.symm hPath))

theorem mem_of_lastAt? {ds : List Document} {path : String} {d : Document}
    (h : lastAt? ds path = some d) : d ∈ ds :=
  List.mem_reverse.mp (List.mem_of_find?_eq_some h)

theorem path_of_lastAt? {ds : List Document} {path : String} {d : Document}
    (h : lastAt? ds path = some d) : d.path = path :=
  beq_iff_eq.mp (@List.find?_some _ (fun d : Document => d.path == path) _ _ h)

theorem lastAt?_isSome_iff {ds : List Document} {path : String} :
    (lastAt? ds path).isSome = true ↔ ∃ d ∈ ds, d.path = path := by
  simp only [lastAt?, List.find?_isSome, List.mem_reverse, beq_iff_eq]

/-- Whatever happens to a corpus, its indices stay right. -/
theorem coherent_after (events : List Event) : (after events).Coherent := by
  induction events using List.reverseRecOn with
  | nil => exact .empty
  | append_singleton events event ih =>
      rw [after, List.foldl_append]
      cases event with
      | insert d => exact ih.insert d
      | question => exact ih.indexed

/-- What is found at a path is what was inserted there last. -/
theorem document?_after (events : List Event) (path : String) :
    (after events).document? path = lastAt? (inserted events) path := by
  induction events using List.reverseRecOn with
  | nil => rfl
  | append_singleton events event ih =>
      rw [after, List.foldl_append, inserted, List.filterMap_append]
      cases event with
      | insert d =>
          refine (document?_insert _ d path).trans ?_
          rw [← after, ih]
          exact (lastAt?_append_singleton _ d path).symm
      | question =>
          rw [List.filterMap_cons_none rfl, List.filterMap_nil, List.append_nil]
          exact ih

theorem ofDocuments_eq_after (ds : List Document) : ofDocuments ds = after (ds.map .insert) := by
  rw [ofDocuments, after, List.foldl_map]
  rfl

theorem inserted_map_insert (ds : List Document) : inserted (ds.map .insert) = ds := by
  rw [inserted, List.filterMap_map]
  exact List.filterMap_some

theorem coherent_ofDocuments (ds : List Document) : (ofDocuments ds).Coherent :=
  ofDocuments_eq_after ds ▸ coherent_after _

/-- A corpus holds the last document of every path. -/
theorem document?_ofDocuments (ds : List Document) (path : String) :
    (ofDocuments ds).document? path = lastAt? ds path := by
  rw [ofDocuments_eq_after, document?_after, inserted_map_insert]

/-- Two corpora answer every question alike. The fields of a document are resolved and shown by one
question. -/
structure SameAnswers (a b : Corpus) : Prop where
  normalize : ∀ text, a.normalize text = b.normalize text
  has : ∀ text, a.has text = b.has text
  page? : ∀ text, a.page? text = b.page? text
  tasks : ∀ text, a.tasks text = b.tasks text
  tagged : ∀ tag, a.tagged tag = b.tagged tag
  inFolder : ∀ folder, a.inFolder folder = b.inFolder folder
  incoming : ∀ text, a.incoming text = b.incoming text
  outgoing : ∀ text, a.outgoing text = b.outgoing text
  rows : ∀ source, a.rows source = b.rows source

variable {a b : Corpus}

/-- Sources select the same with the links found out beforehand. -/
theorem select_indexed (c : Corpus) (source : Source) : c.indexed.select source = c.select source := by
  induction source with
  | everything | tag | folder | link => rfl
  | not source ih => rw [select, select, ih]; rfl
  | and left right ihLeft ihRight => rw [select, select, ihLeft, ihRight]
  | or left right ihLeft ihRight => rw [select, select, ihLeft, ihRight]

theorem rows_indexed (c : Corpus) (source : Source) : c.indexed.rows source = c.rows source := by
  rw [rows, rows, select_indexed]
  rfl

/-- Corpora that are alike once their links are found out give the same answers. -/
theorem sameAnswers_of_indexed_eq (h : a.indexed = b.indexed) : SameAnswers a b := by
  -- No answer changes when it is found out where links lead to.
  have hAnswer {α : Type} (answer : Corpus → α) : answer a.indexed = answer b.indexed :=
    congrArg answer h
  exact {
    normalize := fun text => hAnswer (normalize · text)
    has := fun text => hAnswer (has · text)
    page? := fun text => hAnswer (page? · text)
    tasks := fun text => hAnswer (tasks · text)
    tagged := fun tag => hAnswer (tagged · tag)
    inFolder := fun folder => hAnswer (inFolder · folder)
    incoming := fun text => hAnswer (incoming · text)
    outgoing := fun text => hAnswer (outgoing · text)
    rows := fun source => by
      rw [← rows_indexed a, ← rows_indexed b]
      exact hAnswer (rows · source) }

/-- The documents of a history are found in a new corpus of those that were inserted last. -/
theorem document?_ofDocuments_eq_after {events : List Event} {ds : List Document}
    (hLast : ∀ d, d ∈ ds ↔ lastAt? (inserted events) d.path = some d) (path : String) :
    (after events).document? path = (ofDocuments ds).document? path := by
  rw [document?_after, document?_ofDocuments]
  cases hFresh : lastAt? ds path with
  | some d =>
      have hFound := (hLast d).mp (mem_of_lastAt? hFresh)
      rwa [path_of_lastAt? hFresh] at hFound
  | none =>
      refine Option.eq_none_iff_forall_ne_some.mpr fun d hFound => ?_
      obtain rfl := path_of_lastAt? hFound
      have hSome := lastAt?_isSome_iff.mpr ⟨d, (hLast d).mpr hFound, rfl⟩
      rw [hFresh] at hSome
      cases hSome

/-- After any history a corpus answers like a new corpus of the documents that were inserted last at
their paths, in any order. The paths kept for a stem are those of the documents with that stem, and what
is known of the links is what the present documents say. -/
theorem after_sameAnswers_ofDocuments (events : List Event) (ds : List Document)
    (hLast : ∀ d, d ∈ ds ↔ lastAt? (inserted events) d.path = some d) :
    SameAnswers (after events) (ofDocuments ds) ∧
    (∀ key path, path ∈ Ordered.setAt (after events).stems key ↔
      (∃ d ∈ ds, d.path = path) ∧ Path.stemKey path = key) ∧
    ∀ index, (after events).links? = some index →
      index = (after events).findLinks ∧ index = (ofDocuments ds).findLinks := by
  have hAfter := coherent_after events
  have hFresh := coherent_ofDocuments ds
  have hDocuments := document?_ofDocuments_eq_after hLast
  have hIndexed := hAfter.indexed_eq hFresh hDocuments
  refine ⟨sameAnswers_of_indexed_eq hIndexed, fun key path => ?_, fun index hKnown => ?_⟩
  · rw [hAfter.setAt_stems, sharing, List.mem_filter, beq_iff_eq, ← hasPath_iff, hasPath,
      hDocuments, document?_ofDocuments, lastAt?_isSome_iff]
  · have hNow := hAfter.known_links index hKnown
    have hLinks : (after events).indexed.links = (ofDocuments ds).indexed.links :=
      congrArg links hIndexed
    refine ⟨hNow, ?_⟩
    rw [hNow, ← hAfter.links_eq, ← hFresh.links_eq]
    exact hLinks

/-- A history in which a link of the first document first leads to the only document of a name, then to
none of two, and in which the other end of the link is replaced. -/
def revisions : List Event :=
  [.insert { path := "Home.md", links := ["beta"] }, .insert { path := "projects/beta.md" }, .question,
    .insert { path := "archive/Beta.md" }, .question,
    .insert { path := "projects/beta.md", links := ["/Home "] }]

/-- The documents that this history leaves, in another order. -/
def revised : List Document :=
  [{ path := "projects/beta.md", links := ["/Home "] }, { path := "archive/Beta.md" },
    { path := "Home.md", links := ["beta"] }]

/-- The link is unresolved in the end, as it is in a corpus that never saw its name as the only one. -/
theorem after_sameAnswers_ofDocuments_revisions :
    (∀ d, d ∈ revised ↔ lastAt? (inserted revisions) d.path = some d) ∧
    (after (revisions.take 3)).outgoing "Home" = ["projects/beta.md"] ∧
    (ofDocuments revised).outgoing "Home" = ["beta"] ∧
    SameAnswers (after revisions) (ofDocuments revised) ∧
    (∀ key path, path ∈ Ordered.setAt (after revisions).stems key ↔
      (∃ d ∈ revised, d.path = path) ∧ Path.stemKey path = key) ∧
    ∀ index, (after revisions).links? = some index →
      index = (after revisions).findLinks ∧ index = (ofDocuments revised).findLinks := by
  have hLast : ∀ d, d ∈ revised ↔ lastAt? (inserted revisions) d.path = some d := by
    intro d
    constructor
    · intro hMem
      simp only [revised, List.mem_cons, List.not_mem_nil, or_false] at hMem
      rcases hMem with rfl | rfl | rfl <;> rfl
    · intro hLast
      have hMem := mem_of_lastAt? hLast
      simp only [inserted, revisions, List.filterMap_cons, List.filterMap_nil, List.mem_cons,
        List.not_mem_nil, or_false] at hMem
      rcases hMem with rfl | rfl | rfl | rfl
      · simp [revised]
      · cases hLast
      · simp [revised]
      · simp [revised]
  exact ⟨hLast, by decide +kernel, by decide +kernel, after_sameAnswers_ofDocuments revisions revised hLast⟩

end DocQuery.Corpus
