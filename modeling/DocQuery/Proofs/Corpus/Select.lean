import Mathlib
import DocQuery.Proofs.Corpus.Links
import DocQuery.Proofs.Outcome

/-!
The documents that a source selects. A source is a formula about one document at a time, and set
operations on paths compute it for all documents together. Outgoing links may lead to paths without
documents, so the two agree on the paths of documents only. A link text is read twice on its way to a
path, which matters where a path does not mean itself.
-/

namespace DocQuery

/-- The link texts in a source, in the order in which they are written. -/
def Source.linkTexts : Source → List String
  | link text _ => [text]
  | not source => source.linkTexts
  | and left right => left.linkTexts ++ right.linkTexts
  | or left right => left.linkTexts ++ right.linkTexts
  | everything | tag _ | folder _ => []

namespace Corpus

variable {c : Corpus} {d : Document} {source s t : Source}

/-! ### Unknown documents -/

/-- The path that a link text in a source comes to: what its meaning means in turn. -/
def sourcePath (c : Corpus) (text : String) : String := c.normalize (c.normalize text)

/-- The first link text in a source that comes to no document. -/
def unknown? (c : Corpus) (source : Source) : Option String :=
  source.linkTexts.find? fun text => !c.hasPath (c.sourcePath text)

/-- A selection fails with the unknown link text, if there is one. -/
def Reports (selection : Except QueryError (List String)) : Option String → Prop
  | some text => selection = .error (.unknownDocument text)
  | none => ∃ paths, selection = .ok paths

/-- Both sides are resolved before they are combined, the left one first. -/
theorem Reports.combine {left right : Except QueryError (List String)} {first second : Option String}
    (hLeft : Reports left first) (hRight : Reports right second)
    (f : List String → List String → List String) :
    Reports (do let paths ← left; return f paths (← right)) (first.or second) := by
  cases first with
  | some text =>
      rw [Reports] at hLeft
      rw [hLeft]
      rfl
  | none =>
      obtain ⟨paths, rfl⟩ := hLeft
      cases second with
      | some text =>
          rw [Reports] at hRight
          rw [hRight]
          rfl
      | none =>
          obtain ⟨others, rfl⟩ := hRight
          exact ⟨f paths others, rfl⟩

/-- No link text is passed over, whatever stands around it, and the first unknown one is reported. -/
theorem select_reports (c : Corpus) (source : Source) :
    Reports (c.select source) (c.unknown? source) := by
  induction source with
  | everything | tag | folder => exact ⟨_, rfl⟩
  | link text direction =>
      rw [unknown?, Source.linkTexts, List.find?_singleton]
      by_cases hKnown : c.has (c.normalize text) = true
      · rw [if_neg (by simpa [sourcePath, has] using hKnown)]
        cases direction <;> exact ⟨_, if_pos hKnown⟩
      · rw [if_pos (by simpa [sourcePath, has] using hKnown)]
        cases direction <;> exact if_neg hKnown
  | not source ih =>
      have hUnknown : c.unknown? (.not source) = c.unknown? source := rfl
      rw [select, hUnknown]
      cases hFirst : c.unknown? source with
      | some text =>
          rw [hFirst, Reports] at ih
          rw [ih]
          rfl
      | none =>
          rw [hFirst] at ih
          obtain ⟨paths, hPaths⟩ := ih
          rw [hPaths]
          exact ⟨_, rfl⟩
  | and left right ihLeft ihRight =>
      rw [unknown?, Source.linkTexts, List.find?_append]
      exact ihLeft.combine ihRight Ordered.inter
  | or left right ihLeft ihRight =>
      rw [unknown?, Source.linkTexts, List.find?_append]
      exact ihLeft.combine ihRight Ordered.union

/-- A selection fails for the first link text that comes to no document, and for nothing else. -/
theorem select_eq_error_iff {e : QueryError} :
    c.select source = .error e ↔ ∃ text, c.unknown? source = some text ∧ e = .unknownDocument text := by
  have hReports := select_reports c source
  cases hFirst : c.unknown? source with
  | none =>
      rw [hFirst] at hReports
      obtain ⟨paths, hPaths⟩ := hReports
      simp [hPaths]
  | some text =>
      rw [hFirst, Reports] at hReports
      simp [hReports, eq_comm]

/-- Some link text comes to no document when its path has none. -/
theorem unknown?_isSome_iff :
    (c.unknown? source).isSome = true ↔
      ∃ text ∈ source.linkTexts, c.document? (c.sourcePath text) = none := by
  simp [unknown?, List.find?_isSome, hasPath]

/-! ### The selected documents -/

/-- A path lies in a folder, or it is the folder itself or has its name. -/
def IsInFolder (folder : String) (path : String) : Prop :=
  let folder := cleanFolder folder
  folder = [] ∨ folder ++ ['/'] <+: path.toList ∨ path.toList = folder ∨
    path.toList = folder ++ ".md".toList

/-- What a source says of a document, when link texts mean the given paths. -/
def Satisfies (c : Corpus) (meaning : String → String) (d : Document) : Source → Prop
  | .everything => True
  | .tag tag => ∃ own ∈ d.tags, Tag.isWithin tag own = true
  | .folder folder => IsInFolder folder d.path
  | .link text .incoming => c.LinksTo d.path (meaning text)
  | .link text .outgoing => c.LinksTo (meaning text) d.path
  | .not source => ¬ c.Satisfies meaning d source
  | .and left right => c.Satisfies meaning d left ∧ c.Satisfies meaning d right
  | .or left right => c.Satisfies meaning d left ∨ c.Satisfies meaning d right

theorem mem_paths_of_document? {path : String} (h : c.document? path = some d) : path ∈ c.paths :=
  hasPath_iff.mp (by rw [hasPath, h, Option.isSome_some])

/-- A document is among those that satisfy a test when it satisfies it. -/
theorem Coherent.mem_pathsWhere_iff (hc : c.Coherent) (hDocument : c.document? d.path = some d)
    (test : Document → Bool) : d.path ∈ c.pathsWhere test ↔ test d = true := by
  simp only [pathsWhere, List.mem_map, List.mem_filter, Prod.exists]
  constructor
  · rintro ⟨path, other, ⟨hMem, hTest⟩, hPath⟩
    have hOther := (hc.document?_eq_some_iff path other).mpr hMem
    rw [show path = d.path from hPath, hDocument] at hOther
    cases hOther
    exact hTest
  · intro hTest
    exact ⟨d.path, d, ⟨(hc.document?_eq_some_iff d.path d).mp hDocument, hTest⟩, rfl⟩

/-- The documents in a folder are those whose paths say so. -/
theorem mem_inFolder_iff {folder path : String} :
    path ∈ c.inFolder folder ↔ path ∈ c.paths ∧ IsInFolder folder path := by
  rw [inFolder, IsInFolder]
  by_cases hTop : cleanFolder folder = []
  · simp [hTop]
  · simp [hTop, List.mem_filter, or_assoc]

/-- A document is selected exactly when it satisfies the source. -/
theorem Coherent.mem_select_iff (hc : c.Coherent) (hDocument : c.document? d.path = some d)
    {paths : List String} (hSelect : c.select source = .ok paths) :
    d.path ∈ paths ↔ c.Satisfies c.sourcePath d source := by
  have hPath : d.path ∈ c.paths := mem_paths_of_document? hDocument
  induction source generalizing paths with
  | everything =>
      cases hSelect
      exact iff_true_intro hPath
  | tag tag =>
      cases hSelect
      rw [tagged, hc.mem_pathsWhere_iff hDocument, Satisfies, List.any_eq_true]
  | folder folder =>
      cases hSelect
      rw [mem_inFolder_iff, and_iff_right hPath, Satisfies]
  | link text direction =>
      cases direction with
      | incoming =>
          rw [select] at hSelect
          split at hSelect
          · cases hSelect
            exact hc.mem_incomingOf_iff
          · cases hSelect
      | outgoing =>
          rw [select] at hSelect
          split at hSelect
          · cases hSelect
            exact hc.mem_outgoingOf_iff
          · cases hSelect
  | not source ih =>
      obtain ⟨inner, hInner, hDiff⟩ := bind_eq_ok_iff.mp hSelect
      cases hDiff
      rw [Ordered.mem_diff, and_iff_right hPath]
      exact not_congr (ih hInner)
  | and left right ihLeft ihRight =>
      obtain ⟨first, hFirst, hRest⟩ := bind_eq_ok_iff.mp hSelect
      obtain ⟨second, hSecond, hInter⟩ := bind_eq_ok_iff.mp hRest
      cases hInter
      exact Ordered.mem_inter.trans (and_congr (ihLeft hFirst) (ihRight hSecond))
  | or left right ihLeft ihRight =>
      obtain ⟨first, hFirst, hRest⟩ := bind_eq_ok_iff.mp hSelect
      obtain ⟨second, hSecond, hUnion⟩ := bind_eq_ok_iff.mp hRest
      cases hUnion
      exact Ordered.mem_union.trans (or_congr (ihLeft hFirst) (ihRight hSecond))

/-- The formula asks for the meaning of the link texts in the source only. -/
theorem satisfies_congr {meaning other : String → String}
    (h : ∀ text ∈ source.linkTexts, meaning text = other text) :
    c.Satisfies meaning d source ↔ c.Satisfies other d source := by
  induction source with
  | everything | tag | folder => exact Iff.rfl
  | link text direction =>
      have hText := h text (List.mem_singleton_self text)
      cases direction <;> rw [Satisfies, Satisfies, hText]
  | not source ih => exact not_congr (ih h)
  | and left right ihLeft ihRight =>
      obtain ⟨hLeft, hRight⟩ := List.forall_mem_append.mp h
      exact and_congr (ihLeft hLeft) (ihRight hRight)
  | or left right ihLeft ihRight =>
      obtain ⟨hLeft, hRight⟩ := List.forall_mem_append.mp h
      exact or_congr (ihLeft hLeft) (ihRight hRight)

/-! ### Main results -/

/-- A source is resolved as it reads, when link texts mean the given paths: it fails exactly when some
link text in it means no document, and else selects the documents of which it is true. -/
structure ResolvedBy (c : Corpus) (meaning : String → String) (source : Source) : Prop where
  fails : (∃ e, c.select source = .error e) ↔
    ∃ text ∈ source.linkTexts, c.document? (meaning text) = none
  reports : ∀ e, c.select source = .error e → ∃ text ∈ source.linkTexts,
    c.document? (meaning text) = none ∧ e = .unknownDocument text
  selects : ∀ paths, c.select source = .ok paths → ∀ d, c.document? d.path = some d →
    (d.path ∈ paths ↔ c.Satisfies meaning d source)

/-- Two sources fail alike or select the same documents. -/
structure SameSelection (c : Corpus) (s t : Source) : Prop where
  fails : ∀ e, c.select s = .error e ↔ c.select t = .error e
  selects : ∀ ps qs, c.select s = .ok ps → c.select t = .ok qs →
    ∀ path ∈ c.paths, path ∈ ps ↔ path ∈ qs

structure BooleanLaws (c : Corpus) : Prop where
  not_not : ∀ a, c.SameSelection (.not (.not a)) a
  not_and : ∀ a b, c.SameSelection (.not (.and a b)) (.or (.not a) (.not b))
  not_or : ∀ a b, c.SameSelection (.not (.or a b)) (.and (.not a) (.not b))
  and_or : ∀ a b d, c.SameSelection (.and a (.or b d)) (.or (.and a b) (.and a d))
  or_and : ∀ a b d, c.SameSelection (.or a (.and b d)) (.and (.or a b) (.or a d))

/-- The paths that a source looks at for its link texts settle what it selects. -/
theorem Coherent.resolvedBy_sourcePath (hc : c.Coherent) (source : Source) :
    c.ResolvedBy c.sourcePath source where
  fails := by
    rw [← unknown?_isSome_iff]
    simp [select_eq_error_iff, Option.isSome_iff_exists]
  reports e hError := by
    obtain ⟨text, hFirst, rfl⟩ := select_eq_error_iff.mp hError
    have hNone := List.find?_some hFirst
    exact ⟨text, List.mem_of_find?_eq_some hFirst, by simpa [hasPath] using hNone, rfl⟩
  selects _ hSelect _ hDocument := hc.mem_select_iff hDocument hSelect

/-- Only what the link texts of a source mean matters to it. -/
theorem ResolvedBy.congr {meaning other : String → String} (hResolved : c.ResolvedBy meaning source)
    (h : ∀ text ∈ source.linkTexts, meaning text = other text) : c.ResolvedBy other source where
  fails := by
    rw [hResolved.fails]
    exact exists_congr fun text => and_congr_right fun hText => by rw [h text hText]
  reports e hError := by
    obtain ⟨text, hText, hNone, rfl⟩ := hResolved.reports e hError
    exact ⟨text, hText, by rwa [← h text hText], rfl⟩
  selects paths hSelect d hDocument :=
    (hResolved.selects paths hSelect d hDocument).trans (satisfies_congr h)

/-- Sources with the same unknown text that say the same of every document. -/
theorem Coherent.sameSelection (hc : c.Coherent) (hUnknown : c.unknown? s = c.unknown? t)
    (hSame : ∀ d, c.Satisfies c.sourcePath d s ↔ c.Satisfies c.sourcePath d t) :
    c.SameSelection s t where
  fails e := by rw [select_eq_error_iff, select_eq_error_iff, hUnknown]
  selects ps qs hFirst hSecond path hPath := by
    obtain ⟨d, hFound⟩ := Option.isSome_iff_exists.mp (hasPath_iff.mpr hPath)
    obtain rfl := hc.path_of_document? hFound
    rw [hc.mem_select_iff hFound hFirst, hc.mem_select_iff hFound hSecond, hSame]

theorem unknown?_and (a b : Source) : c.unknown? (.and a b) = (c.unknown? a).or (c.unknown? b) :=
  List.find?_append

theorem unknown?_or (a b : Source) : c.unknown? (.or a b) = (c.unknown? a).or (c.unknown? b) :=
  List.find?_append

/-- Naming the first of three texts twice does not change which is the first unknown one. -/
theorem or_or_distrib {α : Type} (x y z : Option α) :
    x.or (y.or z) = (x.or y).or (x.or z) := by
  cases x with
  | some a => rfl
  | none => cases y <;> rfl

/-- The laws of negation, conjunction and disjunction hold of every corpus. -/
theorem Coherent.booleanLaws (hc : c.Coherent) : c.BooleanLaws where
  not_not _ := hc.sameSelection rfl fun _ => Classical.not_not
  not_and _ _ := hc.sameSelection rfl fun _ => Classical.not_and_iff_not_or_not
  not_or _ _ := hc.sameSelection rfl fun _ => not_or
  and_or _ _ _ := by
    refine hc.sameSelection ?_ fun _ => and_or_left
    rw [unknown?_and, unknown?_or, unknown?_or, unknown?_and, unknown?_and]
    exact or_or_distrib _ _ _
  or_and _ _ _ := by
    refine hc.sameSelection ?_ fun _ => or_and_left
    rw [unknown?_or, unknown?_and, unknown?_and, unknown?_or, unknown?_or]
    exact or_or_distrib _ _ _

/-- After any history a source is resolved as it reads, where every link text means what its meaning
means in turn. It is resolved as it reads with the meanings themselves when each of these means itself.
Either way the laws of negation, conjunction and disjunction hold of what is selected. -/
theorem select_resolvedBy (events : List Event) (source : Source) :
    (after events).ResolvedBy (after events).sourcePath source ∧
    ((∀ text ∈ source.linkTexts, (after events).sourcePath text = (after events).normalize text) →
      (after events).ResolvedBy (after events).normalize source) ∧
    (after events).BooleanLaws := by
  have hc := coherent_after events
  have hResolved := hc.resolvedBy_sourcePath source
  exact ⟨hResolved, hResolved.congr, hc.booleanLaws⟩

/-- The documents that link to the first one, without those that it links to. -/
def linkedBack : Source := .and (.not (.link "home" .outgoing)) (.link "x/Home" .incoming)

/-- The only path that the first document links to has no document, so that leaving out these paths
leaves out nothing. -/
theorem select_resolvedBy_linkedBack :
    (∀ text ∈ linkedBack.linkTexts,
      (after revisions).sourcePath text = (after revisions).normalize text) ∧
    (after revisions).outgoing "home" = ["beta"] ∧
    ((after revisions).select linkedBack).toOption = some ["projects/beta.md"] ∧
    (after revisions).ResolvedBy (after revisions).normalize linkedBack := by
  have hMeanings : ∀ text ∈ linkedBack.linkTexts,
      (after revisions).sourcePath text = (after revisions).normalize text := by decide +kernel
  exact ⟨hMeanings, by decide +kernel, by decide +kernel,
    (select_resolvedBy revisions linkedBack).2.1 hMeanings⟩

/-- The text means the only document of its stem, and the second document links to it by this text. The
selection fails all the same, because the path of the first document does not mean itself. -/
theorem not_resolvedBy_normalize :
    ¬ ∀ (events : List Event) (source : Source),
      (after events).ResolvedBy (after events).normalize source := by
  intro hAlways
  have hResolved := hAlways
    [.insert { path := " a.md" }, .insert { path := "b.md", links := ["x/ a"] }] (.link "x/ a" .incoming)
  obtain ⟨text, hText, hNone⟩ := hResolved.fails.mp ⟨.unknownDocument "x/ a", by
    rw [select, if_neg (by decide +kernel)]⟩
  obtain rfl := List.mem_singleton.mp hText
  have hKnown := congrArg Option.isSome hNone
  revert hKnown
  decide +kernel

end Corpus
end DocQuery
