import DocQuery.Link
import DocQuery.Proofs.Text.Slice

/-!
The written form of a link that was read reads back. Its parts have been trimmed and hold no separator
that would cut them elsewhere, with one exception: a header that begins with the mark of a block, which
only a blank before the mark had kept from being one.
-/

namespace DocQuery.Link

open Text

/-- The written target: the path and the place in the document. -/
def target (l : Link) : List Char :=
  l.path.toList ++ match l.kind, l.subpath with
    | .header, some header => '#' :: header.toList
    | .block, some block => '#' :: '^' :: block.toList
    | _, _ => []

/-- What stands between the brackets. -/
def inside (l : Link) : List Char :=
  l.target ++ match l.display with
    | some display => '|' :: display.toList
    | none => []

/-- A header that begins with the mark of a block. -/
def LooksLikeBlock (l : Link) : Prop :=
  l.kind = .header ∧ (l.subpath.bind fun header => header.toList.head?) = some '^'

instance : DecidablePred LooksLikeBlock := fun _ => inferInstanceAs (Decidable (_ ∧ _))

/-- The written form of a link, character by character. -/
theorem toList_markdown (l : Link) :
    l.markdown.toList =
      (if l.embed then ['!'] else []) ++ ['[', '['] ++ l.inside ++ [']', ']'] := by
  have hOpen : "[[".toList = ['[', '['] := rfl
  have hClose : "]]".toList = [']', ']'] := rfl
  have hHash : "#".toList = ['#'] := rfl
  have hMark : "#^".toList = ['#', '^'] := rfl
  have hBar : "|".toList = ['|'] := rfl
  obtain ⟨path, display, subpath, kind, embed⟩ := l
  cases display <;> cases subpath <;> cases kind <;> cases embed <;>
    simp [markdown, inside, target, hOpen, hClose, hHash, hMark, hBar]

/-- The three forms of a target. -/
theorem ofTarget_cases (cs : List Char) :
    ('#' ∉ cs ∧ ofTarget cs = file (part cs)) ∨
    (∃ path block, cs = path ++ '#' :: '^' :: block ∧ '#' ∉ path ∧
      ofTarget cs = { path := part path, subpath := some (part block), kind := .block }) ∨
    ∃ path header, cs = path ++ '#' :: header ∧ '#' ∉ path ∧
      ofTarget cs = { path := part path, subpath := some (part header), kind := .header } := by
  rw [ofTarget]
  split
  · next hNone => exact .inl ⟨splitFirst?_eq_none_iff.mp hNone, rfl⟩
  · next path block hSome =>
      obtain ⟨rfl, hPath⟩ := splitFirst?_eq_some_iff.mp hSome
      exact .inr (.inl ⟨path, block, rfl, hPath, rfl⟩)
  · next path header _ hSome =>
      obtain ⟨rfl, hPath⟩ := splitFirst?_eq_some_iff.mp hSome
      exact .inr (.inr ⟨path, header, rfl, hPath, rfl⟩)

theorem not_mem_trim {cs : List Char} {c : Char} (h : c ∉ cs) : c ∉ trim cs :=
  fun hMem => h ((infix_trim cs).subset hMem)

theorem toList_part (cs : List Char) : (part cs).toList = trim cs := String.toList_ofList

theorem part_trim (cs : List Char) : part (trim cs) = part cs := by
  rw [part, trim_trim, part]

/-- The written target of a link against the target that it was read from. -/
structure Rewritten (cs : List Char) (l : Link) : Prop where
  trimmed : trim l.target = l.target
  noBar : '|' ∉ cs → '|' ∉ l.target
  closes : [']', ']'] <:+: l.target → [']', ']'] <:+: cs
  blank : l.target = [] → trim cs = []
  readsBack : ofTarget l.target = l ↔ ¬ l.LooksLikeBlock

/-- A link without a number sign is written as its path. -/
theorem rewritten_file (cs : List Char) (hPlain : '#' ∉ cs) : Rewritten cs (file (part cs)) := by
  have hTarget : (file (part cs)).target = trim cs := by simp [target, file, toList_part]
  have hNot : ¬ (file (part cs)).LooksLikeBlock := fun h => by cases h.1
  constructor <;> rw [hTarget]
  · exact trim_trim cs
  · exact not_mem_trim
  · exact fun h => h.trans (infix_trim cs)
  · exact id
  · rw [ofTarget, splitFirst?_eq_none_iff.mpr (not_mem_trim hPlain)]
    exact iff_of_true (congrArg file (part_trim cs)) hNot

/-- The text in front of the first mark and the place behind it are written one after the other. -/
theorem rewritten_place {path rest place : List Char} {l : Link}
    (hTarget : l.target = trim path ++ '#' :: place) (hPlace : trim place = place)
    (hBar : '|' ∉ rest → '|' ∉ place) (hCloses : [']', ']'] <:+: place → [']', ']'] <:+: rest)
    (hReads : ofTarget (trim path ++ '#' :: place) = l ↔ ¬ l.LooksLikeBlock) :
    Rewritten (path ++ '#' :: rest) l := by
  constructor <;> rw [hTarget]
  · exact trim_append_cons (by decide) (trim_trim path) hPlace
  · simp only [List.mem_append, List.mem_cons, not_or]
    exact fun h => ⟨not_mem_trim h.1, h.2.1, hBar h.2.2⟩
  · intro h
    rcases infix_append_cons (by decide) h with hLeft | hRight
    · exact (hLeft.trans (infix_trim path)).trans List.infix_append_left
    · exact (hCloses hRight).trans ((List.suffix_cons _ _).trans (List.suffix_append _ _)).isInfix
  · exact fun h => absurd h (List.append_ne_nil_of_right_ne_nil _ (List.cons_ne_nil _ _))
  · exact hReads

/-- A block is written behind the mark and read back as a block. -/
theorem rewritten_block {path : List Char} (hPath : '#' ∉ path) (block : List Char) :
    Rewritten (path ++ '#' :: '^' :: block)
      { path := part path, subpath := some (part block), kind := .block } := by
  have hPlace : trim ('^' :: trim block) = '^' :: trim block :=
    @trim_append_cons [] (trim block) '^' (by decide) rfl (trim_trim block)
  refine rewritten_place ?_ hPlace ?_ ?_ ?_
  · simp [target, toList_part]
  · simp only [List.mem_cons, not_or]
    exact fun h => ⟨h.1, not_mem_trim h.2⟩
  · intro h
    rcases List.infix_cons_iff.mp h with hFirst | hRest
    · exact absurd (List.cons_prefix_cons.mp hFirst).1 (by decide)
    · exact hRest.trans ((infix_trim block).trans (List.suffix_cons _ _).isInfix)
  · rw [ofTarget, splitFirst?_append (not_mem_trim hPath)]
    refine iff_of_true ?_ fun h => by cases h.1
    simp only [part_trim]

/-- A header is read back as a header, unless it begins with the mark of a block. -/
theorem rewritten_header {path : List Char} (hPath : '#' ∉ path) (header : List Char) :
    Rewritten (path ++ '#' :: header)
      { path := part path, subpath := some (part header), kind := .header } := by
  refine rewritten_place ?_ (trim_trim header) not_mem_trim
    (fun h => h.trans (infix_trim header)) ?_
  · simp [target, toList_part]
  · rw [ofTarget, splitFirst?_append (not_mem_trim hPath)]
    have hLooks : LooksLikeBlock { path := part path, subpath := some (part header), kind := .header } ↔
        (trim header).head? = some '^' := by
      simp [LooksLikeBlock, toList_part]
    rw [hLooks]
    -- The reader looks for the mark in the header as it is written, that is, after it has been trimmed.
    have hHeader := part_trim header
    generalize trim header = place at hHeader ⊢
    split
    · next hNone => cases hNone
    · next block hSome =>
        cases hSome
        refine iff_of_false (fun h => ?_) (not_not_intro rfl)
        cases congrArg kind h
    · next hOther hSome =>
        cases hSome
        refine iff_of_true ?_ fun hHead => ?_
        · simp only [part_trim, hHeader]
        · cases place with
          | nil => cases hHead
          | cons c rest =>
              cases hHead
              exact hOther rest rfl

/-- Every target is read back from its written form, but for the headers that look like blocks. -/
theorem rewritten_ofTarget (cs : List Char) : Rewritten cs (ofTarget cs) := by
  rcases ofTarget_cases cs with ⟨hPlain, hLink⟩ | ⟨path, block, rfl, hPath, hLink⟩ |
    ⟨path, header, rfl, hPath, hLink⟩
  · exact hLink ▸ rewritten_file cs hPlain
  · exact hLink ▸ rewritten_block hPath block
  · exact hLink ▸ rewritten_header hPath header

theorem display_ofTarget (cs : List Char) : (ofTarget cs).display = none := by
  rw [ofTarget]
  split <;> rfl

theorem embed_ofInner (cs : List Char) : (ofInner cs).embed = false := by
  have hTarget (cs : List Char) : (ofTarget cs).embed = false := by
    rw [ofTarget]
    split <;> rfl
  rw [ofInner]
  split <;> exact hTarget _

theorem withEmbed_inj {a b : Link} (hEmbed : a.embed = b.embed) (embed : Bool) :
    ({ a with embed } : Link) = { b with embed } ↔ a = b := by
  obtain ⟨path, display, subpath, kind, _⟩ := a
  obtain ⟨path', display', subpath', kind', _⟩ := b
  cases hEmbed
  simp

theorem withDisplay_inj {a b : Link} (hDisplay : a.display = b.display) (shown : Option String) :
    ({ a with display := shown } : Link) = { b with display := shown } ↔ a = b := by
  obtain ⟨path, display, subpath, kind, embed⟩ := a
  obtain ⟨path', display', subpath', kind', embed'⟩ := b
  cases hDisplay
  simp

/-- What stands between the written brackets against what the link was read from. -/
structure Reinserted (cs : List Char) (l : Link) : Prop where
  closes : [']', ']'] <:+: l.inside → [']', ']'] <:+: cs
  blank : trim l.inside = [] → trim cs = []
  readsBack : ofInner l.inside = l ↔ ¬ l.LooksLikeBlock

/-- Every link is read back from its written form, but for the headers that look like blocks. -/
theorem reinserted_ofInner (cs : List Char) : Reinserted cs (ofInner cs) := by
  rw [ofInner]
  split
  · next hNone =>
      have hTarget := rewritten_ofTarget (trim cs)
      have hInside : (ofTarget (trim cs)).inside = (ofTarget (trim cs)).target := by
        rw [inside, display_ofTarget, List.append_nil]
      have hNoBar := hTarget.noBar (not_mem_trim (splitFirst?_eq_none_iff.mp hNone))
      constructor <;> rw [hInside]
      · exact fun h => (hTarget.closes h).trans (infix_trim cs)
      · rw [hTarget.trimmed]
        exact fun h => (trim_trim cs).symm.trans (hTarget.blank h)
      · rw [ofInner, splitFirst?_eq_none_iff.mpr hNoBar, hTarget.trimmed]
        exact hTarget.readsBack
  · next place shown hSome =>
      obtain ⟨rfl, hPlace⟩ := splitFirst?_eq_some_iff.mp hSome
      have hTarget := rewritten_ofTarget (trim place)
      generalize hLink : ofTarget (trim place) = l at hTarget ⊢
      have hInside : ({ l with display := some (part shown) } : Link).inside =
          l.target ++ '|' :: trim shown :=
        congrArg (fun cs => l.target ++ '|' :: cs) (toList_part shown)
      have hNoBar := hTarget.noBar (not_mem_trim hPlace)
      constructor <;> rw [hInside]
      · intro h
        rcases infix_append_cons (by decide) h with hLeft | hRight
        · exact ((hTarget.closes hLeft).trans (infix_trim place)).trans List.infix_append_left
        · exact (hRight.trans (infix_trim shown)).trans
            ((List.suffix_cons _ _).trans (List.suffix_append _ _)).isInfix
      · rw [trim_append_cons (by decide) hTarget.trimmed (trim_trim shown)]
        exact fun h => absurd h (List.append_ne_nil_of_right_ne_nil _ (List.cons_ne_nil _ _))
      · rw [ofInner, splitFirst?_append hNoBar]
        have hDisplay : (ofTarget l.target).display = l.display := by
          rw [display_ofTarget, ← hLink, display_ofTarget]
        simp only [hTarget.trimmed, part_trim]
        exact (withDisplay_inj hDisplay _).trans hTarget.readsBack

end DocQuery.Link
