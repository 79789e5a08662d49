import Mathlib
import DocQuery.Proofs.Corpus.Rows
import DocQuery.Proofs.Corpus.Select
import DocQuery.Proofs.Text.LowerCase

/-!
Tags and the tags that they are nested in. A tag selects the documents on whose page it is listed in some
letter case: whether one tag is nested in another is found out by comparing the beginning of texts, and
the pages list all beginnings that end before a slash.
-/

namespace DocQuery

open Text

namespace Tag

/-- Separated lists that are joined are separated by one more separator. -/
theorem intercalate_append {separator : List Char} {xs ys : List (List Char)} (hXs : xs ≠ [])
    (hYs : ys ≠ []) :
    separator.intercalate (xs ++ ys) =
      separator.intercalate xs ++ (separator ++ separator.intercalate ys) := by
  induction xs with
  | nil => exact absurd rfl hXs
  | cons x xs ih =>
      cases xs with
      | nil =>
          rw [List.singleton_append, List.intercalate_cons_of_ne_nil hYs, List.intercalate_singleton,
            List.append_assoc]
      | cons y xs =>
          have hRest := ih (List.cons_ne_nil y xs)
          rw [List.cons_append] at hRest
          rw [List.cons_append, List.cons_append, List.intercalate_cons_cons, hRest,
            List.intercalate_cons_cons, List.append_assoc _ _ (separator ++ _)]

/-- The first parts of a text, put together again, are the text or what stands before one of its
separators. -/
theorem exists_intercalate_take_iff {separator : Char} {cs start : List Char} :
    (∃ n < (cutAt separator cs).length,
        [separator].intercalate ((cutAt separator cs).take (n + 1)) = start) ↔
      start = cs ∨ ∃ rest, cs = start ++ separator :: rest := by
  have hWhole (cs : List Char) : [separator].intercalate (cutAt separator cs) = cs :=
    List.intercalate_splitOn separator
  constructor
  · rintro ⟨n, hPlace, rfl⟩
    by_cases hRest : (cutAt separator cs).drop (n + 1) = []
    · rw [List.take_of_length_le (List.drop_eq_nil_iff.mp hRest), hWhole]
      exact .inl rfl
    · refine .inr ⟨[separator].intercalate ((cutAt separator cs).drop (n + 1)), ?_⟩
      have hFirst : (cutAt separator cs).take (n + 1) ≠ [] :=
        List.ne_nil_of_length_pos (by rw [List.length_take]; omega)
      have hJoined := @intercalate_append [separator] _ _ hFirst hRest
      rw [List.take_append_drop, hWhole] at hJoined
      exact hJoined
  · intro hStart
    have hSome (cs : List Char) : 0 < (cutAt separator cs).length :=
      List.length_pos_of_ne_nil (List.splitOnP_ne_nil _ cs)
    rcases hStart with rfl | ⟨rest, rfl⟩
    · refine ⟨(cutAt separator start).length - 1, Nat.sub_one_lt_of_lt (hSome start), ?_⟩
      rw [Nat.sub_add_cancel (hSome start), List.take_length, hWhole]
    · have hParts : cutAt separator (start ++ separator :: rest) =
          cutAt separator start ++ cutAt separator rest :=
        List.splitOnP_append_cons start rest (beq_self_eq_true separator)
      refine ⟨(cutAt separator start).length - 1, ?_, ?_⟩
      · rw [hParts, List.length_append]
        have hStart := hSome start
        omega
      · rw [hParts, Nat.sub_add_cancel (hSome start), List.take_left, hWhole]

/-- A tag expands to itself and to all that stands before one of its slashes. -/
theorem mem_expand_iff {tag outer : String} :
    outer ∈ expand tag ↔ outer = tag ∨ ∃ rest, tag.toList = outer.toList ++ '/' :: rest := by
  have hParts := @exists_intercalate_take_iff '/' tag.toList outer.toList
  rw [String.toList_inj] at hParts
  rw [← hParts, expand, List.mem_map]
  simp only [List.mem_range, ← String.toList_inj, String.toList_ofList]

/-- A tag is the wanted one or nested in it, in some letter case, exactly when it expands to the wanted
one in some letter case. -/
theorem isWithin_iff {wanted tag : String} :
    isWithin wanted tag = true ↔
      ∃ outer ∈ expand (withHash tag), lower outer = lower (withHash wanted) := by
  have hChars (text : String) : (lower text).toList = lowerFrom [] text.toList := String.toList_ofList
  simp only [mem_expand_iff]
  rw [isWithin, Bool.or_eq_true, beq_iff_eq, List.isPrefixOf_iff_prefix]
  constructor
  · rintro (hSame | ⟨rest, hRest⟩)
    · exact ⟨withHash tag, .inl rfl, String.toList_inj.mp hSame⟩
    · rw [List.append_assoc, List.singleton_append, hChars (withHash tag)] at hRest
      obtain ⟨start, ending, hTag, hStart⟩ := exists_of_lowerFrom_eq_append hRest.symm
      refine ⟨String.ofList start, .inr ⟨ending, by rw [String.toList_ofList, hTag]⟩, ?_⟩
      rw [← String.toList_inj, hChars, String.toList_ofList, hStart]
  · rintro ⟨outer, rfl | ⟨rest, hTag⟩, hLower⟩
    · exact .inl (String.toList_inj.mpr hLower)
    · refine .inr ⟨lowerFrom [] rest, ?_⟩
      rw [List.append_assoc, List.singleton_append, ← hLower, hChars, hChars, hTag,
        lowerFrom_append_slash]

/-- Adding what is new collects all tags. -/
theorem mem_foldl_addNew {seen tags : List String} {tag : String} :
    tag ∈ tags.foldl (fun seen tag => if seen.contains tag then seen else seen ++ [tag]) seen ↔
      tag ∈ seen ∨ tag ∈ tags := by
  induction tags generalizing seen with
  | nil => simp
  | cons first rest ih =>
      rw [List.foldl_cons, ih, List.mem_cons, ← or_assoc]
      refine or_congr_left ?_
      split
      · next hSeen =>
          rw [List.contains_iff_mem] at hSeen
          exact ⟨.inl, fun h => h.elim id fun hFirst => hFirst ▸ hSeen⟩
      · rw [List.mem_append, List.mem_singleton]

/-- The expanded tags of a list are those that one of its tags expands to. -/
theorem mem_expandAll_iff {tags : List String} {tag : String} :
    tag ∈ expandAll tags ↔ ∃ own ∈ tags, tag ∈ expand (withHash own) := by
  rw [expandAll, mem_foldl_addNew, List.mem_flatMap, or_iff_right List.not_mem_nil]

end Tag

namespace Corpus

/-- After any history a tag selects a document exactly when the tags on its page have the tag among them,
with its hash sign and in some letter case. -/
theorem mem_tagged_iff (events : List Event) (d : Document) (tag : String)
    (hDocument : (after events).document? d.path = some d) :
    (after events).select (.tag tag) = .ok ((after events).tagged tag) ∧
    ∃ (file : Object) (tags : List String),
      Object.get (d.page ((after events).outgoingOf d.path) ((after events).incomingOf d.path)) "file" =
        .object file ∧
      Object.get file "tags" = .array (tags.map Value.string) ∧
      (d.path ∈ (after events).tagged tag ↔
        ∃ listed ∈ tags, lower listed = lower (Tag.withHash tag)) := by
  refine ⟨rfl, _, Tag.expandAll d.tags, d.get_page_file _ _, rfl, ?_⟩
  rw [tagged, (coherent_after events).mem_pathsWhere_iff hDocument, List.any_eq_true]
  constructor
  · rintro ⟨own, hOwn, hWithin⟩
    obtain ⟨listed, hListed, hLower⟩ := Tag.isWithin_iff.mp hWithin
    exact ⟨listed, Tag.mem_expandAll_iff.mpr ⟨own, hOwn, hListed⟩, hLower⟩
  · rintro ⟨listed, hListed, hLower⟩
    obtain ⟨own, hOwn, hExpand⟩ := Tag.mem_expandAll_iff.mp hListed
    exact ⟨own, hOwn, Tag.isWithin_iff.mpr ⟨listed, hExpand, hLower⟩⟩

/-- A document with a tag that has an empty part, and one without tags. -/
def plans : List Event :=
  [.insert { path := "a.md", tags := ["Work//Plans", "#idea", "work"] }, .insert { path := "b.md" }]

/-- The empty part makes a tag that ends with a slash, which selects the document in other letters. -/
theorem mem_tagged_iff_plans :
    (after plans).document? "a.md" =
      some { path := "a.md", tags := ["Work//Plans", "#idea", "work"] } ∧
    (after plans).tagged "WORK/" = ["a.md"] ∧
    (after plans).select (.tag "WORK/") = .ok ((after plans).tagged "WORK/") ∧
    ∃ (file : Object) (tags : List String),
      Object.get (Document.page { path := "a.md", tags := ["Work//Plans", "#idea", "work"] }
        ((after plans).outgoingOf "a.md") ((after plans).incomingOf "a.md")) "file" = .object file ∧
      Object.get file "tags" = .array (tags.map Value.string) ∧
      ("a.md" ∈ (after plans).tagged "WORK/" ↔
        ∃ listed ∈ tags, lower listed = lower (Tag.withHash "WORK/")) := by
  have hDocument : (after plans).document? "a.md" =
      some { path := "a.md", tags := ["Work//Plans", "#idea", "work"] } := by
    rw [document?_after]
    rfl
  exact ⟨hDocument, by decide, mem_tagged_iff plans _ "WORK/" hDocument⟩

end Corpus
end DocQuery
