import Mathlib.Data.List.Basic
import DocQuery.Builtin.Text

/-!
Languages of patterns, as far as engines document them: which texts are patterns, which patterns go beyond the
limits of depth and size, and what a pattern matches. Of the syntax only groups and the ends of texts are laid
down here, because that is what a pattern is put into to match whole texts.
-/

namespace DocQuery

open Builtin (anchored)

structure PatternLanguage where
  /-- The text is written as the syntax asks for. -/
  IsPattern : String → Prop
  /-- The pattern is nested too deeply or compiled to too much. -/
  IsTooLarge : String → Prop
  groupNames : String → List String
  /-- The pattern matches what lies between two places of a text. -/
  Matches : String → String → Nat → Nat → Prop

namespace PatternLanguage

variable (L : PatternLanguage)

/-- A pattern behind which a parenthesis closes nothing. A pattern that ends in a comment is not closed: a
parenthesis behind it only makes the comment longer. -/
structure Closed (pattern : String) : Prop where
  isPattern : L.IsPattern pattern
  unopened : ¬L.IsPattern (pattern ++ ")")

/-- A part of a pattern that means the same wherever it stands. -/
inductive Piece where
  | textStart
  | textEnd
  | group (inner : String)

namespace Piece

def written : Piece → String
  | textStart => "^"
  | textEnd => "$"
  | group inner => "(?:" ++ inner ++ ")"

def writtenAll : List Piece → String
  | [] => ""
  | piece :: rest => piece.written ++ writtenAll rest

def groupNames : Piece → List String
  | group inner => L.groupNames inner
  | _ => []

def Matches (text : String) : Piece → Nat → Nat → Prop
  | textStart, i, j => i = 0 ∧ i = j
  | textEnd, i, j => i = text.length ∧ i = j
  | group inner, i, j => L.Matches inner text i j

/-- Every piece matches where the one before it ends. -/
def MatchesInTurn (text : String) : List Piece → Nat → Nat → Prop
  | [], i, j => i = j
  | piece :: rest, i, k => ∃ j, piece.Matches L text i j ∧ MatchesInTurn text rest j k

/-- Pieces whose groups hold closed patterns, no two of which name a group alike. -/
structure Fit (pieces : List Piece) : Prop where
  closed : ∀ inner, group inner ∈ pieces → L.Closed inner
  apart : pieces.Pairwise fun a b => (a.groupNames L).Disjoint (b.groupNames L)

end Piece

/-- What is documented of groups and of the ends of texts. Flags that are set in a group hold there only, so that
an empty group stands for any other one as far as the text behind it is concerned. -/
structure Documented : Prop where
  /-- A group holds a pattern and ends at the parenthesis behind it; names of groups are given once. -/
  group (text : String) : L.IsPattern ("(?:" ++ text) ↔
    ∃ inner rest, text = inner ++ ")" ++ rest ∧ L.Closed inner ∧ L.IsPattern ("(?:)" ++ rest) ∧
      (L.groupNames inner).Disjoint (L.groupNames ("(?:)" ++ rest))
  /-- Nothing makes up for a parenthesis that closes nothing. -/
  unopened (pattern rest : String) : L.Closed pattern → ¬L.IsPattern (pattern ++ ")" ++ rest)
  parenthesis : ¬L.IsPattern ")"
  textStart (text : String) : L.IsPattern ("^(?:" ++ text) ↔ L.IsPattern ("(?:" ++ text)
  textEnd (text : String) : L.IsPattern (text ++ ")$") ↔ L.IsPattern (text ++ ")")
  isPattern_pieces (pieces : List Piece) : Piece.Fit L pieces → L.IsPattern (Piece.writtenAll pieces)
  groupNames_pieces (pieces : List Piece) : Piece.Fit L pieces →
    L.groupNames (Piece.writtenAll pieces) = pieces.flatMap (Piece.groupNames L)
  matches_pieces (pieces : List Piece) (text : String) (i j : Nat) : Piece.Fit L pieces → i ≤ text.length →
    (L.Matches (Piece.writtenAll pieces) text i j ↔ Piece.MatchesInTurn L text pieces i j)

/-- A text that breaks out of a group which is put around it: a parenthesis of its own ends the group, and the
parenthesis that was to end it completes what is behind. -/
def Escapes (text : String) : Prop :=
  ∃ inside behind, text = inside ++ ")" ++ behind ∧ L.Closed inside ∧
    L.IsPattern ("(?:)" ++ behind ++ ")") ∧
    (L.groupNames inside).Disjoint (L.groupNames ("(?:)" ++ behind ++ ")"))

/-- A text that can be put into a group between the ends of texts, where it is a pattern if it is one by
itself. -/
structure Enclosable (text : String) : Prop where
  /-- No comment hides the end of the group. -/
  closed : L.IsPattern text → ¬L.IsTooLarge text → L.Closed text
  limits : L.Closed text → (L.IsTooLarge text ↔ L.IsTooLarge (anchored text))
  escape : L.Escapes text → L.IsTooLarge (anchored text)

variable {L} {text : String}

/-- A closing character is the last one or lies in front of the last one. -/
theorem append_parenthesis_eq_iff {inner rest : String} :
    text ++ ")" = inner ++ ")" ++ rest ↔
      (text = inner ∧ rest = "") ∨ ∃ behind, text = inner ++ ")" ++ behind ∧ rest = behind ++ ")" := by
  constructor
  · intro hSame
    have hSame : text.toList ++ [')'] = inner.toList ++ [')'] ++ rest.toList := by
      simpa using congrArg String.toList hSame
    rcases List.eq_nil_or_concat rest.toList with hRest | ⟨behind, c, hRest⟩
    · rw [hRest, List.append_nil] at hSame
      exact .inl ⟨String.toList_inj.mp (List.append_cancel_right hSame), String.toList_inj.mp hRest⟩
    · rw [hRest, List.concat_eq_append, ← List.append_assoc] at hSame
      obtain ⟨hText, hLast⟩ := List.append_inj' hSame rfl
      cases hLast
      refine .inr ⟨String.ofList behind, String.toList_inj.mp ?_, String.toList_inj.mp ?_⟩
      · simpa using hText
      · simpa using hRest
  · rintro (⟨rfl, rfl⟩ | ⟨behind, rfl, rfl⟩)
    · exact (String.append_empty).symm
    · simp only [String.append_assoc]

namespace Documented

theorem fit_nil : Piece.Fit L [] := ⟨nofun, .nil⟩

/-- Nothing at all is a closed pattern. -/
theorem closed_empty (h : L.Documented) : L.Closed "" :=
  ⟨h.isPattern_pieces [] fit_nil, h.parenthesis⟩

theorem fit_group {inner : String} (hInner : L.Closed inner) : Piece.Fit L [.group inner] := by
  refine ⟨fun other hMem => ?_, List.pairwise_singleton _ _⟩
  cases List.mem_singleton.mp hMem
  exact hInner

/-- A group without content gives no names. -/
theorem groupNames_empty (h : L.Documented) : L.groupNames "(?:)" = [] := by
  have hNone : L.groupNames "" = [] := h.groupNames_pieces [] fit_nil
  have hGroup := h.groupNames_pieces [.group ""] (fit_group h.closed_empty)
  rwa [List.flatMap_singleton, Piece.groupNames, hNone] at hGroup

/-- Between the ends of texts a text is a pattern when it is a closed one, and when it escapes. -/
theorem isPattern_anchored_iff (h : L.Documented) :
    L.IsPattern (anchored text) ↔ L.Closed text ∨ L.Escapes text := by
  have hStart : anchored text = "^(?:" ++ (text ++ ")$") := String.append_assoc ..
  have hMiddle : "(?:" ++ (text ++ ")$") = "(?:" ++ text ++ ")$" := (String.append_assoc ..).symm
  rw [hStart, h.textStart, hMiddle, h.textEnd, String.append_assoc, h.group]
  constructor
  · rintro ⟨inner, rest, hText, hInner, hRest, hApart⟩
    rcases append_parenthesis_eq_iff.mp hText with ⟨rfl, -⟩ | ⟨behind, rfl, rfl⟩
    · exact .inl hInner
    · rw [← String.append_assoc] at hRest hApart
      exact .inr ⟨inner, behind, rfl, hInner, hRest, hApart⟩
  · rintro (hClosed | ⟨inside, behind, rfl, hInside, hBehind, hApart⟩)
    · refine ⟨text, "", (append_parenthesis_eq_iff.mpr (.inl ⟨rfl, rfl⟩)), hClosed,
        h.isPattern_pieces [.group ""] (fit_group h.closed_empty), ?_⟩
      rw [String.append_empty, h.groupNames_empty]
      exact List.disjoint_nil_right _
    · rw [String.append_assoc] at hBehind hApart
      exact ⟨inside, behind ++ ")", append_parenthesis_eq_iff.mpr (.inr ⟨behind, rfl, rfl⟩), hInside, hBehind,
        hApart⟩

/-- What escapes is no pattern: it closes a group that it has not opened. -/
theorem not_isPattern_of_escapes (h : L.Documented) (hEscapes : L.Escapes text) : ¬L.IsPattern text := by
  obtain ⟨inside, behind, rfl, hInside, -⟩ := hEscapes
  exact h.unopened inside behind hInside

/-- Two closed patterns side by side escape when the first one is closed and a group is opened for the second
one. -/
theorem escapes_of_closed (h : L.Documented) {first second : String} (hFirst : L.Closed first)
    (hSecond : L.Closed second) (hApart : (L.groupNames first).Disjoint (L.groupNames second)) :
    L.Escapes (first ++ ")(?:" ++ second) := by
  have hFit : Piece.Fit L [.group "", .group second] := by
    refine ⟨fun inner hMem => ?_, List.pairwise_pair.mpr ?_⟩
    · rcases List.mem_pair.mp hMem with hMem | hMem
      · exact (Piece.group.inj hMem) ▸ h.closed_empty
      · exact (Piece.group.inj hMem) ▸ hSecond
    · rw [Piece.groupNames, show L.groupNames "" = [] from h.groupNames_pieces [] fit_nil]
      exact List.disjoint_nil_left _
  have hWritten : Piece.writtenAll [.group "", .group second] = "(?:)" ++ ("(?:" ++ second) ++ ")" := by
    simp only [Piece.writtenAll, Piece.written, String.append_assoc, String.append_empty]
    rfl
  have hNames := h.groupNames_pieces _ hFit
  refine ⟨first, "(?:" ++ second, ?_, hFirst, hWritten ▸ h.isPattern_pieces _ hFit, ?_⟩
  · simp only [String.append_assoc]
    rfl
  · rw [← hWritten, hNames]
    simpa [Piece.groupNames, show L.groupNames "" = [] from h.groupNames_pieces [] fit_nil] using hApart

/-- Between the ends of texts a closed pattern matches whole texts only. -/
theorem matches_anchored_iff (h : L.Documented) {pattern : String} (hClosed : L.Closed pattern) :
    (∃ i, i ≤ text.length ∧ ∃ j, L.Matches (anchored pattern) text i j) ↔
      L.Matches pattern text 0 text.length := by
  have hFit : Piece.Fit L [.textStart, .group pattern, .textEnd] := by
    refine ⟨fun inner hMem => ?_, ?_⟩
    · have hSame : Piece.group inner = .group pattern := by simpa using hMem
      exact Piece.group.inj hSame ▸ hClosed
    · simp [Piece.groupNames]
  have hWritten : Piece.writtenAll [.textStart, .group pattern, .textEnd] = anchored pattern := by
    simp only [Piece.writtenAll, Piece.written, anchored, String.append_assoc, String.append_empty]
    rfl
  rw [← hWritten]
  constructor
  · rintro ⟨i, hPlace, j, hMatch⟩
    obtain ⟨_, ⟨rfl, rfl⟩, _, hInner, _, ⟨rfl, rfl⟩, rfl⟩ := (h.matches_pieces _ text i j hFit hPlace).mp hMatch
    exact hInner
  · intro hInner
    refine ⟨0, Nat.zero_le _, text.length, (h.matches_pieces _ text 0 _ hFit (Nat.zero_le _)).mpr ?_⟩
    exact ⟨0, ⟨rfl, rfl⟩, text.length, hInner, text.length, ⟨rfl, rfl⟩, rfl⟩

/-- Between the ends of texts the same texts are taken as by themselves exactly when they can be put there. -/
theorem enclosable_iff (h : L.Documented) :
    L.Enclosable text ↔
      ((L.IsPattern (anchored text) ∧ ¬L.IsTooLarge (anchored text)) ↔
        (L.IsPattern text ∧ ¬L.IsTooLarge text)) := by
  have hEscaped : L.Escapes text → ¬L.IsPattern text := h.not_isPattern_of_escapes
  rw [h.isPattern_anchored_iff]
  constructor
  · intro hEnclosable
    constructor
    · rintro ⟨hClosed | hEscapes, hSmall⟩
      · exact ⟨hClosed.isPattern, mt (hEnclosable.limits hClosed).mp hSmall⟩
      · exact absurd (hEnclosable.escape hEscapes) hSmall
    · rintro ⟨hPattern, hSmall⟩
      have hClosed := hEnclosable.closed hPattern hSmall
      exact ⟨.inl hClosed, mt (hEnclosable.limits hClosed).mpr hSmall⟩
  · intro hSame
    refine ⟨fun hPattern hSmall => ?_, fun hClosed => ?_, fun hEscapes => ?_⟩
    · exact (hSame.mpr ⟨hPattern, hSmall⟩).1.resolve_right fun hEscapes => hEscaped hEscapes hPattern
    · have hLimits : ¬L.IsTooLarge (anchored text) ↔ ¬L.IsTooLarge text := by
        simpa only [hClosed, true_or, hClosed.isPattern, true_and] using hSame
      exact (not_iff_not.mp hLimits).symm
    · by_contra hSmall
      exact hEscaped hEscapes (hSame.mp ⟨.inr hEscapes, hSmall⟩).1

end Documented

end PatternLanguage

/-- An engine that takes the patterns of a language within its limits, and finds what they match. -/
structure PatternEngine.Implements (E : PatternEngine) (L : PatternLanguage) : Prop where
  compile_iff (pattern : String) :
    (∃ p, E.compile pattern = .ok p) ↔ L.IsPattern pattern ∧ ¬L.IsTooLarge pattern
  occursIn_iff {pattern : String} {p : CompiledPattern} (text : String) : E.compile pattern = .ok p →
    (p.occursIn text = true ↔ ∃ i, i ≤ text.length ∧ ∃ j, L.Matches pattern text i j)

end DocQuery
