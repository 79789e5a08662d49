import DocQuery.Proofs.Eval.Function
import DocQuery.Proofs.Text.FinalSigma
import DocQuery.Proofs.Text.Slice

/-!
How the tests of containment relate. What is contained exactly is contained, unless it is an array, which the
looser tests never find because they look for it in the elements of the elements. What is contained is
contained in any letter case, unless it is a text with a capital sigma whose form depends on what stands
around it.
-/

namespace DocQuery

open Text

namespace SortKey

/-- Keys that come out equal are keys of one type. -/
theorem type_eq_of_compare {a b : SortKey} (h : SortKey.compare a b = .eq) : a.type = b.type := by
  rw [compare_eq_type_then, Ordering.then_eq_eq] at h
  exact Std.LawfulEqOrd.eq_of_compare h.1

end SortKey

namespace Value

theorem type_sortKey (normalize : String → String) (v : Value) : (v.sortKey normalize).type = v.type := by
  cases v <;> rw [sortKey] <;> rfl

theorem isArray_iff {v : Value} : v.isArray = true ↔ v.type = .array := by
  cases v <;> simp [isArray, type]

end Value

namespace Builtin

variable {scope : CallScope} {v w : Value}

theorem type_eq_of_compare (h : scope.compare v w = .eq) : v.type = w.type := by
  have hKeys := SortKey.type_eq_of_compare h
  rwa [Value.type_sortKey, Value.type_sortKey] at hKeys

/-- Texts that come out equal are the same text. -/
theorem eq_of_compare_string {s t : String} (h : scope.compare (.string s) (.string t) = .eq) : s = t := by
  rw [Scope.compare, Value.compareBy, Value.sortKey, Value.sortKey, SortKey.compare,
    Ordering.then_eq_eq] at h
  exact Std.LawfulEqOrd.eq_of_compare h.2

/-! ### Leaves -/

/-- A leaf of a nest of arrays contains a value. -/
def LeafContains (scope : CallScope) (ignoreCase : Bool) (v needle : Value) : Prop :=
  ∃ path leaf, v.at? path = some leaf ∧ leaf.isArray = false ∧ contains scope ignoreCase leaf needle = true

/-- A leaf of an array is a leaf of one of its items. -/
theorem leafContains_array {ignoreCase : Bool} {items : List Value} {needle : Value} :
    LeafContains scope ignoreCase (.array items) needle ↔
      ∃ item ∈ items, LeafContains scope ignoreCase item needle := by
  constructor
  · rintro ⟨path, leaf, hLeaf, hFlat, hContains⟩
    cases path with
    | nil =>
        cases hLeaf
        cases hFlat
    | cons index path =>
        obtain ⟨_, item, ⟨⟩, hItem, hRest⟩ := Value.at?_cons_eq_some_iff.mp hLeaf
        exact ⟨item, List.mem_of_getElem? hItem, path, leaf, hRest, hFlat, hContains⟩
  · rintro ⟨item, hMem, path, leaf, hLeaf, hFlat, hContains⟩
    obtain ⟨index, hItem⟩ := List.getElem?_of_mem hMem
    exact ⟨index :: path, leaf, Value.at?_cons_eq_some_iff.mpr ⟨items, item, rfl, hItem, hLeaf⟩, hFlat,
      hContains⟩

/-- What is no array is its own only leaf. -/
theorem leafContains_of_not_array {ignoreCase : Bool} {needle : Value} (hFlat : v.isArray = false) :
    LeafContains scope ignoreCase v needle ↔ contains scope ignoreCase v needle = true := by
  constructor
  · rintro ⟨path, leaf, hLeaf, _, hContains⟩
    cases path with
    | nil =>
        cases hLeaf
        exact hContains
    | cons index path =>
        obtain ⟨_, _, rfl, _⟩ := Value.at?_cons_eq_some_iff.mp hLeaf
        cases hFlat
  · exact fun hContains => ⟨[], v, rfl, hFlat, hContains⟩

theorem anyContains_iff {ignoreCase : Bool} {items : List Value} {needle : Value} :
    anyContains scope ignoreCase items needle = true ↔
      ∃ item ∈ items, contains scope ignoreCase item needle = true := by
  induction items with
  | nil => simp [anyContains]
  | cons item rest ih => simp [anyContains, ih]

/-- The fuzzy tests look at the leaves of nested arrays only. -/
theorem contains_iff_leafContains (scope : CallScope) (ignoreCase : Bool) (needle v : Value) :
    contains scope ignoreCase v needle = true ↔ LeafContains scope ignoreCase v needle := by
  induction v using Value.nest_induction with
  | array items ih =>
      have hArray : contains scope ignoreCase (.array items) needle =
          anyContains scope ignoreCase items needle := by rw [contains]
      rw [hArray, anyContains_iff, leafContains_array]
      exact exists_congr fun item => and_congr_right (ih item)
  | leaf v hFlat => exact (leafContains_of_not_array hFlat).symm

/-- A needle that is no text is compared with the leaf. -/
theorem contains_leaf {ignoreCase : Bool} (hFlat : v.isArray = false) (hNeedle : w.type ≠ .string) :
    contains scope ignoreCase v w = (scope.compare v w == .eq) := by
  unfold contains
  split
  · exact absurd rfl hNeedle
  · cases hFlat
  · exact absurd rfl hNeedle
  · exact absurd rfl hNeedle
  · rfl

/-- No leaf equals an array. -/
theorem contains_array {ignoreCase : Bool} (hArray : w.isArray = true) :
    contains scope ignoreCase v w = false := by
  rw [Value.isArray_iff] at hArray
  rw [← Bool.not_eq_true, contains_iff_leafContains]
  rintro ⟨path, leaf, _, hFlat, hContains⟩
  rw [contains_leaf hFlat (by rw [hArray]; decide), beq_iff_eq] at hContains
  have hLeaf := Value.isArray_iff.mpr ((type_eq_of_compare hContains).trans hArray)
  rw [hFlat] at hLeaf
  cases hLeaf

/-! ### Exact containment -/

theorem textContains_self (ignoreCase : Bool) (text : String) : textContains ignoreCase text text = true := by
  rw [textContains]
  split
  · exact occursIn_iff_infix.mpr (List.infix_refl _)
  · exact occursIn_iff_infix.mpr (List.infix_refl _)

/-- Whatever equals a needle that is no array contains it. -/
theorem contains_of_compare {ignoreCase : Bool} (h : scope.compare v w = .eq) (hFlat : w.isArray = false) :
    contains scope ignoreCase v w = true := by
  have hType := type_eq_of_compare h
  unfold contains
  split
  · obtain rfl := eq_of_compare_string h
    exact textContains_self ignoreCase _
  · rw [Value.isArray_iff.mpr hType.symm] at hFlat
    cases hFlat
  · cases hType
  · cases hType
  · exact beq_iff_eq.mpr h

/-- What is contained exactly is contained, unless it is an array. -/
theorem contains_of_containsExactly (h : containsExactly scope v w = true) (hFlat : w.isArray = false) :
    contains scope false v w = true := by
  unfold containsExactly at h
  split at h
  · exact h
  · next items _ =>
      obtain ⟨item, hMem, hSame⟩ := List.any_eq_true.mp h
      rw [beq_iff_eq] at hSame
      have hItem : item.isArray = false := by
        rw [← Bool.not_eq_true, Value.isArray_iff, type_eq_of_compare hSame, ← Value.isArray_iff, hFlat]
        exact Bool.false_ne_true
      rw [contains_iff_leafContains, leafContains_array]
      exact ⟨item, hMem, (leafContains_of_not_array hItem).mpr (contains_of_compare hSame hFlat)⟩
  · exact h
  · exact contains_of_compare (beq_iff_eq.mp h) hFlat

/-! ### Letter case -/

/-- A text contains another as it is written, or as both are written in small letters. -/
theorem textContains_iff {text needle : String} :
    (textContains false text needle = true ↔ needle.toList <:+: text.toList) ∧
    (textContains true text needle = true ↔
      lowerFrom [] needle.toList <:+: lowerFrom [] text.toList) := by
  rw [textContains, textContains, if_neg Bool.false_ne_true, if_pos rfl, Text.lower, Text.lower,
    String.toList_ofList, String.toList_ofList, occursIn_iff_infix, occursIn_iff_infix]
  exact ⟨Iff.rfl, Iff.rfl⟩

/-- A needle is found in any letter case wherever it is found when it is no text or its sigmas are
settled. -/
def CaseSafe (needle : Value) : Prop := ∀ text, needle = .string text → SigmasSettled text.toList

/-- Small letters keep what is contained if the sigmas of the needle are settled. -/
theorem contains_ignoreCase_of_contains (hSafe : CaseSafe w) (h : contains scope false v w = true) :
    contains scope true v w = true := by
  rw [contains_iff_leafContains] at h ⊢
  obtain ⟨path, leaf, hLeaf, hFlat, hContains⟩ := h
  refine ⟨path, leaf, hLeaf, hFlat, ?_⟩
  unfold contains at hContains ⊢
  split at hContains
  · exact textContains_iff.2.mpr (lowerFrom_of_settled (hSafe _ rfl) (textContains_iff.1.mp hContains))
  · cases hFlat
  · exact hContains
  · exact hContains
  · exact hContains

theorem contains_string {ignoreCase : Bool} (text needle : String) :
    contains scope ignoreCase (.string text) (.string needle) = textContains ignoreCase text needle := by
  rw [contains]

/-- Whatever contains a needle contains it in any letter case too, exactly when its sigmas are settled. -/
theorem caseSafe_iff (scope : CallScope) (needle : Value) :
    (∀ v, contains scope false v needle = true → contains scope true v needle = true) ↔ CaseSafe needle := by
  refine ⟨fun h text hText => ?_, fun hSafe v => contains_ignoreCase_of_contains hSafe⟩
  subst hText
  rw [← lowerFrom_infix_iff]
  intro whole hPart
  have hFound := h (.string (String.ofList whole))
  rw [contains_string, contains_string, textContains_iff.1, textContains_iff.2, String.toList_ofList] at hFound
  exact hFound hPart

end Builtin

namespace Context

open Builtin

variable {c : Context}

/-- The three tests among the built-in functions. -/
theorem call_contains (hTable : c.functions = Builtin.table) (haystack needle : Value) :
    c.call "econtains" [haystack, needle] =
        .ok (.boolean (containsExactly c.toCallScope haystack needle)) ∧
    c.call "contains" [haystack, needle] =
        .ok (.boolean (contains c.toCallScope false haystack needle)) ∧
    c.call "icontains" [haystack, needle] =
        .ok (.boolean (contains c.toCallScope true haystack needle)) := by
  simp only [call, hTable]
  exact ⟨rfl, rfl, rfl⟩

theorem boolean_eq_true_iff {b : Bool} :
    (.ok (.boolean b) : Outcome Value) = .ok (.boolean true) ↔ b = true := by
  simp

/-- What is contained exactly is contained if and only if it is no array, and the needles that are found in any
letter case wherever they are found are those with no unsettled sigma. -/
theorem call_contains_looser (hTable : c.functions = Builtin.table) :
    (∀ haystack needle, ∃ exact fuzzy folded : Bool,
      c.call "econtains" [haystack, needle] = .ok (.boolean exact) ∧
      c.call "contains" [haystack, needle] = .ok (.boolean fuzzy) ∧
      c.call "icontains" [haystack, needle] = .ok (.boolean folded)) ∧
    (∀ haystack needle, c.call "econtains" [haystack, needle] = .ok (.boolean true) →
      (c.call "contains" [haystack, needle] = .ok (.boolean true) ↔ needle.isArray = false)) ∧
    ∀ needle, (∀ haystack, c.call "contains" [haystack, needle] = .ok (.boolean true) →
      c.call "icontains" [haystack, needle] = .ok (.boolean true)) ↔ CaseSafe needle := by
  refine ⟨fun haystack needle => ⟨_, _, _, call_contains hTable haystack needle⟩,
    fun haystack needle => ?_, fun needle => ?_⟩
  · obtain ⟨hExact, hFuzzy, _⟩ := call_contains hTable haystack needle
    rw [hExact, hFuzzy, boolean_eq_true_iff, boolean_eq_true_iff]
    refine fun h => ⟨fun hFound => ?_, contains_of_containsExactly h⟩
    rw [← Bool.not_eq_true]
    intro hArray
    rw [contains_array hArray] at hFound
    cases hFound
  · rw [← caseSafe_iff c.toCallScope needle]
    refine forall_congr' fun haystack => ?_
    obtain ⟨_, hFuzzy, hFolded⟩ := call_contains hTable haystack needle
    rw [hFuzzy, hFolded, boolean_eq_true_iff, boolean_eq_true_iff]

/-- An element that is an array is not contained in the array that it is an element of. -/
theorem call_contains_looser_bare : bare.functions = Builtin.table ∧
    bare.call "econtains" [.array [.array [.string "a"]], .array [.string "a"]] = .ok (.boolean true) ∧
    bare.call "contains" [.array [.array [.string "a"]], .array [.string "a"]] ≠ .ok (.boolean true) := by
  have hExact : bare.call "econtains" [.array [.array [.string "a"]], .array [.string "a"]] =
      .ok (.boolean true) := by
    rw [(call_contains rfl _ _).1]
    rfl
  obtain ⟨_, hFound, _⟩ := @call_contains_looser bare rfl
  exact ⟨rfl, hExact, fun h => absurd ((hFound _ _ hExact).mp h) (by decide)⟩

/-- An array and a text with a sigma at its end are contained, the one exactly only, the other one in its own
letter case only. -/
theorem not_call_contains_looser :
    (bare.call "econtains" [.array [.array [.string "a"]], .array [.string "a"]] = .ok (.boolean true) ∧
      bare.call "contains" [.array [.array [.string "a"]], .array [.string "a"]] = .ok (.boolean false)) ∧
    (bare.call "contains" [.string "aΣa", .string "aΣ"] = .ok (.boolean true) ∧
      bare.call "icontains" [.string "aΣa", .string "aΣ"] = .ok (.boolean false)) := by
  obtain ⟨hExact, hFuzzy, _⟩ := @call_contains bare rfl (.array [.array [.string "a"]]) (.array [.string "a"])
  obtain ⟨_, hPart, hFolded⟩ := @call_contains bare rfl (.string "aΣa") (.string "aΣ")
  rw [hExact, hFuzzy, hPart, hFolded, contains_string, contains_string, contains_array rfl]
  refine ⟨⟨rfl, rfl⟩, ?_, ?_⟩
  · rw [textContains_iff.1.mpr ⟨[], ['a'], rfl⟩]
  · have hLetter : meetsCased ['a'] = true := meetsCased_letter (by decide)
    have hAscii (before after : List Char) : imageOf before 'a' after = ['a'] := imageOf_letter (by decide) _ _
    have hNeedle : lowerFrom [] "aΣ".toList = ['a', 'ς'] := by
      rw [show "aΣ".toList = ['a', 'Σ'] from rfl, lowerFrom_cons, lowerFrom_cons, hAscii, imageOf_sigma,
        hLetter]
      rfl
    have hWhole : lowerFrom [] "aΣa".toList = ['a', 'σ', 'a'] := by
      rw [show "aΣa".toList = ['a', 'Σ', 'a'] from rfl, lowerFrom_cons, lowerFrom_cons, lowerFrom_cons, hAscii,
        hAscii, imageOf_sigma, hLetter]
      rfl
    have hMissing : textContains true "aΣa" "aΣ" = false := by
      rw [← Bool.not_eq_true, textContains_iff.2, hNeedle, hWhole]
      decide
    rw [hMissing]

end Context

end DocQuery
