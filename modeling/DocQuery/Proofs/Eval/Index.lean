import Mathlib
import DocQuery.Eval.Context
import DocQuery.Proofs.Eval.Function

/-!
Fields of values. A text as an index never fails, so that no item of a list is left out when a field is
taken of all of them: the field of an item stands in the place of the item, at every depth.
-/

namespace DocQuery

namespace Value

variable {links : Links} {name : String}

theorem index_array_string (items : List Value) :
    index links (.array items) (.string name) =
      .ok (.array (indexItems links items (.string name))) := by
  rw [index]

/-- Every value has a field of every name; where there is none, it is null. -/
theorem exists_index_string (v : Value) : ∃ part, index links v (.string name) = .ok part := by
  cases v with
  | array items => exact ⟨_, index_array_string items⟩
  | null | boolean | number | string | date | duration | link | object | listPair | externalLink =>
      exact ⟨_, rfl⟩

/-- No item is left out: an item that cannot be indexed would be, but there is none. -/
theorem map_ok_indexItems (items : List Value) :
    (indexItems links items (.string name)).map .ok =
      items.map fun item => index links item (.string name) := by
  induction items with
  | nil => rw [indexItems, List.map_nil, List.map_nil]
  | cons item rest ih =>
      obtain ⟨part, hPart⟩ := @exists_index_string links name item
      rw [indexItems, hPart, List.map_cons, List.map_cons, hPart, ih]

/-- Every place of an indexed list holds what its item is indexed to. -/
theorem map_ok_getElem?_indexItems (items : List Value) (place : Nat) :
    ((indexItems links items (.string name))[place]?).map .ok =
      (items[place]?).map fun item => index links item (.string name) := by
  rw [← List.getElem?_map, ← List.getElem?_map, map_ok_indexItems]

theorem length_indexItems (items : List Value) :
    (indexItems links items (.string name)).length = items.length := by
  simpa only [List.length_map] using congrArg List.length (@map_ok_indexItems links name items)

/-- What stands at a path has its field at the same path. -/
theorem at?_index {path : List Nat} {v part item : Value}
    (hPart : index links v (.string name) = .ok part) (hItem : at? path v = some item) :
    ∃ field, index links item (.string name) = .ok field ∧ at? path part = some field := by
  induction path generalizing v part with
  | nil =>
      cases hItem
      exact ⟨part, hPart, rfl⟩
  | cons place path ih =>
      obtain ⟨items, inner, rfl, hPlace, hRest⟩ := at?_cons_eq_some_iff.mp hItem
      rw [index_array_string, Except.ok.injEq] at hPart
      have hField := @map_ok_getElem?_indexItems links name items place
      rw [hPlace, Option.map_some, Option.map_eq_some_iff] at hField
      obtain ⟨found, hFound, hIndex⟩ := hField
      obtain ⟨field, hField, hAt⟩ := ih hIndex.symm hRest
      exact ⟨field, hField, at?_cons_eq_some_iff.mpr ⟨_, found, hPart.symm, hFound, hAt⟩⟩

end Value

namespace Context

open Value

/-- Taking a field never fails, in any context. Taking it of a list gives a list of the same length, in
which the field of every item stands in the place of the item; this holds again of the lists in it, so
that a path of indices leads to the field of what it leads to in the first list. -/
theorem index_string_in_place (c : Context) (name : String) :
    (∀ v, ∃ part, c.index v (.string name) = .ok part) ∧
    ∀ items : List Value, ∃ parts, c.index (.array items) (.string name) = .ok (.array parts) ∧
      parts.length = items.length ∧
      (∀ place : Nat,
        (parts[place]?).map .ok = (items[place]?).map fun item => c.index item (.string name)) ∧
      ∀ path item, at? path (.array items) = some item →
        ∃ part, c.index item (.string name) = .ok part ∧ at? path (.array parts) = some part := by
  refine ⟨exists_index_string, fun items => ?_⟩
  have hParts := @index_array_string c.links name items
  exact ⟨_, hParts, length_indexItems items, map_ok_getElem?_indexItems items,
    fun path item hItem => at?_index hParts hItem⟩

/-- Every document has the same list under `n`. -/
def listedLinks : Links := { Links.none with page? := fun _ => some [("n", .array [.null, .null])] }

/-- An object and a link within a list, and a text. -/
def nestedItems : List Value :=
  [.array [.object [("n", .boolean true)], .link (.file "a.md")], .string "n"]

/-- The list that the link leads to stands whole in the place of the link. -/
theorem index_string_in_place_nested :
    at? [0, 1] (.array nestedItems) = some (.link (.file "a.md")) ∧
    ∃ parts, (standard listedLinks {} ⟨0, 0, 0⟩).index (.array nestedItems) (.string "n") =
        .ok (.array parts) ∧
      parts.length = 2 ∧ at? [0, 1] (.array parts) = some (.array [.null, .null]) := by
  have hItem : at? [0, 1] (.array nestedItems) = some (.link (.file "a.md")) := rfl
  obtain ⟨parts, hParts, hLength, _, hPaths⟩ :=
    (index_string_in_place (standard listedLinks {} ⟨0, 0, 0⟩) "n").2 nestedItems
  obtain ⟨part, hPart, hAt⟩ := hPaths [0, 1] _ hItem
  cases hPart
  exact ⟨hItem, parts, hParts, hLength, hAt⟩

end Context
end DocQuery
