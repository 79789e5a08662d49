import Mathlib
import DocQuery.Proofs.Number.Rank
import DocQuery.Proofs.Ordered
import DocQuery.Proofs.Value.Order

/-!
Equality of values beside their order. Both leave out what a value is only shown with, each in its own way;
on equal values without widgets they agree. Widgets are ordered by the text that they are shown with, which
equal widgets need not share.
-/

namespace DocQuery

/-- Spans whose counts are alike but for the sign of zero are equally long. -/
theorem Duration.rank_toMillis {a b : Duration}
    (h : ∀ unit, (a.count unit).rank = (b.count unit).rank) : a.toMillis.rank = b.toMillis.rank := by
  have hUnit (unit : DurationUnit) : (a.unitMillis unit).rank = (b.unitMillis unit).rank :=
    Number.rank_mul (h unit) _
  rw [Duration.toMillis, Duration.toMillis]
  repeat apply Number.rank_add
  all_goals first
    | exact hUnit _
    | exact h .millisecond

namespace Value

/-! ### Parts -/

inductive Step where
  | place (index : Nat)
  | field (name : String)

def step? : Step → Value → Option Value
  | .place index, array items => items[index]?
  | .field name, object fields => Keyed.get? fields name
  | _, _ => none

/-- What a path of steps leads to. There is no way into a widget. -/
def part? : List Step → Value → Option Value
  | [], v => some v
  | step :: path, v => (step? step v).bind (part? path)

/-- The names of every object in a value are distinct, as they are in objects whose fields are set one after the
other. -/
def WellKeyed (v : Value) : Prop :=
  ∀ path fields, part? path v = some (object fields) → (Keyed.names fields).Nodup

/-- Where two values have widgets in the same place, these are shown with the same text. -/
def ShownAlike (a b : Value) : Prop :=
  ∀ path v w, part? path a = some v → part? path b = some w →
    v.type = .widget → w.type = .widget → v.renderPlain = w.renderPlain

variable {a b v w : Value} {s : Step} {normalize : String → String}

/-- A step leads to a part of the value. -/
theorem sizeOf_lt_of_step? (h : step? s a = some v) : sizeOf v < sizeOf a := by
  unfold step? at h
  split at h
  · have hItem := List.sizeOf_lt_of_mem (List.mem_of_getElem? h)
    simp only [array.sizeOf_spec]
    omega
  · have hEntry := List.sizeOf_lt_of_mem (Keyed.mem_of_get? h)
    simp only [object.sizeOf_spec, Prod.mk.sizeOf_spec] at hEntry ⊢
    omega
  · cases h

theorem part?_cons (hStep : step? s a = some v) (path : List Step) :
    part? (s :: path) a = part? path v := by
  rw [part?, hStep, Option.bind_some]

/-- The names in every part are distinct if they are in the value. -/
theorem WellKeyed.step (hKeyed : a.WellKeyed) (hStep : step? s a = some v) : v.WellKeyed := by
  intro path fields hPart
  apply hKeyed (s :: path)
  rw [part?_cons hStep, hPart]

theorem WellKeyed.nodup {fields : Object} (hKeyed : (object fields).WellKeyed) : (Keyed.names fields).Nodup :=
  hKeyed [] fields rfl

/-- Values that are no widgets are shown alike when their parts are. -/
theorem shownAlike_iff_of_not_widget (hPlain : a.type ≠ .widget) :
    ShownAlike a b ↔ ∀ step v w, step? step a = some v → step? step b = some w → ShownAlike v w := by
  constructor
  · intro h step v w hLeft hRight path p q hP hQ
    apply h (step :: path)
    · rw [part?_cons hLeft, hP]
    · rw [part?_cons hRight, hQ]
  · intro h path p q hP hQ hPWidget
    cases path with
    | nil =>
        cases hP
        exact absurd hPWidget hPlain
    | cons step path =>
        obtain ⟨v, hLeft, hP⟩ := Option.bind_eq_some_iff.mp hP
        obtain ⟨w, hRight, hQ⟩ := Option.bind_eq_some_iff.mp hQ
        exact h step v w hLeft hRight path p q hP hQ hPWidget

/-- Widgets are shown alike when their texts are the same. -/
theorem shownAlike_iff_of_widget (hLeft : a.type = .widget) (hRight : b.type = .widget) :
    ShownAlike a b ↔ a.renderPlain = b.renderPlain := by
  have hNoStep (step : Step) : step? step a = none := by
    cases a <;> cases hLeft <;> cases step <;> rfl
  constructor
  · intro h
    exact h [] a b rfl rfl hLeft hRight
  · intro hText path v w hV hW _ _
    cases path with
    | nil =>
        cases hV
        cases hW
        exact hText
    | cons step path =>
        rw [part?, hNoStep] at hV
        cases hV

/-! ### Equal values -/

/-- What equal values have in common, form by form. -/
inductive SameForm : Value → Value → Prop where
  | null : SameForm null null
  | boolean (b : Bool) : SameForm (boolean b) (boolean b)
  | number {a b : Number} (rank : a.rank = b.rank) : SameForm (number a) (number b)
  | string (s : String) : SameForm (string s) (string s)
  | date {a b : Date} (seconds : a.seconds = b.seconds) (nanos : a.nanos = b.nanos) :
      SameForm (date a) (date b)
  | duration {a b : Duration} (rank : a.toMillis.rank = b.toMillis.rank) :
      SameForm (duration a) (duration b)
  | link {a b : Link} (path : a.path = b.path) (kind : a.kind = b.kind) (subpath : a.subpath = b.subpath) :
      SameForm (link a) (link b)
  | array {as bs : List Value} (length : as.length = bs.length)
      (items : ∀ (index : Nat) v w, as[index]? = some v → bs[index]? = some w → same v w = true) :
      SameForm (array as) (array bs)
  | object {as bs : Object} (length : as.length = bs.length)
      (fields : ∀ name v, (name, v) ∈ as → ∃ w, Keyed.get? bs name = some w ∧ same v w = true) :
      SameForm (object as) (object bs)
  | widget {a b : Value} (left : a.type = .widget) (right : b.type = .widget) : SameForm a b

/-- Lists of equal items are equally long and equal place by place. -/
theorem sameItems_eq_true {as bs : List Value} (h : sameItems as bs = true) :
    as.length = bs.length ∧
      ∀ (index : Nat) v w, as[index]? = some v → bs[index]? = some w → same v w = true := by
  induction as generalizing bs with
  | nil =>
      cases bs with
      | nil => exact ⟨rfl, nofun⟩
      | cons b bs => cases h
  | cons a as ih =>
      cases bs with
      | nil => cases h
      | cons b bs =>
          rw [sameItems, Bool.and_eq_true] at h
          obtain ⟨hLength, hItems⟩ := ih h.2
          refine ⟨congrArg Nat.succ hLength, fun index v w hV hW => ?_⟩
          cases index with
          | zero =>
              cases hV
              cases hW
              exact h.1
          | succ index => exact hItems index v w hV hW

/-- Every field has one that equals it. -/
theorem exists_of_sameFields {as bs : Object} (h : sameFields as bs = true) :
    ∀ name v, (name, v) ∈ as → ∃ w, Keyed.get? bs name = some w ∧ same v w = true := by
  induction as with
  | nil => exact nofun
  | cons entry as ih =>
      obtain ⟨key, first⟩ := entry
      rw [sameFields, Bool.and_eq_true] at h
      obtain ⟨hFirst, hRest⟩ := h
      intro name v hMem
      rcases List.mem_cons.mp hMem with hHead | hLater
      · cases hHead
        split at hFirst
        · next w hLookup => exact ⟨w, hLookup, hFirst⟩
        · cases hFirst
      · exact ih hRest name v hLater

/-- Equal values have the same form, and what their form holds is equal. -/
theorem sameForm_of_same (h : same a b = true) : SameForm a b := by
  unfold same at h
  split at h
  · exact .null
  · cases beq_iff_eq.mp h
    exact .boolean _
  · exact .number (Number.rank_eq_of_same h)
  · cases beq_iff_eq.mp h
    exact .string _
  · have hOrder := Ordering.then_eq_eq.mp (beq_iff_eq.mp h)
    exact .date (Std.LawfulEqOrd.eq_of_compare hOrder.1) (Std.LawfulEqOrd.eq_of_compare hOrder.2)
  · apply SameForm.duration
    apply Duration.rank_toMillis
    intro unit
    have hAll : unit ∈ DurationUnit.all := by cases unit <;> decide
    exact Number.rank_eq_of_same (List.all_eq_true.mp h unit hAll)
  · rw [Link.same, Bool.and_eq_true, Bool.and_eq_true, beq_iff_eq, beq_iff_eq, beq_iff_eq] at h
    exact .link h.1.1 h.1.2 h.2
  · exact .array (sameItems_eq_true h).1 (sameItems_eq_true h).2
  · rw [Bool.and_eq_true, beq_iff_eq] at h
    exact .object h.1 (exists_of_sameFields h.2)
  · exact .widget rfl rfl
  · exact .widget rfl rfl
  · cases h

/-- Equal objects have the same names. -/
theorem names_perm {as bs : Object} (hDistinct : (Keyed.names as).Nodup) (hLength : as.length = bs.length)
    (hFields : ∀ name v, (name, v) ∈ as → ∃ w, Keyed.get? bs name = some w ∧ same v w = true) :
    (Keyed.names as).Perm (Keyed.names bs) := by
  have hSubset : Keyed.names as ⊆ Keyed.names bs := by
    intro name hName
    obtain ⟨⟨key, v⟩, hEntry, rfl⟩ := List.mem_map.mp hName
    obtain ⟨w, hFound, -⟩ := hFields key v hEntry
    exact List.mem_map.mpr ⟨(key, w), Keyed.mem_of_get? hFound, rfl⟩
  apply (List.subperm_of_subset hDistinct hSubset).perm_of_length_le
  rw [Keyed.names, Keyed.names, List.length_map, List.length_map, hLength]

/-! ### The order of containers -/

/-- Arrays of one length come out equal when they do place by place. -/
theorem compareBy_array_eq_iff {as bs : List Value} (hLength : as.length = bs.length) :
    compareBy normalize (array as) (array bs) = .eq ↔
      ∀ (index : Nat) v w, as[index]? = some v → bs[index]? = some w → compareBy normalize v w = .eq := by
  rw [compareBy, sortKey, sortKey, SortKey.compare]
  induction as generalizing bs with
  | nil =>
      cases bs with
      | nil => exact iff_of_true rfl nofun
      | cons b bs => cases hLength
  | cons a as ih =>
      cases bs with
      | nil => cases hLength
      | cons b bs =>
          rw [sortKeys, sortKeys, SortKey.compareItems, Ordering.then_eq_eq, ih (Nat.succ.inj hLength)]
          constructor
          · rintro ⟨hFirst, hRest⟩ index v w hV hW
            cases index with
            | zero =>
                cases hV
                cases hW
                exact hFirst
            | succ index => exact hRest index v w hV hW
          · intro h
            exact ⟨h 0 a b rfl rfl, fun index v w hV hW => h (index + 1) v w hV hW⟩

theorem mem_insertField {name : String} {field : String × SortKey} {keys : List (String × SortKey)} :
    name ∈ (SortKey.insertField field keys).map Prod.fst ↔ name = field.1 ∨ name ∈ keys.map Prod.fst := by
  induction keys with
  | nil => simp [SortKey.insertField]
  | cons other rest ih =>
      rw [SortKey.insertField]
      split
      · rw [List.map_cons, List.mem_cons, ih, List.map_cons, List.mem_cons, or_left_comm]
      · rw [List.map_cons, List.mem_cons]

/-- A field under a new name is put into its place. -/
theorem insertField_eq_put {name : String} {key : SortKey} {keys : List (String × SortKey)}
    (hNew : name ∉ keys.map Prod.fst) :
    SortKey.insertField (name, key) keys = Ordered.put name key keys := by
  induction keys with
  | nil => rfl
  | cons other rest ih =>
      obtain ⟨hOther, hRest⟩ := List.ne_and_not_mem_of_not_mem_cons hNew
      rw [SortKey.insertField, Ordered.put, ih hRest, if_neg (Ne.symm hOther)]

theorem mem_fieldKeys {name : String} {fields : Object} :
    name ∈ (fieldKeys normalize fields).map Prod.fst ↔ name ∈ Keyed.names fields := by
  induction fields with
  | nil => rw [fieldKeys]; rfl
  | cons entry rest ih =>
      obtain ⟨key, v⟩ := entry
      rw [fieldKeys, mem_insertField, ih]
      exact List.mem_cons.symm

/-- The fields of an object with distinct names are sorted by name and keep their values. -/
theorem fieldKeys_ascending {fields : Object} (hDistinct : (Keyed.names fields).Nodup) :
    ((fieldKeys normalize fields).map Prod.fst).Pairwise (· < ·) ∧
      ∀ name, (fieldKeys normalize fields).lookup name =
        (Keyed.get? fields name).map (sortKey normalize) := by
  induction fields with
  | nil =>
      rw [fieldKeys]
      exact ⟨.nil, fun _ => rfl⟩
  | cons entry rest ih =>
      obtain ⟨key, v⟩ := entry
      obtain ⟨hNew, hRest⟩ := List.nodup_cons.mp hDistinct
      obtain ⟨hAscending, hLookup⟩ := ih hRest
      have hAbsent : key ∉ (fieldKeys normalize rest).map Prod.fst := by rwa [mem_fieldKeys]
      rw [fieldKeys, insertField_eq_put hAbsent]
      constructor
      · rw [Ordered.keys_put]
        exact Ordered.pairwise_insert key hAscending
      · intro name
        rw [Ordered.lookup_put, Keyed.get?_cons, hLookup]
        split <;> rfl

/-- Fields under the same names are compared name by name. -/
theorem compareFields_eq_iff {xs ys : List (String × SortKey)} (hNames : xs.map Prod.fst = ys.map Prod.fst)
    (hDistinct : (xs.map Prod.fst).Nodup) :
    SortKey.compareFields xs ys = .eq ↔
      ∀ name k l, xs.lookup name = some k → ys.lookup name = some l → SortKey.compare k l = .eq := by
  induction xs generalizing ys with
  | nil =>
      cases ys with
      | nil => exact iff_of_true rfl nofun
      | cons y ys => cases hNames
  | cons x xs ih =>
      cases ys with
      | nil => cases hNames
      | cons y ys =>
          obtain ⟨m, k⟩ := x
          obtain ⟨n, l⟩ := y
          obtain ⟨rfl, hRestNames⟩ := List.cons.inj hNames
          obtain ⟨hNew, hRest⟩ := List.nodup_cons.mp hDistinct
          rw [SortKey.compareFields, Ordering.then_eq_eq, Ordering.then_eq_eq, ih hRestNames hRest,
            and_iff_right Std.ReflOrd.compare_self]
          constructor
          · rintro ⟨hFirst, hOthers⟩ name p q hP hQ
            rw [Ordered.lookup_cons] at hP hQ
            by_cases hName : name = m
            · rw [if_pos hName] at hP hQ
              cases hP
              cases hQ
              exact hFirst
            · rw [if_neg hName] at hP hQ
              exact hOthers name p q hP hQ
          · intro h
            refine ⟨h m k l List.lookup_cons_self List.lookup_cons_self, fun name p q hP hQ => ?_⟩
            have hName : name ≠ m := by
              rintro rfl
              exact hNew (List.mem_map.mpr ⟨(name, p), Keyed.mem_of_get? hP, rfl⟩)
            apply h name p q
            · rw [Ordered.lookup_cons, if_neg hName, hP]
            · rw [Ordered.lookup_cons, if_neg hName, hQ]

/-- Objects with the same names come out equal when their fields do. The names may stand in any order,
because keys are sorted. -/
theorem compareBy_object_eq_iff {as bs : Object} (hDistinct : (Keyed.names as).Nodup)
    (hNames : (Keyed.names as).Perm (Keyed.names bs)) :
    compareBy normalize (object as) (object bs) = .eq ↔ ∀ name v w, Keyed.get? as name = some v →
      Keyed.get? bs name = some w → compareBy normalize v w = .eq := by
  obtain ⟨hLeft, hLeftLookup⟩ := @fieldKeys_ascending normalize _ hDistinct
  obtain ⟨hRight, hRightLookup⟩ := @fieldKeys_ascending normalize _ (hNames.nodup_iff.mp hDistinct)
  have hSame : (fieldKeys normalize as).map Prod.fst = (fieldKeys normalize bs).map Prod.fst := by
    apply hLeft.eq_of_mem_iff hRight
    intro name
    rw [mem_fieldKeys, mem_fieldKeys, hNames.mem_iff]
  rw [compareBy, sortKey, sortKey, SortKey.compare, compareFields_eq_iff hSame (hLeft.imp ne_of_lt)]
  simp only [hLeftLookup, hRightLookup, Option.map_eq_some_iff]
  constructor
  · intro h name v w hV hW
    exact h name _ _ ⟨v, hV, rfl⟩ ⟨w, hW, rfl⟩
  · rintro h name _ _ ⟨v, hV, rfl⟩ ⟨w, hW, rfl⟩
    exact h name v w hV hW

/-! ### Equal values in the order -/

/-- Parts of equal values in the same place are equal. -/
theorem same_of_step? (hSame : same a b = true) (hLeft : step? s a = some v) (hRight : step? s b = some w)
    (hKeyed : a.WellKeyed) : same v w = true := by
  cases sameForm_of_same hSame with
  | array _ items =>
      cases s with
      | place index => exact items index v w hLeft hRight
      | field name => cases hLeft
  | object _ fields =>
      cases s with
      | place index => cases hLeft
      | field name =>
          obtain ⟨other, hFound, hEqual⟩ := fields name v (Keyed.mem_of_get? hLeft)
          cases hFound.symm.trans hRight
          exact hEqual
  | widget left => cases a <;> cases left <;> cases s <;> cases hLeft
  | null | boolean | number | string | date | duration | link => cases s <;> cases hLeft

theorem type_eq_widget_of_same (hSame : same a b = true) (hWidget : a.type = .widget) : b.type = .widget := by
  cases sameForm_of_same hSame with
  | widget _ right => exact right
  | null | boolean | number | string | date | duration | link | array | object => cases hWidget

/-- Equal values that are no widgets are equal in the order when their parts are. -/
theorem compareBy_eq_iff_parts (hKeyed : a.WellKeyed) (hSame : same a b = true) (hPlain : a.type ≠ .widget) :
    compareBy normalize a b = .eq ↔ ∀ s v w, step? s a = some v → step? s b = some w →
      compareBy normalize v w = .eq := by
  have hLeaf (hKey : sortKey normalize a = sortKey normalize b) (hNone : ∀ s, step? s a = none) :
      compareBy normalize a b = .eq ↔ ∀ s v w, step? s a = some v → step? s b = some w →
        compareBy normalize v w = .eq := by
    have hEqual : compareBy normalize a b = .eq := by
      rw [compareBy, hKey]
      exact Std.ReflCmp.compare_self
    refine iff_of_true hEqual fun s v w hLeft => ?_
    rw [hNone] at hLeft
    cases hLeft
  cases sameForm_of_same hSame with
  | array length items =>
      rw [compareBy_array_eq_iff length]
      constructor
      · intro h s v w hLeft hRight
        cases s with
        | place index => exact h index v w hLeft hRight
        | field name => cases hLeft
      · intro h index v w
        exact h (.place index) v w
  | object length fields =>
      rw [compareBy_object_eq_iff hKeyed.nodup (names_perm hKeyed.nodup length fields)]
      constructor
      · intro h s v w hLeft hRight
        cases s with
        | place index => cases hLeft
        | field name => exact h name v w hLeft hRight
      · intro h name v w
        exact h (.field name) v w
  | widget left => exact absurd left hPlain
  | null | boolean | string => exact hLeaf rfl (by intro s; cases s <;> rfl)
  | number rank => exact hLeaf (by rw [sortKey, sortKey, rank]) (by intro s; cases s <;> rfl)
  | date seconds nanos =>
      exact hLeaf (by rw [sortKey, sortKey, seconds, nanos]) (by intro s; cases s <;> rfl)
  | duration rank => exact hLeaf (by rw [sortKey, sortKey, rank]) (by intro s; cases s <;> rfl)
  | link path kind subpath =>
      exact hLeaf (by rw [sortKey, sortKey, path, kind, subpath]) (by intro s; cases s <;> rfl)

/-- Widgets come out equal when their texts are the same. -/
theorem compareBy_widget_eq_iff (hLeft : a.type = .widget) (hRight : b.type = .widget) :
    compareBy normalize a b = .eq ↔ a.renderPlain = b.renderPlain := by
  have hKey {v : Value} (hWidget : v.type = .widget) : sortKey normalize v = .widget v.renderPlain := by
    cases v <;> cases hWidget <;> rfl
  rw [compareBy, hKey hLeft, hKey hRight, SortKey.compare]
  exact Std.compare_eq_iff_eq

/-- On equal values the order looks no further than equality, but for the texts of widgets. -/
theorem compareBy_eq_iff_shownAlike {a b : Value} (hKeyed : a.WellKeyed) (hSame : same a b = true) :
    compareBy normalize a b = .eq ↔ ShownAlike a b := by
  by_cases hWidget : a.type = .widget
  · have hOther := type_eq_widget_of_same hSame hWidget
    rw [compareBy_widget_eq_iff hWidget hOther, shownAlike_iff_of_widget hWidget hOther]
  · rw [compareBy_eq_iff_parts hKeyed hSame hWidget, shownAlike_iff_of_not_widget hWidget]
    have hParts (s : Step) (v w : Value) (hLeft : step? s a = some v) (hRight : step? s b = some w) :
        compareBy normalize v w = .eq ↔ ShownAlike v w :=
      compareBy_eq_iff_shownAlike (hKeyed.step hLeft) (same_of_step? hSame hLeft hRight hKeyed)
    constructor
    · intro h s v w hLeft hRight
      exact (hParts s v w hLeft hRight).mp (h s v w hLeft hRight)
    · intro h s v w hLeft hRight
      exact (hParts s v w hLeft hRight).mpr (h s v w hLeft hRight)
termination_by sizeOf a
decreasing_by exact sizeOf_lt_of_step? hLeft

/-- Equal values are equal in the order exactly when their widgets are shown alike, so that equal values
without widgets always are. -/
theorem compareBy_of_same (normalize : String → String) {a b : Value} (hKeyed : a.WellKeyed)
    (hSame : same a b = true) :
    (compareBy normalize a b = .eq ↔ ShownAlike a b) ∧
      ((∀ path v, part? path a = some v → v.type ≠ .widget) → compareBy normalize a b = .eq) := by
  have hAlike := @compareBy_eq_iff_shownAlike normalize a b hKeyed hSame
  refine ⟨hAlike, fun hPlain => hAlike.mpr ?_⟩
  intro path v w hPart _ hWidget
  exact absurd hWidget (hPlain path v hPart)

/-- An object without nested values has no parts but itself and its fields. -/
theorem part?_flat {fields : Object} (hFlat : ∀ field ∈ fields, ∀ s, step? s field.2 = none)
    {path : List Step} (h : part? path (object fields) = some w) :
    w = object fields ∨ ∃ field ∈ fields, w = field.2 := by
  cases path with
  | nil =>
      cases h
      exact .inl rfl
  | cons s path =>
      obtain ⟨v, hStep, hPart⟩ := Option.bind_eq_some_iff.mp h
      cases s with
      | place index => cases hStep
      | field name =>
          have hField := Keyed.mem_of_get? hStep
          cases path with
          | nil =>
              cases hPart
              exact .inr ⟨_, hField, rfl⟩
          | cons s path =>
              rw [part?, hFlat _ hField] at hPart
              cases hPart

/-- A link and a negative zero under names, and the same in the other order with the link shown differently and
the zero without a sign. -/
def looseTwins : Object × Object :=
  ([("l", link { Link.file "a" with display := some "x" }), ("n", number (Number.signedZero true))],
    [("n", number (Number.signedZero false)), ("l", link (Link.file "a"))])

/-- Two objects with their fields in another order, a link that is shown differently and a zero of the other
sign. -/
theorem compareBy_of_same_looseTwins :
    (object looseTwins.1).WellKeyed ∧ same (object looseTwins.1) (object looseTwins.2) = true ∧
      compareBy id (object looseTwins.1) (object looseTwins.2) = .eq := by
  have hFlat : ∀ field ∈ looseTwins.1, ∀ s, step? s field.2 = none := by
    intro field hField s
    simp only [looseTwins, List.mem_cons, List.not_mem_nil, or_false] at hField
    rcases hField with rfl | rfl <;> cases s <;> rfl
  have hTypes : ∀ field ∈ looseTwins.1, field.2.type ≠ .object ∧ field.2.type ≠ .widget := by decide
  have hKeyed : (object looseTwins.1).WellKeyed := by
    intro path fields hPart
    rcases part?_flat hFlat hPart with hWhole | ⟨field, hField, hValue⟩
    · cases hWhole
      decide
    · exact absurd (congrArg type hValue).symm (hTypes field hField).1
  have hSame : same (object looseTwins.1) (object looseTwins.2) = true := by decide
  refine ⟨hKeyed, hSame, (compareBy_of_same id hKeyed hSame).2 fun path v hPart => ?_⟩
  rcases part?_flat hFlat hPart with rfl | ⟨field, hField, rfl⟩
  · exact nofun
  · exact (hTypes field hField).2

/-- Two pairs with the same link, which is shown differently. -/
theorem not_compareBy_of_same : ¬∀ normalize a b, a.WellKeyed → b.WellKeyed → same a b = true →
    compareBy normalize a b = .eq := by
  intro h
  have hKeyed (display : String) : (listPair (link { Link.file "a" with display }) null).WellKeyed := by
    intro path fields hPart
    cases path with
    | nil => cases hPart
    | cons s path => cases s <;> cases hPart
  exact absurd (h id _ _ (hKeyed "x") (hKeyed "y") (by decide)) (by decide)

end Value

end DocQuery
