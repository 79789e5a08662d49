import Mathlib
import DocQuery.Value.Exchange
import DocQuery.Proofs.Calendar.Literal
import DocQuery.Proofs.Json.Read
import DocQuery.Proofs.Link
import DocQuery.Proofs.Number.Arithmetic
import DocQuery.Proofs.Ordered

/-!
What is read from a document, written and read again. Everything that the reader makes of a text is
written as a text that it makes the same of, with one exception: a header that looks like a block, which
comes back as the block. Numbers keep everything but the sign of zero.
-/

namespace DocQuery

open Text

namespace Value

mutual

/-- The value with zero in place of every negative zero. -/
def dropZeroSigns : Value → Value
  | number n => number n.dropZeroSign
  | array items => array (dropZeroSignsOfItems items)
  | object fields => object (dropZeroSignsOfFields fields)
  | listPair key value => listPair (dropZeroSigns key) (dropZeroSigns value)
  | other => other

def dropZeroSignsOfItems : List Value → List Value
  | [] => []
  | item :: rest => dropZeroSigns item :: dropZeroSignsOfItems rest

def dropZeroSignsOfFields : List (String × Value) → List (String × Value)
  | [] => []
  | (name, value) :: rest => (name, dropZeroSigns value) :: dropZeroSignsOfFields rest

end

mutual

def links : Value → List Link
  | link l => [l]
  | array items => linksOfItems items
  | object fields => linksOfFields fields
  | listPair key value => links key ++ links value
  | _ => []

def linksOfItems : List Value → List Link
  | [] => []
  | item :: rest => links item ++ linksOfItems rest

def linksOfFields : List (String × Value) → List Link
  | [] => []
  | (_, value) :: rest => links value ++ linksOfFields rest

end

section Containers

theorem dropZeroSignsOfItems_eq_map (items : List Value) :
    dropZeroSignsOfItems items = items.map dropZeroSigns := by
  induction items with
  | nil => rfl
  | cons item rest ih => rw [dropZeroSignsOfItems, ih, List.map_cons]

theorem dropZeroSignsOfFields_eq_map (fields : List (String × Value)) :
    dropZeroSignsOfFields fields = fields.map (Prod.map id dropZeroSigns) := by
  induction fields with
  | nil => rfl
  | cons field rest ih => rw [dropZeroSignsOfFields, ih, List.map_cons]; rfl

theorem forall_mem_linksOfItems {P : Link → Prop} {items : List Value} :
    (∀ l ∈ linksOfItems items, P l) ↔ ∀ item ∈ items, ∀ l ∈ item.links, P l := by
  induction items with
  | nil => exact iff_of_true nofun nofun
  | cons item rest ih => rw [linksOfItems, List.forall_mem_append, List.forall_mem_cons, ih]

theorem forall_mem_linksOfFields {P : Link → Prop} {fields : List (String × Value)} :
    (∀ l ∈ linksOfFields fields, P l) ↔ ∀ field ∈ fields, ∀ l ∈ field.2.links, P l := by
  induction fields with
  | nil => exact iff_of_true nofun nofun
  | cons field rest ih => rw [linksOfFields, List.forall_mem_append, List.forall_mem_cons, ih]

theorem itemsToJson_eq_map (items : List Value) : itemsToJson items = items.map toJson := by
  induction items with
  | nil => rfl
  | cons item rest ih => rw [itemsToJson, ih, List.map_cons]

theorem itemsOfJson_eq_map (items : List Json) : itemsOfJson items = items.map ofJson := by
  induction items with
  | nil => rfl
  | cons item rest ih => rw [itemsOfJson, ih, List.map_cons]

theorem fieldsToJson_eq_map (fields : List (String × Value)) :
    fieldsToJson fields = fields.map (Prod.map id toJson) := by
  induction fields with
  | nil => rfl
  | cons field rest ih => rw [fieldsToJson, ih, List.map_cons]; rfl

/-- A field is placed where its name belongs. -/
theorem names_placeField (name : String) (v : Value) (fields : List (String × Value)) :
    (placeField name v fields).map Prod.fst = Ordered.insert name (fields.map Prod.fst) := by
  induction fields with
  | nil => rfl
  | cons field rest ih =>
      rw [placeField, List.map_cons, Ordered.insert]
      split
      · rw [List.map_cons, ih]
      · split
        · rfl
        · rfl

theorem mem_of_mem_placeField {name : String} {v : Value} {fields : List (String × Value)}
    {field : String × Value} (h : field ∈ placeField name v fields) :
    field = (name, v) ∨ field ∈ fields := by
  induction fields with
  | nil => exact .inl (List.mem_singleton.mp h)
  | cons other rest ih =>
      rw [placeField] at h
      split at h
      · rcases List.mem_cons.mp h with rfl | hRest
        · exact .inr List.mem_cons_self
        · exact (ih hRest).imp_right (List.mem_cons_of_mem _)
      · split at h
        · exact .inr h
        · exact List.mem_cons.mp h

theorem placeField_of_forall_lt {name : String} (v : Value) {fields : List (String × Value)}
    (hFirst : ∀ field ∈ fields, name < field.1) :
    placeField name v fields = (name, v) :: fields := by
  cases fields with
  | nil => rfl
  | cons other rest =>
      have hLess := hFirst other List.mem_cons_self
      rw [placeField, if_neg hLess.not_gt, if_neg hLess.ne']

/-- The names of the fields of a document ascend. -/
theorem names_fieldsOfJson (members : List (String × Json)) :
    ((fieldsOfJson members).map Prod.fst).Pairwise (· < ·) := by
  induction members with
  | nil => exact List.Pairwise.nil
  | cons member rest ih =>
      rw [fieldsOfJson, names_placeField]
      exact Ordered.pairwise_insert _ ih

/-- Members that are in order already are read one by one. -/
theorem fieldsOfJson_of_ascending {members : List (String × Json)}
    (hAscending : (members.map Prod.fst).Pairwise (· < ·)) :
    fieldsOfJson members = members.map (Prod.map id ofJson) := by
  induction members with
  | nil => rfl
  | cons member rest ih =>
      obtain ⟨hFirst, hRest⟩ := List.pairwise_cons.mp hAscending
      rw [fieldsOfJson, ih hRest, List.map_cons, placeField_of_forall_lt]
      · rfl
      · intro field hMem
        obtain ⟨other, hOther, rfl⟩ := List.mem_map.mp hMem
        exact hFirst other.1 (List.mem_map_of_mem hOther)

end Containers

section Texts

/-- What stands between brackets is a link if it is not blank and no brackets close in it. -/
theorem linkOfText?_brackets (embed : Bool) (inner : List Char) :
    linkOfText? ((if embed then ['!'] else []) ++ ['[', '['] ++ inner ++ [']', ']']) =
      if (trim inner).isEmpty || occursIn [']', ']'] inner then none
      else some { Link.ofInner inner with embed } := by
  have hStart : dropStart? ['[', '['] ('[' :: '[' :: (inner ++ [']', ']'])) = some (inner ++ [']', ']']) :=
    dropStart?_eq_some_iff.mpr rfl
  have hEnd : dropEnd? [']', ']'] (inner ++ [']', ']']) = some inner := dropEnd?_eq_some_iff.mpr rfl
  cases embed <;> simp [linkOfText?, hStart, hEnd]

/-- A link that is read stands between brackets that its inside does not close. -/
theorem exists_of_linkOfText? {cs : List Char} {l : Link} (h : linkOfText? cs = some l) :
    ∃ embed inner, trim inner ≠ [] ∧ ¬ [']', ']'] <:+: inner ∧
      l = { Link.ofInner inner with embed } := by
  unfold linkOfText? at h
  split at h
  next embed _ _ =>
    obtain ⟨_, _, hRest⟩ := Option.bind_eq_some_iff.mp h
    obtain ⟨inner, _, hLink⟩ := Option.bind_eq_some_iff.mp hRest
    obtain ⟨hWhole, hLink⟩ := Option.ite_none_left_eq_some.mp hLink
    rw [Bool.or_eq_true, List.isEmpty_iff, occursIn_iff_infix, not_or] at hWhole
    exact ⟨embed, inner, hWhole.1, hWhole.2, (Option.some.inj hLink).symm⟩

/-- The written form of a link that was read reads back unless its header looks like a block. -/
theorem linkOfText?_markdown {cs : List Char} {l : Link} (h : linkOfText? cs = some l) :
    linkOfText? l.markdown.toList = some l ↔ ¬ l.LooksLikeBlock := by
  obtain ⟨embed, inner, hSome, hOpen, rfl⟩ := exists_of_linkOfText? h
  have hInside := Link.reinserted_ofInner inner
  have hWhole : ¬ ((trim (Link.ofInner inner).inside).isEmpty ||
      occursIn [']', ']'] (Link.ofInner inner).inside) = true := by
    rw [Bool.or_eq_true, List.isEmpty_iff, occursIn_iff_infix, not_or]
    exact ⟨mt hInside.blank hSome, mt hInside.closes hOpen⟩
  have hBrackets := linkOfText?_brackets embed (Link.ofInner inner).inside
  rw [if_neg hWhole] at hBrackets
  rw [Link.toList_markdown]
  refine (Iff.of_eq (congrArg (· = _) hBrackets)).trans ?_
  rw [Option.some.injEq]
  refine (Link.withEmbed_inj ?_ embed).trans hInside.readsBack
  rw [Link.embed_ofInner, Link.embed_ofInner]

theorem linkOfText?_of_isDigit {c : Char} (hDigit : c.isDigit = true) (rest : List Char) :
    linkOfText? (c :: rest) = none := by
  have hBang : c ≠ '!' := by rintro rfl; cases hDigit
  have hOpen : c ≠ '[' := by rintro rfl; cases hDigit
  have hStart : dropStart? ['[', '['] (c :: rest) = none := by
    rw [Option.eq_none_iff_forall_ne_some]
    intro inner hInner
    exact hOpen (List.cons.inj (dropStart?_eq_some_iff.mp hInner)).1
  unfold linkOfText?
  split
  next hMatch =>
    split at hMatch
    · next hText => exact absurd (List.cons.inj hText).1 hBang
    · cases hMatch
      rw [hStart]
      rfl

/-- A text stands for a link when it is read as one. -/
theorem ofText_eq_link_iff {s : String} {l : Link} :
    ofText s = link l ↔ linkOfText? s.toList = some l := by
  rw [ofText]
  split
  · next found hFound => rw [hFound, link.injEq, Option.some.injEq]
  · next hNone =>
      rw [hNone]
      refine iff_of_false ?_ nofun
      split
      · split <;> nofun
      · nofun

theorem beginsLikeDate_spelled {year month day : List Char} {y m d : Nat}
    (hYear : Date.Spells year 4 y) (hMonth : Date.Spells month 2 m) (hDay : Date.Spells day 2 d)
    (rest : List Char) :
    beginsLikeDate (year ++ '-' :: (month ++ '-' :: day) ++ rest) = true := by
  obtain ⟨y₁, y₂, y₃, y₄, rfl⟩ := List.length_eq_four.mp hYear.length
  obtain ⟨m₁, m₂, rfl⟩ := List.length_eq_two.mp hMonth.length
  obtain ⟨d₁, d₂, rfl⟩ := List.length_eq_two.mp hDay.length
  exact List.all_eq_true.mpr (List.forall_mem_append.mpr
    ⟨hYear.digits, List.forall_mem_append.mpr ⟨hMonth.digits, hDay.digits⟩⟩)

/-- A date that the exchange form has room for comes back from it, to the millisecond. -/
theorem ofText_isoText_of_fits {d : Date} {c : Calendar.Civil} (hFits : d.Fits c) :
    ofText d.isoText = date { d with nanos := d.nanos / 1000000 * 1000000 } := by
  obtain ⟨hYear, hMonth, hDay⟩ := hFits.spells_civil
  have hText := Date.toList_isoText hFits
  have hBegins : beginsLikeDate d.isoText.toList = true := by
    rw [hText]
    exact beginsLikeDate_spelled hYear hMonth hDay _
  have hLink : linkOfText? d.isoText.toList = none := by
    obtain ⟨y₁, rest, hYearText⟩ := List.exists_cons_of_length_eq_add_one hYear.length
    rw [hText, hYearText]
    exact linkOfText?_of_isDigit (hYear.digits y₁ (hYearText ▸ List.mem_cons_self)) _
  rw [ofText, hLink]
  simp only [hBegins, if_true, Date.ofLiteral?_isoText hFits]

/-- A date that was read from a text comes back from its exchange form. -/
theorem ofText_isoText {s : String} {d : Date} (h : Date.ofLiteral? s = some d) :
    ofText d.isoText = date d := by
  obtain ⟨c, hFits, hMillis⟩ := Date.fits_of_ofLiteral? h
  rw [ofText_isoText_of_fits hFits, Nat.div_mul_cancel hMillis]

/-- A date with a local year of four digits, an offset of whole minutes and no leap second goes out as a
date literal. What the literal stands for is the same date at the same offset, from which all below the
millisecond is cut off, and a document with this text has it for its value. -/
theorem ofLiteral?_of_toJson_date (d : Date) (hYear : 0 ≤ d.civil.year ∧ d.civil.year ≤ 9999)
    (hLeap : d.inLeapSecond = false) (hMinutes : 60 ∣ d.offset)
    (hOffset : Date.offsetInRange d.offset = true) :
    ∃ text, toJson (date d) = .string text ∧
      Date.ofLiteral? text = some { d with nanos := d.nanos / 1000000 * 1000000 } ∧
      ofJson (.string text) = date { d with nanos := d.nanos / 1000000 * 1000000 } := by
  have hNanos : d.nanos < 1000000000 := by
    have hWithin := of_decide_eq_false hLeap
    rw [Date.nanosPerSecond] at hWithin
    omega
  have hFits := Date.fits_civil ⟨hYear.1, Int.lt_add_one_of_le hYear.2⟩ hNanos hMinutes hOffset
  refine ⟨d.isoText, by rw [toJson], Date.ofLiteral?_isoText hFits, ?_⟩
  rw [ofJson, ofText_isoText_of_fits hFits]

/-- The first second of the year zero where clocks are half an hour behind world time. -/
def yearZero : Date := ⟨-62167217400, 123456789, -1800⟩

/-- A date of the year zero between two milliseconds, at an offset of half an hour. -/
theorem ofLiteral?_of_toJson_date_yearZero :
    (0 ≤ yearZero.civil.year ∧ yearZero.civil.year ≤ 9999) ∧ yearZero.inLeapSecond = false ∧
    60 ∣ yearZero.offset ∧ Date.offsetInRange yearZero.offset = true ∧
    ∃ text, toJson (date yearZero) = .string text ∧ text = "0000-01-01T00:00:00.123456789-00:30" ∧
      Date.ofLiteral? text = some ⟨-62167217400, 123000000, -1800⟩ ∧
      ofJson (.string text) = date ⟨-62167217400, 123000000, -1800⟩ := by
  have hYear : 0 ≤ yearZero.civil.year ∧ yearZero.civil.year ≤ 9999 := by decide
  have hLeap : yearZero.inLeapSecond = false := by decide
  have hMinutes : 60 ∣ yearZero.offset := by decide
  have hOffset : Date.offsetInRange yearZero.offset = true := by decide
  obtain ⟨text, hText, hLiteral, hValue⟩ :=
    ofLiteral?_of_toJson_date yearZero hYear hLeap hMinutes hOffset
  have hForm : yearZero.isoText = "0000-01-01T00:00:00.123456789-00:30" := by decide
  have hSame : yearZero.isoText = text := Json.string.inj hText
  exact ⟨hYear, hLeap, hMinutes, hOffset, text, hText, hSame ▸ hForm, hLiteral, hValue⟩

/-- The three readings of a text. -/
theorem ofText_cases (s : String) :
    (∃ l, linkOfText? s.toList = some l ∧ ofText s = link l) ∨
    (∃ d, Date.ofLiteral? s = some d ∧ ofText s = date d) ∨ ofText s = string s := by
  rw [ofText]
  split
  · next l hLink => exact .inl ⟨l, hLink, rfl⟩
  · split
    · split
      · next d hDate => exact .inr (.inl ⟨d, hDate, rfl⟩)
      · exact .inr (.inr rfl)
    · exact .inr (.inr rfl)

theorem dropZeroSigns_ofText (s : String) : (ofText s).dropZeroSigns = ofText s := by
  rcases ofText_cases s with ⟨l, _, hText⟩ | ⟨d, _, hText⟩ | hText <;> rw [hText] <;> rfl

/-- What a text stands for comes back, unless it is a link to a header that looks like a block. -/
theorem ofJson_toJson_ofText (s : String) :
    ofJson (toJson (ofText s)) = ofText s ↔ ∀ l ∈ (ofText s).links, ¬ l.LooksLikeBlock := by
  rcases ofText_cases s with ⟨l, hLink, hText⟩ | ⟨d, hDate, hText⟩ | hText
  · rw [hText, toJson, ofJson, ofText_eq_link_iff, linkOfText?_markdown hLink, links,
      List.forall_mem_singleton]
  · rw [hText, toJson, ofJson, ofText_isoText hDate]
    exact iff_of_true rfl nofun
  · rw [hText, toJson, ofJson, hText]
    exact iff_of_true rfl nofun

end Texts

section Numbers

open Number

theorem zero_less_exactIntegerLimit : (signedZero false).less exactIntegerLimit = true := by
  have fits : Representable (Nat.pow 2 53 * unitsPerOne) := representable_whole (by decide)
  have hPos : 0 < Nat.pow 2 53 * unitsPerOne := Nat.mul_pos (Nat.pow_pos (by decide)) Numeral.unitsPerOne_pos
  have hLimit : exactIntegerLimit = .finite false (Nat.pow 2 53 * unitsPerOne) fits := by
    rw [exactIntegerLimit, ofNat, ofRatio, roundUnits, nearestUnits_of_representable fits, ofUnits,
      dif_pos fits]
  have hLess {units : Nat} (fits : Representable units) (hPos : 0 < units) :
      (signedZero false).less (.finite false units fits) = true :=
    decide_eq_true (Int.natCast_pos.mpr hPos)
  rw [hLimit]
  exact hLess fits hPos

/-- A whole number is the number of its integer. -/
theorem ofInt_signedUnits {negative : Bool} {units : Nat} (fits : Representable units)
    (hSome : units ≠ 0) (hWhole : units % unitsPerOne = 0) :
    ofInt (signedUnits negative (units / unitsPerOne)) = .finite negative units fits := by
  have hUnits : units / unitsPerOne * unitsPerOne = units :=
    Nat.div_mul_cancel (Nat.dvd_of_mod_eq_zero hWhole)
  have hPos : units / unitsPerOne ≠ 0 := fun hZero => hSome (by rw [← hUnits, hZero, Nat.zero_mul])
  have hSize : (signedUnits negative (units / unitsPerOne)).natAbs = units / unitsPerOne := by
    cases negative
    · exact Int.natAbs_natCast _
    · exact Int.natAbs_neg _
  have hSign : decide (signedUnits negative (units / unitsPerOne) < 0) = negative := by
    cases negative
    · exact decide_eq_false (Int.not_lt.mpr (Int.natCast_nonneg _))
    · exact decide_eq_true (Int.neg_neg_of_pos (Int.natCast_pos.mpr (Nat.pos_of_ne_zero hPos)))
  rw [ofInt, hSize, hSign, ofRatio, hUnits, roundUnits, nearestUnits_of_representable fits, ofUnits,
    dif_pos fits]

theorem ofInt_zero : ofInt 0 = signedZero false := by
  rw [ofInt, ofRatio, roundUnits, Int.natAbs_zero, Nat.zero_mul,
    nearestUnits_of_representable representable_zero, ofUnits, dif_pos representable_zero]
  rfl

/-- A finite number comes back without the sign of zero. -/
theorem ofJson_numberJson {n : Number} (hFinite : n.isFinite = true) :
    ofJson (numberJson n) = number n.dropZeroSign := by
  cases n with
  | nan => cases hFinite
  | infinity negative => cases hFinite
  | finite negative units fits =>
      by_cases hSome : units = 0
      · subst hSome
        have hExact : ((Number.finite negative 0 fits).isWhole &&
            (Number.finite negative 0 fits).abs.less exactIntegerLimit) = true := by
          rw [Bool.and_eq_true, isWhole, Nat.zero_mod]
          exact ⟨rfl, zero_less_exactIntegerLimit⟩
        have hZero : signedUnits negative (0 / unitsPerOne) = 0 := by
          rw [Nat.zero_div]
          cases negative <;> rfl
        rw [numberJson, if_pos hExact, toInt?, hZero, ofJson, ofInt_zero]
        rfl
      · have hSame : (Number.finite negative units fits).dropZeroSign = .finite negative units fits :=
          if_neg (by simp [isZero, hSome])
        rw [hSame, numberJson]
        split
        · next hExact =>
            rw [Bool.and_eq_true, isWhole, beq_iff_eq] at hExact
            exact congrArg number (ofInt_signedUnits fits hSome hExact.1)
        · rfl

end Numbers

/-- The values that documents stand for. -/
inductive Exchanged : Value → Prop
  | null : Exchanged null
  | boolean (b : Bool) : Exchanged (boolean b)
  | number {n : Number} (hFinite : n.isFinite = true) : Exchanged (number n)
  | text (s : String) : Exchanged (ofText s)
  | array {items : List Value} (hItems : ∀ item ∈ items, Exchanged item) : Exchanged (array items)
  | object {fields : List (String × Value)} (hNames : (fields.map Prod.fst).Pairwise (· < ·))
      (hFields : ∀ field ∈ fields, Exchanged field.2) : Exchanged (object fields)

/-- Every document within bounds stands for a value of those that can be exchanged. The induction is over
the document. -/
theorem exchanged_ofJson {j : Json} (hBounds : j.InBounds) : Exchanged (ofJson j) := by
  induction hBounds with
  | null => exact .null
  | bool b => exact .boolean b
  | integer hLow hHigh =>
      rw [ofJson]
      exact .number (Number.isFinite_ofInt (by omega))
  | float hFinite =>
      rw [ofJson]
      exact .number hFinite
  | string s =>
      rw [ofJson]
      exact .text s
  | array hItems ih =>
      rw [ofJson, itemsOfJson_eq_map]
      exact .array (List.forall_mem_map.mpr ih)
  | @object members hMembers ih =>
      rw [ofJson]
      refine .object (names_fieldsOfJson members) ?_
      clear hMembers
      induction members with
      | nil => nofun
      | cons member rest ihRest =>
          rw [List.forall_mem_cons] at ih
          intro field hMem
          rw [fieldsOfJson] at hMem
          rcases mem_of_mem_placeField hMem with rfl | hRest
          · exact ih.1
          · exact ihRest ih.2 field hRest

/-- The items of an array come back one by one. -/
theorem ofJson_toJson_array (items : List Value) :
    ofJson (toJson (array items)) = array (items.map fun item => ofJson (toJson item)) := by
  rw [toJson, ofJson, itemsToJson_eq_map, itemsOfJson_eq_map, List.map_map]
  rfl

/-- The fields of an object come back one by one, in ascending order of their names. -/
theorem ofJson_toJson_object {fields : List (String × Value)}
    (hNames : (fields.map Prod.fst).Pairwise (· < ·)) :
    ofJson (toJson (object fields)) =
      object (fields.map (Prod.map id fun v => ofJson (toJson v))) := by
  have hMembers : ((fieldsToJson fields).map Prod.fst).Pairwise (· < ·) := by
    rwa [fieldsToJson_eq_map, List.map_map]
  rw [toJson, Json.ofMembers, Json.sorted_of_ascending hMembers, ofJson,
    fieldsOfJson_of_ascending hMembers, fieldsToJson_eq_map, List.map_map]
  rfl

/-- What is read, written and read again is the same exactly if no link in it looks like a block. -/
theorem Exchanged.ofJson_toJson_iff {v : Value} (h : v.Exchanged) :
    ofJson (toJson v) = v.dropZeroSigns ↔ ∀ l ∈ v.links, ¬ l.LooksLikeBlock := by
  induction h with
  | null => exact iff_of_true rfl nofun
  | boolean b => exact iff_of_true rfl nofun
  | number hFinite =>
      rw [toJson, ofJson_numberJson hFinite]
      exact iff_of_true rfl nofun
  | text s => rw [dropZeroSigns_ofText, ofJson_toJson_ofText]
  | @array items hItems ih =>
      rw [ofJson_toJson_array, dropZeroSigns, dropZeroSignsOfItems_eq_map, array.injEq,
        List.map_inj_left, links, forall_mem_linksOfItems]
      exact forall₂_congr ih
  | @object fields hNames hFields ih =>
      rw [ofJson_toJson_object hNames, dropZeroSigns, dropZeroSignsOfFields_eq_map, object.injEq,
        List.map_inj_left, links, forall_mem_linksOfFields]
      refine forall₂_congr fun field hMem => Iff.trans ?_ (ih field hMem)
      exact Prod.ext_iff.trans (and_iff_right rfl)

/-- A document comes back from the value that it stands for, with every link and every date as they
were, exactly if no header in it looks like a block. -/
theorem ofJson_toJson_ofJson_iff {j : Json} (hBounds : j.InBounds) :
    ofJson (toJson (ofJson j)) = (ofJson j).dropZeroSigns ↔
      ∀ l ∈ (ofJson j).links, ¬ l.LooksLikeBlock :=
  (exchanged_ofJson hBounds).ofJson_toJson_iff

/-- A document with a date, an embedded link, repeated members and a negative zero. -/
def specimen : Json :=
  .object [("up", .string "![[ Home # Tasks | to do ]]"), ("due", .string "2021-04-18T10:00:00.25+02"),
    ("count", .integer 3), ("rest", .array [.float (Number.signedZero true), .string "[[a#^b]]"]),
    ("count", .null)]

/-- The specimen comes back, but for the sign of its zero. -/
theorem ofJson_toJson_ofJson_specimen :
    specimen.InBounds ∧ ofJson (toJson (ofJson specimen)) = (ofJson specimen).dropZeroSigns := by
  have hBounds : specimen.InBounds := by
    refine .object ?_
    simp only [List.forall_mem_cons]
    exact ⟨.string _, .string _, .integer (by decide) (by decide),
      .array (by simp only [List.forall_mem_cons]; exact ⟨.float rfl, .string _, nofun⟩), .null, nofun⟩
  exact ⟨hBounds, (ofJson_toJson_ofJson_iff hBounds).mpr (by decide +kernel)⟩

/-- A blank before the mark of a block makes a header of it only the first time. -/
theorem not_ofJson_toJson_ofJson :
    ¬ ∀ j : Json, j.InBounds → ofJson (toJson (ofJson j)) = (ofJson j).dropZeroSigns := by
  intro h
  have hLinks := congrArg links (h (.string "[[a# ^b]]") (.string _))
  exact absurd hLinks (by decide +kernel)

/-- Whatever text a document was read from, its value comes back in the same cases: the reader makes nothing
that is out of bounds. -/
theorem ofJson_toJson_of_ofText? {text : String} {j : Json} (hRead : Json.ofText? text = some j) :
    ofJson (toJson (ofJson j)) = (ofJson j).dropZeroSigns ↔
      ∀ l ∈ (ofJson j).links, ¬ l.LooksLikeBlock :=
  (exchanged_ofJson (Json.inBounds_of_ofText? hRead)).ofJson_toJson_iff

end Value

end DocQuery
