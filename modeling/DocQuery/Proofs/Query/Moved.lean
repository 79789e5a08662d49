import DocQuery.Proofs.Expr.Progress
import DocQuery.Proofs.Query.Setting

/-!
The readers of sources, fields, headers and clauses in two settings. Each of them follows from its parts:
what is read alone is read where a clause follows, with the same value and the same tokens left.
-/

namespace DocQuery

open Lexeme

namespace Setting

variable {alone joined : Setting} {α β : Type} {n m k l : Nat} {Leaves Leaves' : List Lexeme → Prop}

/-- What is answered alone is answered in the second setting too, and the tokens of the stretch that are
left satisfy a condition. -/
def Follows (alone joined : Setting) (Leaves : List Lexeme → Prop) (first : Except FaultAt (Parsed α n))
    (second : Except FaultAt (Parsed α m)) : Prop :=
  ∀ p, first = .ok p → ∃ left, p.rest = alone.place left ∧ Leaves left ∧
    ∃ within, second = .ok ⟨p.value, joined.place left, within⟩

theorem Follows.fault (f : FaultAt) (second : Except FaultAt (Parsed α m)) :
    Follows alone joined Leaves (.error f : Except FaultAt (Parsed α n)) second := nofun

/-- Readers that leave the same tokens behind the same value follow each other. -/
theorem Follows.stay {v : α} {left : List Lexeme} (hLeaves : Leaves left)
    (within : (alone.place left).length < n) (within' : (joined.place left).length < m) :
    Follows alone joined Leaves (.ok ⟨v, alone.place left, within⟩)
      (.ok ⟨v, joined.place left, within'⟩) := by
  rintro _ ⟨⟩
  exact ⟨left, rfl, hLeaves, within', rfl⟩

/-- Readers that follow each other can be put one after the other. -/
theorem Follows.bind {first : Except FaultAt (Parsed α n)} {second : Except FaultAt (Parsed α m)}
    {f : Parsed α n → Except FaultAt (Parsed β k)} {g : Parsed α m → Except FaultAt (Parsed β l)}
    (h : Follows alone joined Leaves first second)
    (hNext : ∀ v left within within', Leaves left → Follows alone joined Leaves'
      (f ⟨v, alone.place left, within⟩) (g ⟨v, joined.place left, within'⟩)) :
    Follows alone joined Leaves' (first >>= f) (second >>= g) := by
  intro p hp
  obtain ⟨⟨v, rest, within⟩, hFirst, hp⟩ := bind_eq_ok_iff.mp hp
  obtain ⟨left, rfl, hLeaves, within', hSecond⟩ := h _ hFirst
  obtain ⟨last, hRest, hLast, withinLast, hLater⟩ := hNext v left within within' hLeaves p hp
  exact ⟨last, hRest, hLast, withinLast, bind_eq_ok_iff.mpr ⟨_, hSecond, hLater⟩⟩

/-- A reader that takes some tokens first and goes on as another one. -/
theorem Follows.map_widen {ts us : List Lexeme} {first : Except FaultAt (Parsed α n)}
    {second : Except FaultAt (Parsed α m)} (h : Follows alone joined (Uses us) first second)
    (hUses : Uses ts us) (f : α → β) (hk : n ≤ k) (hl : m ≤ l) :
    Follows alone joined (Uses ts) (first >>= fun p => pure ((p.map f).widen hk))
      (second >>= fun p => pure ((p.map f).widen hl)) := by
  refine h.bind fun _ _ _ _ hMore => ?_
  exact .stay (hUses.trans hMore) _ _

/-- A stretch that is read alone up to the end is read up to its end in the second setting. -/
theorem Follows.whole {us : List Lexeme} {first : Except FaultAt (Parsed α n)}
    {second : Except FaultAt (Parsed α m)} (h : Follows alone joined (Uses us) first second)
    (hNotFinish : ∀ u ∈ us, u.token ≠ .finish) {p : Parsed α n} (hFirst : first = .ok p)
    (hEnd : current p.rest = .finish) :
    Closed us ∧ ∃ within, second = .ok ⟨p.value, joined.tail, within⟩ := by
  obtain ⟨left, hRest, hUses, hSecond⟩ := h p hFirst
  cases left with
  | nil => exact ⟨hUses.closed, hSecond⟩
  | cons u left =>
      rw [hRest] at hEnd
      obtain ⟨used, rfl, -⟩ := hUses
      exact absurd hEnd (hNotFinish u (by simp))

theorem Meets.takeSymbol_follows (h : Meets alone joined) (s : Symbol) (us : List Lexeme) :
    Follows alone joined (fun left => ∃ u, us = u :: left ∧ u.token = .symbol s)
      (takeSymbol s (alone.place us)) (takeSymbol s (joined.place us)) := by
  rintro ⟨⟨⟩, rest, within⟩ hTake
  obtain ⟨t, hPlace, hToken⟩ := Expr.takeSymbol_eq_ok_iff.mp hTake
  obtain ⟨u, left, rfl, hSymbol, rfl⟩ :=
    exists_of_symbol hPlace.symm (h.tail_le hPlace.symm (by simp [hToken])) hToken
  exact ⟨left, rfl, ⟨u, rfl, hSymbol⟩, length_lt_cons _ _, Expr.takeSymbol_eq_ok_iff.mpr ⟨_, rfl, hSymbol⟩⟩

/-- An expression is read alike in both settings, and closes the parentheses that it opens. -/
theorem Meets.expr_follows (h : Meets alone joined) (us : List Lexeme) :
    Follows alone joined (Uses us) (Expr.read (alone.place us)) (Expr.read (joined.place us)) := by
  intro p hp
  obtain ⟨others, hOthers, -⟩ := ((Expr.read_advances _).takes hp).exists_of_finish h.ends
  have hWithin : alone.tail.length ≤ p.rest.length := by
    rw [hOthers, List.length_append]
    exact Nat.le_add_left ..
  obtain ⟨left, hRest, hUses, hReads⟩ := (Expr.reads_of_readLevel hp).moved h.parts rfl hWithin
  exact ⟨left, hRest, hUses, hReads.answers⟩

end Setting

namespace Source

open Setting

variable {alone joined : Setting}

/-- A link is taken when the next token is one. -/
theorem takeLink_eq_ok_iff {what : String} {ts rest : List Lexeme} {link : Link}
    {within : rest.length < ts.length} :
    takeLink what ts = .ok ⟨link, rest, within⟩ ↔ ∃ t, ts = t :: rest ∧ t.token = .link link := by
  cases ts with
  | nil => cases within
  | cons t more =>
      obtain ⟨token, start, stop⟩ := t
      cases token <;> simp [takeLink, and_assoc, and_comm]

theorem takeLink_follows (h : Meets alone joined) (what : String) (us : List Lexeme) :
    Follows alone joined (Uses us) (takeLink what (alone.place us))
      (takeLink what (joined.place us)) := by
  rintro ⟨link, rest, within⟩ hTake
  obtain ⟨t, hPlace, hToken⟩ := takeLink_eq_ok_iff.mp hTake
  obtain ⟨u, left, rfl, hSame, rfl⟩ :=
    exists_of_cons_eq hPlace.symm (h.tail_le hPlace.symm (by simp [hToken]))
  have hLink := hSame.trans hToken
  exact ⟨left, rfl, (Uses.refl left).cons (by simp [hLink]), length_lt_cons _ _,
    takeLink_eq_ok_iff.mpr ⟨_, rfl, hLink⟩⟩

/-- The target of a direction is read alike in both settings. -/
theorem readTarget_follows (h : Meets alone joined) (us : List Lexeme) :
    Follows alone joined (Uses us) (readTarget (alone.place us)) (readTarget (joined.place us)) := by
  refine (h.takeSymbol_follows .openParen us).bind fun _ _ _ _ ⟨u, hUs, _⟩ => ?_
  refine (takeLink_follows h _ _).bind fun _ _ _ _ hUses => ?_
  refine (h.takeSymbol_follows .closeParen _).bind fun _ left _ _ ⟨w, hLeft, hClose⟩ => ?_
  exact .stay (hUs ▸ (hLeft ▸ hUses).parens hClose) _ _

theorem readChain_stop {v : Source} {ts : List Lexeme} (hStop : join? (current ts) = none) :
    readChain v ts = .ok ⟨v, ts, Nat.lt_succ_self _⟩ := by
  cases ts with
  | nil => rw [readChain]
  | cons t more =>
      have hToken : join? t.token = none := hStop
      rw [readChain, hToken]

theorem read_tag {text : String} {start stop : Nat} {ts : List Lexeme}
    (hStop : join? (current ts) = none) :
    read (⟨.tag text, start, stop⟩ :: ts) = .ok ⟨tag text, ts, Nat.lt_succ_self _⟩ := by
  rw [read, readAtom]
  exact bind_eq_ok_iff.mpr ⟨⟨tag text, ts, length_lt_cons _ _⟩, rfl,
    bind_eq_ok_iff.mpr ⟨_, readChain_stop hStop, rfl⟩⟩

theorem readAtom_finish {ts : List Lexeme} (hFinish : current ts = .finish) :
    ∃ f, readAtom ts = .error f := by
  cases ts with
  | nil => exact ⟨_, by rw [readAtom]⟩
  | cons t more =>
      have hToken : t.token = .finish := hFinish
      exact ⟨_, by rw [readAtom, hToken]⟩

mutual

/-- A source is read alike in both settings. -/
theorem read_follows (h : Meets alone joined) (us : List Lexeme) :
    Follows alone joined (Uses us) (read (alone.place us)) (read (joined.place us)) := by
  rw [read, read]
  refine (readAtom_follows h us).bind fun v left within _ hUses => ?_
  have := length_lt_of_place within
  refine (readChain_follows h v left).bind fun _ _ _ _ hMore => ?_
  exact .stay (hUses.trans hMore) _ _
termination_by (us.length, 1)

/-- The rest of a chain of sources is read alike in both settings. The induction is on the tokens. -/
theorem readChain_follows (h : Meets alone joined) (v : Source) (us : List Lexeme) :
    Follows alone joined (Uses us) (readChain v (alone.place us)) (readChain v (joined.place us)) := by
  by_cases hStop : join? (current (alone.place us)) = none
  · have hJoined := h.current_place (P := (join? · = none)) (fun _ _ => rfl) hStop
    rw [readChain_stop hStop, readChain_stop hJoined]
    exact .stay (.refl us) _ _
  · match us with
    | [] => exact absurd (congrArg join? h.ends) hStop
    | ⟨token, start, stop⟩ :: us =>
        obtain ⟨join, hJoin⟩ := Option.ne_none_iff_exists'.mp hStop
        have hToken : join? token = some join := hJoin
        rw [place_cons, place_cons, readChain, readChain]
        simp only [hToken]
        refine (readAtom_follows h us).bind fun right left within _ hUses => ?_
        have : left.length < us.length + 1 := Nat.lt_succ_of_lt (length_lt_of_place within)
        refine (readChain_follows h (join v right) left).bind fun _ _ _ _ hMore => ?_
        refine .stay (Uses.cons (fun hOpen => ?_) (hUses.trans hMore)) _ _
        cases (hOpen ▸ hToken : join? (.symbol .openParen) = some join)
termination_by (us.length, 0)

/-- A single source is read alike in both settings. -/
theorem readAtom_follows (h : Meets alone joined) (us : List Lexeme) :
    Follows alone joined (Uses us) (readAtom (alone.place us)) (readAtom (joined.place us)) := by
  match us with
  | [] =>
      obtain ⟨f, hFault⟩ := readAtom_finish h.ends
      exact hFault ▸ .fault f _
  | ⟨token, start, stop⟩ :: us =>
      rw [place_cons, place_cons, readAtom, readAtom]
      cases token with
      | tag text => exact .stay (.single (by nofun) start stop us) _ _
      | string path => exact .stay (.single (by nofun) start stop us) _ _
      | link target => exact .stay (.single (by nofun) start stop us) _ _
      | identifier word =>
          dsimp only
          split
          · exact (readTarget_follows h us).map_widen (Uses.single (by nofun) start stop us) _ _ _
          · exact .fault _ _
      | symbol s =>
          cases s with
          | minus =>
              exact (readAtom_follows h us).map_widen (Uses.single (by nofun) start stop us) _ _ _
          | bang =>
              exact (readAtom_follows h us).map_widen (Uses.single (by nofun) start stop us) _ _ _
          | openParen =>
              refine (read_follows h us).bind fun _ left _ _ hUses => ?_
              refine (h.takeSymbol_follows .closeParen left).bind fun _ last _ _ ⟨w, hLeft, hClose⟩ => ?_
              exact .stay ((hLeft ▸ hUses).parens hClose) _ _
          | _ => exact .fault _ _
      | _ => exact .fault _ _
termination_by (us.length, 0)

end

/-! No source that can be written selects everything. -/

mutual

/-- No source that is read selects everything. -/
theorem read_ne_everything {ts : List Lexeme} {p : Parsed Source ts.length} (h : read ts = .ok p) :
    p.value ≠ .everything := by
  rw [read] at h
  obtain ⟨⟨left, middle, hMiddle⟩, hLeft, h⟩ := bind_eq_ok_iff.mp h
  obtain ⟨chain, hChain, h⟩ := bind_eq_ok_iff.mp h
  cases h
  exact readChain_ne_everything (readAtom_ne_everything hLeft) hChain
termination_by (ts.length, 1)

theorem readChain_ne_everything {left : Source} (hLeft : left ≠ .everything) {ts : List Lexeme}
    {p : Parsed Source (ts.length + 1)} (h : readChain left ts = .ok p) : p.value ≠ .everything := by
  match ts, p, h with
  | [], p, h =>
      rw [readChain] at h
      cases h
      exact hLeft
  | t :: more, p, h =>
      rw [readChain] at h
      split at h
      · cases h
        exact hLeft
      · next join hJoin =>
          obtain ⟨⟨right, middle, hMiddle⟩, -, h⟩ := bind_eq_ok_iff.mp h
          obtain ⟨chain, hChain, h⟩ := bind_eq_ok_iff.mp h
          cases h
          have hJoined : join left right ≠ .everything := by
            rw [join?.eq_def] at hJoin
            split at hJoin <;> cases hJoin <;> nofun
          have hLater := readChain_ne_everything hJoined hChain
          exact hLater
termination_by (ts.length, 0)

theorem readAtom_ne_everything {ts : List Lexeme} {p : Parsed Source ts.length}
    (h : readAtom ts = .ok p) : p.value ≠ .everything := by
  match ts, p, h with
  | [], p, h =>
      rw [readAtom] at h
      cases h
  | t :: more, p, h =>
      rw [readAtom] at h
      split at h
      · cases h
        nofun
      · cases h
        nofun
      · cases h
        nofun
      · split at h
        · obtain ⟨target, -, h⟩ := bind_eq_ok_iff.mp h
          cases h
          nofun
        · cases h
      · obtain ⟨source, -, h⟩ := bind_eq_ok_iff.mp h
        cases h
        nofun
      · obtain ⟨source, -, h⟩ := bind_eq_ok_iff.mp h
        cases h
        nofun
      · obtain ⟨source, hSource, h⟩ := bind_eq_ok_iff.mp h
        obtain ⟨close, -, h⟩ := bind_eq_ok_iff.mp h
        cases h
        have hInside := read_ne_everything hSource
        exact hInside
      · cases h
termination_by (ts.length, 0)

end

end Source

/-! Fields. -/

/-- What is left in place is no longer than what was there. -/
theorem Setting.length_place_lt {us left : List Lexeme} (h : Uses us left) (s : Setting) :
    (s.place left).length < (s.place us).length + 1 := by
  obtain ⟨used, rfl, -⟩ := h
  simp only [place, List.map_append, List.length_append]
  omega

theorem Lexeme.Within.left {length : Nat} {us left : List Lexeme} (h : Within length us)
    (hUses : Uses us left) : Within length left := by
  obtain ⟨used, rfl, -⟩ := hUses
  exact fun u hMem => h u (List.mem_append_right _ hMem)

namespace NamedExpr

open Setting

variable {alone joined : Setting} {middle : List Char}

/-- The text from the first to the last of some tokens, without blanks at its ends. -/
def spelling (text : List Char) (used : List Lexeme) : String :=
  String.ofList (Text.trim ((text.drop (currentStart used)).take
    ((used.getLast?.map Lexeme.stop).getD 0 - currentStart used)))

/-- The text of the used tokens is their spelling. -/
theorem sourceText_append (text : List Char) (used rest : List Lexeme) :
    sourceText text (used ++ rest) rest = spelling text used := by
  rw [sourceText, List.length_append, Nat.add_sub_cancel, List.take_left, spelling]
  cases used with
  | nil => simp
  | cons u used => rfl

/-- The text between two places of a stretch is the same wherever the stretch stands. -/
theorem sourceText_place (s : Setting) {used left : List Lexeme} (hWithin : Within middle.length used) :
    sourceText (s.text middle) (s.place (used ++ left)) (s.place left) = spelling middle used := by
  have hPlace : s.place (used ++ left) = used.map (shift s.before.length) ++ s.place left := by
    rw [place, place, List.map_append, List.append_assoc]
  rw [hPlace, sourceText_append, spelling, spelling]
  congr 2
  cases used with
  | nil => simp
  | cons u used =>
      obtain ⟨last, hLast⟩ := Option.isSome_iff_exists.mp
        (List.getLast?_isSome.mpr (List.cons_ne_nil u used))
      have hStop : last.stop ≤ middle.length := hWithin last (List.mem_of_getLast? hLast)
      have hDrop : (s.text middle).drop (s.before.length + u.start) = (middle ++ s.behind).drop u.start :=
        List.drop_length_add_append _
      rw [List.getLast?_map, hLast]
      show ((s.text middle).drop (s.before.length + u.start)).take
        (s.before.length + last.stop - (s.before.length + u.start)) = (middle.drop u.start).take
          (last.stop - u.start)
      rw [hDrop, Nat.add_sub_add_left, ← List.drop_take, ← List.drop_take,
        List.take_append_of_le_length hStop]

/-- The text behind an expression is the same in both settings. -/
theorem sourceText_moved {us left : List Lexeme} (hUses : Uses us left) (hWithin : Within middle.length us)
    (s s' : Setting) : sourceText (s.text middle) (s.place us) (s.place left) =
      sourceText (s'.text middle) (s'.place us) (s'.place left) := by
  obtain ⟨used, rfl, -⟩ := hUses
  have hUsed : Within middle.length used := fun u hMem => hWithin u (List.mem_append_left _ hMem)
  rw [sourceText_place s hUsed, sourceText_place s' hUsed]

theorem takeLabel_follows (h : Meets alone joined) (what : String) (us : List Lexeme) :
    Follows alone joined (Uses us) (takeLabel what (alone.place us))
      (takeLabel what (joined.place us)) := by
  rintro ⟨key, rest, within⟩ hTake
  obtain ⟨t, hPlace, hLabel⟩ := Expr.takeLabel_eq_ok_iff.mp hTake
  have hNotFinish : t.token ≠ .finish := fun hFinish => by
    rw [hFinish] at hLabel
    cases hLabel
  obtain ⟨u, left, rfl, hKey, hToken, rfl⟩ :=
    exists_of_some hPlace.symm (h.tail_le hPlace.symm hNotFinish) hLabel rfl
  exact ⟨left, rfl, (Uses.refl left).cons hToken, length_lt_cons _ _,
    Expr.takeLabel_eq_ok_iff.mpr ⟨_, rfl, hKey⟩⟩

/-- An expression with its name is read alike in both settings. -/
theorem read_follows (h : Meets alone joined) {us : List Lexeme} (hWithin : Within middle.length us) :
    Follows alone joined (Uses us) (read (alone.text middle) (alone.place us))
      (read (joined.text middle) (joined.place us)) := by
  rw [read, read]
  refine (h.expr_follows us).bind fun e left _ _ hUses => ?_
  dsimp only
  rw [h.isWord_place (by decide)]
  split
  · next hAs =>
      obtain ⟨u, left, rfl, hToken⟩ := h.exists_of_isWord hAs
      refine (takeLabel_follows h "a name after AS" left).bind fun _ _ _ _ hMore => ?_
      exact .stay (hUses.trans (hMore.cons hToken)) _ _
  · rw [sourceText_moved hUses hWithin alone joined]
    exact .stay hUses _ _

theorem readMore_stop {text : List Char} {ts : List Lexeme} (hStop : current ts ≠ .symbol .comma) :
    readMore text ts = .ok ⟨[], ts, Nat.lt_succ_self _⟩ := by
  cases ts with
  | nil => rw [readMore]
  | cons t more =>
      rw [readMore]
      exact if_neg hStop

/-- Further expressions with names are read alike in both settings. -/
theorem readMore_follows (h : Meets alone joined) {us : List Lexeme} (hWithin : Within middle.length us) :
    Follows alone joined (Uses us) (readMore (alone.text middle) (alone.place us))
      (readMore (joined.text middle) (joined.place us)) := by
  by_cases hComma : current (alone.place us) = .symbol .comma
  · match us with
    | [] => exact absurd (h.ends.symm.trans hComma) nofun
    | u :: us =>
        have hToken (distance : Nat) : (shift distance u).token = .symbol .comma := hComma
        have hMore : Within middle.length us := fun w hMem => hWithin w (List.mem_cons_of_mem u hMem)
        show Follows alone joined _ (readMore _ (shift _ u :: alone.place us))
          (readMore _ (shift _ u :: joined.place us))
        rw [readMore, readMore, if_pos (hToken _), if_pos (hToken _)]
        refine (read_follows h hMore).bind fun _ left within _ hUses => ?_
        have : left.length < us.length + 1 := Nat.lt_succ_of_lt (length_lt_of_place within)
        refine (readMore_follows h (hMore.left hUses)).bind fun _ _ _ _ hOthers => ?_
        exact .stay ((hUses.trans hOthers).symbol (u := u) (hToken 0) nofun) _ _
  · have hJoined := h.current_place (P := (· ≠ .symbol .comma)) nofun hComma
    rw [readMore_stop hComma, readMore_stop hJoined]
    exact .stay (.refl us) _ _
termination_by us.length

end NamedExpr

namespace SortField

open Setting

variable {alone joined : Setting}

/-- A direction is read alike in both settings, if there is one. -/
theorem readDirection_follows (h : Meets alone joined) (us : List Lexeme) :
    Follows alone joined (Uses us) (.ok (readDirection (alone.place us)))
      (.ok (readDirection (joined.place us))) := by
  have hTaken {word : String} (hWord : isWord word (alone.place us) = true) (v : SortDirection)
      (within : ((alone.place us).drop 1).length < (alone.place us).length + 1)
      (within' : ((joined.place us).drop 1).length < (joined.place us).length + 1) :
      Follows alone joined (Uses us) (.ok ⟨v, (alone.place us).drop 1, within⟩)
        (.ok ⟨v, (joined.place us).drop 1, within'⟩) := by
    obtain ⟨u, left, rfl, hToken⟩ := h.exists_of_isWord hWord
    exact .stay ((Uses.refl left).cons hToken) within within'
  rw [readDirection, readDirection, h.isWord_place (by decide), h.isWord_place (by decide),
    h.isWord_place (by decide), h.isWord_place (by decide)]
  split
  · next hWord => exact (Bool.or_eq_true_iff.mp hWord).elim (hTaken · _ _ _) (hTaken · _ _ _)
  · split
    · next hWord => exact (Bool.or_eq_true_iff.mp hWord).elim (hTaken · _ _ _) (hTaken · _ _ _)
    · exact .stay (.refl us) _ _

theorem readOne_follows (h : Meets alone joined) (us : List Lexeme) :
    Follows alone joined (Uses us) (readOne (alone.place us)) (readOne (joined.place us)) := by
  refine (h.expr_follows us).bind fun e left _ within hUses => ?_
  obtain ⟨last, hRest, hMore, hLast, hSecond⟩ := readDirection_follows h left _ rfl
  rintro _ ⟨⟩
  refine ⟨last, hRest, hUses.trans hMore, Nat.lt_of_le_of_lt (Nat.le_of_lt_succ hLast) within, ?_⟩
  simp only [Except.ok.inj hSecond]
  rfl

theorem readMore_stop {ts : List Lexeme} (hStop : current ts ≠ .symbol .comma) :
    readMore ts = .ok ⟨[], ts, Nat.lt_succ_self _⟩ := by
  cases ts with
  | nil => rw [readMore]
  | cons t more =>
      rw [readMore]
      exact if_neg hStop

/-- Further sort fields are read alike in both settings. -/
theorem readMore_follows (h : Meets alone joined) (us : List Lexeme) :
    Follows alone joined (Uses us) (readMore (alone.place us)) (readMore (joined.place us)) := by
  by_cases hComma : current (alone.place us) = .symbol .comma
  · match us with
    | [] => exact absurd (h.ends.symm.trans hComma) nofun
    | u :: us =>
        have hToken (distance : Nat) : (shift distance u).token = .symbol .comma := hComma
        show Follows alone joined _ (readMore (shift _ u :: alone.place us))
          (readMore (shift _ u :: joined.place us))
        rw [readMore, readMore, if_pos (hToken _), if_pos (hToken _)]
        refine (readOne_follows h us).bind fun _ left within _ hUses => ?_
        have : left.length < us.length + 1 := Nat.lt_succ_of_lt (length_lt_of_place within)
        refine (readMore_follows h left).bind fun _ _ _ _ hOthers => ?_
        exact .stay ((hUses.trans hOthers).symbol (u := u) (hToken 0) nofun) _ _
  · have hJoined := h.current_place (P := (· ≠ .symbol .comma)) nofun hComma
    rw [readMore_stop hComma, readMore_stop hJoined]
    exact .stay (.refl us) _ _
termination_by us.length

/-- Sort fields are read alike in both settings. -/
theorem read_follows (h : Meets alone joined) (us : List Lexeme) :
    Follows alone joined (Uses us) (read (alone.place us)) (read (joined.place us)) := by
  refine (readOne_follows h us).bind fun _ left _ _ hUses => ?_
  refine (readMore_follows h left).bind fun _ _ _ _ hOthers => ?_
  exact .stay (hUses.trans hOthers) _ _

end SortField

/-! Headers and clauses. -/

namespace Header

open Setting

variable {alone joined : Setting} {middle : List Char} {us : List Lexeme}

/-- The words `WITHOUT ID` are taken alike in both settings. -/
theorem takeWithoutId_follows (h : Meets alone joined) (us : List Lexeme) :
    Follows alone joined (Uses us) (.ok (takeWithoutId (alone.place us)))
      (.ok (takeWithoutId (joined.place us))) := by
  have hSame : (isWord "WITHOUT" (joined.place us) && isWord "ID" ((joined.place us).drop 1)) =
      (isWord "WITHOUT" (alone.place us) && isWord "ID" ((alone.place us).drop 1)) := by
    rw [h.isWord_place (by decide)]
    by_cases hWithout : isWord "WITHOUT" (alone.place us) = true
    · obtain ⟨u, left, rfl, -⟩ := h.exists_of_isWord hWithout
      exact congrArg (isWord "WITHOUT" (alone.place (u :: left)) && ·) (h.isWord_place (by decide) left)
    · rw [Bool.not_eq_true] at hWithout
      rw [hWithout, Bool.false_and, Bool.false_and]
  by_cases hTaken : (isWord "WITHOUT" (alone.place us) && isWord "ID" ((alone.place us).drop 1)) = true
  · obtain ⟨hWithout, hId⟩ := Bool.and_eq_true_iff.mp hTaken
    obtain ⟨u, us, rfl, hFirst⟩ := h.exists_of_isWord hWithout
    obtain ⟨w, left, rfl, hSecond⟩ := h.exists_of_isWord hId
    have hUses := ((Uses.refl left).cons hSecond).cons hFirst
    rw [takeWithoutId, takeWithoutId, if_pos hTaken, if_pos (hSame.trans hTaken)]
    exact .stay hUses (length_place_lt hUses alone) (length_place_lt hUses joined)
  · rw [takeWithoutId, takeWithoutId, if_neg hTaken, if_neg (by rwa [hSame])]
    exact .stay (.refl us) _ _

/-- Columns are read alike in both settings. -/
theorem readColumns_follows (h : Meets alone joined) (hWithin : Within middle.length us) :
    Follows alone joined (Uses us) (readColumns (alone.text middle) (alone.place us))
      (readColumns (joined.text middle) (joined.place us)) := by
  rw [readColumns, readColumns, h.atBoundary_place]
  split
  · exact .stay (.refl us) _ _
  · refine (NamedExpr.read_follows h hWithin).bind fun _ left _ _ hUses => ?_
    refine (NamedExpr.readMore_follows h (hWithin.left hUses)).bind fun _ _ _ _ hOthers => ?_
    exact .stay (hUses.trans hOthers) _ _

theorem readFormat_follows (h : Meets alone joined) (us : List Lexeme) :
    Follows alone joined (Uses us) (readFormat (alone.place us)) (readFormat (joined.place us)) := by
  rw [readFormat, readFormat, h.atBoundary_place]
  split
  · exact .stay (.refl us) _ _
  · exact (h.expr_follows us).map_widen (.refl us) _ _ _

theorem read_finish {text : List Char} {ts : List Lexeme} (hFinish : current ts = .finish) :
    read text ts = .error (missingShape ts) := by
  cases ts with
  | nil => rfl
  | cons t more =>
      have hToken : t.token = .finish := hFinish
      rw [read, hToken]

/-- A header is read alike in both settings. -/
theorem read_follows (h : Meets alone joined) (hWithin : Within middle.length us) :
    Follows alone joined (Uses us) (read (alone.text middle) (alone.place us))
      (read (joined.text middle) (joined.place us)) := by
  match us with
  | [] =>
      have hFault : read (alone.text middle) (alone.place []) = _ := read_finish h.ends
      exact hFault ▸ .fault _ _
  | ⟨token, start, stop⟩ :: us =>
      have hMore : Within middle.length us := fun w hMem => hWithin w (List.mem_cons_of_mem _ hMem)
      rw [place_cons, place_cons, read, read]
      cases token with
      | identifier word =>
          have hFirst : Uses (⟨.identifier word, start, stop⟩ :: us) us := .single (by nofun) start stop us
          dsimp only
          split
          · refine (takeWithoutId_follows h us).bind
              (f := fun showId => do
                let columns ← readColumns (alone.text middle) showId.rest
                return (columns.map (table · showId.value)).widen showId.within)
              (g := fun showId => do
                let columns ← readColumns (joined.text middle) showId.rest
                return (columns.map (table · showId.value)).widen showId.within)
              fun _ _ _ _ hUses => ?_
            exact (readColumns_follows h (hMore.left hUses)).map_widen (hFirst.trans hUses) _ _ _
          · refine (takeWithoutId_follows h us).bind
              (f := fun showId => do
                let format ← readFormat showId.rest
                return (format.map (list · showId.value)).widen showId.within)
              (g := fun showId => do
                let format ← readFormat showId.rest
                return (format.map (list · showId.value)).widen showId.within)
              fun _ left _ _ hUses => ?_
            exact (readFormat_follows h left).map_widen (hFirst.trans hUses) _ _ _
          · exact .stay hFirst _ _
          · exact (NamedExpr.read_follows h hMore).map_widen hFirst _ _ _
          · exact .fault _ _
      | _ => exact .fault _ _

end Header

namespace Clause

open Setting

variable {alone joined : Setting} {middle : List Char} {us : List Lexeme}

theorem takeBy_eq_ok_iff {ts rest : List Lexeme} {u : Unit} {within : rest.length < ts.length} :
    takeBy ts = .ok ⟨u, rest, within⟩ ↔ ∃ t, ts = t :: rest ∧ isWord "BY" (t :: rest) = true := by
  cases ts with
  | nil => cases within
  | cons t more =>
      by_cases hWord : isWord "BY" (t :: more) = true
      · simp only [takeBy, if_pos hWord, Except.ok.injEq, Parsed.mk.injEq, true_and, List.cons.injEq]
        constructor
        · rintro rfl
          exact ⟨t, ⟨rfl, rfl⟩, hWord⟩
        · rintro ⟨_, ⟨-, hSame⟩, -⟩
          exact hSame
      · simp only [takeBy, if_neg hWord, List.cons.injEq, reduceCtorEq, false_iff]
        rintro ⟨_, ⟨rfl, rfl⟩, hTaken⟩
        exact hWord hTaken

theorem takeBy_follows (h : Meets alone joined) (us : List Lexeme) :
    Follows alone joined (Uses us) (takeBy (alone.place us)) (takeBy (joined.place us)) := by
  rintro ⟨⟨⟩, rest, within⟩ hTake
  obtain ⟨t, hPlace, hBy⟩ := takeBy_eq_ok_iff.mp hTake
  rw [hPlace.symm] at hBy
  obtain ⟨u, left, rfl, hToken⟩ := h.exists_of_isWord hBy
  have hRest : alone.place left = rest := (List.cons.inj hPlace).2
  refine ⟨left, hRest.symm, (Uses.refl left).cons hToken, length_lt_cons _ _, ?_⟩
  refine takeBy_eq_ok_iff.mpr ⟨_, rfl, ?_⟩
  exact (h.isWord_place (by decide) (u :: left)).trans hBy

theorem read_finish {text : List Char} {ts : List Lexeme} (hFinish : current ts = .finish) :
    read text ts = .error (missing ts "a query clause") := by
  cases ts with
  | nil => rfl
  | cons t more =>
      have hToken : t.token = .finish := hFinish
      rw [read, hToken]

/-- A clause is read alike in both settings. -/
theorem read_follows (h : Meets alone joined) (hWithin : Within middle.length us) :
    Follows alone joined (Uses us) (read (alone.text middle) (alone.place us))
      (read (joined.text middle) (joined.place us)) := by
  match us with
  | [] =>
      have hFault : read (alone.text middle) (alone.place []) = _ := read_finish h.ends
      exact hFault ▸ .fault _ _
  | ⟨token, start, stop⟩ :: us =>
      have hMore : Within middle.length us := fun w hMem => hWithin w (List.mem_cons_of_mem _ hMem)
      rw [place_cons, place_cons, read, read]
      cases token with
      | identifier word =>
          have hFirst : Uses (⟨.identifier word, start, stop⟩ :: us) us := .single (by nofun) start stop us
          dsimp only
          split
          · exact (Source.read_follows h us).map_widen hFirst _ _ _
          · exact (h.expr_follows us).map_widen hFirst _ _ _
          · exact (h.expr_follows us).map_widen hFirst _ _ _
          · exact (SortField.read_follows h us).map_widen hFirst _ _ _
          · exact (h.expr_follows us).map_widen hFirst _ _ _
          · exact (NamedExpr.read_follows h hMore).map_widen hFirst _ _ _
          · refine (takeBy_follows h us).bind fun _ left _ _ hUses => ?_
            exact (NamedExpr.read_follows h (hMore.left hUses)).map_widen (hFirst.trans hUses) _ _ _
          · exact .fault _ _
      | _ => exact .fault _ _

end Clause

end DocQuery
