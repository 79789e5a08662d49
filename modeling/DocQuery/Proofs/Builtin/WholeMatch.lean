import DocQuery.Proofs.Eval.Comparison
import DocQuery.Proofs.Pattern.Plain

/-!
Matching whole texts. The pattern's text, not its tree, is put between the ends of texts, so that a pattern may
close the group that is meant to hold it, or hide the end of that group in a comment. This is said of every
engine that does what is documented of engines.
-/

namespace DocQuery

open Builtin (anchored compilePattern)

def IsInvalidPattern (r : Outcome Value) : Prop := ∃ pattern reason, r = .error (.invalidPattern pattern reason)

namespace Context

variable (c : Context) (L : PatternLanguage)

/-- A pattern is refused for whole texts exactly when it is refused for parts of texts, that is when it is not
compiled by itself, and else it is found exactly when it matches from the first place of the text to the last. -/
structure MatchesWhole (pattern text : String) : Prop where
  sameRefusal : IsInvalidPattern (c.call "regexmatch" [.string pattern, .string text]) ↔
    IsInvalidPattern (c.call "regextest" [.string pattern, .string text])
  refusal : IsInvalidPattern (c.call "regextest" [.string pattern, .string text]) ↔
    ¬∃ p, c.patterns.compile pattern = .ok p
  whole : (∃ p, c.patterns.compile pattern = .ok p) →
    ∃ found, c.call "regexmatch" [.string pattern, .string text] = .ok (.boolean found) ∧
      (found = true ↔ L.Matches pattern text 0 text.length)

variable {c L}

theorem call_regextest (hTable : c.functions = Builtin.table) (pattern text : String) :
    c.call "regextest" [.string pattern, .string text] =
      (compilePattern c.toCallScope pattern >>= fun p => .ok (.boolean (p.occursIn text))) := by
  simp only [call, hTable]
  rfl

theorem call_regexmatch (hTable : c.functions = Builtin.table) (pattern text : String) :
    c.call "regexmatch" [.string pattern, .string text] =
      (compilePattern c.toCallScope (anchored pattern) >>= fun p => .ok (.boolean (p.occursIn text))) := by
  simp only [call, hTable]
  rfl

theorem isInvalidPattern_compilePattern_iff {scope : CallScope} {pattern : String}
    {f : CompiledPattern → Value} :
    IsInvalidPattern (compilePattern scope pattern >>= fun p => .ok (f p)) ↔
      ¬∃ p, scope.patterns.compile pattern = .ok p := by
  rw [compilePattern]
  cases scope.patterns.compile pattern with
  | error reason => exact iff_of_true ⟨pattern, reason, rfl⟩ fun ⟨_, h⟩ => nomatch h
  | ok p => exact iff_of_false (fun ⟨_, _, h⟩ => nomatch h) fun h => h ⟨p, rfl⟩

/-- A pattern that closes the group meant to hold it and opens another one is taken for one, and a pattern that
ends in a comment is not: the comment hides the end of its group. -/
theorem not_matchesWhole : bare.functions = Builtin.table ∧ ¬bare.MatchesWhole Pattern.language ")(" "" ∧
    ¬bare.MatchesWhole Pattern.language "(?x)a#" "a" := by
  refine ⟨rfl, fun hLaw => ?_, fun hLaw => ?_⟩
  · have hRefused : ¬∃ p, bare.patterns.compile ")(" = .ok p := by
      rintro ⟨p, hCompiled⟩
      cases hCompiled
    have hWrapped := hLaw.sameRefusal.mpr (hLaw.refusal.mpr hRefused)
    rw [call_regexmatch rfl, isInvalidPattern_compilePattern_iff] at hWrapped
    exact hWrapped ⟨_, rfl⟩
  · have hRefused : IsInvalidPattern (bare.call "regexmatch" [.string "(?x)a#", .string "a"]) :=
      ⟨anchored "(?x)a#", _, rfl⟩
    exact hLaw.refusal.mp (hLaw.sameRefusal.mp hRefused) ⟨_, rfl⟩

/-- The law of whole texts holds of exactly the patterns that can be put between the ends of texts. -/
theorem matchesWhole_iff_enclosable (hTable : c.functions = Builtin.table) (hLanguage : L.Documented)
    (hEngine : c.patterns.Implements L) (pattern text : String) :
    c.MatchesWhole L pattern text ↔ L.Enclosable pattern := by
  have hMatch : IsInvalidPattern (c.call "regexmatch" [.string pattern, .string text]) ↔
      ¬(L.IsPattern (anchored pattern) ∧ ¬L.IsTooLarge (anchored pattern)) := by
    rw [call_regexmatch hTable, isInvalidPattern_compilePattern_iff, hEngine.compile_iff]
  have hTest : IsInvalidPattern (c.call "regextest" [.string pattern, .string text]) ↔
      ¬(L.IsPattern pattern ∧ ¬L.IsTooLarge pattern) := by
    rw [call_regextest hTable, isInvalidPattern_compilePattern_iff, hEngine.compile_iff]
  constructor
  · rintro ⟨hSame, -, -⟩
    rwa [hMatch, hTest, not_iff_not, ← hLanguage.enclosable_iff] at hSame
  · intro hEnclosable
    refine ⟨?_, by rw [hTest, hEngine.compile_iff], fun hAlone => ?_⟩
    · rwa [hMatch, hTest, not_iff_not, ← hLanguage.enclosable_iff]
    · have hAccepted := (hEngine.compile_iff pattern).mp hAlone
      have hClosed := hEnclosable.closed hAccepted.1 hAccepted.2
      obtain ⟨p, hCompiled⟩ :=
        (hEngine.compile_iff _).mpr (hLanguage.enclosable_iff.mp hEnclosable |>.mpr hAccepted)
      refine ⟨p.occursIn text, ?_, ?_⟩
      · rw [call_regexmatch hTable, compilePattern, hCompiled]
        rfl
      · rw [hEngine.occursIn_iff text hCompiled, hLanguage.matches_anchored_iff hClosed]

def plain : Context := { bare with patterns := Pattern.Plain.engine }

/-- Alternatives stay within the group, so that the whole text must be one of them; what closes the group and
opens another one does not stay there. -/
theorem matchesWhole_iff_enclosable_plain : plain.functions = Builtin.table ∧
    Pattern.Plain.language.Documented ∧ plain.patterns.Implements Pattern.Plain.language ∧
    plain.MatchesWhole Pattern.Plain.language "a|b" "ab" ∧
    ¬plain.MatchesWhole Pattern.Plain.language "a)(?:b" "ab" := by
  have hTable : plain.functions = Builtin.table := rfl
  have hLanguage := Pattern.Plain.documented
  have hEngine : plain.patterns.Implements Pattern.Plain.language := Pattern.Plain.implements
  refine ⟨hTable, hLanguage, hEngine, ?_, ?_⟩
  · rw [matchesWhole_iff_enclosable hTable hLanguage hEngine "a|b" "ab"]
    have hPattern : Pattern.Plain.language.IsPattern "a|b" := rfl
    exact ⟨fun _ _ => Pattern.Plain.closed_iff.mpr hPattern, fun _ => Iff.rfl,
      fun hEscapes => absurd hPattern (hLanguage.not_isPattern_of_escapes hEscapes)⟩
  · rw [matchesWhole_iff_enclosable hTable hLanguage hEngine "a)(?:b" "ab"]
    intro hEnclosable
    have hFirst : Pattern.Plain.language.Closed "a" := Pattern.Plain.closed_iff.mpr rfl
    have hSecond : Pattern.Plain.language.Closed "b" := Pattern.Plain.closed_iff.mpr rfl
    exact hEnclosable.escape (hLanguage.escapes_of_closed hFirst hSecond (List.disjoint_nil_left _))

end Context

end DocQuery
