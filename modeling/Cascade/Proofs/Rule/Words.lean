import Mathlib.Data.List.TakeWhile
import Cascade.Proofs.Rule.Reading
import Cascade.Proofs.Rule.Scan
import Cascade.Proofs.Text.Classes

/-!
# Words that stop a scan

The hits of the cutters are words of the language.  `WordHit words` is the hit on a whole word out
of a list; the hits of the single cutters are of this kind (`ThenHit.wordHit`, `ActionHit.wordHit`,
`OperatorHit.wordHit`, and `quiet_conjunction` for the cut between conditions, which is a character
earlier).

A text without quotes and parentheses is quiet for a list of words when none of its maximal runs of
word characters is among them (`quiet_of_wordRuns`).
-/

namespace Cascade

/-- The maximal runs of word characters of a text; `inside` says that the character before the text
is one. -/
def wordRunsFrom (inside : Bool) : List Char → List (List Char)
  | [] => []
  | c :: rest =>
    if Text.isWord c then
      if inside then wordRunsFrom true rest
      else (c :: rest).takeWhile Text.isWord :: wordRunsFrom true rest
    else wordRunsFrom false rest

/-- The maximal runs of word characters of a text. -/
def wordRuns (text : List Char) : List (List Char) := wordRunsFrom false text

/-- The words of the language. -/
def languageWords : List (List Char) :=
  ["rule", "when", "then", "and", "set", "add", "remove", "with", "to", "from", "not", "is",
    "matches", "contains", "starts", "ends", "notifications", "suppressNotifications",
    "bypassRules"].map String.toList

/-- The words at which clauses are cut. -/
def clauseWords : List (List Char) := ["then", "and", "set", "add", "remove"].map String.toList

/-- The first words of comparisons. -/
def operatorWords : List (List Char) :=
  ["not", "starts", "ends", "matches", "contains", "is"].map String.toList

/-- Whether a character before a text keeps a word from beginning there. -/
def isInsideWord (last : Option Char) : Bool := (last.map Text.isWord).getD false

/-- The hits on a whole word out of a list. -/
def WordHit (words : List (List Char)) : Hit := fun last text =>
  isInsideWord last = false ∧ text.takeWhile Text.isWord ∈ words

variable {words : List (List Char)} {last : Option Char} {n : Nesting} {t rest : List Char}

/-! ## Runs of word characters -/

lemma endsWord_cons {c : Char} : endsWord (c :: t) = true ↔ Text.isWord c = false := by
  simp [endsWord]

/-- No word goes on with a blank. -/
lemma endsWord_of_isBlank {c : Char} (h : Text.isBlank c = true) : endsWord (c :: t) = true :=
  endsWord_cons.mpr (Text.isWord_eq_false_of_isBlank h)

lemma endsWord_space : endsWord (' ' :: t) = true := endsWord_of_isBlank (by decide)

lemma takeWhile_isWord_eq_nil (h : endsWord rest = true) : rest.takeWhile Text.isWord = [] := by
  cases rest with
  | nil => rfl
  | cons c rest => simp [endsWord_cons.mp h]

/-- What follows a text does not lengthen its words unless it goes on with one. -/
lemma takeWhile_isWord_append (h : endsWord rest = true) :
    (t ++ rest).takeWhile Text.isWord = t.takeWhile Text.isWord := by
  induction t with
  | nil => exact takeWhile_isWord_eq_nil h
  | cons c t ih =>
    rw [List.cons_append, List.takeWhile_cons, List.takeWhile_cons, ih]

/-- A word is taken off a text that does not go on with it. -/
lemma takeWhile_isWord_word_append {w : List Char} (hw : w.all Text.isWord = true)
    (h : endsWord rest = true) : (w ++ rest).takeWhile Text.isWord = w := by
  rw [takeWhile_isWord_append h, List.takeWhile_eq_self_iff.mpr (by simpa using hw)]

/-- A text that begins with a whole word begins with that word only. -/
lemma takeWhile_isWord_of_after? {w text : List Char} (hw : w.all Text.isWord = true)
    (h : Text.after? w text = some rest) (hrest : endsWord rest = true) :
    text.takeWhile Text.isWord = w := by
  rw [Text.eq_append_of_after? h, takeWhile_isWord_word_append hw hrest]

lemma wordRunsFrom_true_subset : wordRunsFrom true t ⊆ wordRuns t := by
  intro run hrun
  cases t with
  | nil => exact hrun
  | cons c t =>
    simp only [wordRuns, wordRunsFrom] at hrun ⊢
    by_cases hc : Text.isWord c = true
    · simp only [hc, if_true] at hrun ⊢
      exact List.mem_cons_of_mem _ hrun
    · rw [if_neg hc] at hrun ⊢
      exact hrun

/-- The runs of two texts, of which the second does not begin with a word character. -/
lemma wordRunsFrom_append {inside : Bool} (h : endsWord rest = true) :
    wordRunsFrom inside (t ++ rest) = wordRunsFrom inside t ++ wordRuns rest := by
  induction t generalizing inside with
  | nil =>
    cases rest with
    | nil => rfl
    | cons c rest => simp [wordRuns, wordRunsFrom, endsWord_cons.mp h]
  | cons c t ih =>
    have htake := takeWhile_isWord_append (t := c :: t) h
    rw [List.cons_append] at htake
    simp only [List.cons_append, wordRunsFrom, htake, ih]
    split
    · split <;> rfl
    · rfl

lemma wordRuns_append (h : endsWord rest = true) :
    wordRuns (t ++ rest) = wordRuns t ++ wordRuns rest := wordRunsFrom_append h

lemma wordRuns_cons_of_not_isWord {c : Char} (h : Text.isWord c = false) :
    wordRuns (c :: t) = wordRuns t := by
  simp [wordRuns, wordRunsFrom, h]

/-! ## Quiet for words -/

/-- A plain text is quiet for words that are none of its runs. -/
lemma quiet_of_wordRuns (hplain : ∀ c ∈ t, IsPlain c) (hruns : ∀ run ∈ wordRuns t, run ∉ words)
    (hnil : [] ∉ words) (hrest : endsWord rest = true) (last : Option Char) :
    Quiet (WordHit words) .outside last t rest := by
  have hsub : ∀ run ∈ wordRunsFrom (isInsideWord last) t, run ∉ words := by
    cases hlast : isInsideWord last with
    | true => exact fun run hrun => hruns run (wordRunsFrom_true_subset hrun)
    | false => exact hruns
  clear hruns
  induction t generalizing last with
  | nil => trivial
  | cons c t ih =>
    obtain ⟨h1, h2, h3⟩ := hplain c List.mem_cons_self
    have hstep : Nesting.outside.step c = .outside := by
      simp [Nesting.step, Nesting.outside, h1, h2, h3]
    have htake := takeWhile_isWord_append (t := c :: t) hrest
    rw [List.cons_append] at htake
    rw [wordRunsFrom] at hsub
    refine ⟨fun _ hword => ?_, ?_⟩
    · obtain ⟨hlast, hhit⟩ := hword
      rw [htake] at hhit
      by_cases hc : Text.isWord c = true
      · simp only [hc, hlast, if_true, Bool.false_eq_true, if_false] at hsub
        exact hsub _ List.mem_cons_self hhit
      · rw [List.takeWhile_cons_of_neg hc] at hhit
        exact hnil hhit
    · rw [hstep]
      refine ih (fun d hd => hplain d (List.mem_cons_of_mem c hd)) (some c) fun run hrun => ?_
      by_cases hc : Text.isWord c = true
      · simp only [isInsideWord, Option.map_some, Option.getD_some, hc] at hrun
        simp only [hc, if_true] at hsub
        split at hsub
        · exact hsub run hrun
        · exact hsub run (List.mem_cons_of_mem _ hrun)
      · simp only [isInsideWord, Option.map_some, Option.getD_some, hc] at hrun
        rw [if_neg hc] at hsub
        exact hsub run hrun

lemma WordHit.mono {words' : List (List Char)} (h : words ⊆ words') {text : List Char}
    (hhit : WordHit words last text) : WordHit words' last text :=
  ⟨hhit.1, h hhit.2⟩

/-! ## The hits of the cutters -/

lemma isInsideWord_space : isInsideWord (some ' ') = false := by decide

lemma ThenHit.wordHit (hwords : "then".toList ∈ words) {text : List Char}
    (h : ThenHit last text) : WordHit words last text := by
  obtain ⟨rfl, h⟩ := h
  refine ⟨isInsideWord_space, ?_⟩
  unfold startsThen at h
  split at h
  · next c rest hafter =>
    rw [takeWhile_isWord_of_after? (by decide) hafter (endsWord_of_isBlank h)]
    exact hwords
  · cases h

lemma ActionKind.mem_all (kind : ActionKind) : kind ∈ ActionKind.all := by
  cases kind <;> decide

/-- An action begins with its keyword, and a space or nothing behind it. -/
lemma startsAction_iff {text : List Char} :
    startsAction text = true ↔ ∃ (kind : ActionKind) (rest : List Char),
      text = kind.word.toList ++ rest ∧ (rest = [] ∨ rest.head? = some ' ') := by
  rw [startsAction, List.any_eq_true]
  constructor
  · rintro ⟨kind, -, h⟩
    split at h
    · next rest hafter =>
      refine ⟨kind, rest, Text.eq_append_of_after? hafter, ?_⟩
      simpa [List.isEmpty_iff] using h
    · cases h
  · rintro ⟨kind, rest, rfl, hrest⟩
    refine ⟨kind, kind.mem_all, ?_⟩
    rw [Text.after?_append]
    simpa [List.isEmpty_iff] using hrest

lemma ActionHit.wordHit (hwords : ∀ kind : ActionKind, kind.word.toList ∈ words)
    {text : List Char} (h : ActionHit last text) : WordHit words last text := by
  obtain ⟨rfl, h⟩ := h
  refine ⟨isInsideWord_space, ?_⟩
  obtain ⟨kind, rest, rfl, hspace⟩ := startsAction_iff.mp h
  have hword : kind.word.toList.all Text.isWord = true := by cases kind <;> decide
  have hrest : endsWord rest = true := by
    cases rest with
    | nil => rfl
    | cons c rest =>
      obtain rfl : c = ' ' := by simpa using hspace
      exact endsWord_space
  rw [takeWhile_isWord_word_append hword hrest]
  exact hwords kind

/-- Words that are found begin the text, and the first one ends there. -/
lemma eq_append_of_afterWords? {w : List Char} {ws : List (List Char)} {text rest : List Char}
    (h : afterWords? (w :: ws) text = some rest) (hrest : endsWord rest = true) :
    ∃ tail, text = w ++ tail ∧ endsWord tail = true := by
  cases ws with
  | nil => exact ⟨rest, Text.eq_append_of_after? h, hrest⟩
  | cons w' ws =>
    obtain ⟨b, behind, hafter, hb, -⟩ := afterWords?_cons_cons.mp h
    exact ⟨b :: behind, Text.eq_append_of_after? hafter, endsWord_of_isBlank hb⟩

lemma OperatorHit.wordHit (hwords : operatorWords ⊆ words) {text : List Char}
    (h : OperatorHit last text) : WordHit words last text := by
  refine ⟨h.1, ?_⟩
  obtain ⟨⟨c', rest⟩, hp⟩ := Option.isSome_iff_exists.mp h.2
  rw [comparisonAt?_eq_findSome?] at hp
  obtain ⟨c, -, hc⟩ := List.exists_of_findSome?_eq_some hp
  obtain ⟨-, hafter, hrest⟩ := tryComparison_eq_some_iff.mp hc
  obtain ⟨w, ws, hcw, hword, hmem⟩ : ∃ w ws, c.words.map String.toList = w :: ws ∧
      w.all Text.isWord = true ∧ w ∈ operatorWords := by
    cases c <;> exact ⟨_, _, rfl, by decide, by decide⟩
  rw [hcw] at hafter
  obtain ⟨tail, rfl, htail⟩ := eq_append_of_afterWords? hafter hrest
  rw [takeWhile_isWord_word_append hword htail]
  exact hwords hmem

/-- Where the word `and` is no hit, no conjunction begins: its first letter would be the hit. -/
lemma quiet_conjunction (hwords : "and".toList ∈ words) (h : Quiet (WordHit words) n last t rest)
    (hrest : endsWord rest = true) : Quiet ConjunctionHit n last t rest := by
  induction t generalizing n last with
  | nil => trivial
  | cons c t ih =>
    refine ⟨fun hc hhit => ?_, ih h.2⟩
    have hconj : conjunction = [' ', 'a', 'n', 'd', ' '] := by decide
    obtain ⟨tail, htail⟩ := List.isPrefixOf_iff_prefix.mp hhit
    rw [hconj, List.cons_append, List.cons.injEq] at htail
    obtain ⟨rfl, htail⟩ := htail
    cases t with
    | nil =>
      -- what follows does not begin with a word
      rw [List.nil_append] at htail
      rw [← htail, List.cons_append, endsWord_cons] at hrest
      exact absurd hrest (by decide)
    | cons d t =>
      have htake : (d :: (t ++ rest)).takeWhile Text.isWord = "and".toList := by
        rw [← List.cons_append, ← htail]
        rfl
      obtain rfl : 'a' = d := (List.cons.inj htail).1
      have hstep : n.step ' ' = .outside := Nesting.step_of_isTopLevel hc
      refine h.2.1 ?_ ⟨isInsideWord_space, ?_⟩
      · rw [hstep]
        decide
      · rw [htake]
        exact hwords

end Cascade
