import Cascade.Proofs.Rule.Rendering
import Cascade.Proofs.Text.Lines

/-!
# Tokens

A text is cut into tokens at its spaces outside quotes (`tokens`), and the tokens joined by spaces
are the text again (`joinWith_tokens`).  The tokens of a text with a space between two parts are
those of the parts, if no quote is open at the space (`Solid.tokens_append_space`,
`Spaced.tokens_append_space`).

What the printer writes is `Spaced`: proper tokens with one space between any two of them.  A proper
token (`IsToken`) holds no blank outside quotes, is no comment, and is none of the two words that
open something by themselves, `rule` and `then`.
-/

namespace Cascade

open Text (IsTrimmed isLineBreak isBlank isWord)

/-! ## Cutting a text at its spaces -/

/-- The parts of a text between its spaces outside quotes; `quoted` says that the text begins inside
quotes. -/
def tokensFrom (quoted : Bool) : List Char → List (List Char)
  | [] => [[]]
  | c :: rest =>
    if c = ' ' ∧ quoted = false then [] :: tokensFrom false rest
    else consFirst c (tokensFrom (quoted != (c == '"')) rest)

/-- The parts of a text between its spaces outside quotes. -/
def tokens (text : List Char) : List (List Char) := tokensFrom false text

variable {s t rest : List Char}

lemma tokensFrom_ne_nil (quoted : Bool) (t : List Char) : tokensFrom quoted t ≠ [] := by
  cases t with
  | nil => exact List.cons_ne_nil _ _
  | cons c t =>
    rw [tokensFrom]
    split
    · exact List.cons_ne_nil _ _
    · exact consFirst_ne_nil _ _

lemma tokens_ne_nil (t : List Char) : tokens t ≠ [] := tokensFrom_ne_nil false t

/-- Only spaces are lost when a text is cut into tokens. -/
lemma joinWith_tokensFrom (quoted : Bool) (t : List Char) :
    Text.joinWith [' '] (tokensFrom quoted t) = t := by
  induction t generalizing quoted with
  | nil => rfl
  | cons c t ih =>
    rw [tokensFrom]
    split
    · next h => rw [Text.joinWith_cons_of_ne_nil (tokensFrom_ne_nil false t), ih, h.1]; rfl
    · rw [joinWith_consFirst, ih]

lemma joinWith_tokens (t : List Char) : Text.joinWith [' '] (tokens t) = t :=
  joinWith_tokensFrom false t

/-! ## Solid texts -/

/-- The texts whose quotes are closed, without blanks outside of them and without line
boundaries. -/
inductive Solid : List Char → Prop
  | nil : Solid []
  | plain {c : Char} {t : List Char} : c ≠ '"' → isBlank c = false → Solid t → Solid (c :: t)
  | quoted {v t : List Char} : (∀ c ∈ v, c ≠ '"' ∧ isLineBreak c = false) → Solid t →
    Solid ('"' :: (v ++ '"' :: t))

lemma isBlank_quote : isBlank '"' = false := by decide

lemma solid_of_forall (h : ∀ c ∈ t, c ≠ '"' ∧ isBlank c = false) : Solid t := by
  induction t with
  | nil => exact .nil
  | cons c t ih =>
    obtain ⟨hquote, hblank⟩ := h c List.mem_cons_self
    exact .plain hquote hblank (ih fun d hd => h d (List.mem_cons_of_mem c hd))

lemma solid_of_all (h : t.all (fun c => c != '"' && !isBlank c) = true) : Solid t :=
  solid_of_forall fun c hc => by simpa using List.all_eq_true.mp h c hc

namespace Solid

lemma append (hs : Solid s) (ht : Solid t) : Solid (s ++ t) := by
  induction hs with
  | nil => exact ht
  | plain hquote hblank _ ih => exact .plain hquote hblank ih
  | quoted hv _ ih =>
    rw [List.cons_append, List.append_assoc, List.cons_append]
    exact .quoted hv ih

lemma unbroken (h : Solid t) : ∀ c ∈ t, isLineBreak c = false := by
  induction h with
  | nil => exact List.forall_mem_nil _
  | plain _ hblank _ ih => exact List.forall_mem_cons.mpr ⟨isLineBreak_eq_false hblank, ih⟩
  | quoted hv _ ih =>
    have hquote : isLineBreak '"' = false := isLineBreak_eq_false isBlank_quote
    refine List.forall_mem_cons.mpr
      ⟨hquote, List.forall_mem_append.mpr ⟨fun c hc => (hv c hc).2, ?_⟩⟩
    exact List.forall_mem_cons.mpr ⟨hquote, ih⟩

lemma not_isBlank_head (h : Solid t) : ∀ c, t.head? = some c → isBlank c = false := by
  intro c hc
  cases h with
  | nil => cases hc
  | plain _ hblank _ => rwa [← Option.some.inj hc]
  | quoted _ _ => rw [← Option.some.inj hc, isBlank_quote]

lemma not_isBlank_getLast (h : Solid t) : ∀ c, t.getLast? = some c → isBlank c = false := by
  induction h with
  | nil => exact nofun
  | @plain d t _ hblank _ ih =>
    intro c hc
    cases t with
    | nil => rwa [← Option.some.inj hc]
    | cons e t => exact ih c (by rwa [List.getLast?_cons_cons] at hc)
  | @quoted v t _ _ ih =>
    intro c hc
    rw [← List.cons_append, List.getLast?_append_of_ne_nil _ (List.cons_ne_nil _ _)] at hc
    cases t with
    | nil =>
      obtain rfl : '"' = c := Option.some.inj hc
      exact isBlank_quote
    | cons e t => exact ih c (by rwa [List.getLast?_cons_cons] at hc)

lemma isTrimmed (h : Solid t) : IsTrimmed t := ⟨h.not_isBlank_head, h.not_isBlank_getLast⟩

/-- A solid text stands in front of the first token of what follows it. -/
lemma tokens_append (hs : Solid s) {token : List Char} {more : List (List Char)}
    (hrest : tokens rest = token :: more) : tokens (s ++ rest) = (s ++ token) :: more := by
  induction hs with
  | nil => exact hrest
  | @plain c s hquote hblank _ ih =>
    have hspace : ¬ (c = ' ' ∧ false = false) := by
      rintro ⟨rfl, -⟩
      cases hblank
    have hstep : tokens (c :: (s ++ rest)) = consFirst c (tokens (s ++ rest)) := by
      rw [tokens, tokensFrom, if_neg hspace, beq_false_of_ne hquote]
      rfl
    rw [List.cons_append, hstep, ih]
    rfl
  | @quoted v s hv _ ih =>
    have hinside :
        tokensFrom true (v ++ '"' :: (s ++ rest)) = (v ++ '"' :: (s ++ token)) :: more := by
      clear hrest
      induction v with
      | nil =>
        have hclose :
            tokensFrom true ('"' :: (s ++ rest)) = consFirst '"' (tokens (s ++ rest)) := rfl
        rw [List.nil_append, hclose, ih]
        rfl
      | cons c v ihv =>
        have hstep : tokensFrom true (c :: (v ++ '"' :: (s ++ rest))) =
            consFirst c (tokensFrom true (v ++ '"' :: (s ++ rest))) := by
          rw [tokensFrom, if_neg (by simp), beq_false_of_ne (hv c List.mem_cons_self).1]
          rfl
        rw [List.cons_append, hstep, ihv fun d hd => hv d (List.mem_cons_of_mem c hd)]
        rfl
    have hopen : tokens ('"' :: (v ++ '"' :: (s ++ rest))) =
        consFirst '"' (tokensFrom true (v ++ '"' :: (s ++ rest))) := rfl
    rw [List.cons_append, List.append_assoc, List.cons_append, hopen, hinside]
    simp [consFirst]

/-- A solid text is one token. -/
lemma tokens_eq (hs : Solid s) : tokens s = [s] := by
  have hnil : tokens [] = [[]] := rfl
  have happend : tokens (s ++ []) = [s ++ []] := hs.tokens_append hnil
  rwa [List.append_nil] at happend

/-- The space behind a solid text ends its token. -/
lemma tokens_append_space (hs : Solid s) (t : List Char) :
    tokens (s ++ ' ' :: t) = s :: tokens t := by
  have happend : tokens (s ++ ' ' :: t) = (s ++ []) :: tokens t := hs.tokens_append rfl
  rwa [List.append_nil] at happend

end Solid

/-! ## Proper tokens -/

/-- The words that open something where they stand by themselves. -/
def openingWords : List (List Char) := ["rule".toList, "then".toList]

/-- A token that opens nothing. -/
structure IsToken (t : List Char) : Prop where
  nonempty : t ≠ []
  solid : Solid t
  no_comment : t.head? ≠ some '#'
  no_opening : t ∉ openingWords

/-- A token that holds more than letters is none of the opening words. -/
lemma isToken_of_mem {c : Char} (hc : c ∈ t) (hword : isWord c = false) (hsolid : Solid t)
    (hhead : t.head? ≠ some '#') : IsToken t where
  nonempty := List.ne_nil_of_mem hc
  solid := hsolid
  no_comment := hhead
  no_opening hmem := by
    have hwords : ∀ word ∈ openingWords, word.all isWord = true := by decide
    rw [List.all_eq_true.mp (hwords t hmem) c hc] at hword
    cases hword

/-- Whether a text of the language's own, which is no name and no literal, is a token. -/
def isPlainToken (t : List Char) : Bool :=
  !t.isEmpty && t.all (fun c => c != '"' && !isBlank c) && t.head? != some '#' &&
    !openingWords.contains t

lemma isToken_of_isPlainToken (h : isPlainToken t = true) : IsToken t := by
  simp only [isPlainToken, Bool.and_eq_true, Bool.not_eq_true', List.isEmpty_eq_false_iff,
    bne_iff_ne, List.contains_eq_mem, decide_eq_false_iff_not] at h
  obtain ⟨⟨⟨hne, hchars⟩, hhead⟩, hopening⟩ := h
  exact ⟨hne, solid_of_all hchars, hhead, hopening⟩

/-! ## Spaced texts -/

/-- The texts of proper tokens with one space between any two of them. -/
inductive Spaced : List Char → Prop
  | token {t : List Char} : IsToken t → Spaced t
  | join {s t : List Char} : Spaced s → Spaced t → Spaced (s ++ ' ' :: t)

namespace Spaced

/-- The tokens of two texts with a space between them. -/
lemma tokens_append_space (hs : Spaced s) (t : List Char) :
    tokens (s ++ ' ' :: t) = tokens s ++ tokens t := by
  induction hs generalizing t with
  | token h => rw [h.solid.tokens_append_space, h.solid.tokens_eq, List.singleton_append]
  | @join a b _ _ iha ihb =>
    rw [List.append_assoc, List.cons_append, iha, ihb, iha, List.append_assoc]

lemma isToken_of_mem (h : Spaced t) : ∀ token ∈ tokens t, IsToken token := by
  induction h with
  | token h =>
    rw [h.solid.tokens_eq]
    exact List.forall_mem_singleton.mpr h
  | join hs _ ihs iht =>
    rw [hs.tokens_append_space]
    exact List.forall_mem_append.mpr ⟨ihs, iht⟩

/-- What can stand in front of every token can stand in front of a spaced text. -/
lemma append_left (hs : ∀ token, IsToken token → IsToken (s ++ token)) (ht : Spaced t) :
    Spaced (s ++ t) := by
  induction ht with
  | token h => exact .token (hs _ h)
  | join _ hb iha _ =>
    rw [← List.append_assoc]
    exact iha.join hb

/-- What can stand behind every token can stand behind a spaced text. -/
lemma append_right (hs : Spaced s) (ht : ∀ token, IsToken token → IsToken (token ++ t)) :
    Spaced (s ++ t) := by
  induction hs with
  | token h => exact .token (ht _ h)
  | join ha _ _ ihb =>
    rw [List.append_assoc, List.cons_append]
    exact ha.join ihb

/-- A text of the language's own is spaced when its tokens are proper. -/
lemma of_all (h : (tokens t).all isPlainToken = true) : Spaced t := by
  have hjoin : ∀ ts : List (List Char), ts ≠ [] → ts.all isPlainToken = true →
      Spaced (Text.joinWith [' '] ts) := by
    intro ts hne hall
    induction ts with
    | nil => exact absurd rfl hne
    | cons token ts ih =>
      rw [List.all_cons, Bool.and_eq_true] at hall
      have htoken : Spaced token := .token (isToken_of_isPlainToken hall.1)
      by_cases hnil : ts = []
      · rwa [hnil]
      · rw [Text.joinWith_cons_of_ne_nil hnil, List.append_assoc]
        exact htoken.join (ih hnil hall.2)
  rw [← joinWith_tokens t]
  exact hjoin _ (tokens_ne_nil t) h

end Spaced

end Cascade
