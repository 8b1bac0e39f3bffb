import Cascade.Proofs.Rule.OperandRoundTrip

/-!
# Reading written actions

What the printer writes for an action is read back as it was, and so is a list of actions with
spaces between them (`readAction_render`, `readActions_render`).  The options are read off the front
of the body; the body itself begins with an operand, and no written operand begins with a word that
could be taken for an option (`optionWord?_eq_none`).
-/

namespace Cascade

open Text (IsTrimmed isLineBreak isBlank isWord)

variable {r : Reading} {a : Action}

/-! ## Keywords -/

/-- What is found is the only element at which something is. -/
lemma findSome?_unique {α β : Type} {f : α → Option β} {l : List α} {a : α} {b : β} (ha : a ∈ l)
    (hself : f a = some b) (hother : ∀ x ∈ l, x ≠ a → f x = none) : l.findSome? f = some b := by
  cases hl : l.findSome? f with
  | none => rw [List.findSome?_eq_none_iff.mp hl a ha] at hself; cases hself
  | some c =>
    obtain ⟨x, hx, hc⟩ := List.exists_of_findSome?_eq_some hl
    by_cases hxa : x = a
    · rw [← hc, hxa, hself]
    · rw [hother x hx hxa] at hc
      cases hc

/-- What stands behind a keyword and a space is its clause. -/
lemma clause?_append_space (keyword : String) {rest : List Char}
    (h : Text.trimStart rest = rest) :
    clause? keyword (keyword.toList ++ ' ' :: rest) = some rest := by
  have hblank : isBlank ' ' = true := by decide
  simp [clause?, Text.after?_append, hblank, h]

lemma actionHead?_word (kind : ActionKind) {rest : List Char} (h : Text.trimStart rest = rest) :
    actionHead? (kind.word.toList ++ ' ' :: rest) = some (kind, rest) := by
  have hself := clause?_append_space kind.word h
  have hother : ∀ other, other ≠ kind →
      clause? other.word (kind.word.toList ++ ' ' :: rest) = none := by
    intro other hne
    cases other <;> cases kind <;> first
      | exact absurd rfl hne
      | simp [clause?, ActionKind.word, Text.after?]
  exact findSome?_unique kind.mem_all (by rw [hself]; rfl) fun other _ hne => by
    rw [hother other hne]
    rfl

/-! ## Options -/

/-- What stands between options. -/
def isOptionGap (c : Char) : Bool := isBlank c || c = ','

lemma optionWord?_append {word : String} {rest : List Char} (hword : word ∈ optionWords)
    (hrest : endsWord rest = true) :
    optionWord? (word.toList ++ rest) = some (word, rest.dropWhile isOptionGap) := by
  have hother : ∀ other ∈ optionWords, other ≠ word →
      Text.after? other.toList (word.toList ++ rest) = none := by
    intro other hother hne
    simp only [optionWords, List.mem_cons, List.not_mem_nil, or_false] at hword hother
    rcases hword with rfl | rfl | rfl <;> rcases hother with rfl | rfl | rfl <;> first
      | exact absurd rfl hne
      | rfl
  unfold optionWord?
  refine findSome?_unique hword ?_ fun other hmem hne => ?_
  · simp only [Text.after?_append, hrest, if_true]
    rfl
  · simp only [hother other hmem hne]

/-- A text that begins with no word of the language begins with no option. -/
lemma optionWord?_eq_none {text : List Char} (h : text.takeWhile isWord ∉ languageWords) :
    optionWord? text = none := by
  cases ho : optionWord? text with
  | none => rfl
  | some p =>
    obtain ⟨word, hword, hp⟩ := List.exists_of_findSome?_eq_some ho
    have hmem : word.toList.all isWord = true ∧ word.toList ∈ languageWords := by
      simp only [optionWords, List.mem_cons, List.not_mem_nil, or_false] at hword
      rcases hword with rfl | rfl | rfl <;> decide
    split at hp
    · next rest hafter =>
      split at hp
      · next hrest =>
        rw [takeWhile_isWord_of_after? hmem.1 hafter hrest] at h
        exact absurd hmem.2 h
      · cases hp
    · cases hp

lemma dropWhile_isOptionGap_word {word : String} (hword : word ∈ optionWords) (rest : List Char) :
    (word.toList ++ rest).dropWhile isOptionGap = word.toList ++ rest := by
  have hletters : isOptionGap 'n' = false ∧ isOptionGap 's' = false ∧ isOptionGap 'b' = false := by
    decide
  simp only [optionWords, List.mem_cons, List.not_mem_nil, or_false] at hword
  rcases hword with rfl | rfl | rfl <;> simp [hletters]

/-- The written options of an action. -/
def writeWords (words : List String) : List Char :=
  Text.joinWith [',', ' '] (words.map String.toList)

lemma writeWords_cons_cons (word next : String) (words : List String) :
    writeWords (word :: next :: words) =
      word.toList ++ ',' :: ' ' :: writeWords (next :: words) := by
  simp [writeWords, Text.joinWith]

/-- Written options begin with the first one. -/
lemma exists_writeWords_cons (word : String) (words : List String) :
    ∃ tail, writeWords (word :: words) = word.toList ++ tail ∧ endsWord tail = true := by
  cases words with
  | nil => exact ⟨[], by simp [writeWords, Text.joinWith], rfl⟩
  | cons next words =>
    exact ⟨_, writeWords_cons_cons word next words, endsWord_cons.mpr (by decide)⟩

/-- Written options are taken one after the other, up to the body. -/
lemma takeOptions_writeWords {words : List String} {o : Options} {fuel : Nat} {body : List Char}
    (hwords : ∀ word ∈ words, word ∈ optionWords) (hne : words ≠ []) (hfuel : words.length < fuel)
    (hbody : optionWord? body = none) (hstart : body.dropWhile isOptionGap = body) :
    takeOptions o fuel (writeWords words ++ ' ' :: body) = (words.foldl Options.take o, body) := by
  have hspace : isOptionGap ' ' = true := by decide
  have hcomma : isOptionGap ',' = true := by decide
  induction words generalizing o fuel with
  | nil => exact absurd rfl hne
  | cons word words ih =>
    obtain ⟨fuel, rfl⟩ : ∃ k, fuel = k + 1 := ⟨fuel - 1, by omega⟩
    have hword := hwords word List.mem_cons_self
    cases words with
    | nil =>
      obtain ⟨fuel, rfl⟩ : ∃ k, fuel = k + 1 := ⟨fuel - 1, by simp at hfuel; omega⟩
      rw [takeOptions, show writeWords [word] = word.toList from rfl,
        optionWord?_append hword endsWord_space, List.dropWhile_cons_of_pos hspace, hstart]
      simp only [takeOptions, hbody, List.foldl_cons, List.foldl_nil]
    | cons next words =>
      have hnext := hwords next (List.mem_cons_of_mem word List.mem_cons_self)
      obtain ⟨tail, htail, -⟩ := exists_writeWords_cons next words
      have hends : endsWord (',' :: ' ' :: (writeWords (next :: words) ++ ' ' :: body)) = true :=
        endsWord_cons.mpr (by decide)
      have hrest : ∀ w ∈ next :: words, w ∈ optionWords := fun w hw =>
        hwords w (List.mem_cons_of_mem word hw)
      have hlength : (next :: words).length < fuel := by
        rw [List.length_cons] at hfuel
        omega
      have hlater : takeOptions (o.take word) fuel (writeWords (next :: words) ++ ' ' :: body) =
          ((next :: words).foldl Options.take (o.take word), body) :=
        ih hrest (List.cons_ne_nil next words) hlength
      rw [htail, List.append_assoc] at hlater
      rw [writeWords_cons_cons, List.append_assoc, List.cons_append, List.cons_append, takeOptions,
        optionWord?_append hword hends, List.dropWhile_cons_of_pos hcomma,
        List.dropWhile_cons_of_pos hspace, htail, List.append_assoc,
        dropWhile_isOptionGap_word hnext]
      exact hlater

/-- The option words of options are taken for the options. -/
lemma foldl_take_words {o : Options} (h : o.bypassRules ≠ some false) :
    o.words.foldl Options.take {} = o := by
  obtain ⟨suppress, bypass⟩ := o
  rcases suppress with _ | _ | _ <;> rcases bypass with _ | _ | _ <;> first
    | exact absurd rfl h
    | decide

lemma Options.mem_optionWords (o : Options) : ∀ word ∈ o.words, word ∈ optionWords := by
  obtain ⟨suppress, bypass⟩ := o
  rcases suppress with _ | _ | _ <;> rcases bypass with _ | _ | _ <;> decide

lemma Options.length_words_le (o : Options) : o.words.length ≤ (writeWords o.words).length := by
  obtain ⟨suppress, bypass⟩ := o
  rcases suppress with _ | _ | _ <;> rcases bypass with _ | _ | _ <;> decide

lemma Options.render_of_words_eq_nil {o : Options} (h : o.words = []) : o.render = [] := if_pos h

lemma Options.render_of_words_ne_nil {o : Options} (h : o.words ≠ []) :
    o.render = "with".toList ++ ' ' :: (writeWords o.words ++ [' ']) := by
  rw [Options.render, if_neg h, List.append_assoc]
  rfl

/-- A body that does not begin with the word `with` has no options. -/
lemma readOptions_of_no_word {body : List Char} (action : List Char)
    (hrun : body.takeWhile isWord ∉ languageWords) :
    readOptions r action body = pure ({}, body) := by
  unfold readOptions
  split
  · next c rest hafter =>
    rw [if_neg]
    intro hc
    rw [takeWhile_isWord_of_after? (by decide) hafter (endsWord_of_isBlank hc)] at hrun
    exact hrun (by decide)
  · rfl

/-- Written options begin with an option, at once. -/
lemma writeWords_append_starts {words : List String} (hwords : ∀ word ∈ words, word ∈ optionWords)
    (hne : words ≠ []) (body : List Char) :
    Text.trimStart (writeWords words ++ ' ' :: body) = writeWords words ++ ' ' :: body ∧
      (optionWord? (writeWords words ++ ' ' :: body)).isSome = true := by
  obtain ⟨word, words, rfl⟩ := List.exists_cons_of_ne_nil hne
  have hword := hwords word List.mem_cons_self
  obtain ⟨tail, htail, hends⟩ := exists_writeWords_cons word words
  have hends' : endsWord (tail ++ ' ' :: body) = true := by
    cases tail with
    | nil => exact endsWord_space
    | cons c tail => exact endsWord_cons.mpr (endsWord_cons.mp hends)
  rw [htail, List.append_assoc, optionWord?_append hword hends']
  refine ⟨?_, rfl⟩
  have hletters : isBlank 'n' = false ∧ isBlank 's' = false ∧ isBlank 'b' = false := by decide
  simp only [optionWords, List.mem_cons, List.not_mem_nil, or_false] at hword
  rcases hword with rfl | rfl | rfl <;> simp [Text.trimStart, hletters]

/-- Written options are read off the front of a body that begins with no word of the language. -/
lemma readOptions_render {o : Options} {body : List Char} (action : List Char)
    (ho : o.bypassRules ≠ some false) (hrun : body.takeWhile isWord ∉ languageWords)
    (hstart : body.dropWhile isOptionGap = body) :
    readOptions r action (o.render ++ body) = pure (o, body) := by
  have hfold := foldl_take_words ho
  by_cases hwords : o.words = []
  · rw [hwords] at hfold
    rw [o.render_of_words_eq_nil hwords, List.nil_append, ← hfold]
    exact readOptions_of_no_word action hrun
  · obtain ⟨htrim, hfound⟩ := writeWords_append_starts o.mem_optionWords hwords body
    have hfuel : o.words.length < (writeWords o.words ++ ' ' :: body).length := by
      have hlength := o.length_words_le
      rw [List.length_append, List.length_cons]
      omega
    have htake := takeOptions_writeWords (o := {}) o.mem_optionWords hwords hfuel
      (optionWord?_eq_none hrun) hstart
    have htext :
        o.render ++ body = "with".toList ++ ' ' :: (writeWords o.words ++ ' ' :: body) := by
      rw [o.render_of_words_ne_nil hwords]
      simp
    have hblank : isBlank ' ' = true := by decide
    rw [htext]
    simp only [readOptions, Text.after?_append, hblank, if_true, htrim, hfound, htake, hfold]

/-! ## Bodies -/

lemma quiet_equals_of_not_mem {n : Nesting} {last : Option Char} {t rest : List Char}
    (h : '=' ∉ t) : Quiet EqualsHit n last t rest := by
  induction t generalizing n last with
  | nil => trivial
  | cons c t ih =>
    rw [List.mem_cons, not_or] at h
    refine ⟨fun _ hhit => h.1 ?_, ih h.2⟩
    exact (Option.some.inj hhit).symm

/-- A written reference has no equals sign outside of parentheses. -/
lemma quiet_equals_reference {ref : Reference} (h : ref.WellFormed) (last : Option Char)
    (rest : List Char) : Quiet EqualsHit .outside last ref.render rest := by
  match ref, h with
  | .mk scope name none, h =>
    have hchars := isNameChar_of_mem_plainReference h
    exact quiet_equals_of_not_mem fun hmem => (hchars _ hmem).ne (by decide) rfl
  | .mk scope name (some cs), ⟨hname, _, _, hcs⟩ =>
    have hbalanced := (balanced_renderConditions cs hcs).1
    have hparens : Balanced ('(' :: (renderConditions cs ++ [')'])) := .parens hbalanced .nil
    rw [Reference.render, quiet_append, quiet_append, Nesting.steps_append,
      (isPhrase_scope scope).balanced.steps_outside, hparens.steps_outside]
    refine ⟨⟨quiet_equals_of_not_mem fun hmem => ?_, quiet_parens hbalanced _ _⟩,
      quiet_equals_of_not_mem fun hmem => ?_⟩
    · exact (isNameChar_of_mem_word hmem).ne (by decide) rfl
    · rcases List.mem_cons.mp hmem with hpoint | hmem
      · exact absurd hpoint (by decide)
      · exact (hname.isNameChar _ hmem).ne (by decide) rfl

/-- The equals sign of a written body is found behind its target. -/
lemma cutEquals?_render {ref : Reference} (h : ref.WellFormed) (value : List Char) :
    cutEquals? .outside (ref.render ++ " = ".toList ++ value) =
      some (ref.render ++ [' '], ' ' :: value) := by
  have hequals : cutEquals? .outside (" = ".toList ++ value) = some ([' '], ' ' :: value) := rfl
  rw [List.append_assoc, cutEquals?_append (quiet_equals_reference h none _),
    (isPhrase_reference ref h).balanced.steps_outside, hequals, Option.map_some]

/-- The literal and the target of a written body are found around the word that joins them. -/
lemma cutTagBody?_render {word : String} {v target : List Char} (hne : v ≠ []) (hv : '"' ∉ v)
    (hword : Text.trimStart (word.toList ++ ' ' :: target) = word.toList ++ ' ' :: target)
    (htarget : IsPhrase languageWords target) :
    cutTagBody? word (quotedLiteral v ++ ' ' :: (word.toList ++ ' ' :: target)) =
      some (v, target) := by
  have hblank : isBlank ' ' = true := by decide
  have hall : ∀ c ∈ v, decide (c ≠ '"') = true := fun c hc =>
    decide_eq_true fun hq => hv (hq ▸ hc)
  have htake (rest : List Char) : (v ++ '"' :: rest).takeWhile (· ≠ '"') = v := by
    rw [List.takeWhile_append_of_pos hall]
    simp
  have hdrop (rest : List Char) : (v ++ '"' :: rest).dropWhile (· ≠ '"') = '"' :: rest := by
    rw [List.dropWhile_append_of_pos hall]
    simp
  have hline : blanksThenLine? (' ' :: target) = some target := by
    obtain ⟨c, rest, rfl⟩ := List.exists_cons_of_ne_nil htarget.nonempty
    have hc : isBlank c = false := htarget.trimmed.1 c rfl
    have hsole : soleLine? (c :: rest) = some (c :: rest) :=
      soleLine?_of_not_mem (fun hmem => absurd (htarget.unbroken _ hmem) (by decide))
        htarget.nonempty
    simp [blanksThenLine?, hblank, hc, hsole]
  have hempty : v.isEmpty = false := List.isEmpty_eq_false_iff.mpr hne
  rw [quotedLiteral, List.cons_append, List.append_assoc, List.singleton_append]
  simp only [cutTagBody?, htake, hdrop, hempty, hblank, Bool.not_true, Bool.or_self,
    Bool.false_eq_true, if_false, hword, Text.after?_append, hline, Option.map_some,
    htarget.trimmed.trim_eq]

/-- The body of a written action is read back. -/
lemma readBody_render (h : a.WellFormed) :
    readBody r a.kind a.renderBody = pure (some (a.value, a.target.render)) := by
  have htarget := isPhrase_reference a.target h.target
  have hvalue := isPhrase_operand a.value h.value
  by_cases hset : a.kind = .set
  · simp only [Action.renderBody, readBody, hset, cutEquals?_render h.target,
      htarget.trim_append_space, hvalue.trim_space_cons, readOperand_render h.value,
      List.isEmpty_eq_false_iff.mpr htarget.nonempty, List.isEmpty_eq_false_iff.mpr hvalue.nonempty,
      Bool.or_self, Bool.false_eq_true, if_false, pure_bind]
  · obtain ⟨text, htext, hne⟩ := h.tag hset
    have hconstant : IsConstant text := by
      have := h.value
      rwa [htext] at this
    have hne' : text.toList ≠ [] := fun hnil => hne (String.toList_eq_nil_iff.mp hnil)
    have hquote : '"' ∉ text.toList := fun hmem => (hconstant _ hmem).1 rfl
    have hcut (word : String)
        (hword : ∀ rest, Text.trimStart (word.toList ++ rest) = word.toList ++ rest) :
        cutTagBody? word (quotedLiteral text.toList ++ ' ' :: (word.toList ++ ' ' ::
          a.target.render)) = some (text.toList, a.target.render) :=
      cutTagBody?_render hne' hquote (hword _) htarget
    have hto := hcut "to" fun _ => Text.trimStart_cons_of_not_isBlank (by decide) _
    have hfrom := hcut "from" fun _ => Text.trimStart_cons_of_not_isBlank (by decide) _
    cases hkind : a.kind with
    | set => exact absurd hkind hset
    | add =>
      have hbody : a.renderBody = quotedLiteral text.toList ++ ' ' :: ("to".toList ++ ' ' ::
          a.target.render) := by
        simp only [Action.renderBody, hkind, htext, Operand.render, List.append_assoc]
        rfl
      rw [readBody, hbody, hto, htext]
      simp only [Option.map_some, String.ofList_toList]
    | remove =>
      have hbody : a.renderBody = quotedLiteral text.toList ++ ' ' :: ("from".toList ++ ' ' ::
          a.target.render) := by
        simp only [Action.renderBody, hkind, htext, Operand.render, List.append_assoc]
        rfl
      rw [readBody, hbody, hfrom, htext]
      simp only [Option.map_some, String.ofList_toList]

/-! ## Actions -/

/-- A written body begins with a written operand. -/
lemma exists_renderBody_eq (h : a.WellFormed) :
    ∃ op : Operand, op.WellFormed ∧ ∃ rest, a.renderBody = op.render ++ ' ' :: rest := by
  unfold Action.renderBody
  split
  · exact ⟨.field a.target, h.target, _, by rw [List.append_assoc]; rfl⟩
  · exact ⟨a.value, h.value, _, by rw [List.append_assoc]; rfl⟩
  · exact ⟨a.value, h.value, _, by rw [List.append_assoc]; rfl⟩

lemma isOptionGap_eq_false {c : Char} (h : c = '"' ∨ IsNameChar c) :
    isOptionGap c = false := by
  rcases h with rfl | h
  · decide
  · simp [isOptionGap, h.isBlank_eq_false, h.ne (show (isWord ',' || ',' == '.' || ',' == '-') =
      false by decide)]

/-- The options of a written action are read off its body. -/
lemma readOptions_renderBody (h : a.WellFormed) (action : List Char) :
    readOptions r action (a.options.render ++ a.renderBody) = pure (a.options, a.renderBody) := by
  obtain ⟨op, hop, rest, hbody⟩ := exists_renderBody_eq h
  refine readOptions_render action h.bypassRules ?_ ?_
  · rw [hbody]
    exact (isPhrase_operand op hop).takeWhile_not_mem nil_not_mem_languageWords endsWord_space
  · obtain ⟨c, t, hct, hc⟩ := Operand.exists_render_eq_cons hop
    rw [hbody, hct, List.cons_append, List.dropWhile_cons_of_neg]
    simp [isOptionGap_eq_false hc]

/-- What stands behind the keyword of a written action is a phrase for the words at which clauses
are cut. -/
lemma isPhrase_renderBody (h : a.WellFormed) : IsPhrase clauseWords a.renderBody := by
  have htarget := (isPhrase_reference a.target h.target).mono clauseWords_subset
  have hvalue := (isPhrase_operand a.value h.value).mono clauseWords_subset
  have hword {w : List Char} (hw : w = ['='] ∨ w = "to".toList ∨ w = "from".toList) :
      IsPhrase clauseWords w := by
    apply isPhrase_of_isPlainPhrase
    rcases hw with rfl | rfl | rfl <;> decide
  have hjoin {s w t : List Char} (hs : IsPhrase clauseWords s) (hw : IsPhrase clauseWords w)
      (ht : IsPhrase clauseWords t) : IsPhrase clauseWords (s ++ (' ' :: (w ++ [' '])) ++ t) := by
    have := hs.join (hw.join ht nil_not_mem_clauseWords) nil_not_mem_clauseWords
    simpa using this
  unfold Action.renderBody
  split
  · exact hjoin htarget (hword (.inl rfl)) hvalue
  · exact hjoin hvalue (hword (.inr (.inl rfl))) htarget
  · exact hjoin hvalue (hword (.inr (.inr rfl))) htarget

lemma isPhrase_writeWords {o : Options} (h : o.words ≠ []) :
    IsPhrase clauseWords (writeWords o.words) := by
  obtain ⟨suppress, bypass⟩ := o
  apply isPhrase_of_isPlainPhrase
  rcases suppress with _ | _ | _ <;> rcases bypass with _ | _ | _ <;> first
    | exact absurd rfl h
    | decide

lemma isPhrase_options_append (h : a.WellFormed) :
    IsPhrase clauseWords (a.options.render ++ a.renderBody) := by
  have hbody := isPhrase_renderBody h
  by_cases hwords : a.options.words = []
  · rwa [a.options.render_of_words_eq_nil hwords, List.nil_append]
  · have hwith : IsPhrase clauseWords "with".toList := isPhrase_of_isPlainPhrase (by decide)
    have hjoin := hwith.join ((isPhrase_writeWords hwords).join hbody nil_not_mem_clauseWords)
      nil_not_mem_clauseWords
    rw [a.options.render_of_words_ne_nil hwords]
    simpa using hjoin

/-- A written action is read back. -/
theorem readAction_render (h : a.WellFormed) : readAction r a.render = pure (some a) := by
  have hrest := isPhrase_options_append h
  have hfield : (Operand.field a.target).WellFormed := h.target
  have htarget : readOperand r a.target.render = pure (.field a.target) := readOperand_render hfield
  rw [Action.render, readAction, actionHead?_word a.kind (Text.trimStart_eq_self hrest.trimmed.1)]
  simp only [readOptions_renderBody h, readBody_render h, htarget, pure_bind]

/-! ## Lists of actions -/

/-- A word and the space behind it hold no hit that has to stand behind a space. -/
lemma quiet_word_space {hit : Hit} (hhit : ∀ last text, hit last text → last = some ' ')
    {n : Nesting} {last : Option Char} {w : List Char} (hw : ' ' ∉ w) (hlast : last ≠ some ' ')
    (rest : List Char) : Quiet hit n last (w ++ [' ']) rest := by
  induction w generalizing n last with
  | nil => exact ⟨fun _ h => hlast (hhit _ _ h), trivial⟩
  | cons c w ih =>
    rw [List.mem_cons, not_or] at hw
    refine ⟨fun _ h => hlast (hhit _ _ h), ih hw.2 fun h => hw.1 ?_⟩
    exact (Option.some.inj h).symm

/-- The only place in a written action where one begins is its start. -/
lemma quiet_action_render (h : a.WellFormed) {rest : List Char} (hrest : endsWord rest = true) :
    Quiet ActionHit .outside none a.render rest := by
  have hphrase := isPhrase_options_append h
  have hword : ' ' ∉ a.kind.word.toList := by cases a.kind <;> decide
  have hsteps : Nesting.outside.steps (a.kind.word.toList ++ [' ']) = .outside := by
    cases a.kind <;> decide
  have hkinds : ∀ kind : ActionKind, kind.word.toList ∈ clauseWords := by
    intro kind
    cases kind <;> decide
  rw [Action.render, ← List.singleton_append, ← List.append_assoc, quiet_append, hsteps]
  refine ⟨quiet_word_space (fun _ _ hit => hit.1) hword (by simp) _, ?_⟩
  exact (hphrase.quiet _ _ hrest).mono fun _ _ => ActionHit.wordHit hkinds

lemma isPhrase_keyword (kind : ActionKind) : IsPhrase ["then".toList] kind.word.toList := by
  apply isPhrase_of_isPlainPhrase
  cases kind <;> decide

/-- No then-clause begins in a written action. -/
lemma isPhrase_action (h : a.WellFormed) : IsPhrase ["then".toList] a.render :=
  (isPhrase_keyword a.kind).join ((isPhrase_options_append h).mono (by decide)) (by decide)

/-- An action that begins behind a space is a piece of its own. -/
lemma cutActions_space_render (a : Action) (rest : List Char) :
    cutActions .outside (some ' ') (a.render ++ rest) =
      [] :: cutActions .outside none (a.render ++ rest) := by
  obtain ⟨c, word, hcons, htop⟩ : ∃ c word, a.kind.word.toList = c :: word ∧
      Nesting.outside.isTopLevel c = true := by
    cases a.kind <;> exact ⟨_, _, rfl, by decide⟩
  have hstart : startsAction (a.render ++ rest) = true :=
    startsAction_iff.mpr ⟨a.kind, _, List.append_assoc _ _ _, .inr rfl⟩
  rw [Action.render, hcons, List.append_assoc, List.cons_append] at hstart ⊢
  have hlast : (none == some ' ') = false := rfl
  simp only [cutActions, htop, hstart, hlast, beq_self_eq_true, Bool.and_self, Bool.and_true,
    Bool.and_false, Bool.false_eq_true, if_true, if_false]

/-- Written actions with spaces between them. -/
def renderActions (as : List Action) : List Char := Text.joinWith [' '] (as.map Action.render)

lemma renderActions_cons_cons (a b : Action) (as : List Action) :
    renderActions (a :: b :: as) = a.render ++ [' '] ++ renderActions (b :: as) := rfl

lemma exists_renderActions_cons (a : Action) (as : List Action) :
    ∃ rest, renderActions (a :: as) = a.render ++ rest := by
  cases as with
  | nil => exact ⟨[], (List.append_nil _).symm⟩
  | cons b as => exact ⟨[' '] ++ renderActions (b :: as), by
      rw [renderActions_cons_cons, List.append_assoc]⟩

lemma trimPieces_cons {piece t : List Char} {pieces : List (List Char)}
    (h : Text.trim piece = t) (hne : t ≠ []) :
    trimPieces (piece :: pieces) = t :: trimPieces pieces := by
  rw [trimPieces, List.map_cons, h, List.filter_cons_of_pos, trimPieces]
  simpa using hne

/-- Written actions are cut where they were joined. -/
lemma splitActions_render {as : List Action} (hne : as ≠ []) (h : ∀ a ∈ as, a.WellFormed) :
    splitActions (renderActions as) = as.map Action.render := by
  unfold splitActions
  induction as with
  | nil => exact absurd rfl hne
  | cons a as ih =>
    have ha := h a List.mem_cons_self
    have hphrase := isPhrase_action ha
    cases as with
    | nil =>
      have hnil :
          cutActions (Nesting.outside.steps a.render) (lastOf none a.render) [] = [[]] := rfl
      have hcut := cutActions_append (quiet_action_render ha rfl) hnil
      rw [List.append_nil] at hcut
      rw [show renderActions [a] = a.render from rfl, hcut,
        trimPieces_cons hphrase.trimmed.trim_eq hphrase.nonempty]
      rfl
    | cons b as =>
      obtain ⟨rest, hrest⟩ := exists_renderActions_cons b as
      have hquiet :
          Quiet ActionHit .outside none (a.render ++ [' ']) (renderActions (b :: as)) := by
        rw [quiet_append]
        -- no keyword begins with a space
        exact ⟨quiet_action_render ha endsWord_space,
          fun _ hhit => Bool.false_ne_true hhit.2, trivial⟩
      have hlater : cutActions (Nesting.outside.steps (a.render ++ [' ']))
          (lastOf none (a.render ++ [' '])) (renderActions (b :: as)) =
            [] :: cutActions .outside none (renderActions (b :: as)) := by
        rw [hphrase.steps_space, lastOf_space, hrest, cutActions_space_render]
      rw [renderActions_cons_cons, cutActions_append hquiet hlater, List.append_nil,
        trimPieces_cons hphrase.trim_append_space hphrase.nonempty,
        ih (List.cons_ne_nil b as) fun x hx => h x (List.mem_cons_of_mem a hx)]
      rfl

/-- Written actions are read back. -/
theorem readActions_render {as : List Action} (hne : as ≠ []) (h : ∀ a ∈ as, a.WellFormed) :
    readActions r (renderActions as) = pure as := by
  rw [readActions, splitActions_render hne h]
  exact Reading.readPieces_map fun a ha => readAction_render (h a ha)

end Cascade
