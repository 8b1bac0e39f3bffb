import Cascade.Proofs.Rule.CodeLines
import Cascade.Proofs.Rule.Tokens

/-!
# Rows of tokens

A line may end between any two tokens of a clause, so a row of a clause is not in order by itself: a
parenthesis may be opened in one row and closed in another, and the scan of a row begins as if it
stood at top level.  That does no harm.  A row of proper tokens counts for itself, whatever
parentheses it holds (`IsTokenRow.cutLine_eq`), because only the word `then` by itself could be a
hit; and the last row of a text that is in order ends at top level, because a scan that begins too
far outside is never too deep afterwards (`steps_last_row`).

The word `then` itself stands at the start of a row, or in a row behind conditions.  Behind
conditions it is seen when something follows it on its line (`flatMap_cutLine_rows_then`), and it is
not seen when the line ends there (`flatMap_cutLine_rows_hidden`).
-/

namespace Cascade

open Text (IsTrimmed isLineBreak isBlank isWord)

variable {s t row rest : List Char} {n : Nesting} {last : Option Char}

/-! ## Words at the start of a text -/

/-- A word of which a text holds only the beginning does not go on behind a space. -/
lemma after?_append_space {word : List Char} (hword : ' ' ∉ word) (s t : List Char) :
    Text.after? word (s ++ ' ' :: t) = (Text.after? word s).map (· ++ ' ' :: t) := by
  induction word generalizing s with
  | nil => simp [Text.after?]
  | cons w word ih =>
    rw [List.mem_cons, not_or] at hword
    cases s with
    | nil => simp [Text.after?, List.isPrefixOf, Ne.symm hword.1]
    | cons c s =>
      have hstep (text : List Char) : Text.after? (w :: word) (c :: text) =
          if w = c then Text.after? word text else none := by
        by_cases hc : w = c <;> simp [Text.after?, List.isPrefixOf, hc]
      rw [List.cons_append, hstep, hstep, ih hword.2]
      split <;> rfl

/-- A text that begins with a word standing by itself. -/
def BeginsWith (word text : List Char) : Prop :=
  ∃ tail, text = word ++ tail ∧ ∀ c ∈ tail.head?, isBlank c = true

lemma beginsWith_iff {word text : List Char} : BeginsWith word text ↔
    ∃ tail, Text.after? word text = some tail ∧ ∀ c ∈ tail.head?, isBlank c = true := by
  refine exists_congr fun tail => and_congr_left fun _ => ⟨?_, Text.eq_append_of_after?⟩
  rintro rfl
  exact Text.after?_append word tail

/-- Whether a text begins with a word does not depend on what stands behind a space. -/
lemma beginsWith_append_space {word : List Char} (hword : ' ' ∉ word) :
    BeginsWith word (s ++ ' ' :: t) ↔ BeginsWith word s := by
  have hhead (tail : List Char) : (∀ c ∈ (tail ++ ' ' :: t).head?, isBlank c = true) ↔
      ∀ c ∈ tail.head?, isBlank c = true := by
    cases tail with
    | nil => simp [Text.isBlank_of_mem_space]
    | cons c tail => rfl
  simp only [beginsWith_iff, after?_append_space hword, Option.map_eq_some_iff]
  constructor
  · rintro ⟨-, ⟨tail, htail, rfl⟩, hblank⟩
    exact ⟨tail, htail, (hhead tail).mp hblank⟩
  · rintro ⟨tail, htail, hblank⟩
    exact ⟨_, ⟨tail, htail, rfl⟩, (hhead tail).mpr hblank⟩

lemma space_notMem_openingWords : ∀ word ∈ openingWords, ' ' ∉ word := by decide

/-- A solid text holds no blank before its first quote. -/
lemma Solid.not_blank_behind {w tail : List Char} {c : Char} (hw : '"' ∉ w)
    (hc : isBlank c = true) : ¬ Solid (w ++ c :: tail) := by
  induction w with
  | nil =>
    intro h
    have hhead := h.not_isBlank_head c rfl
    rw [hc] at hhead
    cases hhead
  | cons d w ih =>
    rw [List.mem_cons, not_or] at hw
    intro h
    rw [List.cons_append] at h
    generalize htext : d :: (w ++ c :: tail) = text at h
    cases h with
    | nil => cases htext
    | plain _ _ hrest =>
      rw [← (List.cons.inj htext).2] at hrest
      exact ih hw.2 hrest
    | quoted _ _ => exact hw.1 (List.cons.inj htext).1.symm

/-- A proper token begins with no opening word. -/
lemma IsToken.not_beginsWith (h : IsToken t) : ∀ word ∈ openingWords, ¬ BeginsWith word t := by
  rintro word hword ⟨tail, rfl, htail⟩
  cases tail with
  | nil =>
    rw [List.append_nil] at h
    exact h.no_opening hword
  | cons c tail =>
    have hquote : ∀ word ∈ openingWords, '"' ∉ word := by decide
    exact Solid.not_blank_behind (hquote word hword) (htail c rfl) h.solid

lemma clause?_eq_none {keyword : String} (h : ¬ BeginsWith keyword.toList row) :
    clause? keyword row = none := by
  unfold clause?
  split
  · next hafter => exact absurd ⟨[], Text.eq_append_of_after? hafter, by simp⟩ h
  · next c rest hafter =>
    rw [if_neg]
    intro hc
    refine h ⟨c :: rest, Text.eq_append_of_after? hafter, fun d hd => ?_⟩
    rwa [← Option.some.inj hd]
  · rfl

lemma readHeader_eq_none_of_not_beginsWith (h : ¬ BeginsWith "rule".toList row) :
    readHeader row = none := by
  unfold readHeader
  split
  · next c rest hafter =>
    rw [if_neg]
    intro hc
    refine h ⟨c :: rest, Text.eq_append_of_after? hafter, fun d hd => ?_⟩
    rwa [← Option.some.inj hd]
  · rfl

lemma beginsWith_then_of_startsThen (h : startsThen t = true) : BeginsWith "then".toList t := by
  unfold startsThen at h
  split at h
  · next c rest hafter =>
    refine ⟨c :: rest, Text.eq_append_of_after? hafter, fun d hd => ?_⟩
    rwa [← Option.some.inj hd]
  · cases h

/-! ## The scan of a row -/

lemma Nesting.quoted_step {c : Char} (hc : c ≠ '"') : (n.step c).quoted = n.quoted := by
  unfold Nesting.step
  rw [if_neg hc]
  split
  · rfl
  · split
    · rfl
    · split <;> rfl

/-- Inside a solid text there is no space outside quotes, behind which a then-clause could begin. -/
lemma Solid.quiet_then (h : Solid t) (hn : n.quoted = false) (hfirst : ¬ ThenHit last (t ++ rest)) :
    Quiet ThenHit n last t rest := by
  induction h generalizing n last with
  | nil => trivial
  | @plain c t hquote hblank _ ih =>
    refine ⟨fun _ => hfirst, ih ((Nesting.quoted_step hquote).trans hn) fun hit => ?_⟩
    obtain rfl : c = ' ' := Option.some.inj hit.1
    cases hblank
  | @quoted v t hv _ ih =>
    obtain ⟨quoted, depth⟩ := n
    obtain rfl : quoted = false := hn
    have hinside : '"' ∉ v := fun hmem => (hv _ hmem).1 rfl
    refine ⟨fun _ => hfirst, ?_⟩
    show Quiet ThenHit ⟨true, depth⟩ _ _ _
    rw [quiet_append, steps_inside_quotes hinside]
    refine ⟨quiet_inside_quotes hinside _ _, fun htop => ?_, ih rfl fun hit => ?_⟩
    · simp [Nesting.isTopLevel] at htop
    · exact absurd (Option.some.inj hit.1) (by decide)

lemma Solid.quoted_steps (h : Solid t) (hn : n.quoted = false) : (n.steps t).quoted = false := by
  induction h generalizing n with
  | nil => exact hn
  | plain hquote _ _ ih => exact ih ((Nesting.quoted_step hquote).trans hn)
  | @quoted v t hv _ ih =>
    obtain ⟨quoted, depth⟩ := n
    obtain rfl : quoted = false := hn
    have hinside : '"' ∉ v := fun hmem => (hv _ hmem).1 rfl
    have hopen : (⟨false, depth⟩ : Nesting).step '"' = ⟨true, depth⟩ := rfl
    rw [Nesting.steps_cons, hopen, Nesting.steps_append, steps_inside_quotes hinside,
      Nesting.steps_cons]
    exact ih rfl

/-- A row that counts for itself wherever in a clause it stands. -/
structure IsTokenRow (row : List Char) : Prop where
  code : IsCode row
  no_opening : ∀ word ∈ openingWords, ¬ BeginsWith word row
  quiet : ∀ (n : Nesting) (last : Option Char) (rest : List Char), n.quoted = false →
    (∀ c ∈ rest.head?, c = ' ') → Quiet ThenHit n last row rest
  unquoted : ∀ n : Nesting, n.quoted = false → (n.steps row).quoted = false

lemma IsToken.isCode (h : IsToken t) : IsCode t :=
  ⟨h.nonempty, h.solid.isTrimmed, h.solid.unbroken, h.no_comment⟩

/-- A proper token is a row. -/
lemma IsToken.isTokenRow (h : IsToken t) : IsTokenRow t where
  code := h.isCode
  no_opening := h.not_beginsWith
  quiet n last rest hn hrest := by
    have hmem : "then".toList ∈ openingWords := by decide
    refine h.solid.quiet_then hn fun hit => h.not_beginsWith _ hmem ?_
    have hbegins := beginsWith_then_of_startsThen hit.2
    cases rest with
    | nil => rwa [List.append_nil] at hbegins
    | cons c rest =>
      obtain rfl := hrest c rfl
      exact (beginsWith_append_space (space_notMem_openingWords _ hmem)).mp hbegins
  unquoted _ := h.solid.quoted_steps

lemma quiet_then_space_cons : Quiet ThenHit n last (' ' :: t) rest ↔
    Quiet ThenHit (n.step ' ') (some ' ') t rest := by
  refine ⟨And.right, fun h => ⟨fun _ hit => ?_, h⟩⟩
  have hstart : startsThen (' ' :: (t ++ rest)) = true := hit.2
  cases hstart

lemma IsTokenRow.join (hs : IsTokenRow s) (ht : IsTokenRow t) : IsTokenRow (s ++ ' ' :: t) where
  code := hs.code.join ht.code
  no_opening word hword := by
    rw [beginsWith_append_space (space_notMem_openingWords word hword)]
    exact hs.no_opening word hword
  quiet n last rest hn hrest := by
    rw [quiet_append, quiet_then_space_cons]
    refine ⟨hs.quiet n last _ hn (by simp), ht.quiet _ _ rest ?_ hrest⟩
    exact (Nesting.quoted_step (by decide)).trans (hs.unquoted n hn)
  unquoted n hn := by
    rw [Nesting.steps_append, Nesting.steps_cons]
    exact ht.unquoted _ ((Nesting.quoted_step (by decide)).trans (hs.unquoted n hn))

namespace IsTokenRow

lemma clause?_then_eq_none (h : IsTokenRow row) : clause? "then" row = none :=
  clause?_eq_none (h.no_opening _ (by decide))

lemma readHeader_eq_none (h : IsTokenRow row) : readHeader row = none :=
  readHeader_eq_none_of_not_beginsWith (h.no_opening _ (by decide))

lemma quiet_alone (h : IsTokenRow row) (last : Option Char) : Quiet ThenHit .outside last row [] :=
  h.quiet .outside last [] rfl (by simp)

/-- A row of proper tokens counts for itself. -/
lemma cutLine_eq (h : IsTokenRow row) : cutLine row = [row] :=
  cutLine_of_quiet h.code.nonempty h.readHeader_eq_none (h.quiet_alone none)

end IsTokenRow

/-! ## The last row of a text in order -/

/-- A scan that begins in fewer parentheses ends in no more, and quotes are the same for both. -/
lemma Nesting.steps_le {m : Nesting} (hquoted : m.quoted = n.quoted) (hdepth : m.depth ≤ n.depth)
    (t : List Char) :
    (m.steps t).quoted = (n.steps t).quoted ∧ (m.steps t).depth ≤ (n.steps t).depth := by
  induction t generalizing m n with
  | nil => exact ⟨hquoted, hdepth⟩
  | cons c t ih =>
    have hstep : (m.step c).quoted = (n.step c).quoted ∧ (m.step c).depth ≤ (n.step c).depth := by
      unfold Nesting.step
      rw [hquoted]
      split
      · exact ⟨rfl, hdepth⟩
      · split
        · exact ⟨hquoted, hdepth⟩
        · split
          · exact ⟨rfl, Nat.add_le_add_right hdepth 1⟩
          · split
            · exact ⟨rfl, Nat.sub_le_sub_right hdepth 1⟩
            · exact ⟨hquoted, hdepth⟩
    exact ih hstep.1 hstep.2

/-- If rows end at top level, a scan of the last row alone ends there too. -/
lemma steps_last_row {front : List (List Char)} {last : List Char}
    (hfront : ∀ row ∈ front, IsTokenRow row) (hn : n.quoted = false)
    (h : n.steps (Text.joinWith [' '] (front ++ [last])) = .outside) :
    Nesting.outside.steps last = .outside := by
  induction front generalizing n with
  | nil =>
    have hlast : n.steps last = .outside := h
    have hle := Nesting.steps_le (m := .outside) (n := n) hn.symm (Nat.zero_le _) last
    rw [hlast] at hle
    exact congrArg₂ Nesting.mk hle.1 (Nat.le_zero.mp hle.2)
  | cons row front ih =>
    have hrow : IsTokenRow row := hfront row List.mem_cons_self
    have hne : front ++ [last] ≠ [] := by simp
    rw [List.cons_append, Text.joinWith_cons_of_ne_nil hne, List.append_assoc, Nesting.steps_append,
      Nesting.steps_append] at h
    have hspace : ((n.steps row).step ' ').quoted = false :=
      (Nesting.quoted_step (by decide)).trans (hrow.unquoted n hn)
    exact ih (fun r hr => hfront r (List.mem_cons_of_mem row hr)) hspace h

/-! ## The word `then` -/

variable {gap : Nat → Gap} {piece : List Char} {pieces more : List (List Char)}

lemma isTokenRow_rows (h : ∀ piece ∈ pieces, IsToken piece) :
    ∀ row ∈ rows gap pieces, IsTokenRow row :=
  forall_mem_rows (fun piece hpiece => (h piece hpiece).isTokenRow) fun _ _ => IsTokenRow.join

/-- The rows of a then-clause count for themselves. -/
lemma flatMap_cutLine_thenRows (gap : Nat → Gap) (h : ∀ token ∈ more, IsToken token) :
    (rows gap ("then".toList :: more)).flatMap cutLine = rows gap ("then".toList :: more) := by
  have hrows : ∀ row ∈ rows (fun n => gap (n + 1)) more, IsTokenRow row := isTokenRow_rows h
  have hthen : cutLine "then".toList = ["then".toList] := by decide
  apply flatMap_cutLine_eq_self
  rw [rows]
  cases hmore : rows (fun n => gap (n + 1)) more with
  | nil => cases gap 0 <;> exact List.forall_mem_singleton.mpr hthen
  | cons row rest =>
    rw [hmore, List.forall_mem_cons] at hrows
    have hrest : ∀ r ∈ rest, cutLine r = [r] := fun r hr => (hrows.2 r hr).cutLine_eq
    cases gap 0 with
    | newline =>
      exact List.forall_mem_cons.mpr ⟨hthen, List.forall_mem_cons.mpr ⟨hrows.1.cutLine_eq, hrest⟩⟩
    | space => exact List.forall_mem_cons.mpr ⟨cutLine_then (hrows.1.quiet_alone _), hrest⟩

/-- Where something follows the word `then` on its line, or the word begins a line, the rows of the
conditions and those of the actions are the lines that count. -/
lemma flatMap_cutLine_rows_then (hpieces : ∀ token ∈ piece :: pieces, IsToken token)
    (hmore : ∀ token ∈ more, IsToken token) (hne : more ≠ [])
    (hclosed : Nesting.outside.steps (Text.joinWith [' '] (piece :: pieces)) = .outside)
    (hseen : ¬ (gap pieces.length = .space ∧ gap (pieces.length + 1) = .newline)) :
    (rows gap (piece :: pieces ++ "then".toList :: more)).flatMap cutLine =
      rows gap (piece :: pieces) ++
        rows (fun n => gap (n + (pieces.length + 1))) ("then".toList :: more) := by
  have hrows : ∀ row ∈ rows gap (piece :: pieces), IsTokenRow row := isTokenRow_rows hpieces
  have hself : ∀ l : List (List Char), (∀ row ∈ l, IsTokenRow row) → l.flatMap cutLine = l :=
    fun l hl => flatMap_cutLine_eq_self fun row hrow => (hl row hrow).cutLine_eq
  have hthen := flatMap_cutLine_thenRows (fun n => gap (n + (pieces.length + 1))) hmore
  cases hgap : gap pieces.length with
  | newline => rw [rows_append_of_newline piece hgap, List.flatMap_append, hself _ hrows, hthen]
  | space =>
    have hnext : gap (0 + (pieces.length + 1)) = .space := by
      rw [Nat.zero_add]
      cases hg : gap (pieces.length + 1) with
      | newline => exact absurd ⟨hgap, hg⟩ hseen
      | space => rfl
    obtain ⟨front, last, first, rest, hfront, hfirst, hall⟩ :=
      rows_append_of_space piece hgap (List.cons_ne_nil "then".toList more)
    -- something follows the word `then` on its line
    have hne' : rows (fun n => gap (n + 1 + (pieces.length + 1))) more ≠ [] :=
      rows_eq_nil_iff.not.mpr hne
    obtain ⟨r, rest', hr⟩ := List.exists_cons_of_ne_nil hne'
    rw [rows, hnext, hr, Gap.weld, List.cons.injEq] at hfirst
    obtain ⟨rfl, rfl⟩ := hfirst
    have hactions : ∀ row ∈ r :: rest', IsTokenRow row := hr ▸ isTokenRow_rows hmore
    rw [hfront] at hrows
    have hlast : IsTokenRow last := hrows last (List.mem_append_right front List.mem_cons_self)
    have hinit : ∀ row ∈ front, IsTokenRow row := fun row hrow =>
      hrows row (List.mem_append_left [last] hrow)
    have hsteps : Nesting.outside.steps last = .outside := by
      rw [← joinWith_rows, hfront] at hclosed
      exact steps_last_row (n := .outside) hinit rfl hclosed
    have hspace : ' ' :: ("then".toList ++ ' ' :: r) = ' ' :: ("then ".toList ++ r) := rfl
    have hcut : cutLine (last ++ ' ' :: ("then".toList ++ ' ' :: r)) =
        [last, "then ".toList ++ r] := by
      rw [hspace]
      refine cutLine_row_then hlast.code hsteps ?_ ?_
      · refine readHeader_eq_none_of_not_beginsWith ?_
        rw [beginsWith_append_space (by decide)]
        exact hlast.no_opening _ (by decide)
      · rw [quiet_append, quiet_then_space_cons]
        exact ⟨hlast.quiet .outside none _ rfl (by simp), trivial⟩
    have hrest : rest'.flatMap cutLine = rest' := hself rest' fun row hrow =>
      hactions row (List.mem_cons_of_mem r hrow)
    rw [hall, List.flatMap_append, hself front hinit, List.flatMap_cons, hcut, hrest, hfront, rows,
      hnext, hr, Gap.weld]
    simp

/-- Where the word `then` stands behind conditions and ends its line, no line opens a
then-clause. -/
lemma flatMap_cutLine_rows_hidden (hpieces : ∀ token ∈ piece :: pieces, IsToken token)
    (hmore : ∀ token ∈ more, IsToken token) (hspace : gap pieces.length = .space)
    (hnewline : gap (pieces.length + 1) = .newline) :
    (rows gap (piece :: pieces ++ "then".toList :: more)).flatMap cutLine =
        rows gap (piece :: pieces ++ "then".toList :: more) ∧
      ∀ row ∈ rows gap (piece :: pieces ++ "then".toList :: more), clause? "then" row = none := by
  have hrows : ∀ row ∈ rows gap (piece :: pieces), IsTokenRow row := isTokenRow_rows hpieces
  obtain ⟨front, last, first, rest, hfront, hfirst, hall⟩ :=
    rows_append_of_space piece hspace (List.cons_ne_nil "then".toList more)
  have hnext : gap (0 + (pieces.length + 1)) = .newline := by rw [Nat.zero_add, hnewline]
  rw [rows, hnext] at hfirst
  obtain ⟨rfl, hrest⟩ : "then".toList = first ∧
      rows (fun n => gap (n + 1 + (pieces.length + 1))) more = rest := List.cons.inj hfirst
  have hactions : ∀ row ∈ rest, IsTokenRow row := hrest ▸ isTokenRow_rows hmore
  rw [hfront] at hrows
  have hlast : IsTokenRow last := hrows last (List.mem_append_right front List.mem_cons_self)
  have hinit : ∀ row ∈ front, IsTokenRow row := fun row hrow =>
    hrows row (List.mem_append_left [last] hrow)
  -- the row that ends with the word `then` begins with a token of the conditions
  have hopening : ∀ word ∈ openingWords, ¬ BeginsWith word (last ++ ' ' :: "then".toList) := by
    intro word hword
    rw [beginsWith_append_space (space_notMem_openingWords word hword)]
    exact hlast.no_opening word hword
  have hquiet : Quiet ThenHit .outside none (last ++ ' ' :: "then".toList) [] := by
    have hsolid : Solid "then".toList := solid_of_all (by decide)
    have hquoted : ((Nesting.outside.steps last).step ' ').quoted = false :=
      (Nesting.quoted_step (by decide)).trans (hlast.unquoted .outside rfl)
    rw [quiet_append, quiet_then_space_cons]
    refine ⟨hlast.quiet .outside none _ rfl (by simp), hsolid.quiet_then hquoted fun hit => ?_⟩
    have hstart : startsThen "then".toList = true := hit.2
    exact absurd hstart (by decide)
  have hcut : cutLine (last ++ ' ' :: "then".toList) = [last ++ ' ' :: "then".toList] :=
    cutLine_of_quiet (by simp)
      (readHeader_eq_none_of_not_beginsWith (hopening _ (by decide))) hquiet
  rw [hall]
  constructor
  · refine flatMap_cutLine_eq_self
      (List.forall_mem_append.mpr ⟨?_, List.forall_mem_cons.mpr ⟨hcut, ?_⟩⟩)
    · exact fun row hrow => (hinit row hrow).cutLine_eq
    · exact fun row hrow => (hactions row hrow).cutLine_eq
  · refine List.forall_mem_append.mpr ⟨?_, List.forall_mem_cons.mpr ⟨?_, ?_⟩⟩
    · exact fun row hrow => (hinit row hrow).clause?_then_eq_none
    · exact clause?_eq_none (hopening _ (by decide))
    · exact fun row hrow => (hactions row hrow).clause?_then_eq_none

end Cascade
