import Mathlib.Data.List.Chain
import Mathlib.Data.List.Infix
import Cascade.Proofs.Rule.Rejections
import Cascade.Proofs.Rule.SourceLines

/-!
# Where a syntax error is said to be

A syntax error shows a text and the number of a line.  The number is that of a line of the file, and
mostly the text begins on that line (`SyntaxError.PointsInto`).  A clause of a rule may run over
several lines, though.  These are joined before they are read, and the clause is read under the
number of its first line: then the text that is shown may begin on any line of the clause
(`beginsOn_of_infix_joinWith`), and the number is still that of the first one
(`SyntaxError.StandsBelow`).

That nothing else happens is the main result, `readRules_error_placed`.  What is shown is a part of
the clause (`showsPart_readConditions`, `showsPart_readActions`), and the first line of a clause
goes on to the end of its physical line, unless that is cut once more behind it
(`isChain_significantLinesFrom`).
-/

namespace Cascade

/-! ## Texts that begin on a line -/

/-- A text begins on a line: it stands there, or a beginning of it stands at the end. -/
def BeginsOn (shown line : List Char) : Prop :=
  shown <:+: line ∨ ∃ begun, begun ≠ [] ∧ begun <+: shown ∧ begun <:+ line

lemma BeginsOn.of_suffix {shown line whole : List Char} (h : BeginsOn shown line)
    (hline : line <:+ whole) : BeginsOn shown whole := by
  rcases h with h | ⟨begun, hne, hprefix, hsuffix⟩
  · exact .inl (h.trans hline.isInfix)
  · exact .inr ⟨begun, hne, hprefix, hsuffix.trans hline⟩

/-- What stands in two texts with a space between them, and does not begin with it, begins on the
first or stands in the second. -/
lemma beginsOn_or_infix {shown s t : List Char} (htrim : Text.IsTrimmed shown)
    (h : shown <:+: s ++ ' ' :: t) : BeginsOn shown s ∨ shown <:+: t := by
  have hspace {rest : List Char} : shown ≠ ' ' :: rest := by
    intro hshown
    have hblank : Text.isBlank ' ' = false := htrim.1 ' ' (by rw [hshown]; rfl)
    exact absurd hblank (by decide)
  obtain ⟨before, after, h⟩ := h
  rcases List.append_eq_append_iff.mp h with ⟨rest, hs, -⟩ | ⟨rest, hfront, hback⟩
  · exact .inl (.inl ⟨before, rest, hs.symm⟩)
  · cases rest with
    | nil =>
      rw [List.append_nil] at hfront
      exact .inl (.inl ⟨before, [], by rw [← hfront, List.append_nil]⟩)
    | cons c rest =>
      obtain ⟨rfl, ht⟩ := List.cons.inj hback
      rcases List.append_eq_append_iff.mp hfront with ⟨begun, hs, hshown⟩ | ⟨gap, -, hgap⟩
      · -- the space lies within the text, or in front of it
        have hne : begun ≠ [] := by
          rintro rfl
          exact hspace hshown
        exact .inl (.inr ⟨begun, hne, ⟨_, hshown.symm⟩, ⟨before, hs.symm⟩⟩)
      · cases gap with
        | nil => exact absurd hgap.symm hspace
        | cons d gap =>
          obtain ⟨-, hrest⟩ := List.cons.inj hgap
          exact .inr ⟨gap, after, by rw [ht, hrest]; rfl⟩

/-- What stands in lines joined by spaces begins on one of them. -/
lemma beginsOn_of_infix_joinWith {shown first : List Char} {more : List (List Char)}
    (htrim : Text.IsTrimmed shown) (h : shown <:+: Text.joinWith [' '] (first :: more)) :
    ∃ line ∈ first :: more, BeginsOn shown line := by
  induction more generalizing first with
  | nil => exact ⟨first, List.mem_cons_self, .inl h⟩
  | cons second more ih =>
    rw [Text.joinWith_cons_cons, List.append_assoc, List.singleton_append] at h
    rcases beginsOn_or_infix htrim h with hfirst | hrest
    · exact ⟨first, List.mem_cons_self, hfirst⟩
    · obtain ⟨line, hline, hbegins⟩ := ih hrest
      exact ⟨line, List.mem_cons_of_mem first hline, hbegins⟩

/-! ## Lines that count and physical lines -/

/-- A line that counts goes on to the end of its physical line, or the next line is cut from the
same physical line. -/
def EndsOrGoesOn (physical : Nat → Option (List Char)) (line next : SourceLine) : Prop :=
  next.number = line.number ∨
    ∃ whole, physical line.number = some whole ∧ line.text <:+ Text.trim whole

lemma isChain_significantLinesFrom {physical : Nat → Option (List Char)} {number : Nat}
    {ls : List (List Char)} (h : ∀ i l, ls[i]? = some l → physical (number + i) = some l) :
    (significantLinesFrom number ls).IsChain (EndsOrGoesOn physical) := by
  induction ls generalizing number with
  | nil => exact .nil
  | cons l ls ih =>
    have hrest : (significantLinesFrom (number + 1) ls).IsChain (EndsOrGoesOn physical) := by
      refine ih fun i m hm => ?_
      rw [Nat.add_assoc, Nat.add_comm 1]
      exact h (i + 1) m hm
    rw [significantLinesFrom]
    rcases areCutFrom_linesOf number l with hnone | ⟨pieces, hcut, hpieces⟩
    · rw [hnone]
      exact hrest
    · obtain ⟨init, final, rfl, -, hfinal⟩ := hcut.last
      rw [hpieces]
      refine List.isChain_append.mpr ⟨?_, hrest, fun line hline next _ => ?_⟩
      · exact List.Pairwise.isChain
          (List.pairwise_map.mpr (List.pairwise_of_forall fun _ _ => .inl rfl))
      · obtain rfl : line = ⟨number, final⟩ := by simpa using hline.symm
        exact .inr ⟨l, h 0 l rfl, hfinal⟩

/-! ## The clauses of a block -/

/-- Lines of a block that hold a clause: `start` stands behind the word that opens it, on the line
`first`, and the clause goes on over the lines `more`. -/
inductive Block.HasClause (block : Block) (first : SourceLine) (start : List Char)
    (more : List SourceLine) : Prop
  | conditions {thenLine : SourceLine} {rest : List SourceLine} :
      block.body = first :: (more ++ thenLine :: rest) → clause? "when" first.text = some start →
      block.HasClause first start more
  | actions {whenLine : SourceLine} {before : List SourceLine} :
      block.body = whenLine :: (before ++ first :: more) → clause? "then" first.text = some start →
      block.HasClause first start more

variable {block : Block} {first : SourceLine} {start : List Char} {more : List SourceLine}

lemma Block.HasClause.infix_body (h : block.HasClause first start more) :
    first :: more <:+: block.body := by
  cases h with
  | @conditions thenLine rest hbody =>
    exact ⟨[], thenLine :: rest, by rw [hbody]; simp⟩
  | @actions whenLine before hbody =>
    exact ⟨whenLine :: before, [], by rw [hbody]; simp⟩

lemma Block.HasClause.start_suffix (h : block.HasClause first start more) :
    start <:+ first.text := by
  cases h with
  | conditions _ hstart => exact clause?_suffix hstart
  | actions _ hstart => exact clause?_suffix hstart

lemma infix_of_mem_splitBlocks {lines : List SourceLine} (h : block ∈ (splitBlocks lines).2) :
    block.header :: block.body <:+: lines := by
  obtain ⟨before, after, hblocks⟩ := List.append_of_mem h
  refine ⟨(splitBlocks lines).1 ++ before.flatMap fun b => b.header :: b.body,
    after.flatMap fun b => b.header :: b.body, ?_⟩
  conv_rhs => rw [← splitBlocks_lines lines, hblocks]
  simp

/-! ## Where readings are rejected -/

/-- An error shows a line under its number, or a part of a clause under the number of the line that
opens it. -/
inductive SyntaxError.Concerns (lines : List SourceLine) (blocks : List Block)
    (e : SyntaxError) : Prop
  | line {line : SourceLine} : line ∈ lines → e.number = line.number → e.text.toList = line.text →
      e.Concerns lines blocks
  | clause {block : Block} {first : SourceLine} {start : List Char} {more : List SourceLine} :
      block ∈ blocks → block.HasClause first start more → e.number = first.number →
      IsPart e.text.toList (joinClause start more) → e.Concerns lines blocks

open SyntaxError (Concerns ShowsPart)

variable {strict : Bool} {lines : List SourceLine} {blocks : List Block}

lemma concerns_rejectLine {α : Type} (fault : SyntaxFault) {line : SourceLine} (h : line ∈ lines) :
    RejectsOnly (Concerns lines blocks) (rejectLine fault line : Read α) :=
  .rejected (.line h rfl String.toList_ofList)

/-- An error in a clause concerns the block of the clause. -/
lemma concerns_of_showsPart {r : Reading} (hblock : block ∈ blocks)
    (hclause : block.HasClause first start more) (hnumber : r.number = first.number)
    (e : SyntaxError) (h : ShowsPart r (joinClause start more) e) : e.Concerns lines blocks :=
  .clause hblock hclause (h.1.trans hnumber) h.2

lemma concerns_readBlock {next : Option SourceLine} (hblock : block ∈ blocks)
    (hlines : ∀ line ∈ block.header :: block.body, line ∈ lines)
    (hnext : ∀ line ∈ next, line ∈ lines) :
    RejectsOnly (Concerns lines blocks) (readBlock strict next block) := by
  have hheader : block.header ∈ lines := hlines _ List.mem_cons_self
  have hgetD {line : SourceLine} (hline : line ∈ lines) : next.getD line ∈ lines := by
    cases next with
    | none => exact hline
    | some follower => exact hnext follower rfl
  unfold readBlock
  split
  · exact concerns_rejectLine _ hheader
  · dsimp only
    split
    · exact concerns_rejectLine _ (hgetD hheader)
    · next whenLine rest hbody =>
      have hline (line) (hline : line ∈ whenLine :: rest) : line ∈ lines :=
        hlines line (List.mem_cons_of_mem _ (by rwa [hbody]))
      have hwhenLine : whenLine ∈ lines := hline _ List.mem_cons_self
      split
      · exact concerns_rejectLine _ hwhenLine
      · next start hwhen =>
        have hsplit := List.takeWhile_append_dropWhile
          (p := fun line : SourceLine => !(clause? "then" line.text).isSome) (l := rest)
        split
        · refine concerns_rejectLine _ (hgetD ?_)
          cases hlast : rest.getLast? with
          | none => exact hwhenLine
          | some line => exact hline line (List.mem_cons_of_mem _ (List.mem_of_getLast? hlast))
        · next thenLine actionLines hdrop =>
          rw [hdrop] at hsplit
          have hthenLine : thenLine ∈ lines := hline _ (by rw [← hsplit]; simp)
          -- the first line that is not passed over is one that opens the actions
          have hthen : (clause? "then" thenLine.text).isSome := by
            have hstop := List.head?_dropWhile_not
              (fun line : SourceLine => !(clause? "then" line.text).isSome) rest
            rw [hdrop] at hstop
            simpa using hstop
          obtain ⟨startActions, hstart⟩ := Option.isSome_iff_exists.mp hthen
          rw [hstart, Option.getD_some]
          refine ((showsPart_readConditions _).mono (concerns_of_showsPart hblock
            (.conditions (by rw [hbody, hsplit]) hwhen) rfl)).bind fun guards _ => ?_
          split
          · exact concerns_rejectLine _ hwhenLine
          · refine ((showsPart_readActions _).mono (concerns_of_showsPart hblock
              (.actions (by rw [hbody, ← hsplit]) hstart) rfl)).bind fun actions _ => ?_
            split
            · exact concerns_rejectLine _ hthenLine
            · exact .pure _

lemma concerns_readBlocks {rest : List Block} (hblocks : ∀ block ∈ rest, block ∈ blocks)
    (hlines : ∀ block ∈ rest, ∀ line ∈ block.header :: block.body, line ∈ lines) :
    RejectsOnly (Concerns lines blocks) (readBlocks strict rest) := by
  induction rest with
  | nil => exact .pure []
  | cons block rest ih =>
    have hrest := ih (fun b hb => hblocks b (List.mem_cons_of_mem block hb))
      fun b hb => hlines b (List.mem_cons_of_mem block hb)
    refine (concerns_readBlock (hblocks block List.mem_cons_self)
      (hlines block List.mem_cons_self) fun line hline => ?_).bind fun rule _ => ?_
    · -- the line behind the block is the header of the next one
      obtain ⟨follower, hhead, rfl⟩ := Option.map_eq_some_iff.mp hline
      exact hlines follower (List.mem_cons_of_mem block (List.mem_of_head? hhead)) _
        List.mem_cons_self
    · exact hrest.bind fun rules _ => .pure _

lemma concerns_skipStray {stray : List SourceLine} (h : ∀ line ∈ stray, line ∈ lines) :
    RejectsOnly (Concerns lines blocks) (skipStray strict stray) := by
  induction stray with
  | nil => exact .pure ()
  | cons line stray ih =>
    rw [skipStray]
    split
    · exact concerns_rejectLine _ (h line List.mem_cons_self)
    · have hnote : RejectsOnly (Concerns lines blocks)
          (Logged.note (.skippedLine line.number (String.ofList line.text)) : Read Unit) :=
        .of_ok rfl
      exact hnote.bind fun _ _ => ih fun l hl => h l (List.mem_cons_of_mem line hl)

/-- The errors of a file concern its lines and its blocks. -/
lemma concerns_readLines (lines : List SourceLine) :
    RejectsOnly (Concerns lines (splitBlocks lines).2) (readLines strict lines) := by
  have hstray (line) (h : line ∈ (splitBlocks lines).1) : line ∈ lines := by
    rw [← splitBlocks_lines lines]
    exact List.mem_append_left _ h
  unfold readLines
  refine (concerns_skipStray hstray).bind fun _ _ => concerns_readBlocks (fun _ hb => hb) ?_
  exact fun block hblock line hline => (infix_of_mem_splitBlocks hblock).subset hline

/-! ## Where errors are said to be -/

/-- The number of an error is that of a line of the text, counted from one, and the text that it
shows begins on that line: it occurs there, or a beginning of it ends the line but for white
space. -/
def SyntaxError.PointsInto (text : String) (e : SyntaxError) : Prop :=
  ∃ line ∈ (Text.lines text.toList)[e.number.toNat - 1]?, 1 ≤ e.number ∧
    (e.text.toList <:+: line ∨
      ∃ begun ∈ e.text.toList.inits, begun ≠ [] ∧ begun <:+ Text.trim line)

instance (text : String) (e : SyntaxError) : Decidable (e.PointsInto text) :=
  inferInstanceAs (Decidable (∃ line ∈ (Text.lines text.toList)[e.number.toNat - 1]?, 1 ≤ e.number ∧
    (e.text.toList <:+: line ∨
      ∃ begun ∈ e.text.toList.inits, begun ≠ [] ∧ begun <:+ Text.trim line)))

/-- The number of an error is that of the line that opens a clause of several lines, and the text
that it shows begins on one behind it, or on the first one where that is not all of its physical
line. -/
def SyntaxError.StandsBelow (text : String) (e : SyntaxError) : Prop :=
  ∃ block ∈ (splitBlocks (significantLines text.toList)).2, ∃ first start more,
    block.HasClause first start more ∧ e.number = first.number ∧
      ((∃ line ∈ more, BeginsOn e.text.toList line.text) ∨
        BeginsOn e.text.toList first.text ∧ ∃ next ∈ more.head?, next.number = first.number)

variable {text : String} {e : SyntaxError}

/-- A line that counts stands in the physical line with its number. -/
lemma exists_of_mem_significantLines {line : SourceLine} (h : line ∈ significantLines text.toList) :
    ∃ whole, (Text.lines text.toList)[line.number - 1]? = some whole ∧ 1 ≤ line.number ∧
      line.text <:+: whole := by
  obtain ⟨index, whole, hwhole, hnumber, htext⟩ := exists_of_mem_significantLinesFrom h
  have hindex : line.number - 1 = index := by omega
  rw [hindex]
  exact ⟨whole, hwhole, by omega, htext⟩

lemma pointsInto_of_isInfix {line : SourceLine} (hline : line ∈ significantLines text.toList)
    (hnumber : e.number = line.number) (h : e.text.toList <:+: line.text) : e.PointsInto text := by
  obtain ⟨whole, hwhole, hpos, htext⟩ := exists_of_mem_significantLines hline
  rw [SyntaxError.PointsInto, hnumber, Int.toNat_natCast]
  exact ⟨whole, hwhole, by omega, .inl (h.trans htext)⟩

/-- An error that shows a part of a clause under the number of its first line points into that line
or stands below it. -/
lemma pointsInto_or_standsBelow {lines : List SourceLine}
    (hlines : lines = significantLines text.toList)
    (hblock : block ∈ (splitBlocks lines).2) (hclause : block.HasClause first start more)
    (hnumber : e.number = first.number) (hpart : IsPart e.text.toList (joinClause start more)) :
    e.PointsInto text ∨ e.StandsBelow text := by
  subst hlines
  have hwithin : first :: more <:+: significantLines text.toList :=
    hclause.infix_body.trans
      ((List.suffix_cons _ _).isInfix.trans (infix_of_mem_splitBlocks hblock))
  have hfirst : first ∈ significantLines text.toList := hwithin.subset List.mem_cons_self
  obtain ⟨line, hline, hbegins⟩ :=
    beginsOn_of_infix_joinWith hpart.2 (hpart.1.trans (Text.trim_isInfix _))
  rcases List.mem_cons.mp hline with rfl | hline
  · -- on the first line: it stands there, or it goes on beyond the end
    have hon := hbegins.of_suffix hclause.start_suffix
    rcases hon with hstands | ⟨begun, hne, hprefix, hsuffix⟩
    · exact .inl (pointsInto_of_isInfix hfirst hnumber hstands)
    · cases more with
      | nil =>
        have hstands : e.text.toList <:+: first.text :=
          hpart.1.trans ((Text.trim_isInfix _).trans hclause.start_suffix.isInfix)
        exact .inl (pointsInto_of_isInfix hfirst hnumber hstands)
      | cons next more =>
        have hchain : (significantLines text.toList).IsChain
            (EndsOrGoesOn fun n => (Text.lines text.toList)[n - 1]?) :=
          isChain_significantLinesFrom fun i l hl => by rwa [Nat.add_sub_cancel_left]
        have hclauseChain := List.IsChain.infix hchain hwithin
        rcases (List.isChain_cons_cons.mp hclauseChain).1 with hsame | ⟨whole, hwhole, hend⟩
        · exact .inr ⟨block, hblock, first, _, _, hclause, hnumber,
            .inr ⟨.inr ⟨begun, hne, hprefix, hsuffix⟩, next, rfl, hsame⟩⟩
        · left
          obtain ⟨-, -, hpos, -⟩ := exists_of_mem_significantLines hfirst
          rw [SyntaxError.PointsInto, hnumber, Int.toNat_natCast]
          exact ⟨whole, hwhole, by omega,
            .inr ⟨begun, (List.mem_inits _ _).mpr hprefix, hne, hsuffix.trans hend⟩⟩
  · obtain ⟨below, hbelow, rfl⟩ := List.mem_map.mp hline
    exact .inr ⟨block, hblock, first, start, more, hclause, hnumber, .inl ⟨below, hbelow, hbegins⟩⟩

/-- **Where a syntax error is said to be.**  In either mode, if a text is rejected with a syntax
error, the number of the error is that of a line of the text, and the text that is shown begins on
that line, or else it stands in a clause that goes on below: then the number is that of the line
with the word `when` or `then`, on whatever line of the clause the text begins. -/
theorem readRules_error_placed (strict : Bool) (text : String) (e : SyntaxError)
    (h : (readRules strict text).result = .error (.rejected e)) :
    (1 ≤ e.number ∧ e.number ≤ (Text.lines text.toList).length) ∧
      (e.PointsInto text ∨ e.StandsBelow text) := by
  have hnumbered {line : SourceLine} (hline : line ∈ significantLines text.toList)
      (hnumber : e.number = line.number) :
      1 ≤ e.number ∧ e.number ≤ (Text.lines text.toList).length := by
    obtain ⟨whole, hwhole, hpos, -⟩ := exists_of_mem_significantLines hline
    obtain ⟨hindex, -⟩ := List.getElem?_eq_some_iff.mp hwhole
    omega
  cases concerns_readLines (significantLines text.toList) e h with
  | line hline hnumber htext =>
    exact ⟨hnumbered hline hnumber,
      .inl (pointsInto_of_isInfix hline hnumber (htext ▸ List.infix_rfl))⟩
  | @clause block first start more hblock hclause hnumber hpart =>
    have hfirst : first ∈ block.header :: block.body :=
      List.mem_cons_of_mem _ (hclause.infix_body.subset List.mem_cons_self)
    exact ⟨hnumbered ((infix_of_mem_splitBlocks hblock).subset hfirst) hnumber,
      pointsInto_or_standsBelow rfl hblock hclause hnumber hpart⟩

/-- A condition without operator on a line of its own is reported under the number of the line with
the word `when`, on which no part of it stands.  Where a line has the word `then` twice, the actions
are put together again with a single space between them, so that a part of them need not stand on
the line as it is shown. -/
theorem fault_on_second_line_placed_on_first :
    let text := "rule \"close\":\n  when me.State is \"Done\"\n    and urgent\n" ++
      "  then set parent.State = \"Done\""
    let twice := "rule \"close\":\nwhen me.State is \"Done\"\n" ++
      "then set me.Title = a  then set me.State = \"X\""
    let urgent : SyntaxError := ⟨.unrecognised .condition, 2, "urgent"⟩
    let joined : SyntaxError := ⟨.invalidOperand, 3, "a then"⟩
    ((readRules true text).result = .error (.rejected urgent) ∧ ¬ urgent.PointsInto text ∧
        urgent.StandsBelow text) ∧
      (readRules true twice).result = .error (.rejected joined) ∧ ¬ joined.PointsInto twice ∧
        joined.StandsBelow twice := by
  intro text twice urgent joined
  have hurgent : (readRules true text).result = .error (.rejected urgent) := by decide +kernel
  have hjoined : (readRules true twice).result = .error (.rejected joined) := by decide +kernel
  have hbelow : ¬ urgent.PointsInto text := by decide +kernel
  have hcut : ¬ joined.PointsInto twice := by decide +kernel
  obtain ⟨-, hplaced⟩ := readRules_error_placed true text urgent hurgent
  obtain ⟨-, hplaced'⟩ := readRules_error_placed true twice joined hjoined
  exact ⟨⟨hurgent, hbelow, hplaced.resolve_left hbelow⟩, hjoined, hcut, hplaced'.resolve_left hcut⟩

end Cascade
