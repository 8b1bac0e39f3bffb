import Cascade.Proofs.Rule.Layout
import Cascade.Proofs.Rule.SourceLines

/-!
# Blank lines, comments and indentation

Blank lines and comments may be put between the lines of a rule file, and white space may be put
before and behind them or taken away: nothing is read differently, whether the file is in order or
not.  A `Respacing` says what was done to a file, line by line, and so knows where each of its lines
has gone to (`getElem?_index`).

The lines that count are the same with other numbers (`significantLinesFrom_respaced`), and numbers
are carried along (`readLines_renumber`).  So the same rules are read, the same text is at fault for
the same reason and the same notices are made, only under the numbers that the lines have now; this
is `readRules_respaced`.
-/

namespace Cascade

/-- A line of a file, without the boundary that ends it. -/
structure PhysicalLine where
  text : List Char
  unbroken : ∀ c ∈ text, Text.isLineBreak c = false

/-- A line that counts for nothing, as a line of a file. -/
def IdleLine.line (idle : IdleLine) : PhysicalLine := ⟨idle.text, idle.unbroken⟩

/-- The file with these lines. -/
def fileOf (ls : List PhysicalLine) : String :=
  String.ofList (Text.joinWith ['\n'] (ls.map PhysicalLine.text))

/-- How the lines of one file have become those of another. -/
inductive Respacing : List PhysicalLine → List PhysicalLine → Type
  | done : Respacing [] []
  /-- A blank line or a comment has been put in. -/
  | insert {ls ms : List PhysicalLine} (idle : IdleLine) (rest : Respacing ls ms) :
      Respacing ls (idle.line :: ms)
  /-- A line has been kept but for the white space at its ends. -/
  | keep {ls ms : List PhysicalLine} (l m : PhysicalLine)
      (same : Text.trim m.text = Text.trim l.text)
      (rest : Respacing ls ms) : Respacing (l :: ls) (m :: ms)

namespace Respacing

variable {ls ms : List PhysicalLine}

/-- Where a line of the first file is in the second one; lines are counted from zero. -/
def index {ls ms : List PhysicalLine} : Respacing ls ms → Nat → Nat
  | done, n => n
  | insert _ rest, n => rest.index n + 1
  | keep _ _ _ _, 0 => 0
  | keep _ _ _ rest, n + 1 => rest.index n + 1

/-- The number that a line of the first file has in the second one; numbers begin at one. -/
def number (ρ : Respacing ls ms) (n : Nat) : Nat := ρ.index (n - 1) + 1

/-- A line of the first file is in the second one, but for the white space at its ends. -/
lemma getElem?_index (ρ : Respacing ls ms) {n : Nat} {l : PhysicalLine} (h : ls[n]? = some l) :
    ∃ m, ms[ρ.index n]? = some m ∧ Text.trim m.text = Text.trim l.text := by
  induction ρ generalizing n with
  | done => cases h
  | insert idle rest ih => exact ih h
  | keep k m same rest ih =>
    cases n with
    | zero =>
      obtain rfl : k = l := Option.some.inj h
      exact ⟨m, rfl, same⟩
    | succ n => exact ih h

/-- Lines of the first file come in the same order in the second one. -/
lemma index_strictMono (ρ : Respacing ls ms) {n n' : Nat} (h : n < n') :
    ρ.index n < ρ.index n' := by
  induction ρ generalizing n n' with
  | done => exact h
  | insert idle rest ih => exact Nat.succ_lt_succ (ih h)
  | keep l m same rest ih =>
    cases n' with
    | zero => omega
    | succ n' =>
      cases n with
      | zero => exact Nat.succ_pos _
      | succ n => exact Nat.succ_lt_succ (ih (Nat.lt_of_succ_lt_succ h))

end Respacing

variable {ls ms : List PhysicalLine}

/-- What a line counts for does not depend on the white space at its ends. -/
lemma linesOf_congr_trim {l m : List Char} (h : Text.trim m = Text.trim l) (number : Nat) :
    linesOf number m = linesOf number l := by
  unfold linesOf
  rw [h]

/-- The lines that count in a respaced file are those of the file under their new numbers. -/
lemma significantLinesFrom_respaced (ρ : Respacing ls ms) (number number' : Nat) :
    significantLinesFrom number' (ms.map PhysicalLine.text) =
      (significantLinesFrom number (ls.map PhysicalLine.text)).map
        (SourceLine.renumber fun n => ρ.index (n - number) + number') := by
  induction ρ generalizing number number' with
  | done => rfl
  | @insert ls ms idle rest ih =>
    have hidle : linesOf number' idle.line.text = [] := idle.linesOf_eq_nil number'
    rw [List.map_cons, significantLinesFrom, hidle, List.nil_append, ih number (number' + 1)]
    refine List.map_congr_left fun line _ => ?_
    have hnumber : rest.index (line.number - number) + (number' + 1) =
        rest.index (line.number - number) + 1 + number' := by omega
    rw [SourceLine.renumber, SourceLine.renumber, hnumber]
    rfl
  | @keep ls ms l m same rest ih =>
    have hfirst : (Respacing.keep l m same rest).index (number - number) + number' = number' := by
      rw [Nat.sub_self, Respacing.index, Nat.zero_add]
    rw [List.map_cons, List.map_cons, significantLinesFrom, significantLinesFrom, List.map_append,
      linesOf_congr_trim same, ih (number + 1) (number' + 1),
      linesOf_renumber
        (fun n => (Respacing.keep l m same rest).index (n - number) + number') hfirst]
    congr 1
    refine List.map_congr_left fun line hline => ?_
    -- the lines behind the first have higher numbers than it
    obtain ⟨index, -, -, hnumber, -⟩ := exists_of_mem_significantLinesFrom hline
    have hbehind : line.number - (number + 1) = index ∧ line.number - number = index + 1 := by omega
    rw [SourceLine.renumber, SourceLine.renumber, hbehind.1, hbehind.2, Respacing.index,
      Nat.add_right_comm, Nat.add_assoc]

/-- The lines of a file that count are those of its physical lines. -/
lemma significantLines_fileOf (ls : List PhysicalLine) :
    significantLines (fileOf ls).toList = significantLinesFrom 1 (ls.map PhysicalLine.text) := by
  have hunbroken : ∀ l ∈ ls.map PhysicalLine.text, ∀ c ∈ l, Text.isLineBreak c = false := by
    intro l hl
    obtain ⟨line, -, rfl⟩ := List.mem_map.mp hl
    exact line.unbroken
  rw [fileOf, String.toList_ofList, significantLines,
    significantLinesFrom_lines_joinWith 1 hunbroken]

/-- **Blank lines, comments and indentation do not matter.**  In either mode, whatever is read of a
file, rules, an error or the refusal of a pattern, together with the notices made on the way, is
read of the file with blank lines and comments put in and with other white space at the ends of its
lines; but errors and notices bear the numbers that their lines have then.  For a line of the file,
this is the number of the same line in the other file, where the lines stand in the same order. -/
theorem readRules_respaced (strict : Bool) (ρ : Respacing ls ms) :
    readRules strict (fileOf ms) =
        Read.renumber (fun n => ρ.number n.toNat) (readRules strict (fileOf ls)) ∧
      (∀ n l, ls[n]? = some l → ∃ m, ms[ρ.number (n + 1) - 1]? = some m ∧
        Text.trim m.text = Text.trim l.text) ∧
      ∀ n n', n < n' → ρ.number (n + 1) < ρ.number (n' + 1) := by
  have hlines : significantLines (fileOf ms).toList =
      (significantLines (fileOf ls).toList).map (SourceLine.renumber ρ.number) := by
    rw [significantLines_fileOf, significantLines_fileOf]
    exact significantLinesFrom_respaced ρ 1 1
  refine ⟨?_, fun n l hl => ρ.getElem?_index hl, fun n n' h => ?_⟩
  · rw [readRules, hlines]
    exact readLines_renumber (fun _ => rfl) _
  · exact Nat.succ_lt_succ (ρ.index_strictMono h)

/-- In a rule whose second condition has no operator, a comment and a blank line move the error from
the second line to the fourth, and in lenient mode the notice with it. -/
theorem moved_error :
    let header : PhysicalLine := ⟨"rule \"close\":".toList, unbroken_of_all (by decide)⟩
    let conditions : PhysicalLine :=
      ⟨"when me.State is \"Done\" and urgent".toList, unbroken_of_all (by decide)⟩
    let actions : PhysicalLine :=
      ⟨"then set parent.State = \"Done\"".toList, unbroken_of_all (by decide)⟩
    let indented : PhysicalLine :=
      ⟨"\t when me.State is \"Done\" and urgent ".toList, unbroken_of_all (by decide)⟩
    let comment : IdleLine := ⟨" # cascade".toList, unbroken_of_all (by decide), by decide⟩
    let blank : IdleLine := ⟨[], List.forall_mem_nil _, by decide⟩
    let ls := [header, conditions, actions]
    let ms := [comment.line, header, blank.line, indented, actions]
    (readRules true (fileOf ms)).result =
        .error (.rejected ⟨.unrecognised .condition, 4, "urgent"⟩) ∧
      (readRules false (fileOf ms)).notices = [.droppedText .condition 4 "urgent"] ∧
      ls[1]? = some conditions ∧ ∃ m, ms[3]? = some m ∧
        Text.trim m.text = Text.trim conditions.text := by
  intro header conditions actions indented comment blank ls ms
  have same : Text.trim indented.text = Text.trim conditions.text := by decide +kernel
  let ρ : Respacing ls ms :=
    .insert comment (.keep header header rfl (.insert blank (.keep conditions indented same
      (.keep actions actions rfl .done))))
  have herror : (readRules true (fileOf ls)).result =
      .error (.rejected ⟨.unrecognised .condition, 2, "urgent"⟩) := by decide +kernel
  have hnotice : (readRules false (fileOf ls)).notices = [.droppedText .condition 2 "urgent"] := by
    decide +kernel
  obtain ⟨hstrict, hplace, -⟩ := readRules_respaced true ρ
  obtain ⟨hlenient, -⟩ := readRules_respaced false ρ
  refine ⟨?_, ?_, rfl, hplace 1 conditions rfl⟩
  · rw [hstrict, Read.renumber, herror]
    rfl
  · rw [hlenient, Read.renumber, hnotice]
    rfl

end Cascade
