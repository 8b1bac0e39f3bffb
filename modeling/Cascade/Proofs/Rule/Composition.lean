import Cascade.Proofs.Rule.Reading
import Cascade.Proofs.Rule.SourceLines

/-!
# Rule files can be put together

Two rule files, one behind the other, are read as the rules of the one and those of the other, if
the second begins with a rule.  The argument goes down from texts to blocks.  A line feed between
two texts keeps their lines apart (`significantLines_append_newline`); a line that begins a rule
keeps their blocks apart (`splitBlocks_append`); and a block is read by itself
(`readBlock_eq_ok_iff`), for the line that follows it stands in errors only, as its numbers do.

Every line that begins a rule is the header of a block (`map_header_splitBlocks`), and every block
gives one rule, by the name in its header.  So no rule is lost.  The main result,
`readRules_append_newline`, says both.
-/

namespace Cascade

variable {strict : Bool}

/-! ## Lines -/

/-- The lines that count in two texts joined by a line feed are those of the first and, under higher
numbers, those of the second. -/
lemma significantLines_append_newline (first second : List Char) :
    ∃ shift, significantLines (first ++ '\n' :: second) =
      significantLines first ++
        (significantLines second).map (SourceLine.renumber (· + shift)) := by
  obtain ⟨gap, hgap, hlines⟩ := Text.lines_append_newline_append first second
  refine ⟨(Text.lines first ++ gap).length, ?_⟩
  rw [significantLines, hlines, significantLinesFrom_append, significantLinesFrom_append,
    significantLinesFrom_of_empty hgap, List.append_nil, significantLinesFrom_add]
  rfl

/-! ## Blocks -/

/-- Lines that begin a rule, if there are any. -/
def StartsRule (lines : List SourceLine) : Prop :=
  ∀ line ∈ lines.head?, isRuleLine line.text = true

instance (lines : List SourceLine) : Decidable (StartsRule lines) :=
  inferInstanceAs (Decidable (∀ line ∈ lines.head?, isRuleLine line.text = true))

lemma splitBlocks_fst_eq_nil {lines : List SourceLine} (h : StartsRule lines) :
    (splitBlocks lines).1 = [] := by
  cases lines with
  | nil => rfl
  | cons line lines =>
    rw [splitBlocks]
    simp [h line rfl]

lemma StartsRule.map_renumber {lines : List SourceLine} (h : StartsRule lines) (g : Nat → Nat) :
    StartsRule (lines.map (SourceLine.renumber g)) := by
  intro line hline
  rw [List.head?_map] at hline
  obtain ⟨line, hhead, rfl⟩ := Option.map_eq_some_iff.mp hline
  exact h line hhead

/-- Where a rule begins, the blocks before it end. -/
lemma splitBlocks_append {lines more : List SourceLine} (h : StartsRule more) :
    splitBlocks (lines ++ more) =
      ((splitBlocks lines).1, (splitBlocks lines).2 ++ (splitBlocks more).2) := by
  induction lines with
  | nil => exact Prod.ext (splitBlocks_fst_eq_nil h) rfl
  | cons line lines ih =>
    rw [List.cons_append, splitBlocks, splitBlocks, ih]
    dsimp only
    split <;> rfl

/-- The lines that begin a rule are the headers of the blocks. -/
lemma map_header_splitBlocks (lines : List SourceLine) :
    (splitBlocks lines).2.map Block.header = lines.filter fun line => isRuleLine line.text := by
  induction lines with
  | nil => rfl
  | cons line lines ih =>
    rw [splitBlocks]
    dsimp only
    split
    · next hrule => rw [List.filter_cons, if_pos hrule, List.map_cons, ih]
    · next hrule => rw [List.filter_cons, if_neg hrule, ih]

/-! ## Readings -/

/-- The line that follows a block has no part in the rule. -/
lemma readBlock_eq_ok_iff (next next' : Option SourceLine) {block : Block} {rule : Rule} :
    (readBlock strict next block).result = .ok rule ↔
      (readBlock strict next' block).result = .ok rule := by
  unfold readBlock
  split
  · exact Iff.rfl
  · dsimp only
    split
    · exact iff_of_false nofun nofun
    · split
      · exact Iff.rfl
      · split
        · exact iff_of_false nofun nofun
        · exact Iff.rfl

lemma readBlocks_cons_eq_ok {block : Block} {blocks : List Block} {rules : List Rule} :
    (readBlocks strict (block :: blocks)).result = .ok rules ↔
      ∃ rule rest, (readBlock strict none block).result = .ok rule ∧
        (readBlocks strict blocks).result = .ok rest ∧ rules = rule :: rest := by
  rw [readBlocks, Logged.result_bind_eq_ok]
  constructor
  · rintro ⟨rule, hrule, h⟩
    obtain ⟨rest, hrest, h⟩ := Logged.result_bind_eq_ok.mp h
    exact ⟨rule, rest, (readBlock_eq_ok_iff _ _).mp hrule, hrest, (Except.ok.inj h).symm⟩
  · rintro ⟨rule, rest, hrule, hrest, rfl⟩
    exact ⟨rule, (readBlock_eq_ok_iff _ _).mp hrule,
      Logged.result_bind_eq_ok.mpr ⟨rest, hrest, rfl⟩⟩

lemma readBlocks_append {blocks more : List Block} {rules : List Rule} :
    (readBlocks strict (blocks ++ more)).result = .ok rules ↔
      ∃ first second, (readBlocks strict blocks).result = .ok first ∧
        (readBlocks strict more).result = .ok second ∧ rules = first ++ second := by
  induction blocks generalizing rules with
  | nil =>
    constructor
    · exact fun h => ⟨[], rules, rfl, h, rfl⟩
    · rintro ⟨first, second, hfirst, hsecond, rfl⟩
      obtain rfl := Except.ok.inj hfirst
      exact hsecond
  | cons block blocks ih =>
    rw [List.cons_append, readBlocks_cons_eq_ok]
    constructor
    · rintro ⟨rule, rest, hrule, hrest, rfl⟩
      obtain ⟨first, second, hfirst, hsecond, rfl⟩ := ih.mp hrest
      exact ⟨rule :: first, second, readBlocks_cons_eq_ok.mpr ⟨rule, first, hrule, hfirst, rfl⟩,
        hsecond, rfl⟩
    · rintro ⟨first, second, hfirst, hsecond, rfl⟩
      obtain ⟨rule, rest, hrule, hrest, rfl⟩ := readBlocks_cons_eq_ok.mp hfirst
      exact ⟨rule, rest ++ second, hrule, ih.mpr ⟨rest, second, hrest, hsecond, rfl⟩, rfl⟩

/-- Lines that begin a rule are read as if no lines stood before them. -/
lemma readLines_append {lines more : List SourceLine} (h : StartsRule more) {rules : List Rule} :
    (readLines strict (lines ++ more)).result = .ok rules ↔
      ∃ first second, (readLines strict lines).result = .ok first ∧
        (readLines strict more).result = .ok second ∧ rules = first ++ second := by
  unfold readLines
  rw [splitBlocks_append h]
  dsimp only
  have hmore : skipStray strict (splitBlocks more).1 = pure () := by
    rw [splitBlocks_fst_eq_nil h]
    rfl
  rw [hmore, pure_bind, Logged.result_bind_eq_ok]
  constructor
  · rintro ⟨u, hskip, hblocks⟩
    obtain ⟨first, second, hfirst, hsecond, rfl⟩ := readBlocks_append.mp hblocks
    exact ⟨first, second, Logged.result_bind_eq_ok.mpr ⟨u, hskip, hfirst⟩, hsecond, rfl⟩
  · rintro ⟨first, second, hfirst, hsecond, rfl⟩
    obtain ⟨u, hskip, hfirst⟩ := Logged.result_bind_eq_ok.mp hfirst
    exact ⟨u, hskip, readBlocks_append.mpr ⟨first, second, hfirst, hsecond, rfl⟩⟩

/-- The names of rules are those in the headers of their blocks. -/
lemma map_ruleName_eq_of_forall₂ {blocks : List Block} {rules : List Rule}
    (h : List.Forall₂ (fun block rule => ∃ next, (readBlock strict next block).result = .ok rule)
      blocks rules) :
    (blocks.map Block.header).map (fun line => ruleName? line.text) =
      rules.map fun rule => some rule.name.toList := by
  induction h with
  | nil => rfl
  | cons hblock _ ih =>
    obtain ⟨_, hblock⟩ := hblock
    obtain ⟨name, -, hname, hrule, -⟩ := readBlock_eq_ok hblock
    rw [List.map_cons, List.map_cons, List.map_cons, ih, hname, hrule, String.toList_ofList]

/-- **Reading is compositional and loses no rule.**  In either mode, a text behind which another one
stands on lines of its own is read together with it just when each can be read by itself, and the
rules are those of the one and then those of the other; the second text has to begin with a rule, if
it has a line that counts.  And of every text that can be read, the rules bear the names of the
headers, which are the lines that begin with the word `rule`, in order and as often as they
occur. -/
theorem readRules_append_newline (strict : Bool) :
    (∀ first second : String, StartsRule (significantLines second.toList) → ∀ rules,
      (readRules strict (first ++ "\n" ++ second)).result = .ok rules ↔
        ∃ before after, (readRules strict first).result = .ok before ∧
          (readRules strict second).result = .ok after ∧ rules = before ++ after) ∧
    ∀ (text : String) (rules : List Rule), (readRules strict text).result = .ok rules →
      ((significantLines text.toList).filter fun line => isRuleLine line.text).map
          (fun line => ruleName? line.text) =
        rules.map fun rule => some rule.name.toList := by
  refine ⟨fun first second hstart rules => ?_, fun text rules h => ?_⟩
  · have htext : (first ++ "\n" ++ second).toList = first.toList ++ '\n' :: second.toList := by
      simp
    obtain ⟨shift, hlines⟩ := significantLines_append_newline first.toList second.toList
    unfold readRules
    rw [htext, hlines, readLines_append (hstart.map_renumber _)]
    -- the lines of the second text bear higher numbers here, which no rule shows
    simp only [readLines_renumber_eq_ok]
  · rw [← map_header_splitBlocks]
    exact map_ruleName_eq_of_forall₂ (readRules_eq_ok h).2

/-- A file that ends with a carriage return, and one that begins with a comment and has two rules of
one name: together they have three rules. -/
theorem two_files_read_together :
    let first :=
      "rule \"close\":\n  when me.State is \"Done\"\n  then set parent.State = \"Done\"\r"
    let second := "# tags\nrule \"tag\": when me.State is \"New\" then add \"a\" to Tags\n" ++
      "rule \"tag\":\nwhen me.State is \"Old\"\nthen remove \"a\" from Tags"
    let state (value : String) : Condition :=
      .mk (.field (.mk .me "State" none)) .equal (.literal value)
    let tags : Reference := .mk .implicit "Tags" none
    let close : Rule := ⟨"close", [state "Done"],
      [⟨.set, .mk .parent "State" none, .literal "Done", {}⟩]⟩
    let add : Rule := ⟨"tag", [state "New"], [⟨.add, tags, .literal "a", {}⟩]⟩
    let remove : Rule := ⟨"tag", [state "Old"], [⟨.remove, tags, .literal "a", {}⟩]⟩
    StartsRule (significantLines second.toList) ∧
      (readRules true (first ++ "\n" ++ second)).result = .ok [close, add, remove] ∧
      ((significantLines second.toList).filter fun line => isRuleLine line.text).map
          (fun line => ruleName? line.text) = [some "tag".toList, some "tag".toList] := by
  intro first second state tags close add remove
  have hstart : StartsRule (significantLines second.toList) := by decide +kernel
  have hfirst : (readRules true first).result = .ok [close] := by decide +kernel
  have hsecond : (readRules true second).result = .ok [add, remove] := by decide +kernel
  obtain ⟨happend, hnames⟩ := readRules_append_newline true
  exact ⟨hstart, (happend first second hstart _).mpr ⟨_, _, hfirst, hsecond, rfl⟩,
    hnames second _ hsecond⟩

end Cascade
