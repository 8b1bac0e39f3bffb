import Cascade.Proofs.Rule.ActionRoundTrip
import Cascade.Proofs.Text.Lines

/-!
# Laying out rules

A rule is written in pieces: its header, its conditions with the word `and` between them, its
actions. Between two pieces stands a space or the end of a line (`Gap`), so that a rule may stand on
one line or run over several.  Lines may be indented, and blank lines and comments may stand between
them (`Margin`).  A `Layout` says all of this for one rule.

Whatever the gaps are, the rows of a rule joined by spaces are its pieces joined by spaces
(`joinWith_rows`), and what holds of all pieces and of two texts with a space between them holds of
all rows (`forall_mem_rows`).
-/

namespace Cascade

open Text (IsTrimmed isLineBreak isBlank isWord)

/-! ## Layouts -/

/-- What stands between two pieces: a space, or the end of a line. -/
inductive Gap where
  | space
  | newline
  deriving Repr, DecidableEq

/-- A line that counts for nothing: blank, or a comment. -/
structure IdleLine where
  text : List Char
  unbroken : ∀ c ∈ text, isLineBreak c = false
  idle : Text.trim text = [] ∨ (Text.trim text).head? = some '#'

/-- Blanks on a line. -/
structure Blanks where
  text : List Char
  unbroken : ∀ c ∈ text, isLineBreak c = false
  blank : ∀ c ∈ text, isBlank c = true

/-- What stands around a row: idle lines above it, and blanks on either side. -/
structure Margin where
  above : List IdleLine
  before : Blanks
  after : Blanks

/-- How a rule is laid out: the gap behind each piece and the margin of each row. -/
structure Layout where
  gap : Nat → Gap
  margin : Nat → Margin

/-- The piece in front of rows: in a row of its own, or on the first one. -/
def Gap.weld : Gap → List Char → List (List Char) → List (List Char)
  | .space, piece, row :: rows => (piece ++ ' ' :: row) :: rows
  | _, piece, rows => piece :: rows

/-- The rows of pieces. -/
def rows (gap : Nat → Gap) : List (List Char) → List (List Char)
  | [] => []
  | piece :: pieces => (gap 0).weld piece (rows (fun n => gap (n + 1)) pieces)

/-- Pieces with something in front of the first one. -/
def leadFirst (lead : List Char) : List (List Char) → List (List Char)
  | [] => []
  | piece :: pieces => (lead ++ piece) :: pieces

/-- Conditions, and the words between them. -/
def conditionPieces : List Condition → List (List Char)
  | [] => []
  | [c] => [c.render]
  | c :: d :: rest => c.render :: "and".toList :: conditionPieces (d :: rest)

namespace Rule

/-- The header of a rule as it is written. -/
def header (rule : Rule) : List Char := "rule ".toList ++ (quotedLiteral rule.name.toList ++ [':'])

/-- The pieces of a rule. -/
def pieces (rule : Rule) : List (List Char) :=
  rule.header :: (leadFirst "when ".toList (conditionPieces rule.guards) ++
    leadFirst "then ".toList (rule.actions.map Action.render))

end Rule

/-- Rows with their margins. -/
def withMargins (margin : Nat → Margin) : List (List Char) → List (List Char)
  | [] => []
  | row :: rows =>
    (margin 0).above.map IdleLine.text ++
      ((margin 0).before.text ++ row ++ (margin 0).after.text) ::
        withMargins (fun n => margin (n + 1)) rows

/-- The lines of a rule in a layout. -/
def Layout.lines (layout : Layout) (rule : Rule) : List (List Char) :=
  withMargins layout.margin (rows layout.gap rule.pieces)

/-- A rule file: rules in their layouts, and idle lines at its end. -/
def renderRules (laid : List (Layout × Rule)) (foot : List IdleLine) : String :=
  String.ofList (Text.joinWith ['\n']
    (laid.flatMap (fun p => p.1.lines p.2) ++ foot.map IdleLine.text))

/-- A blank line or a comment counts for nothing. -/
lemma IdleLine.linesOf_eq_nil (idle : IdleLine) (number : Nat) : linesOf number idle.text = [] := by
  have hidle : ((Text.trim idle.text).isEmpty ||
      (Text.trim idle.text).head? == some '#') = true := by
    rcases idle.idle with h | h <;> simp [h]
  simp only [linesOf, hidle, if_true]

/-! ## Rows -/

variable {pieces more : List (List Char)} {gap : Nat → Gap}

lemma rows_eq_nil_iff : rows gap pieces = [] ↔ pieces = [] := by
  cases pieces with
  | nil => simp [rows]
  | cons piece pieces =>
    simp only [rows, List.cons_ne_nil, iff_false]
    unfold Gap.weld
    split <;> exact List.cons_ne_nil _ _

/-- What holds of the pieces and passes on to two texts with a space between them holds of the
rows. -/
lemma forall_mem_rows {P : List Char → Prop} (hpieces : ∀ piece ∈ pieces, P piece)
    (hjoin : ∀ s t, P s → P t → P (s ++ ' ' :: t)) : ∀ row ∈ rows gap pieces, P row := by
  induction pieces generalizing gap with
  | nil =>
    intro row hrow
    cases hrow
  | cons piece pieces ih =>
    have hpiece := hpieces piece List.mem_cons_self
    have hrows : ∀ row ∈ rows (fun n => gap (n + 1)) pieces, P row := ih fun p hp =>
      hpieces p (List.mem_cons_of_mem piece hp)
    intro row hrow
    rw [rows, Gap.weld.eq_def] at hrow
    split at hrow
    · next first rest hfirst =>
      rw [hfirst] at hrows
      rcases List.mem_cons.mp hrow with rfl | hrow
      · exact hjoin _ _ hpiece (hrows _ List.mem_cons_self)
      · exact hrows _ (List.mem_cons_of_mem _ hrow)
    · rcases List.mem_cons.mp hrow with rfl | hrow
      · exact hpiece
      · exact hrows _ hrow

/-- Gaps do not matter when rows are joined by spaces. -/
lemma joinWith_rows : Text.joinWith [' '] (rows gap pieces) = Text.joinWith [' '] pieces := by
  induction pieces generalizing gap with
  | nil => rfl
  | cons piece pieces ih =>
    cases pieces with
    | nil =>
      rw [rows, rows]
      cases gap 0 <;> rfl
    | cons next pieces =>
      have hne : rows (fun n => gap (n + 1)) (next :: pieces) ≠ [] := by
        rw [Ne, rows_eq_nil_iff]
        exact List.cons_ne_nil next pieces
      obtain ⟨row, rest, hrows⟩ := List.exists_cons_of_ne_nil hne
      rw [Text.joinWith_cons_cons, ← ih, rows, hrows]
      cases gap 0 with
      | newline => rfl
      | space =>
        cases rest with
        | nil => simp [Gap.weld, Text.joinWith]
        | cons second rest => simp [Gap.weld, Text.joinWith_cons_cons]

/-- What stands in front of the first piece stands in front of the first row. -/
lemma rows_leadFirst (lead : List Char) :
    rows gap (leadFirst lead pieces) = leadFirst lead (rows gap pieces) := by
  cases pieces with
  | nil => rfl
  | cons piece pieces =>
    rw [leadFirst, rows, rows]
    cases gap 0 with
    | newline => rfl
    | space =>
      cases rows (fun n => gap (n + 1)) pieces with
      | nil => rfl
      | cons row rest => simp [Gap.weld, leadFirst]

/-- The first row begins with the first piece, and the other rows begin with the pieces in front of
which a line ends.  So what a text and any longer one, with a space behind it, have in common holds
of the rows when it holds of these pieces. -/
lemma exists_rows_cons {P : List Char → Prop} (hP : ∀ s t, P (s ++ ' ' :: t) ↔ P s)
    (gap : Nat → Gap) (piece : List Char) (pieces : List (List Char)) :
    ∃ row rest, rows gap (piece :: pieces) = row :: rest ∧
      (row = piece ∨ ∃ more, row = piece ++ ' ' :: more) ∧
      ((∀ r ∈ rest, P r) ↔ ∀ i p, gap i = .newline → pieces[i]? = some p → P p) := by
  induction pieces generalizing gap piece with
  | nil =>
    refine ⟨piece, [], ?_, .inl rfl, by simp⟩
    rw [rows]
    cases gap 0 <;> rfl
  | cons next pieces ih =>
    obtain ⟨row, rest, hrows, hrow, hrest⟩ := ih (fun n => gap (n + 1)) next
    have hcons : rows gap (piece :: next :: pieces) = (gap 0).weld piece (row :: rest) := by
      rw [← hrows]
      rfl
    have hnext : P row ↔ P next := by
      rcases hrow with rfl | ⟨more, rfl⟩
      · exact Iff.rfl
      · exact hP next more
    rw [hcons]
    cases hgap : gap 0 with
    | newline =>
      refine ⟨piece, row :: rest, rfl, .inl rfl, ?_⟩
      rw [List.forall_mem_cons, hnext, hrest]
      constructor
      · rintro ⟨hfirst, hothers⟩ i p hi hp
        cases i with
        | zero =>
          obtain rfl : next = p := Option.some.inj hp
          exact hfirst
        | succ i => exact hothers i p hi hp
      · exact fun h => ⟨h 0 next hgap rfl, fun i p hi hp => h (i + 1) p hi hp⟩
    | space =>
      refine ⟨piece ++ ' ' :: row, rest, rfl, .inr ⟨row, rfl⟩, ?_⟩
      rw [hrest]
      constructor
      · intro h i p hi hp
        cases i with
        | zero =>
          rw [hgap] at hi
          cases hi
        | succ i => exact h i p hi hp
      · exact fun h i p hi hp => h (i + 1) p hi hp

/-- Where a line ends between two lists of pieces, their rows are those of the one and of the
other. -/
lemma rows_append_of_newline (piece : List Char) (h : gap pieces.length = .newline) :
    rows gap (piece :: pieces ++ more) =
      rows gap (piece :: pieces) ++ rows (fun n => gap (n + (pieces.length + 1))) more := by
  induction pieces generalizing gap piece with
  | nil =>
    have hgap : gap 0 = .newline := h
    simp [rows, hgap, Gap.weld]
  | cons next pieces ih =>
    have hcons (ps : List (List Char)) : rows gap (piece :: ps) =
        (gap 0).weld piece (rows (fun n => gap (n + 1)) ps) := rfl
    have hne : rows (fun n => gap (n + 1)) (next :: pieces) ≠ [] :=
      rows_eq_nil_iff.not.mpr (List.cons_ne_nil next pieces)
    obtain ⟨row, rest, hrow⟩ := List.exists_cons_of_ne_nil hne
    rw [List.cons_append, hcons, @ih (fun n => gap (n + 1)) next h, hcons, hrow]
    cases gap 0 <;> rfl

/-- Where a space stands between two lists of pieces, the last row of the first list and the first
row of the second one are one row. -/
lemma rows_append_of_space (piece : List Char) (h : gap pieces.length = .space)
    (hmore : more ≠ []) :
    ∃ front last first rest, rows gap (piece :: pieces) = front ++ [last] ∧
      rows (fun n => gap (n + (pieces.length + 1))) more = first :: rest ∧
        rows gap (piece :: pieces ++ more) = front ++ (last ++ ' ' :: first) :: rest := by
  induction pieces generalizing gap piece with
  | nil =>
    have hgap : gap 0 = .space := h
    have hne : rows (fun n => gap (n + 1)) more ≠ [] := rows_eq_nil_iff.not.mpr hmore
    obtain ⟨first, rest, hfirst⟩ := List.exists_cons_of_ne_nil hne
    refine ⟨[], piece, first, rest, ?_, hfirst, ?_⟩
    · simp [rows, Gap.weld]
    · rw [List.cons_append, List.nil_append, rows, hfirst, hgap]
      rfl
  | cons next pieces ih =>
    have hcons (ps : List (List Char)) : rows gap (piece :: ps) =
        (gap 0).weld piece (rows (fun n => gap (n + 1)) ps) := rfl
    obtain ⟨front, last, first, rest, hfront, hfirst, hrows⟩ := @ih (fun n => gap (n + 1)) next h
    rw [List.cons_append, hcons, hfront, hcons, hrows]
    cases gap 0 with
    | newline => exact ⟨piece :: front, last, first, rest, rfl, hfirst, rfl⟩
    | space =>
      cases front with
      | nil =>
        refine ⟨[], piece ++ ' ' :: last, first, rest, rfl, hfirst, ?_⟩
        simp [Gap.weld]
      | cons row front =>
        exact ⟨(piece ++ ' ' :: row) :: front, last, first, rest, rfl, hfirst, rfl⟩

/-- The rows of two lists of pieces: the rows of both, the last row of the first list and the first
row of the second one being one row or two. -/
lemma exists_rows_append (gap : Nat → Gap) (pieces : List (List Char)) (hmore : more ≠ []) :
    ∃ gap', rows gap (pieces ++ more) = rows gap pieces ++ rows gap' more ∨
      ∃ front last first rest, rows gap pieces = front ++ [last] ∧ rows gap' more = first :: rest ∧
        rows gap (pieces ++ more) = front ++ (last ++ ' ' :: first) :: rest := by
  cases pieces with
  | nil => exact ⟨gap, .inl rfl⟩
  | cons piece pieces =>
    refine ⟨fun n => gap (n + (pieces.length + 1)), ?_⟩
    cases h : gap pieces.length with
    | newline => exact .inl (rows_append_of_newline piece h)
    | space => exact .inr (rows_append_of_space piece h hmore)

end Cascade
