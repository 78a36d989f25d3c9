import ContextQuery.Sql.Condition

/-!
# Reading a condition

SQL reads the text of a condition by precedence: `NOT` binds tighter than `AND`, and `AND` tighter
than `OR`. Its logic has three values, since a column may hold no value. Here the conditions that
fields give are units, and a reader is free to see in a text whatever the precedences admit.

Two facts are proved. A text has at most one value (`Sql.Reads.unique`), although `NOT`, `AND` and
`OR` may stand in it without parentheses. And the text of a condition has the value of the condition
(`Sql.Condition.reads_pieces`), although it has few parentheses.
-/

namespace ContextQuery.Sql

/-! ## Three values -/

/-- What is known about a condition for a row. -/
inductive Truth where
  | true
  | false
  | unknown
  deriving DecidableEq, Repr

namespace Truth

/-- Negation, which cannot tell what is unknown. -/
def not : Truth → Truth
  | .true => .false
  | .false => .true
  | .unknown => .unknown

/-- Conjunction: false as soon as one of the two is. -/
def and : Truth → Truth → Truth
  | .true, v => v
  | .false, _ => .false
  | .unknown, .false => .false
  | .unknown, _ => .unknown

/-- Disjunction: true as soon as one of the two is. -/
def or : Truth → Truth → Truth
  | .false, v => v
  | .true, _ => .true
  | .unknown, .true => .true
  | .unknown, _ => .unknown

@[simp] theorem not_not (v : Truth) : v.not.not = v := by
  cases v <;> rfl

@[simp] theorem true_and (v : Truth) : Truth.true.and v = v := rfl

@[simp] theorem and_true (v : Truth) : v.and .true = v := by
  cases v <;> rfl

@[simp] theorem and_false (v : Truth) : v.and .false = .false := by
  cases v <;> rfl

@[simp] theorem false_or (v : Truth) : Truth.false.or v = v := rfl

@[simp] theorem or_true (v : Truth) : v.or .true = .true := by
  cases v <;> rfl

@[simp] theorem true_or (v : Truth) : Truth.true.or v = .true := rfl

/-- A conjunction is true only where both sides are. -/
theorem and_eq_true {v w : Truth} : v.and w = .true ↔ v = .true ∧ w = .true := by
  cases v <;> cases w <;> decide

end Truth

/-! ## Texts in pieces -/

/-- A piece of the text of a condition. The condition of a field is one piece. -/
inductive Piece where
  | atom (sql : String)
  | falsum
  | openParen
  | closeParen
  | and
  | or
  | not
  deriving DecidableEq, Repr

/-- How a piece is written, with the spaces that set words apart. -/
def Piece.text : Piece → String
  | .atom sql => sql
  | .falsum => "FALSE"
  | .openParen => "("
  | .closeParen => ")"
  | .and => " AND "
  | .or => " OR "
  | .not => "NOT "

/-- The text that is made of some pieces. -/
def spell (ps : List Piece) : String :=
  String.join (ps.map Piece.text)

@[simp] theorem spell_cons (p : Piece) (ps : List Piece) :
    spell (p :: ps) = p.text ++ spell ps := by
  unfold spell
  rw [List.map_cons, String.join_cons]

@[simp] theorem spell_append (ps qs : List Piece) : spell (ps ++ qs) = spell ps ++ spell qs := by
  unfold spell
  rw [List.map_append, String.join_append]

/-! ## Precedence -/

/-- How tight a part of a text is bound, from the tightest. -/
inductive Level where
  | unit
  | negation
  | conjunction
  | disjunction
  deriving DecidableEq, Repr

/-- Some pieces, read at a level, have a value, where the conditions of fields have the values that
`ν` gives them. A part of one level is a part of the next; only parentheses lead back. -/
inductive Reads (ν : String → Truth) : Level → List Piece → Truth → Prop where
  | atom (sql : String) : Reads ν .unit [.atom sql] (ν sql)
  | falsum : Reads ν .unit [.falsum] .false
  | parens {ps : List Piece} {v : Truth} (inside : Reads ν .disjunction ps v) :
      Reads ν .unit (.openParen :: ps ++ [.closeParen]) v
  | unit {ps : List Piece} {v : Truth} (tight : Reads ν .unit ps v) : Reads ν .negation ps v
  | not {ps : List Piece} {v : Truth} (negated : Reads ν .negation ps v) :
      Reads ν .negation (.not :: ps) v.not
  | negation {ps : List Piece} {v : Truth} (tight : Reads ν .negation ps v) :
      Reads ν .conjunction ps v
  | and {ps qs : List Piece} {v w : Truth} (left : Reads ν .conjunction ps v)
      (right : Reads ν .negation qs w) : Reads ν .conjunction (ps ++ .and :: qs) (v.and w)
  | conjunction {ps : List Piece} {v : Truth} (tight : Reads ν .conjunction ps v) :
      Reads ν .disjunction ps v
  | or {ps qs : List Piece} {v w : Truth} (left : Reads ν .disjunction ps v)
      (right : Reads ν .conjunction qs w) : Reads ν .disjunction (ps ++ .or :: qs) (v.or w)

/-! ## One value at most

A reader that goes once from left to right needs to remember, for each parenthesis that is open, the
disjuncts that are complete, the conjuncts of the last one, and whether a `NOT` is pending. Whatever
the precedences admit, it finds. -/

/-- What is remembered of the pieces since the last parenthesis. -/
structure Reading where
  disjuncts : Truth
  conjuncts : Truth
  negated : Bool

namespace Reading

/-- Nothing has been read. -/
def start : Reading :=
  ⟨.false, .true, false⟩

/-- A unit has been read. -/
def take (r : Reading) (v : Truth) : Reading :=
  ⟨r.disjuncts, r.conjuncts.and (if r.negated then v.not else v), false⟩

/-- One more piece has been read; the second component is what the open parentheses wait for. -/
def step (ν : String → Truth) : Reading × List Reading → Piece → Reading × List Reading
  | (r, waiting), .atom sql => (r.take (ν sql), waiting)
  | (r, waiting), .falsum => (r.take .false, waiting)
  | (r, waiting), .openParen => (start, r :: waiting)
  | (r, outer :: waiting), .closeParen => (outer.take (r.disjuncts.or r.conjuncts), waiting)
  | (r, []), .closeParen => (r, [])
  | (r, waiting), .and => (r, waiting)
  | (r, waiting), .or => (⟨r.disjuncts.or r.conjuncts, .true, false⟩, waiting)
  | (r, waiting), .not => (⟨r.disjuncts, r.conjuncts, !r.negated⟩, waiting)

/-- Some pieces more have been read. -/
def run (ν : String → Truth) (s : Reading × List Reading) (ps : List Piece) :
    Reading × List Reading :=
  ps.foldl (step ν) s

theorem take_not (r : Reading) (v : Truth) :
    take ⟨r.disjuncts, r.conjuncts, !r.negated⟩ v = r.take v.not := by
  unfold take
  cases r.negated <;> simp

end Reading

open Reading

/-- What the reader remembers after pieces with a value, at each level: a part bound at least as
tight as a negation is taken like a unit, the others are in the reading. -/
def Remembered (ν : String → Truth) : Level → List Piece → Truth → Prop
  | .unit, ps, v | .negation, ps, v => ∀ r waiting, run ν (r, waiting) ps = (r.take v, waiting)
  | .conjunction, ps, v =>
      ∀ d waiting, run ν (⟨d, .true, false⟩, waiting) ps = (⟨d, v, false⟩, waiting)
  | .disjunction, ps, v =>
      ∀ waiting, ∃ d c, d.or c = v ∧ run ν (start, waiting) ps = (⟨d, c, false⟩, waiting)

/-- One pass remembers what every reading finds. -/
theorem Reads.remembered {ν : String → Truth} {level : Level} {ps : List Piece} {v : Truth}
    (reads : Reads ν level ps v) : Remembered ν level ps v := by
  have run_append (s : Reading × List Reading) (ps qs : List Piece) :
      run ν s (ps ++ qs) = run ν (run ν s ps) qs := List.foldl_append
  induction reads with
  | atom sql =>
      intro r waiting
      rfl
  | falsum =>
      intro r waiting
      rfl
  | @parens ps v inside ih =>
      -- what was read before the parenthesis waits until it is closed
      intro r waiting
      obtain ⟨d, c, value, inner⟩ := ih (r :: waiting)
      show run ν (start, r :: waiting) (ps ++ [.closeParen]) = (r.take v, waiting)
      rw [run_append, inner, ← value]
      rfl
  | unit tight ih => exact ih
  | @not ps v negated ih =>
      -- a pending negation is undone by a second one
      intro r waiting
      show run ν (⟨r.disjuncts, r.conjuncts, !r.negated⟩, waiting) ps = (r.take v.not, waiting)
      rw [ih, take_not]
  | negation tight ih =>
      intro d waiting
      rw [ih]
      rfl
  | @and ps qs v w left right ihl ihr =>
      intro d waiting
      rw [run_append, ihl]
      -- the sign itself is not remembered: conjuncts are joined as they come
      show run ν (⟨d, v, false⟩, waiting) qs = (⟨d, v.and w, false⟩, waiting)
      rw [ihr]
      rfl
  | conjunction tight ih =>
      -- no disjunct is complete yet, which is the same as a false one
      intro waiting
      exact ⟨.false, _, rfl, ih .false waiting⟩
  | @or ps qs v w left right ihl ihr =>
      intro waiting
      obtain ⟨d, c, value, inner⟩ := ihl waiting
      refine ⟨v, w, rfl, ?_⟩
      rw [run_append, inner]
      show run ν (⟨d.or c, .true, false⟩, waiting) qs = (⟨v, w, false⟩, waiting)
      rw [value]
      exact ihr v waiting

/-- Precedence leaves no choice: a text in pieces has at most one value. -/
theorem Reads.unique {ν : String → Truth} {ps : List Piece} {v w : Truth}
    (first : Reads ν .disjunction ps v) (second : Reads ν .disjunction ps w) : v = w := by
  obtain ⟨d₁, c₁, rfl, run₁⟩ := first.remembered []
  obtain ⟨d₂, c₂, rfl, run₂⟩ := second.remembered []
  rw [run₁] at run₂
  cases run₂
  rfl

/-! ## The text of a condition -/

namespace Condition

/-- The value of a condition. -/
def value (ν : String → Truth) : Condition → Truth
  | .atom sql => ν sql
  | .falsum => .false
  | .and l r => (l.value ν).and (r.value ν)
  | .or l r => (l.value ν).or (r.value ν)
  | .andNot l r => (l.value ν).and (r.value ν).not
  | .not c => (c.value ν).not

/-- The pieces of the text of a condition. -/
def pieces : Condition → List Piece
  | .atom sql => [.atom sql]
  | .falsum => [.falsum]
  | .and l r => .openParen :: (l.pieces ++ .and :: r.pieces) ++ [.closeParen]
  | .or l r => .openParen :: (l.pieces ++ .or :: r.pieces) ++ [.closeParen]
  | .andNot l r => .openParen :: (l.pieces ++ .and :: .not :: r.pieces) ++ [.closeParen]
  | .not c => .not :: (.openParen :: c.pieces ++ [.closeParen])

/-- The pieces of a condition make up its text. -/
theorem spell_pieces (c : Condition) : spell c.pieces = c.text := by
  have close : spell [.closeParen] = ")" := rfl
  have words (s : String) : " AND " ++ ("NOT " ++ s) = " AND NOT " ++ s := by
    rw [← String.append_assoc]
    rfl
  have opening (s : String) : "NOT " ++ ("(" ++ s) = "NOT (" ++ s := by
    rw [← String.append_assoc]
    rfl
  induction c with
  | atom sql =>
      show spell [.atom sql] = sql
      rw [spell_cons]
      exact String.append_empty
  | falsum => rfl
  | and l r ihl ihr => simp [pieces, text, Piece.text, ihl, ihr, close, String.append_assoc]
  | or l r ihl ihr => simp [pieces, text, Piece.text, ihl, ihr, close, String.append_assoc]
  | andNot l r ihl ihr =>
      simp [pieces, text, Piece.text, ihl, ihr, close, words, String.append_assoc]
  | not c ih => simp [pieces, text, Piece.text, ih, close, opening, String.append_assoc]

/-- A condition is read with its own value. Its text is a unit but for a leading `NOT`, and that may
stand on either side of `AND` and `OR`. -/
theorem reads_negation (ν : String → Truth) (c : Condition) :
    Reads ν .negation c.pieces (c.value ν) := by
  induction c with
  | atom sql => exact .unit (.atom sql)
  | falsum => exact .unit .falsum
  | and l r ihl ihr => exact .unit (.parens (.conjunction (.and (.negation ihl) ihr)))
  | or l r ihl ihr =>
      exact .unit (.parens (.or (.conjunction (.negation ihl)) (.negation ihr)))
  | andNot l r ihl ihr => exact .unit (.parens (.conjunction (.and (.negation ihl) (.not ihr))))
  | not c ih => exact .not (.unit (.parens (.conjunction (.negation ih))))

theorem reads_pieces (ν : String → Truth) (c : Condition) :
    Reads ν .disjunction c.pieces (c.value ν) :=
  .conjunction (.negation (c.reads_negation ν))

end Condition

end ContextQuery.Sql
