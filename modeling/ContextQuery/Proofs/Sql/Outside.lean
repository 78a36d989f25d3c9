import Mathlib.Data.List.Chain
import ContextQuery.Sql.Literal

/-!
# What a statement says outside its literals

A text of SQL is read from left to right: a single quote opens a string literal, two quotes inside
it are one quote of its value, and one quote closes it. `outside` keeps what stands between the
literals and has no answer for a text that ends inside one.

A text is `Contained` when it may be followed by any other and still adds only plain characters of
its own to what stands outside: no character beyond `isStatementChar` and no comment. Contained
texts can be joined (`Contained.append`), and a literal may follow one (`Contained.literal`),
whatever value it holds.
-/

namespace ContextQuery.Sql

/-! ## Reading -/

mutual

/-- The characters outside the literals of a text that starts outside; `none` if it ends inside. -/
def outside : List Char → Option (List Char)
  | [] => some []
  | '\'' :: cs => pastLiteral cs
  | c :: cs => (outside cs).map (c :: ·)

/-- The characters outside the literals of a text, which starts inside one. -/
def pastLiteral : List Char → Option (List Char)
  | [] => none
  | '\'' :: '\'' :: cs => pastLiteral cs
  | '\'' :: cs => outside cs
  | _ :: cs => pastLiteral cs

end

theorem outside_cons {c : Char} (plain : c ≠ '\'') (cs : List Char) :
    outside (c :: cs) = (outside cs).map (c :: ·) :=
  outside.eq_3 c cs plain

theorem pastLiteral_cons {c : Char} (plain : c ≠ '\'') (cs : List Char) :
    pastLiteral (c :: cs) = pastLiteral cs :=
  pastLiteral.eq_4 c cs (fun _ quote _ => plain quote) plain

/-- A quote that no other follows closes the literal. -/
theorem pastLiteral_quote {rest : List Char} (next : rest.head? ≠ some '\'') :
    pastLiteral ('\'' :: rest) = outside rest := by
  cases rest with
  | nil => rfl
  | cons c cs =>
      have plain : c ≠ '\'' := fun equal => next (by rw [equal]; rfl)
      exact pastLiteral.eq_3 (c :: cs) fun _ equal => plain (List.cons.inj equal).1

/-- Whatever the value of a literal is, its body does not close it. -/
theorem pastLiteral_body (value : List Char) {rest : List Char}
    (next : rest.head? ≠ some '\'') :
    pastLiteral (literalBody value ++ '\'' :: rest) = outside rest := by
  induction value with
  | nil => exact pastLiteral_quote next
  | cons c cs ih =>
      by_cases quote : c = '\''
      · subst quote
        exact ih
      · rw [literalBody_cons quote, List.cons_append, pastLiteral_cons quote]
        exact ih

/-! ## Fragments -/

/-- The text `cs` adds `text` to what stands outside, whatever follows without a leading quote. -/
structure Fragment (cs text : List Char) : Prop where
  head : cs.head? ≠ some '\''
  read : ∀ rest, rest.head? ≠ some '\'' →
    outside (cs ++ rest) = (outside rest).map (text ++ ·)

namespace Fragment

/-- A text without quotes stands outside as it is. -/
theorem of_not_mem {cs : List Char} (plain : '\'' ∉ cs) : Fragment cs cs := by
  refine ⟨fun head => plain (List.mem_of_head? head), ?_⟩
  intro rest next
  induction cs with
  | nil => simp
  | cons c cs ih =>
      rw [List.mem_cons, not_or] at plain
      rw [List.cons_append, outside_cons (Ne.symm plain.1), ih plain.2, Option.map_map]
      rfl

theorem append {s t a b : List Char} (left : Fragment s a) (right : Fragment t b) :
    Fragment (s ++ t) (a ++ b) := by
  refine ⟨?_, ?_⟩
  · cases s with
    | nil => exact right.head
    | cons c cs => exact left.head
  · intro rest next
    have follows : (t ++ rest).head? ≠ some '\'' := by
      cases t with
      | nil => exact next
      | cons c cs => exact right.head
    rw [List.append_assoc, left.read _ follows, right.read rest next, Option.map_map]
    congr 1
    funext text
    simp

/-- A literal adds nothing to the plain text before it. That text is not empty, lest the first quote
be taken for the second quote of a literal further left. -/
theorem literal {s : List Char} (plain : '\'' ∉ s) (inhabited : s ≠ []) (value : List Char) :
    Fragment (s ++ '\'' :: (literalBody value ++ ['\''])) s := by
  refine ⟨?_, ?_⟩
  · cases s with
    | nil => exact absurd rfl inhabited
    | cons c cs => exact (of_not_mem plain).head
  · -- the plain text is passed character by character, and the literal opens after its last one
    intro rest next
    induction s with
    | nil => exact absurd rfl inhabited
    | cons c cs ih =>
        rw [List.mem_cons, not_or] at plain
        rw [List.cons_append, List.cons_append, outside_cons (Ne.symm plain.1)]
        cases cs with
        | nil =>
            rw [List.nil_append, List.cons_append, outside.eq_2, List.append_assoc]
            rw [List.singleton_append, pastLiteral_body value next]
            rfl
        | cons d ds =>
            rw [ih plain.2 (List.cons_ne_nil d ds), Option.map_map]
            rfl

end Fragment

/-! ## Plain text -/

/-- The characters that may stand outside the literals of a statement. -/
def isStatementChar (c : Char) : Bool :=
  c.isAlphanum ||
    [' ', '_', '.', ',', '(', ')', '<', '>', '=', '@', '*', '+', '-'].contains c

/-- Admitted characters without two hyphens in a row and without a hyphen at the end, so that no
text after it makes two either. -/
structure Plain (text : List Char) : Prop where
  chars : ∀ c ∈ text, isStatementChar c = true
  hyphens : text.IsChain fun a b => ¬ (a = '-' ∧ b = '-')
  last : text.getLast? ≠ some '-'

namespace Plain

theorem of_forall {text : List Char}
    (admitted : ∀ c ∈ text, isStatementChar c = true ∧ c ≠ '-') : Plain text := by
  refine ⟨fun c member => (admitted c member).1, ?_, ?_⟩
  · induction text with
    | nil => exact .nil
    | cons c cs ih =>
        rw [List.isChain_cons]
        refine ⟨fun _ _ both => (admitted c List.mem_cons_self).2 both.1, ?_⟩
        exact ih fun d member => admitted d (List.mem_cons_of_mem c member)
  · intro last
    exact (admitted '-' (List.mem_of_getLast? last)).2 rfl

/-- The same, for characters that can be checked. -/
theorem of_all {text : List Char}
    (admitted : text.all (fun c => isStatementChar c && c != '-') = true) : Plain text := by
  refine of_forall fun c member => ?_
  have both := List.all_eq_true.mp admitted c member
  simpa using both

theorem append {a b : List Char} (left : Plain a) (right : Plain b) : Plain (a ++ b) := by
  refine ⟨?_, ?_, ?_⟩
  · intro c member
    rcases List.mem_append.mp member with member | member
    · exact left.chars c member
    · exact right.chars c member
  · rw [List.isChain_append]
    refine ⟨left.hyphens, right.hyphens, ?_⟩
    intro x member y _ both
    rw [both.1] at member
    exact left.last member
  · rw [List.getLast?_append]
    cases final : b.getLast? with
    | none => exact left.last
    | some c => exact fun equal => right.last (final.trans equal)

/-- One hyphen may stand before plain text that begins with none. -/
theorem hyphen {text : List Char} (right : Plain text) (inhabited : text ≠ [])
    (head : text.head? ≠ some '-') : Plain ('-' :: text) := by
  refine ⟨?_, ?_, ?_⟩
  · intro c member
    rcases List.mem_cons.mp member with rfl | member
    · decide
    · exact right.chars c member
  · rw [List.isChain_cons]
    refine ⟨?_, right.hyphens⟩
    intro y member both
    rw [both.2] at member
    exact head member
  · rw [List.getLast?_cons_of_ne_nil inhabited]
    exact right.last

/-- Plain text holds no comment and no end of a statement. -/
theorem no_comment {text : List Char} (plain : Plain text) :
    ¬ ['-', '-'] <:+: text ∧ ¬ ['/', '*'] <:+: text ∧ ';' ∉ text := by
  refine ⟨?_, ?_, ?_⟩
  · intro infixed
    have chain := plain.hyphens.infix infixed
    simp at chain
  · intro infixed
    have slash := plain.chars '/' (infixed.subset List.mem_cons_self)
    revert slash
    decide
  · intro member
    have semicolon := plain.chars ';' member
    revert semicolon
    decide

end Plain

/-! ## Contained texts -/

/-- The text ends outside its literals and is plain there. -/
def Contained (cs : List Char) : Prop :=
  ∃ text, Fragment cs text ∧ Plain text

namespace Contained

theorem append {s t : List Char} (left : Contained s) (right : Contained t) :
    Contained (s ++ t) := by
  obtain ⟨a, leftRead, leftPlain⟩ := left
  obtain ⟨b, rightRead, rightPlain⟩ := right
  exact ⟨a ++ b, leftRead.append rightRead, leftPlain.append rightPlain⟩

theorem of_plain {text : List Char} (plain : Plain text) : Contained text := by
  refine ⟨text, Fragment.of_not_mem ?_, plain⟩
  intro member
  have quote := plain.chars '\'' member
  revert quote
  decide

/-- Words and signs of the statement itself. -/
theorem of_all {text : List Char}
    (admitted : text.all (fun c => isStatementChar c && c != '-') = true) : Contained text :=
  of_plain (Plain.of_all admitted)

/-- A literal of any value, after words and signs of the statement. -/
theorem literal {text : List Char} (inhabited : text ≠ [])
    (admitted : text.all (fun c => isStatementChar c && c != '-') = true) (value : List Char) :
    Contained (text ++ '\'' :: (literalBody value ++ ['\''])) := by
  have plain : Plain text := Plain.of_all admitted
  refine ⟨text, Fragment.literal ?_ inhabited value, plain⟩
  intro member
  have quote := plain.chars '\'' member
  revert quote
  decide

/-- What a contained text shows outside its literals. -/
theorem outside_eq {cs : List Char} (contained : Contained cs) :
    ∃ text, outside cs = some text ∧ Plain text := by
  obtain ⟨text, fragment, plain⟩ := contained
  refine ⟨text, ?_, plain⟩
  have read := fragment.read [] (by decide)
  rw [List.append_nil, outside.eq_1] at read
  simpa using read

end Contained

end ContextQuery.Sql
