import ContextQuery.Json.Reader
import ContextQuery.Proofs.Json.Text

/-!
# Readers and the values that they read

A reader reads a value as a result if it takes the tokens of the value off the front of any tokens
(`Reader.Reads`). An array is read if its items are, and a record if its members fill it in, one
after the other (`Reader.Fills`). So a text of a value that a reader reads is read to its end
(`readText_of_denotes`).
-/

namespace ContextQuery.Json

namespace Reader

variable {α β σ : Type}

/-! ## Single values -/

/-- The reader reads the value as `a`, whatever comes after it. -/
def Reads (r : Reader α) (v : Json) (a : α) : Prop :=
  ∀ rest, r.run (v.tokens ++ rest) = .ok (a, rest)

namespace Reads

variable {r : Reader α} {v : Json} {a : α}

theorem string (expected s : String) : (Reader.string expected).Reads (.str s) s :=
  fun _ => rfl

theorem bool (b : Bool) : Reader.bool.Reads (.bool b) b :=
  fun _ => rfl

theorem verify {f : α → Except Fault β} {b : β} (reads : r.Reads v a) (accepts : f a = .ok b) :
    (r.verify f).Reads v b := by
  intro rest
  simp only [Reader.verify, reads rest, accepts]

theorem map (reads : r.Reads v a) (f : α → β) : (r.map f).Reads v (f a) :=
  reads.verify rfl

/-- A string where there may be nothing to say. -/
theorem orNull {r : Reader String} {s : String} (reads : r.Reads (.str s) s) :
    r.orNull.Reads (.str s) (some s) :=
  fun rest => reads.map some rest

/-! ## Arrays -/

theorem itemsFrom {item : Reader α} {write : α → Json} {as : List α} (some : as ≠ [])
    (each : ∀ a ∈ as, item.Reads (write a) a) (rest : List Token) :
    Reader.itemsFrom item (itemTokens (as.map write) ++ .closeBracket :: rest) = .ok (as, rest) := by
  induction as with
  | nil => exact absurd rfl some
  | cons a as ih =>
      obtain ⟨first, each⟩ := List.forall_mem_cons.mp each
      rw [itemsFrom_eq]
      cases as with
      | nil =>
          have read := first (.closeBracket :: rest)
          simp only [List.map_cons, List.map_nil, itemTokens, read]
      | cons b bs =>
          have read := first (.comma :: (itemTokens ((b :: bs).map write) ++ .closeBracket :: rest))
          have more := ih (List.cons_ne_nil b bs) each
          simp only [List.map_cons, itemTokens, List.append_assoc, List.cons_append] at read more ⊢
          simp only [read, more]

theorem array {item : Reader α} {write : α → Json} {as : List α}
    (each : ∀ a ∈ as, item.Reads (write a) a) :
    (Reader.array item).Reads (.arr (as.map write)) as := by
  -- an array that does not end at once begins with an item
  have opened {ts : List Token} (more : ∀ us, ts ≠ .closeBracket :: us) :
      (Reader.array item).run (.openBracket :: ts) = Reader.itemsFrom item ts := by
    cases ts with
    | nil => rfl
    | cons t us =>
        cases t with
        | closeBracket => exact absurd rfl (more us)
        | _ => rfl
  intro rest
  cases as with
  | nil => rfl
  | cons a as =>
      have more := itemTokens_append_ne_closeBracket (write a) (as.map write)
        (.closeBracket :: rest)
      have read := itemsFrom (List.cons_ne_nil a as) each rest
      rw [tokens, List.cons_append, List.append_assoc, List.singleton_append]
      exact (opened more).trans read

end Reads

/-! ## Records -/

/-- The members, read one after the other, take the state from the first to the last. -/
inductive Fills (member : σ → String → Reader σ) : σ → List (String × Json) → σ → Prop where
  | nil (state : σ) : Fills member state [] state
  | cons {state next last : σ} {name : String} {v : Json} {ms : List (String × Json)}
      (first : ∀ rest, (member state name).run (.colon :: (v.tokens ++ rest)) = .ok (next, rest))
      (more : Fills member next ms last) : Fills member state ((name, v) :: ms) last

namespace Fills

variable {member : σ → String → Reader σ} {state next last : σ} {ms ns : List (String × Json)}

theorem append (first : Fills member state ms next) (second : Fills member next ns last) :
    Fills member state (ms ++ ns) last := by
  induction first with
  | nil state => exact second
  | cons first more ih => exact .cons first (ih second)

/-- A member that has not been given yet, put into the state as `put` says. -/
theorem once {name : String} {v : Json} {a : α} {r : Reader α} {put : α → σ}
    (reads : r.Reads v a) (isMember : member state name = (Reader.once name false r).map put)
    (more : Fills member (put a) ms last) : Fills member state ((name, v) :: ms) last := by
  refine .cons (fun rest => ?_) more
  rw [isMember]
  have value : (Reader.once name false r).run (.colon :: (v.tokens ++ rest)) = .ok (a, rest) :=
    reads rest
  simp only [Reader.map, Reader.verify, value]

theorem membersFrom (fills : Fills member state ms last) (some : ms ≠ []) (rest : List Token) :
    Reader.membersFrom member state (memberTokens ms ++ .closeBrace :: rest) = .ok (last, rest) := by
  induction fills with
  | nil state => exact absurd rfl some
  | @cons state next last name v ms first more ih =>
      cases more with
      | nil =>
          have read := first (.closeBrace :: rest)
          simp only [memberTokens, List.cons_append, membersFrom_string, read]
      | @cons _ _ _ other w ms second more =>
          have read := first (.comma :: (memberTokens ((other, w) :: ms) ++ .closeBrace :: rest))
          have others := ih (List.cons_ne_nil _ ms)
          simp only [memberTokens, List.append_assoc, List.cons_append] at read others ⊢
          simp only [membersFrom_string, read, others]

end Fills

/-- A record is read from the members that fill it in. -/
theorem Reads.record {expected : String} {start last : σ} {places : List (σ → Reader σ)}
    {ended complete : σ → Except Fault α} {member : σ → String → Reader σ} {a : α}
    {ms : List (String × Json)} (fills : Fills member start ms last)
    (completes : complete last = .ok a) :
    (Reader.record expected start places ended complete member).Reads (.obj ms) a := by
  intro rest
  cases ms with
  | nil =>
      cases fills
      simp only [Reader.record, tokens, memberTokens, List.cons_append, List.nil_append, completes]
  | cons m ms =>
      have read := fills.membersFrom (List.cons_ne_nil m ms) rest
      obtain ⟨name, ts, named⟩ : ∃ name ts, memberTokens (m :: ms) = .string name :: ts := by
        cases ms with
        | nil => exact ⟨_, _, rfl⟩
        | cons => exact ⟨_, _, rfl⟩
      simp only [named, List.cons_append] at read
      simp only [Reader.record, tokens, named, List.cons_append, List.append_assoc, List.nil_append,
        read, completes]

end Reader

/-- A text of a value is read to its end by a reader that reads the value. -/
theorem readText_of_denotes {α : Type} {r : Reader α} {v : Json} {a : α} {text : String}
    (reads : r.Reads v a) (denotes : Denotes text v) : readText r text = .ok a := by
  have scanned : lex text = ⟨v.tokens, true⟩ := denotes
  have read := reads []
  rw [List.append_nil] at read
  simp only [readText, scanned, read, if_true]

end ContextQuery.Json
