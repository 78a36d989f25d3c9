import Mathlib.Control.Monad.Basic

/-!
# Computations that may fail

What follows from the success of a computation made of several: each of them succeeded, with a
result that the next one went on from. And what its failure reports: the first error among theirs.
-/

namespace ContextQuery

variable {ε α β : Type}

theorem ok_bind (a : α) (f : α → Except ε β) : (Except.ok a >>= f) = f a := rfl

/-- A sequence of two succeeds just when the first does, and the second on its result. -/
theorem bind_eq_ok {x : Except ε α} {f : α → Except ε β} {b : β} :
    (x >>= f) = .ok b ↔ ∃ a, x = .ok a ∧ f a = .ok b := by
  cases x with
  | error e => simp [bind, Except.bind]
  | ok a => simp [bind, Except.bind]

theorem pure_eq_ok {a b : α} : (pure a : Except ε α) = .ok b ↔ a = b := by
  simp [pure, Except.pure]

theorem bind_pure_eq_ok {x : Except ε α} {f : α → β} {b : β} :
    (x >>= fun a => pure (f a)) = .ok b ↔ ∃ a, x = .ok a ∧ f a = b := by
  simp only [bind_eq_ok, pure_eq_ok]

/-- Another wording of its faults does not let a computation succeed. -/
theorem mapError_eq_ok {ε' : Type} {x : Except ε α} {f : ε → ε'} {a : α} :
    x.mapError f = .ok a ↔ x = .ok a := by
  cases x with
  | error e => simp [Except.mapError]
  | ok a => simp [Except.mapError]

/-! ## Computations that succeed together -/

/-- The two computations succeed together, and with the same result. -/
def SameOk (x y : Except ε α) : Prop :=
  ∀ a, x = .ok a ↔ y = .ok a

namespace SameOk

theorem refl (x : Except ε α) : SameOk x x := fun _ => Iff.rfl

theorem symm {x y : Except ε α} (same : SameOk x y) : SameOk y x := fun a => (same a).symm

theorem trans {x y z : Except ε α} (first : SameOk x y) (second : SameOk y z) : SameOk x z :=
  fun a => (first a).trans (second a)

theorem error (e e' : ε) : SameOk (.error e : Except ε α) (.error e') := by
  intro a
  constructor <;> nofun

theorem ite {p : Prop} [Decidable p] {x x' y y' : Except ε α} (yes : SameOk x x')
    (no : SameOk y y') : SameOk (if p then x else y) (if p then x' else y') := by
  split
  · exact yes
  · exact no

theorem bind {x y : Except ε α} {f g : α → Except ε β} (first : SameOk x y)
    (second : ∀ a, SameOk (f a) (g a)) : SameOk (x >>= f) (y >>= g) := by
  intro b
  rw [bind_eq_ok, bind_eq_ok]
  refine exists_congr fun a => ?_
  rw [first a, second a b]

end SameOk

/-! ## Computations and what they report -/

/-- The computation fails with the error, or succeeds where there is none. -/
def Reports (x : Except ε α) : Option ε → Prop
  | some e => x = .error e
  | none => ∃ a, x = .ok a

namespace Reports

variable {x : Except ε α} {o o' : Option ε}

/-- What comes first is reported first, and the second computation only runs after it succeeded. -/
theorem bind {f : α → Except ε β} (first : Reports x o) (second : ∀ a, Reports (f a) o') :
    Reports (x >>= f) (o.or o') := by
  cases o with
  | some e =>
      cases show x = .error e from first
      rfl
  | none =>
      obtain ⟨a, rfl⟩ := first
      exact second a

/-- What is made of a result cannot fail. -/
theorem bind_pure {f : α → β} (reports : Reports x o) : Reports (x >>= fun a => pure (f a)) o := by
  have both : Reports (x >>= fun a => pure (f a)) (o.or none) := reports.bind fun a => ⟨f a, rfl⟩
  rwa [Option.or_none] at both

theorem isOk_iff (reports : Reports x o) : (∃ a, x = .ok a) ↔ o = none := by
  cases o with
  | none => exact iff_of_true reports rfl
  | some e =>
      cases show x = .error e from reports
      simp

theorem eq_error_iff (reports : Reports x o) (e : ε) : x = .error e ↔ o = some e := by
  cases o with
  | none =>
      obtain ⟨a, rfl⟩ := reports
      simp
  | some e' =>
      cases show x = .error e' from reports
      simp

end Reports

/-! ## Traversals -/

/-- A traversal succeeds on an element and those after it just when both do. -/
theorem mapM_cons_eq_ok {f : α → Except ε β} {a : α} {as : List α} {bs : List β} :
    (a :: as).mapM f = .ok bs ↔
      ∃ b more, f a = .ok b ∧ as.mapM f = .ok more ∧ b :: more = bs := by
  rw [List.mapM_cons, bind_eq_ok]
  simp only [bind_pure_eq_ok]
  constructor
  · rintro ⟨b, first, more, rest, same⟩
    exact ⟨b, more, first, rest, same⟩
  · rintro ⟨b, more, first, rest, same⟩
    exact ⟨b, first, more, rest, same⟩

/-- Each result of a traversal is that of some element. -/
theorem exists_of_mem_mapM {f : α → Except ε β} {as : List α} {bs : List β}
    (mapped : as.mapM f = .ok bs) {b : β} (member : b ∈ bs) : ∃ a ∈ as, f a = .ok b := by
  induction as generalizing bs with
  | nil =>
      rw [List.mapM_nil, pure_eq_ok] at mapped
      rw [← mapped] at member
      exact absurd member List.not_mem_nil
  | cons a as ih =>
      obtain ⟨c, cs, first, rest, rfl⟩ := mapM_cons_eq_ok.mp mapped
      rcases List.mem_cons.mp member with rfl | member
      · exact ⟨a, List.mem_cons_self, first⟩
      · obtain ⟨d, hd, taken⟩ := ih rest member
        exact ⟨d, List.mem_cons_of_mem a hd, taken⟩

/-- Traversals that take the same steps succeed together. -/
theorem SameOk.mapM_map {f : α → Except ε β} {g : α → α} (each : ∀ a, SameOk (f (g a)) (f a))
    (as : List α) : SameOk ((as.map g).mapM f) (as.mapM f) := by
  induction as with
  | nil => exact .refl _
  | cons a as ih =>
      rw [List.map_cons, List.mapM_cons, List.mapM_cons]
      exact (each a).bind fun _ => ih.bind fun _ => .refl _

/-- A traversal reports what the first element that has something to report does. -/
theorem Reports.mapM {f : α → Except ε β} {o : α → Option ε} (each : ∀ a, Reports (f a) (o a))
    (as : List α) : Reports (as.mapM f) (as.findSome? o) := by
  induction as with
  | nil => exact ⟨[], rfl⟩
  | cons a as ih =>
      have parts : (a :: as).findSome? o = (o a).or (as.findSome? o) := by
        rw [List.findSome?_cons]
        cases o a with
        | none => rfl
        | some e => rfl
      rw [List.mapM_cons, parts]
      exact (each a).bind fun _ => ih.bind_pure

end ContextQuery
