import ContextQuery.Proofs.Token.Spelling
import ContextQuery.Query.Canonical

/-!
# The parts of a query that can be written

Not every text can be a part of a query: a name must be a word or stand between quotes, a relation
must be a sign or a word, and a term may also be several words. These are the parts that make a tree
well-formed (`Query.WellFormed`). The canonical text puts each of them between quotes just when it
must and can.
-/

namespace ContextQuery

/-! ## Texts -/

/-- The text can be written as one token: between quotes, or as a word that no keyword takes. -/
def IsSymbol (s : String) : Prop :=
  isQuotable s.toList = true ∨ IsBareWord s ∧ isReserved s = false

/-- The text is a comparison sign or the name of a relation. -/
def IsBase (base : String) : Prop :=
  (∃ sign : Comparison, base = sign.symbol) ∨
    IsBareWord base ∧ isReserved base = false ∧ ∀ c ∈ base.toList, c.isUpper = false

/-- The text is bare words with one space between neighbours, of which only the first may be
reserved. -/
def IsPhrase (s : String) : Prop :=
  ∃ w ws, s = " ".intercalate (w :: ws) ∧ IsBareWord w ∧
    ∀ v ∈ ws, IsBareWord v ∧ isReserved v = false

/-! ## Trees -/

/-- A modifier has a comparison and a value, or neither. -/
structure Modifier.WellFormed (m : Modifier) : Prop where
  name : IsSymbol m.name
  value : m.comparison = none ∧ m.value = none ∨
    ∃ (sign : Comparison) (v : String), m.comparison = some sign.symbol ∧ m.value = some v ∧
      IsSymbol v

/-- A sort key whose name and modifiers can be written. -/
structure SortKey.WellFormed (k : SortKey) : Prop where
  base : IsSymbol k.base
  modifiers : ∀ m ∈ k.modifiers, m.WellFormed

/-- Each part of the clause can be written in its place. -/
structure Clause.Spelled (c : Clause) : Prop where
  index : IsSymbol c.index
  base : IsBase c.relation.base
  modifiers : ∀ m ∈ c.relation.modifiers, m.WellFormed
  term : IsSymbol c.term ∨ IsPhrase c.term

/-- A clause that is written as its term alone has the index that such a term is read with, and a
term of one token. -/
structure Clause.WellFormed (c : Clause) : Prop extends Clause.Spelled c where
  alone : c.isServerChoice = true → c.index = serverChoice ∧ IsSymbol c.term

namespace Query

/-- Clauses and URIs are as they are said to be, and all other parts can be written. -/
def Consists (clause : Clause → Prop) (uri : String → Prop) : Query → Prop
  | .clause c => clause c
  | .boolean _ ms left right =>
    (∀ m ∈ ms, m.WellFormed) ∧ left.Consists clause uri ∧ right.Consists clause uri
  | .sorted subtree keys => subtree.Consists clause uri ∧ ∀ k ∈ keys, k.WellFormed
  | .scoped name u subtree =>
    (∀ n ∈ name, IsSymbol n) ∧ uri u ∧ subtree.Consists clause uri

/-- Each part of the query can be written in its place. URIs always stand between quotes. -/
def WellFormed (q : Query) : Prop :=
  q.Consists Clause.WellFormed fun u => isQuotable u.toList = true

end Query

/-! ## Names -/

/-- A name stands between quotes in the canonical text, or it is a word that needs none. -/
theorem Canonical.symbol_cases (s : String) :
    symbol s = "\"" ++ s ++ "\"" ∧ ¬ (IsBareWord s ∧ isReserved s = false) ∨
      symbol s = s ∧ IsBareWord s := by
  by_cases needed : (s.isEmpty || isReserved s || !isBareText s) = true
  · refine .inl ⟨if_pos needed, ?_⟩
    rintro ⟨⟨nonempty, bare⟩, free⟩
    have noEmpty : s.isEmpty = false := by simpa using nonempty
    have isBare : isBareText s = true := bare
    rw [noEmpty, free, isBare] at needed
    cases needed
  · refine .inr ⟨if_neg needed, ?_, ?_⟩
    · rintro rfl
      exact needed rfl
    · rw [Bool.not_eq_true, Bool.or_eq_false_iff] at needed
      have bare : isBareText s = true := by simpa using needed.2
      exact bare

/-! ## Phrases -/

theorem not_mem_of_isBareWord {w : String} (bare : IsBareWord w) : ' ' ∉ w.toList := by
  intro member
  have isBare := List.all_eq_true.mp bare.2 ' ' member
  exact absurd isBare (by decide)

theorem IsBareWord.isPhrase {w : String} (bare : IsBareWord w) : IsPhrase w :=
  ⟨w, [], rfl, bare, nofun⟩

theorem isBareWord_ofList {w : List Char} :
    IsBareWord (String.ofList w) ↔ (!w.isEmpty && w.all Lexer.isBare) = true := by
  unfold IsBareWord
  rw [Bool.and_eq_true, String.toList_ofList]
  refine and_congr_left fun _ => ?_
  rw [ne_eq, ← String.toList_inj, String.toList_ofList]
  cases w <;> simp

theorem Text.ofList_intercalate (parts : List (List Char)) :
    String.ofList ([' '].intercalate parts) = " ".intercalate (parts.map String.ofList) := by
  have same : String.toList ∘ String.ofList = id := funext fun _ => String.toList_ofList
  rw [← String.toList_inj, String.toList_ofList, String.toList_intercalate, List.map_map, same,
    List.map_id]
  rfl

/-- A phrase is what the canonical text takes for one. -/
theorem Canonical.isPhrase_iff {s : String} : isPhrase s.toList = true ↔ IsPhrase s := by
  constructor
  · intro phrase
    have whole := Text.intercalate_pieces ' ' s.toList
    unfold isPhrase at phrase
    dsimp only at phrase
    split at phrase
    · cases phrase
    · next w ws cut =>
      rw [Bool.and_eq_true, List.all_eq_true, ← isBareWord_ofList] at phrase
      refine ⟨String.ofList w, ws.map String.ofList, ?_, phrase.1, ?_⟩
      · rw [← List.map_cons, ← Text.ofList_intercalate, ← cut, whole, String.ofList_toList]
      · intro v member
        obtain ⟨v, among, rfl⟩ := List.mem_map.mp member
        have free := phrase.2 v among
        rw [Bool.and_eq_true, ← isBareWord_ofList] at free
        exact ⟨free.1, by simpa using free.2⟩
  · rintro ⟨w, ws, rfl, first, more⟩
    -- no word has a space in it, so the pieces of a phrase are its words
    have free : ∀ v ∈ w.toList :: ws.map String.toList, ' ' ∉ v := by
      intro v member
      rcases List.mem_cons.mp member with rfl | member
      · exact not_mem_of_isBareWord first
      · obtain ⟨v, among, rfl⟩ := List.mem_map.mp member
        exact not_mem_of_isBareWord (more v among).1
    have cut := Text.pieces_intercalate free
    unfold isPhrase
    rw [String.toList_intercalate, List.map_cons]
    dsimp only
    rw [show " ".toList = [' '] from rfl, cut]
    dsimp only
    rw [Bool.and_eq_true, List.all_eq_true, ← isBareWord_ofList, String.ofList_toList]
    refine ⟨first, ?_⟩
    intro v member
    obtain ⟨v, among, rfl⟩ := List.mem_map.mp member
    obtain ⟨bare, free⟩ := more v among
    rw [Bool.and_eq_true, ← isBareWord_ofList, String.ofList_toList, free]
    exact ⟨bare, rfl⟩

/-! ## Backslashes at the end -/

theorem length_takeWhile_reverse_cons (p : Char → Bool) (c : Char) (cs : List Char) :
    ((c :: cs).reverse.takeWhile p).length =
      if (cs.reverse.takeWhile p).length = cs.length then cs.length + (if p c then 1 else 0)
      else (cs.reverse.takeWhile p).length := by
  rw [List.reverse_cons, List.takeWhile_append, List.length_reverse]
  split
  · rw [List.length_append, List.length_reverse]
    cases taken : p c <;> simp [taken]
  · rfl

namespace Canonical

theorem endsUnpaired_cons {c : Char} (noBackslash : c ≠ '\\') (cs : List Char) :
    endsUnpaired (c :: cs) = endsUnpaired cs := by
  unfold endsUnpaired
  rw [length_takeWhile_reverse_cons]
  split
  · next all => simp [noBackslash, all]
  · rfl

/-- A backslash and the character that goes with it make no difference to what follows them. -/
theorem endsUnpaired_pair (c : Char) (cs : List Char) :
    endsUnpaired ('\\' :: c :: cs) = endsUnpaired cs := by
  unfold endsUnpaired
  rw [length_takeWhile_reverse_cons, length_takeWhile_reverse_cons, List.length_cons]
  by_cases all : (cs.reverse.takeWhile (· == '\\')).length = cs.length
  · by_cases backslash : c = '\\'
    · have even : (cs.length + 1 + 1) % 2 = cs.length % 2 := by omega
      simp [all, backslash, even]
    · simp [all, backslash]
  · have fewer := (List.takeWhile_sublist (· == '\\') (l := cs.reverse)).length_le
    rw [List.length_reverse] at fewer
    rw [if_neg all, if_neg (by omega)]

end Canonical

/-- Without a quote in it, a text can be quoted when its last backslash goes with a character. -/
theorem isQuotable_of_endsUnpaired {cs : List Char} (free : '"' ∉ cs)
    (paired : Canonical.endsUnpaired cs = false) : isQuotable cs = true := by
  fun_induction isQuotable cs with
  | case1 => rfl
  | case2 => exact absurd paired (by decide)
  | case3 c cs ih =>
      rw [Canonical.endsUnpaired_pair] at paired
      exact ih (fun member => free (by simp [member])) paired
  | case4 cs => exact absurd List.mem_cons_self free
  | case5 c cs noLast noPair noQuote ih =>
      have noBackslash := ne_backslash_of_unpaired noLast noPair
      rw [Canonical.endsUnpaired_cons noBackslash] at paired
      exact ih (fun member => free (List.mem_cons_of_mem c member)) paired

theorem not_quote_mem_of_isPhrase {s : String} (phrase : IsPhrase s) : '"' ∉ s.toList := by
  obtain ⟨w, ws, rfl, first, more⟩ := phrase
  have noQuote {v : String} (bare : IsBareWord v) : '"' ∉ v.toList := by
    intro member
    exact absurd (List.all_eq_true.mp bare.2 '"' member) (by decide)
  have all : ∀ v ∈ w :: ws, '"' ∉ v.toList := by
    intro v member
    rcases List.mem_cons.mp member with rfl | member
    · exact noQuote first
    · exact noQuote (more v member).1
  generalize w :: ws = vs at all
  rw [String.toList_intercalate]
  induction vs with
  | nil => simp
  | cons v vs ih =>
      cases vs with
      | nil => simpa using all v List.mem_cons_self
      | cons u us =>
          have rest := ih fun v member => all v (List.mem_cons_of_mem _ member)
          rw [List.map_cons, List.map_cons, List.intercalate_cons_cons]
          simp_all

/-- Only its last backslash can keep a phrase from standing between quotes. -/
theorem IsPhrase.isQuotable {s : String} (phrase : IsPhrase s)
    (paired : Canonical.endsUnpaired s.toList = false) : isQuotable s.toList = true :=
  isQuotable_of_endsUnpaired (not_quote_mem_of_isPhrase phrase) paired

end ContextQuery
