import ContextQuery.Proofs.Query.Rendering

/-!
# Reading the canonical text

A tree whose parts can all be written is read back from its canonical text just when its sort, if it
has one, stands around all the rest and the parentheses leave room enough
(`Query.parse_canonical_iff`). The tree need not be one that was ever read from a text.
-/

namespace ContextQuery

/-! ## Where a sort can be read -/

namespace Grammar

theorem Modifiers.close_not_mem {ts : List Token} {ms : List Modifier} (modified : Modifiers ts ms) :
    .closeParen ∉ ts := by
  induction modified with
  | none => exact List.not_mem_nil
  | named isName more ih =>
      intro member
      simp only [List.mem_cons, reduceCtorEq, false_or] at member
      rcases member with rfl | member
      · cases isName
      · exact ih member
  | valued isName isValue more ih =>
      intro member
      simp only [List.mem_cons, reduceCtorEq, false_or] at member
      rcases member with rfl | rfl | member
      · cases isName
      · cases isValue
      · exact ih member

theorem Keys.close_not_mem {ts : List Token} {keys : List SortKey} (areKeys : Keys ts keys) :
    .closeParen ∉ ts := by
  induction areKeys with
  | none => exact List.not_mem_nil
  | key isBase modified more ih =>
      intro member
      rcases List.mem_cons.mp member with rfl | member
      · cases isBase
      · rcases List.mem_append.mp member with member | member
        · exact modified.close_not_mem member
        · exact ih member

end Grammar

namespace Query

open Grammar

/-- Only what is read as possibly sorted has a sort. -/
theorem isUnsorted_of_derives {kind : Kind} {n : Nat} {ts : List Token} {q : Query}
    (derives : Derives kind n ts q) (noSort : kind ≠ .sortedQuery) : q.isUnsorted = true := by
  induction derives with
  | clause stated => rfl
  | parens inside ih | declared assigns inside ih => exact ih nofun
  | operand first ih => exact ih nofun
  | chain whole ih => exact ih nofun
  | operator before isOperator modified last ihl ihr =>
      exact Bool.and_eq_true_iff.mpr ⟨ihl nofun, ihr nofun⟩
  | unsorted | sorted | declaredSorted => exact absurd rfl noSort

/-- Sort keys do not end in a parenthesis, so what ends in one is not sorted. -/
theorem isUnsorted_of_getLast?_close {n : Nat} {ts : List Token} {q : Query}
    (derives : Derives .sortedQuery n ts q) (last : ts.getLast? = some .closeParen) :
    q.isUnsorted = true := by
  generalize same : Kind.sortedQuery = kind at derives
  induction derives with
  | unsorted whole => exact isUnsorted_of_derives whole nofun
  | sorted whole isSort sorting =>
      rw [List.getLast?_append_cons] at last
      rcases List.mem_cons.mp (List.mem_of_getLast? last) with same | member
      · cases same
      · exact absurd member sorting.close_not_mem
  | declaredSorted assigns inside ih =>
      obtain ⟨t, us, rfl, -⟩ := inside.head
      rw [List.getLast?_append_cons] at last
      exact ih last same
  | clause | parens | operand | operator | chain | declared => cases same

/-- A query that is read back from its canonical text has no sort but an outermost one. -/
theorem sortsOutermost_of_parse_canonical {q : Query} (read : parse q.canonical = .ok q) :
    q.sortsOutermost = true := by
  obtain ⟨finished, n, -, derives⟩ := parse_eq_ok_iff_derives.mp read
  have splits := splits_iff_lex.mpr ⟨finished, rfl⟩
  generalize tokens (lex q.canonical).lexemes = ts at derives splits
  cases derives with
  | unsorted whole => exact sortsOutermost_of_isUnsorted (isUnsorted_of_derives whole nofun)
  | @sorted k n ts ks q w key keys whole isSort sorting =>
      have unsorted := isUnsorted_of_derives whole nofun
      have noDeclaration : q.isScoped = false := by
        cases q with
        | clause | boolean | sorted => rfl
        | «scoped» name uri subtree =>
            -- the text starts with the sign of a declaration, and what is sorted does not
            obtain ⟨cs, starts⟩ : ∃ cs,
                (sorted (.scoped name uri subtree) (key :: keys)).canonical.toList = '>' :: cs := by
              rw [canonical, canonical_scoped]
              cases name <;> simp [Canonical.declaration]
            rw [starts] at splits
            obtain ⟨sign, us, sameStart⟩ := splits.head_greater
            obtain ⟨t, vs, rfl, head⟩ := whole.head
            cases sameStart
            rcases head with same | same | ⟨-, same | same⟩ <;> cases same
      rw [sortsOutermost, unsorted, noDeclaration]
      rfl
  | @declaredSorted n as ts name uri q assigns inside =>
      have ends : (Query.scoped name uri q).canonical.toList =
          ((Canonical.declaration name uri).toList ++ ' ' :: '(' :: q.canonical.toList) ++ [')'] := by
        rw [canonical_scoped]
        simp
      rw [ends] at splits
      have last := splits.getLast?_close
      obtain ⟨t, us, rfl, -⟩ := inside.head
      rw [List.getLast?_append_cons] at last
      have unsorted : q.isUnsorted = true := isUnsorted_of_getLast?_close inside last
      exact unsorted

/-! ## Well-formed trees -/

/-- A tree whose sort is outermost is read back if there is room for the parentheses, and else its
text is too deep. -/
theorem parse_canonical_of_sortsOutermost {q : Query} (wf : q.WellFormed)
    (outermost : q.sortsOutermost = true) :
    (q.levels ≤ maxDepth → parse q.canonical = .ok q) ∧
    (maxDepth < q.levels → ∃ position, parse q.canonical = .error ⟨.tooDeep, position⟩) := by
  obtain ⟨ts, writes, derives⟩ := exists_writes_canonical wf
  have whole := derives_sortedQuery_of_kind (derives outermost)
  refine ⟨parse_of_splits writes.splits whole, ?_⟩
  obtain ⟨-, rfl⟩ := splits_iff_lex.mp writes.splits
  exact parse_tooDeep whole

/-- **Round trip.** A tree that can be written is read back from its canonical text just when its
sort is outermost and its parentheses are at most `maxDepth` levels deep. Where they alone are in
the way, the text is refused as too deep. -/
theorem parse_canonical_iff (q : Query) (wf : q.WellFormed) :
    (parse q.canonical = .ok q ↔ q.sortsOutermost = true ∧ q.levels ≤ maxDepth) ∧
    (q.sortsOutermost = true → maxDepth < q.levels →
      ∃ position, parse q.canonical = .error ⟨.tooDeep, position⟩) := by
  refine ⟨⟨?_, ?_⟩, ?_⟩
  · intro read
    have outermost := sortsOutermost_of_parse_canonical read
    refine ⟨outermost, ?_⟩
    by_contra deep
    obtain ⟨position, failed⟩ :=
      (parse_canonical_of_sortsOutermost wf outermost).2 (Nat.lt_of_not_le deep)
    rw [failed] at read
    cases read
  · rintro ⟨outermost, fits⟩
    exact (parse_canonical_of_sortsOutermost wf outermost).1 fits
  · intro outermost deep
    exact (parse_canonical_of_sortsOutermost wf outermost).2 deep

/-- A tree with parts of each kind, to show the round trip on. The phrase stands without quotes, for
its last backslash goes with no character. -/
def assorted : Query :=
  .sorted
    (.boolean .not [⟨"strict", none, none⟩]
      (.scoped (some "dc") "info:\\\"dc\\\"" (.clause ⟨"dc.title", ⟨"any", []⟩, "or else\\"⟩))
      (.clause (.ofTerm "a b")))
    [⟨"date", [⟨"missing", some "=", some "low est"⟩]⟩]

theorem parse_canonical_iff_assorted :
    assorted.WellFormed ∧
      assorted.canonical = "(>dc=\"info:\\\"dc\\\"\" (dc.title any or else\\)) not/strict " ++
        "(\"a b\") sortby date/missing=\"low est\"" ∧
      (parse assorted.canonical = .ok assorted ↔
        assorted.sortsOutermost = true ∧ assorted.levels ≤ maxDepth) ∧
      (assorted.sortsOutermost = true → maxDepth < assorted.levels →
        ∃ position, parse assorted.canonical = .error ⟨.tooDeep, position⟩) := by
  have bareWord {w : String} (nonempty : w ≠ "") (bare : w.toList.all Lexer.isBare = true) :
      IsBareWord w := ⟨nonempty, bare⟩
  have quoted {s : String} (quotable : isQuotable s.toList = true) : IsSymbol s := .inl quotable
  have strict : Modifier.WellFormed ⟨"strict", none, none⟩ :=
    ⟨quoted (by decide), .inl ⟨rfl, rfl⟩⟩
  have missing : Modifier.WellFormed ⟨"missing", some "=", some "low est"⟩ :=
    ⟨quoted (by decide), .inr ⟨.equal, "low est", rfl, rfl, quoted (by decide)⟩⟩
  have phrase : Clause.WellFormed ⟨"dc.title", ⟨"any", []⟩, "or else\\"⟩ := by
    refine ⟨⟨quoted (by decide), ?_, nofun, .inr ?_⟩, ?_⟩
    · exact .inr ⟨bareWord (by decide) (by decide), by decide +kernel, by simp [Char.isUpper]⟩
    · refine ⟨"or", ["else\\"], rfl, bareWord (by decide) (by decide), ?_⟩
      intro v member
      cases List.mem_singleton.mp member
      exact ⟨bareWord (by decide) (by decide), by decide +kernel⟩
    · intro alone
      exact absurd alone (by decide +kernel)
  have lone : Clause.WellFormed (.ofTerm "a b") :=
    ⟨⟨quoted (by decide), .inl ⟨.equal, rfl⟩, nofun, .inl (quoted (by decide))⟩,
      fun _ => ⟨rfl, quoted (by decide)⟩⟩
  have wf : assorted.WellFormed := by
    refine ⟨⟨?_, ⟨?_, by decide, phrase⟩, lone⟩, ?_⟩
    · intro m member
      cases List.mem_singleton.mp member
      exact strict
    · intro n named
      cases named
      exact quoted (by decide)
    · intro k member
      cases List.mem_singleton.mp member
      refine ⟨quoted (by decide), ?_⟩
      intro m member
      cases List.mem_singleton.mp member
      exact missing
  exact ⟨wf, by decide +kernel, parse_canonical_iff assorted wf⟩

end Query

end ContextQuery
