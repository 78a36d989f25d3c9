import ContextQuery.Proofs.Query.RoundTrip
import ContextQuery.Proofs.Select.Atoms

/-!
# The canonical text of a query that was read

What a query was read from can all be written again, but not always where the canonical text writes
it. It puts a URI, and a lone term of several words, between quotes, also where that was read without
quotes and its last backslash goes with no character; it writes a lone term for each clause whose
index is a name for the index of such terms; and it puts parentheses around what is in the scope of a
declaration, also around a sort. Where none of this does harm, the query is read back from its
canonical text (`Query.parse_canonical_of_parse`), and each of it can do harm
(`Query.parse_canonical_misread`).
-/

namespace ContextQuery

open Grammar

/-! ## Parts that were read -/

theorem Lexer.isBare_toLower (c : Char) : isBare c.toLower = isBare c :=
  Text.apply_toLower (by decide) c

/-- A word that needs no quotes needs none in lower case. -/
theorem IsBareWord.foldCase {w : String} (bare : IsBareWord w) : IsBareWord (Text.foldCase w) := by
  obtain ⟨nonempty, all⟩ := bare
  refine ⟨?_, ?_⟩
  · intro empty
    rw [← String.toList_inj, Text.toList_foldCase] at empty
    exact nonempty (String.toList_inj.mp (List.map_eq_nil_iff.mp empty))
  · rw [Text.toList_foldCase, List.all_map, List.all_eq_true]
    intro c member
    exact (Lexer.isBare_toLower c).trans (List.all_eq_true.mp all c member)

theorem isReserved_foldCase (w : String) : isReserved (Text.foldCase w) = isReserved w := by
  unfold isReserved
  rw [Text.foldCase_foldCase]

theorem not_backslash_mem_of_isReserved {w : String} (reserved : isReserved w = true) :
    '\\' ∉ w.toList := by
  intro member
  have folded : '\\' ∈ (Text.foldCase w).toList := by
    rw [Text.toList_foldCase]
    exact List.mem_map_of_mem member
  have among : Text.foldCase w ∈ reservedWords := List.contains_iff_mem.mp reserved
  generalize Text.foldCase w = v at folded among
  unfold reservedWords at among
  simp only [List.mem_cons, List.not_mem_nil, or_false] at among
  rcases among with rfl | rfl | rfl | rfl | rfl <;> exact absurd folded (by decide)

theorem Canonical.endsUnpaired_of_not_mem {cs : List Char} (free : '\\' ∉ cs) :
    endsUnpaired cs = false := by
  induction cs with
  | nil => rfl
  | cons c cs ih =>
      rw [List.mem_cons, not_or] at free
      rw [endsUnpaired_cons (Ne.symm free.1)]
      exact ih free.2

variable {t : Token}

theorem quotable_serverChoice : isQuotable serverChoice.toList = true := by decide

/-- A name that was read can be written as one. -/
theorem isSymbol_of_symbol? {s : String} (proper : t.IsProper) (isName : t.symbol? = some s) :
    IsSymbol s := by
  cases t with
  | quoted s =>
      cases isName
      exact .inl proper
  | word w =>
      cases isName
      have bare : IsBareWord s := proper
      cases reserved : isReserved s with
      | false => exact .inr ⟨bare, reserved⟩
      | true =>
          have paired := Canonical.endsUnpaired_of_not_mem (not_backslash_mem_of_isReserved reserved)
          exact .inl (bare.isPhrase.isQuotable paired)
  | openParen | closeParen | slash | comparison sign => cases isName

namespace Grammar

/-- The base of a relation that was read can be written as one. -/
theorem Base.isBase {base : String} (proper : t.IsProper) (isBase : Base t base) : IsBase base := by
  cases isBase with
  | sign sign => exact .inl ⟨sign, rfl⟩
  | named w free =>
      have bare : IsBareWord w := proper
      refine .inr ⟨bare.foldCase, ?_, ?_⟩
      · rw [isReserved_foldCase, free]
      · intro c member
        rw [Text.toList_foldCase] at member
        obtain ⟨d, -, rfl⟩ := List.mem_map.mp member
        exact Char.isUpper_toLower_eq_false d

variable {ts : List Token} (proper : ∀ t ∈ ts, t.IsProper)

include proper in
theorem Modifiers.wellFormed {ms : List Modifier} (modified : Modifiers ts ms) :
    ∀ m ∈ ms, m.WellFormed := by
  induction modified with
  | none => exact fun m member => absurd member List.not_mem_nil
  | named isName more ih =>
      intro m member
      rcases List.mem_cons.mp member with rfl | member
      · exact ⟨isSymbol_of_symbol? (proper _ (by simp)) isName, .inl ⟨rfl, rfl⟩⟩
      · exact ih (fun t among => proper t (by simp [among])) m member
  | @valued t u name value sign ts ms isName isValue more ih =>
      intro m member
      rcases List.mem_cons.mp member with rfl | member
      · exact ⟨isSymbol_of_symbol? (proper t (by simp)) isName,
          .inr ⟨sign, value, rfl, rfl, isSymbol_of_symbol? (proper u (by simp)) isValue⟩⟩
      · exact ih (fun t among => proper t (by simp [among])) m member

include proper in
theorem Term.spelled {s : String} (isTerm : Term ts s) : IsSymbol s ∨ IsPhrase s := by
  cases isTerm with
  | quoted s => exact .inl (isSymbol_of_symbol? (t := .quoted s) (proper _ (by simp)) rfl)
  | words w ws free =>
      refine .inr ⟨w, ws, rfl, proper (.word w) (by simp), ?_⟩
      intro v member
      exact ⟨proper (.word v) (by simp [member]), free v member⟩

include proper in
/-- A clause that was read can be spelled. -/
theorem Says.spelled {c : Clause} (stated : Says ts c) : c.Spelled := by
  cases stated with
  | alone isTerm =>
      exact ⟨.inl quotable_serverChoice, .inl ⟨.equal, rfl⟩, nofun,
        .inl (isSymbol_of_symbol? (proper _ (by simp)) isTerm)⟩
  | inFull isIndex isBase modified isTerm =>
      exact ⟨isSymbol_of_symbol? (proper _ (by simp)) isIndex, isBase.isBase (proper _ (by simp)),
        modified.wellFormed fun t member => proper t (by simp [member]),
        isTerm.spelled fun t member => proper t (by simp [member])⟩

include proper in
theorem Assigns.spelled {name : Option String} {uri : String} (assigns : Assigns ts name uri) :
    (∀ n ∈ name, IsSymbol n) ∧ IsSymbol uri := by
  cases assigns with
  | named isName isUri =>
      refine ⟨?_, isSymbol_of_symbol? (proper _ (by simp)) isUri⟩
      intro n same
      cases same
      exact isSymbol_of_symbol? (proper _ (by simp)) isName
  | bare isUri => exact ⟨nofun, isSymbol_of_symbol? (proper _ (by simp)) isUri⟩

include proper in
theorem Keys.wellFormed {keys : List SortKey} (areKeys : Keys ts keys) :
    ∀ k ∈ keys, k.WellFormed := by
  induction areKeys with
  | none => exact fun k member => absurd member List.not_mem_nil
  | key isBase modified more ih =>
      intro k member
      rcases List.mem_cons.mp member with rfl | member
      · exact ⟨isSymbol_of_symbol? (proper _ (by simp)) isBase,
          modified.wellFormed fun t among => proper t (by simp [among])⟩
      · exact ih (fun t among => proper t (by simp [among])) k member

include proper in
/-- Each part of a query that was read can be written, and so can each URI in some way. -/
theorem Derives.consists {kind : Kind} {n : Nat} {q : Query} (derives : Derives kind n ts q) :
    q.Consists Clause.Spelled IsSymbol := by
  induction derives with
  | clause stated => exact stated.spelled proper
  | parens inside ih => exact ih fun t member => proper t (by simp [member])
  | operand first ih | chain whole ih | unsorted whole ih => exact ih proper
  | operator before isOperator modified last ihl ihr =>
      exact ⟨modified.wellFormed fun t member => proper t (by simp [member]),
        ihl fun t member => proper t (by simp [member]),
        ihr fun t member => proper t (by simp [member])⟩
  | sorted whole isSort sorting ih =>
      exact ⟨ih fun t member => proper t (by simp [member]),
        sorting.wellFormed fun t member => proper t (by simp [member])⟩
  | declared assigns inside ih | declaredSorted assigns inside ih =>
      obtain ⟨named, isUri⟩ := assigns.spelled fun t member => proper t (by simp [member])
      exact ⟨named, isUri, ih fun t member => proper t (by simp [member])⟩

end Grammar

theorem Query.consists_of_parse {s : String} {q : Query} (parsed : parse s = .ok q) :
    q.Consists Clause.Spelled IsSymbol := by
  obtain ⟨finished, n, -, derives⟩ := parse_eq_ok_iff_derives.mp parsed
  have splits := splits_iff_lex.mpr ⟨finished, rfl⟩
  exact derives.consists splits.proper

/-! ## One index for lone terms -/

/-- The clause with the index that a lone term is read with, if it is written as one. -/
def Clause.plain (c : Clause) : Clause :=
  if c.isServerChoice then .ofTerm c.term else c

namespace Clause

variable {c : Clause}

theorem isServerChoice_ofTerm (term : String) : (ofTerm term).isServerChoice = true := by
  have same : Text.sameFolded serverChoice serverChoice = true := beq_self_eq_true _
  show ((Text.sameFolded serverChoice serverChoice || _) && _ && _) = true
  rw [same]
  rfl

theorem canonical_plain (c : Clause) : c.plain.canonical = c.canonical := by
  unfold plain
  split
  · next alone =>
    unfold canonical
    rw [if_pos alone, if_pos (isServerChoice_ofTerm c.term)]
    rfl
  · rfl

/-- Only the index can be another one. -/
theorem plain_eq_iff : c.plain = c ↔ (c.isServerChoice = true → c.index = serverChoice) := by
  unfold plain
  split
  · next alone =>
    constructor
    · intro same _
      rw [← same]
      rfl
    · intro index
      exact (eq_of_isServerChoice alone (index alone)).symm
  · next noAlone => exact ⟨fun _ alone => absurd alone noAlone, fun _ => rfl⟩

/-- A clause that was read can be written, unless its term has to be written alone and cannot. -/
theorem Spelled.wellFormed_plain (spelled : c.Spelled)
    (fits : c.isServerChoice = true → IsSymbol c.term) : c.plain.WellFormed := by
  unfold plain
  split
  · next alone =>
    have isSymbol := fits alone
    exact ⟨⟨.inl quotable_serverChoice, .inl ⟨.equal, rfl⟩, nofun, .inl isSymbol⟩,
      fun _ => ⟨rfl, isSymbol⟩⟩
  · next noAlone => exact ⟨spelled, fun alone => absurd alone noAlone⟩

end Clause

namespace Query

/-- The query with one index for all clauses that are written as a lone term. -/
def plain : Query → Query
  | .clause c => .clause c.plain
  | .boolean op ms left right => .boolean op ms left.plain right.plain
  | .sorted subtree keys => .sorted subtree.plain keys
  | .scoped name uri subtree => .scoped name uri subtree.plain

/-- The URIs of the declarations in a query. -/
def uris : Query → List String
  | .clause _ => []
  | .boolean _ _ left right => left.uris ++ right.uris
  | .sorted subtree _ => subtree.uris
  | .scoped _ uri subtree => uri :: subtree.uris

/-- The text that is written is the same whichever index a lone term has. -/
theorem canonical_plain (q : Query) : q.plain.canonical = q.canonical := by
  induction q with
  | clause c => exact c.canonical_plain
  | boolean op ms left right ihl ihr => rw [plain, canonical, ihl, ihr, canonical]
  | sorted subtree keys ih => rw [plain, canonical, ih, canonical]
  | «scoped» name uri subtree ih => rw [plain, canonical_scoped, ih, canonical_scoped]

theorem levels_plain (q : Query) : q.plain.levels = q.levels := by
  induction q with
  | clause c => rfl
  | boolean op ms left right ihl ihr => rw [plain, levels, ihl, ihr, levels]
  | sorted subtree keys ih => exact ih
  | «scoped» name uri subtree ih => rw [plain, levels, ih, levels]

theorem isUnsorted_plain (q : Query) : q.plain.isUnsorted = q.isUnsorted := by
  induction q with
  | clause c => rfl
  | boolean op ms left right ihl ihr => rw [plain, isUnsorted, ihl, ihr, isUnsorted]
  | sorted subtree keys ih => rfl
  | «scoped» name uri subtree ih => exact ih

theorem sortsOutermost_plain (q : Query) : q.plain.sortsOutermost = q.sortsOutermost := by
  cases q with
  | clause c => rfl
  | boolean op ms left right => exact isUnsorted_plain (.boolean op ms left right)
  | sorted subtree keys =>
      have sameScoped : subtree.plain.isScoped = subtree.isScoped := by cases subtree <;> rfl
      rw [plain, sortsOutermost, isUnsorted_plain, sameScoped, sortsOutermost]
  | «scoped» name uri subtree => exact isUnsorted_plain (.scoped name uri subtree)

theorem plain_eq_iff {q : Query} :
    q.plain = q ↔ ∀ c ∈ q.clauses, c.isServerChoice = true → c.index = serverChoice := by
  induction q with
  | clause c =>
      simp [plain, clauses, Clause.plain_eq_iff]
  | boolean op ms left right ihl ihr =>
      simp only [plain, clauses, boolean.injEq, ihl, ihr, true_and, List.mem_append]
      constructor
      · rintro ⟨onLeft, onRight⟩ c (member | member)
        · exact onLeft c member
        · exact onRight c member
      · intro all
        exact ⟨fun c member => all c (.inl member), fun c member => all c (.inr member)⟩
  | sorted subtree keys ih => simpa [plain, clauses] using ih
  | «scoped» name uri subtree ih => simpa [plain, clauses] using ih

/-- Each URI can stand between quotes, and each term that is written alone can be written so. -/
structure FitsQuotes (q : Query) : Prop where
  uris : ∀ u ∈ q.uris, isQuotable u.toList = true
  terms : ∀ c ∈ q.clauses, c.isServerChoice = true → IsSymbol c.term

theorem Consists.parts {clause : Clause → Prop} {uri : String → Prop} {q : Query}
    (consists : q.Consists clause uri) : (∀ c ∈ q.clauses, clause c) ∧ ∀ u ∈ q.uris, uri u := by
  induction q with
  | clause c => exact ⟨List.forall_mem_singleton.mpr consists, nofun⟩
  | boolean op ms left right ihl ihr =>
      obtain ⟨-, onLeft, onRight⟩ := consists
      obtain ⟨clausesLeft, urisLeft⟩ := ihl onLeft
      obtain ⟨clausesRight, urisRight⟩ := ihr onRight
      exact ⟨List.forall_mem_append.mpr ⟨clausesLeft, clausesRight⟩,
        List.forall_mem_append.mpr ⟨urisLeft, urisRight⟩⟩
  | sorted subtree keys ih => exact ih consists.1
  | «scoped» name u subtree ih =>
      obtain ⟨-, isUri, inside⟩ := consists
      exact ⟨(ih inside).1, List.forall_mem_cons.mpr ⟨isUri, (ih inside).2⟩⟩

/-- What was read does not fit only where it ends in a backslash that goes with no character. -/
theorem fitsQuotes_of_parse {s : String} {q : Query} (parsed : parse s = .ok q)
    (uris : ∀ u ∈ q.uris, Canonical.endsUnpaired u.toList = false)
    (terms : ∀ c ∈ q.clauses, c.isServerChoice = true →
      Canonical.endsUnpaired c.term.toList = false) : q.FitsQuotes := by
  obtain ⟨spelled, symbols⟩ := (consists_of_parse parsed).parts
  refine ⟨?_, ?_⟩
  · intro u member
    rcases symbols u member with quotable | ⟨bare, -⟩
    · exact quotable
    · exact bare.isPhrase.isQuotable (uris u member)
  · intro c member alone
    rcases (spelled c member).term with isSymbol | phrase
    · exact isSymbol
    · exact .inl (phrase.isQuotable (terms c member alone))

/-- A query that was read can be written with one index for its lone terms, where what is put
between quotes fits between them. -/
theorem Consists.wellFormed_plain {q : Query} {uri : String → Prop}
    (consists : q.Consists Clause.Spelled uri) (fits : q.FitsQuotes) : q.plain.WellFormed := by
  induction q with
  | clause c => exact Clause.Spelled.wellFormed_plain consists (fits.terms c List.mem_cons_self)
  | boolean op ms left right ihl ihr =>
      obtain ⟨modifiers, onLeft, onRight⟩ := consists
      refine ⟨modifiers, ihl onLeft ⟨?_, ?_⟩, ihr onRight ⟨?_, ?_⟩⟩
      · exact fun u member => fits.uris u (List.mem_append_left _ member)
      · exact fun c member => fits.terms c (List.mem_append_left _ member)
      · exact fun u member => fits.uris u (List.mem_append_right _ member)
      · exact fun c member => fits.terms c (List.mem_append_right _ member)
  | sorted subtree keys ih => exact ⟨ih consists.1 ⟨fits.uris, fits.terms⟩, consists.2⟩
  | «scoped» name uri subtree ih =>
      obtain ⟨named, -, inside⟩ := consists
      refine ⟨named, fits.uris uri List.mem_cons_self, ih inside ⟨?_, fits.terms⟩⟩
      exact fun u member => fits.uris u (List.mem_cons_of_mem _ member)

/-- **Rereading.** A query that was read, and whose URIs and lone terms can be written as the canonical
text writes them, is read back from that text just when its sort is outermost, its lone terms have the
one index that such terms are read with, and the parentheses leave room enough. If only the index of
lone terms differs, that is all that changes. -/
theorem parse_canonical_of_parse (s : String) (q : Query) (parsed : parse s = .ok q)
    (fits : q.FitsQuotes) :
    (parse q.canonical = .ok q ↔ q.sortsOutermost = true ∧ q.levels ≤ maxDepth ∧
      ∀ c ∈ q.clauses, c.isServerChoice = true → c.index = serverChoice) ∧
    (q.sortsOutermost = true →
      (q.levels ≤ maxDepth → parse q.canonical = .ok q.plain) ∧
      (maxDepth < q.levels → ∃ position, parse q.canonical = .error ⟨.tooDeep, position⟩)) := by
  have wf := (consists_of_parse parsed).wellFormed_plain fits
  have reread : q.sortsOutermost = true →
      (q.levels ≤ maxDepth → parse q.canonical = .ok q.plain) ∧
      (maxDepth < q.levels → ∃ position, parse q.canonical = .error ⟨.tooDeep, position⟩) := by
    intro outermost
    have whole := parse_canonical_of_sortsOutermost wf (by rw [sortsOutermost_plain, outermost])
    rwa [canonical_plain, levels_plain] at whole
  refine ⟨⟨?_, ?_⟩, reread⟩
  · intro same
    have outermost := sortsOutermost_of_parse_canonical same
    have room : q.levels ≤ maxDepth := by
      by_contra deep
      obtain ⟨position, failed⟩ := (reread outermost).2 (Nat.lt_of_not_le deep)
      rw [failed] at same
      cases same
    rw [(reread outermost).1 room] at same
    exact ⟨outermost, room, plain_eq_iff.mp (Except.ok.inj same)⟩
  · rintro ⟨outermost, room, sameIndex⟩
    rw [(reread outermost).1 room, plain_eq_iff.mpr sameIndex]

/-- A clause on the index of lone terms under an older name, and a phrase whose last backslash goes
with no character. -/
def renamed : Query :=
  .boolean .or [] (.clause ⟨"SRW.serverChoice", ⟨"=", []⟩, "a b"⟩)
    (.clause ⟨"title", ⟨"any", []⟩, "and so\\"⟩)

theorem parse_canonical_of_parse_renamed :
    parse "SRW.serverChoice = a b or title ANY and so\\" = .ok renamed ∧ renamed.FitsQuotes ∧
      (parse renamed.canonical = .ok renamed ↔
        renamed.sortsOutermost = true ∧ renamed.levels ≤ maxDepth ∧
          ∀ c ∈ renamed.clauses, c.isServerChoice = true → c.index = serverChoice) ∧
      (renamed.sortsOutermost = true →
        (renamed.levels ≤ maxDepth → parse renamed.canonical = .ok renamed.plain) ∧
        (maxDepth < renamed.levels →
          ∃ position, parse renamed.canonical = .error ⟨.tooDeep, position⟩)) := by
  have parsed : parse "SRW.serverChoice = a b or title ANY and so\\" = .ok renamed := by cbv
  have fits : renamed.FitsQuotes := by
    refine ⟨fun _ member => absurd member List.not_mem_nil, ?_⟩
    intro c member
    rcases List.mem_cons.mp member with rfl | member
    · exact fun _ => .inl (by decide)
    · cases List.mem_singleton.mp member
      exact fun alone => absurd alone (by decide +kernel)
  exact ⟨parsed, fits, parse_canonical_of_parse _ _ parsed fits⟩

/-- The canonical text of a query need not be one, or may be another query: a sort does not stand
between parentheses, a quote does not end what ends in a backslash, and an index is replaced. -/
theorem parse_canonical_misread :
    (∃ q, parse ">dc=\"x\" a=1 sortby b" = .ok q ∧ q.canonical = ">dc=\"x\" (a = 1 sortby b)" ∧
      parse q.canonical = .error ⟨.expected .closeParen (some (.word "sortby")), 15⟩) ∧
    (∃ q, parse ">dc=u\\ a=1" = .ok q ∧ q.canonical = ">dc=\"u\\\" (a = 1)" ∧
      parse q.canonical = .error ⟨.unterminated, 4⟩) ∧
    (∃ q, parse "cql.serverChoice = x y\\" = .ok q ∧ q.canonical = "\"x y\\\"" ∧
      parse q.canonical = .error ⟨.unterminated, 0⟩) ∧
    ∃ q, parse "srw.serverChoice = x" = .ok q ∧ q.canonical = "x" ∧
      parse q.canonical = .ok q.plain ∧ q.plain ≠ q := by
  refine ⟨?_, ?_, ?_, ?_⟩
  · have sorts : parse ">dc=\"x\" a=1 sortby b" =
        .ok (.scoped (some "dc") "x" (.sorted (.clause ⟨"a", ⟨"=", []⟩, "1"⟩) [⟨"b", []⟩])) := by
      have found : tokens (lex ">dc=\"x\" a=1 sortby b").lexemes =
          [.comparison .greater, .word "dc", .comparison .equal, .quoted "x", .word "a",
            .comparison .equal, .word "1", .word "sortby", .word "b"] := by
        cbv
      have stated : Says [.word "a", .comparison .equal, .word "1"] ⟨"a", ⟨"=", []⟩, "1"⟩ :=
        .inFull rfl (.sign .equal) .none
          (.words "1" [] fun _ member => absurd member List.not_mem_nil)
      have assigns : Assigns [.comparison .greater, .word "dc", .comparison .equal, .quoted "x"]
          (some "dc") "x" := .named rfl rfl
      have derives := Derives.declaredSorted assigns
        (.sorted (.operand (.clause stated)) foldCase_sortby (.key (t := .word "b") rfl .none .none))
      refine parse_eq_ok_iff_derives.mpr ⟨⟨20, by cbv⟩, 1, by decide, ?_⟩
      rw [found]
      exact derives
    exact ⟨_, sorts, by decide +kernel, by cbv⟩
  · exact ⟨.scoped (some "dc") "u\\" (.clause ⟨"a", ⟨"=", []⟩, "1"⟩), by cbv, by decide +kernel,
      by cbv⟩
  · exact ⟨.clause ⟨"cql.serverChoice", ⟨"=", []⟩, "x y\\"⟩, by cbv, by decide +kernel, by cbv⟩
  · exact ⟨.clause ⟨"srw.serverChoice", ⟨"=", []⟩, "x"⟩, by cbv, by decide +kernel, by cbv,
      by decide +kernel⟩

end Query

end ContextQuery
