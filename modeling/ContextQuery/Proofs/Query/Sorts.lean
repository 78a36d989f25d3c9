import ContextQuery.Proofs.Query.Reread

/-!
# What is true of every query that was read

The type of queries admits a sort at each node and any text in each place. A query that was read has
one sort at most, and that is the one found, or taken away, below the declarations that the query
opens with (`Query.sorts_eq_of_derives`); its names, relations and terms are texts that tokens can
say. Both together are what is true of every query that was read (`Query.regular_of_parse`).
-/

namespace ContextQuery

open Grammar

namespace Query

/-! ## All sorts of a query -/

/-- The keys of every sort in the query, wherever it stands. -/
def sorts : Query → List (List SortKey)
  | .clause _ => []
  | .boolean _ _ left right => left.sorts ++ right.sorts
  | .sorted subtree keys => keys :: subtree.sorts
  | .scoped _ _ subtree => subtree.sorts

theorem sorts_eq_nil_iff {q : Query} : q.sorts = [] ↔ q.isUnsorted = true := by
  induction q with
  | clause c => simp [sorts, isUnsorted]
  | boolean op ms left right ihl ihr => simp [sorts, isUnsorted, ihl, ihr]
  | sorted subtree keys => simp [sorts, isUnsorted]
  | «scoped» name uri subtree ih => exact ih

theorem sortKeys?_of_isUnsorted {q : Query} (unsorted : q.isUnsorted = true) :
    q.sortKeys? = none := by
  induction q with
  | clause | boolean => rfl
  | sorted subtree keys => cases unsorted
  | «scoped» name uri subtree ih => exact ih unsorted

/-! ## The sort of a query that was read -/

/-- Where a sort was read, it is the one that is found, and it has keys. -/
theorem sorts_eq_of_derives {n : Nat} {ts : List Token} {q : Query}
    (derives : Derives .sortedQuery n ts q) :
    q.sorts = q.sortKeys?.toList ∧ ∀ keys ∈ q.sorts, keys ≠ [] := by
  generalize same : Kind.sortedQuery = kind at derives
  induction derives with
  | unsorted whole =>
      have unsorted := isUnsorted_of_derives whole nofun
      rw [sortKeys?_of_isUnsorted unsorted, sorts_eq_nil_iff.mpr unsorted]
      exact ⟨rfl, nofun⟩
  | @sorted k n ts ks q w key keys whole isSort sorting =>
      -- below the sort there is none, for what it sorts was read as a chain
      have below : q.sorts = [] := sorts_eq_nil_iff.mpr (isUnsorted_of_derives whole nofun)
      have only : (Query.sorted q (key :: keys)).sorts = [key :: keys] := by rw [sorts, below]
      rw [only]
      exact ⟨rfl, List.forall_mem_singleton.mpr (List.cons_ne_nil key keys)⟩
  | declaredSorted assigns inside ih => exact ih same
  | clause | parens | operand | operator | chain | declared => cases same

/-- A query as texts can say it. The first condition leaves room for one sort only, at the root or
below the declarations at the root, for only there is it found. -/
structure Regular (q : Query) : Prop where
  oneSort : q.sorts = q.sortKeys?.toList
  keys : ∀ keys ∈ q.sorts, keys ≠ []
  parts : q.Consists Clause.Spelled IsSymbol

/-- **Regularity.** A query that was read has at most one sort, outside all but the declarations that
open it, and that has a key; each relation is a sign or a small word that is not reserved; each
modifier has a comparison and a value or neither; and each name and each term can be said by the
tokens that stand in their places. -/
theorem regular_of_parse (s : String) (q : Query) (parsed : parse s = .ok q) : q.Regular := by
  obtain ⟨-, n, -, derives⟩ := parse_eq_ok_iff_derives.mp parsed
  obtain ⟨oneSort, keys⟩ := sorts_eq_of_derives derives
  exact ⟨oneSort, keys, consists_of_parse parsed⟩

/-- A query with a sort below a declaration, a named relation with a modifier, and a term of which the
first word is reserved and the last backslash goes with no character. -/
def declaredSort : Query :=
  .scoped (some "dc") "x" (.sorted
    (.clause ⟨"title", ⟨"any", [⟨"fuzzy", some "<", some "2"⟩]⟩, "or else\\"⟩)
    [⟨"date", [⟨"descending", none, none⟩]⟩])

theorem regular_of_parse_declaredSort :
    parse ">dc=\"x\" title ANY/fuzzy<2 or else\\ sortby date/descending" = .ok declaredSort ∧
      declaredSort.Regular := by
  have splits : Splits ">dc=\"x\" title ANY/fuzzy<2 or else\\ sortby date/descending".toList
      [.comparison .greater, .word "dc", .comparison .equal, .quoted "x", .word "title", .word "ANY",
        .slash, .word "fuzzy", .comparison .less, .word "2", .word "or", .word "else\\",
        .word "sortby", .word "date", .slash, .word "descending"] :=
    splits_iff_lex.mpr ⟨⟨57, by cbv⟩, by cbv⟩
  have assigns : Assigns [.comparison .greater, .word "dc", .comparison .equal, .quoted "x"]
      (some "dc") "x" := .named rfl rfl
  have small : Text.foldCase "ANY" = "any" := by
    rw [← String.toList_inj, Text.toList_foldCase]
    decide
  have stated : Says [.word "title", .word "ANY", .slash, .word "fuzzy", .comparison .less, .word "2",
      .word "or", .word "else\\"]
      ⟨"title", ⟨"any", [⟨"fuzzy", some "<", some "2"⟩]⟩, "or else\\"⟩ := by
    rw [← small]
    refine .inFull rfl (.named "ANY" ?_) (.valued rfl rfl .none)
      (.words "or" ["else\\"] ?_)
    · decide +kernel
    · exact List.forall_mem_singleton.mpr (by decide +kernel)
  have keyed : Keys [.word "date", .slash, .word "descending"]
      [⟨"date", [⟨"descending", none, none⟩]⟩] := .key rfl (.named rfl .none) .none
  have derives := Derives.declaredSorted assigns
    (.sorted (.operand (.clause stated)) foldCase_sortby keyed)
  have parsed := parse_of_splits splits derives (by decide)
  exact ⟨parsed, regular_of_parse _ _ parsed⟩

end Query

end ContextQuery
