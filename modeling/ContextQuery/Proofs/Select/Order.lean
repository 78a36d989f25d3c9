import ContextQuery.Proofs.Query.Sorts
import ContextQuery.Query.Combine
import ContextQuery.Select

/-!
# The order of two queries

The text that says two queries ends with a parenthesis. Whatever the second of them holds, that
parenthesis is a token of its own, since no word and no quoted string can end with it, and no sort
key does. So two queries that are combined are never sorted, also where the second reaches beyond
its parentheses, and no statement gets an order from them (`Registry.combine_never_sorts`).
-/

namespace ContextQuery

namespace Query

/-- What was read from the text that says two queries has no sort in it. -/
theorem isUnsorted_of_parse_combinedText {first q : Query} {second : String}
    (parsed : parse (combinedText first second) = .ok q) : q.isUnsorted = true := by
  obtain ⟨finished, n, -, derives⟩ := parse_eq_ok_iff_derives.mp parsed
  have splits := splits_iff_lex.mpr ⟨finished, rfl⟩
  have closes : (combinedText first second).toList =
      ('(' :: first.withoutSort.canonical.toList ++ ") AND (".toList ++ second.toList) ++
        [')'] := by
    unfold combinedText
    simp
  rw [closes] at splits
  exact isUnsorted_of_getLast?_close derives splits.getLast?_close

/-- Two queries are combined into one, and it has no sort. -/
theorem isUnsorted_of_combine {first second : String} {q : Option Query}
    (combined : combine (some first) (some second) = .ok q) :
    ∃ whole, q = some whole ∧ whole.isUnsorted = true := by
  obtain ⟨p, -, parsedBoth⟩ := bind_eq_ok.mp combined
  obtain ⟨whole, parsed, rfl⟩ := bind_pure_eq_ok.mp parsedBoth
  exact ⟨whole, rfl, isUnsorted_of_parse_combinedText parsed⟩

end Query

namespace Registry

variable {r : Registry} {q : Option Query}

theorem order_of_sortKeys? (unsorted : q.bind Query.sortKeys? = none) :
    r.orderText q = .ok none ∧ r.orderColumns q = .ok none := by
  unfold orderText orderColumns
  rw [unsorted]
  exact ⟨rfl, rfl⟩

/-- Without an order a statement is its table and the condition. -/
theorem select_of_orderText (unordered : r.orderText q = .ok none) (table : String) :
    r.select table q = (do
      let table ← (checkTableName table).mapError .table
      let condition ← r.whereText q
      return "SELECT * FROM " ++ table ++ introduced " WHERE " condition) := by
  have nothing : introduced " ORDER BY " none = "" := rfl
  unfold select
  simp only [unordered, ok_bind, nothing, String.append_empty]

/-- **No order.** Two queries that can be combined, whatever their texts are, come to one without any
sort in it: it has no order, with directions or without, and a statement over it is made of its
table and its condition alone. -/
theorem combine_never_sorts (r : Registry) (first second : String) (q : Option Query)
    (combined : Query.combine (some first) (some second) = .ok q) :
    (∃ whole, q = some whole ∧ whole.sorts = []) ∧
    r.orderText q = .ok none ∧ r.orderColumns q = .ok none ∧
    ∀ table, r.select table q = (do
      let table ← (checkTableName table).mapError .table
      let condition ← r.whereText q
      return "SELECT * FROM " ++ table ++ introduced " WHERE " condition) := by
  obtain ⟨whole, rfl, unsorted⟩ := Query.isUnsorted_of_combine combined
  have noKeys : (some whole).bind Query.sortKeys? = none := Query.sortKeys?_of_isUnsorted unsorted
  obtain ⟨unordered, unorderedColumns⟩ := r.order_of_sortKeys? noKeys
  refine ⟨⟨whole, rfl, Query.sorts_eq_nil_iff.mpr unsorted⟩, unordered, unorderedColumns, ?_⟩
  exact select_of_orderText unordered

/-- Three clauses, of which the last is outside the conjunction. -/
def outreaching : Query :=
  .boolean .or []
    (.boolean .and [] (.clause ⟨"cost", ⟨"=", []⟩, "1"⟩) (.clause ⟨"cost", ⟨"=", []⟩, "2"⟩))
    (.clause ⟨"cost", ⟨"=", []⟩, "3"⟩)

open Grammar in
/-- The first query is sorted, and the second leaves its parentheses. -/
theorem combine_never_sorts_outreaching :
    Query.parse "cost=1 sortby title" =
      .ok (.sorted (.clause ⟨"cost", ⟨"=", []⟩, "1"⟩) [⟨"title", []⟩]) ∧
    Query.combine (some "cost=1 sortby title") (some "cost=2) or (cost=3") =
      .ok (some outreaching) ∧
    (∃ whole, some outreaching = some whole ∧ whole.sorts = []) ∧
    catalogue.orderText (some outreaching) = .ok none ∧
    catalogue.orderColumns (some outreaching) = .ok none ∧
    ∀ table, catalogue.select table (some outreaching) = (do
      let table ← (checkTableName table).mapError .table
      let condition ← catalogue.whereText (some outreaching)
      return "SELECT * FROM " ++ table ++ introduced " WHERE " condition) := by
  have splits : Splits "cost=1 sortby title".toList
      [.word "cost", .comparison .equal, .word "1", .word "sortby", .word "title"] :=
    splits_iff_lex.mpr ⟨⟨19, by cbv⟩, by cbv⟩
  have stated : Says [.word "cost", .comparison .equal, .word "1"] ⟨"cost", ⟨"=", []⟩, "1"⟩ :=
    .inFull rfl (.sign .equal) .none (.words "1" [] (List.forall_mem_nil _))
  have keyed : Keys [.word "title"] [⟨"title", []⟩] := .key rfl .none .none
  have parsed := Query.parse_of_splits splits
    (.sorted (.operand (.clause stated)) foldCase_sortby keyed) (by decide)
  have combined : Query.combine (some "cost=1 sortby title") (some "cost=2) or (cost=3") =
      .ok (some outreaching) := by
    refine bind_eq_ok.mpr ⟨_, parsed, bind_pure_eq_ok.mpr ⟨outreaching, ?_, rfl⟩⟩
    cbv
  exact ⟨parsed, combined, combine_never_sorts catalogue _ _ _ combined⟩

end Registry

end ContextQuery
