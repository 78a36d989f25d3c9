import ContextQuery.Proofs.Select.Atoms

/-!
# Orders and their sort keys

A query is sorted by the keys of the sort at its root, declarations at the root aside. The order of
a statement has one place for each key: the column of its index, and the direction that its
modifiers ask for (`Registry.order_lists_keys`). A key without a column, or with a modifier that is
no direction, keeps the whole from having an order, and the first such key is the one reported. The
columns alone are listed whatever the modifiers are, as long as the indexes are known. Of a field only
its column counts here, so nothing depends on the types of fields.
-/

namespace ContextQuery

/-! ## Sorted queries -/

/-- The query is sorted by the keys, at its root or below the declarations that it opens with. -/
inductive Query.SortedBy : Query → List SortKey → Prop where
  | sorted (subtree : Query) (keys : List SortKey) : SortedBy (.sorted subtree keys) keys
  | scoped {subtree : Query} {keys : List SortKey} (name : Option String) (uri : String)
      (below : SortedBy subtree keys) : SortedBy (.scoped name uri subtree) keys

/-- The keys that are found are those of the sort at the root, or below the declarations there. -/
theorem Query.sortKeys?_eq_some_iff {q : Query} {keys : List SortKey} :
    q.sortKeys? = some keys ↔ q.SortedBy keys := by
  constructor
  · intro found
    induction q with
    | clause | boolean => cases found
    | sorted subtree others =>
        cases found
        exact .sorted subtree keys
    | «scoped» name uri subtree ih => exact .scoped name uri (ih found)
  · intro sorted
    induction sorted with
    | sorted subtree keys => rfl
    | «scoped» name uri below ih => exact ih

/-! ## Directions -/

namespace Modifier

/-- The modifier says in which direction to sort. -/
def IsDirection (m : Modifier) : Prop :=
  m.name = "sort.ascending" ∨ m.name = "sort.descending"

instance (m : Modifier) : Decidable m.IsDirection :=
  inferInstanceAs (Decidable (_ ∨ _))

/-- The error that the modifier is for a sort key. -/
def sortError? (m : Modifier) : Option SelectError :=
  if m.IsDirection then none else some (.unsupportedSortModifier m.name)

theorem sortError?_eq_none_iff {m : Modifier} : m.sortError? = none ↔ m.IsDirection := by
  simp [sortError?]

end Modifier

namespace SortKey

/-- The direction that the modifiers ask for: down if one of them does, wherever it stands. -/
def directionWord (key : SortKey) : String :=
  if ∃ m ∈ key.modifiers, m.name = "sort.descending" then "DESC" else "ASC"

/-- The place of the key in an order, where its index has this field. -/
def place (key : SortKey) (field : Field) : String :=
  field.column ++ " " ++ key.directionWord

end SortKey

namespace Registry

/-- The modifiers are looked at from the left, and all of them, also behind one that decides. -/
theorem reports_direction (ms : List Modifier) :
    Reports (direction ms) (ms.findSome? Modifier.sortError?) := by
  induction ms with
  | nil => exact ⟨"ASC", rfl⟩
  | cons m ms ih =>
      unfold direction
      by_cases up : m.name = "sort.ascending"
      · rw [if_pos (beq_iff_eq.mpr up), List.findSome?_cons,
          Modifier.sortError?_eq_none_iff.mpr (.inl up)]
        exact ih
      · rw [if_neg (mt beq_iff_eq.mp up)]
        by_cases down : m.name = "sort.descending"
        · rw [if_pos (beq_iff_eq.mpr down), List.findSome?_cons,
            Modifier.sortError?_eq_none_iff.mpr (.inr down)]
          exact ih.bind_pure
        · have other : ¬ m.IsDirection := not_or.mpr ⟨up, down⟩
          rw [if_neg (mt beq_iff_eq.mp down), List.findSome?_cons, Modifier.sortError?,
            if_neg other]
          rfl

/-- Where all modifiers are directions, one that says down decides. -/
theorem direction_of_forall {ms : List Modifier} (all : ∀ m ∈ ms, m.IsDirection) :
    direction ms =
      .ok (if ∃ m ∈ ms, m.name = "sort.descending" then "DESC" else "ASC") := by
  induction ms with
  | nil => rfl
  | cons m ms ih =>
      obtain ⟨isDirection, all⟩ := List.forall_mem_cons.mp all
      unfold direction
      rw [ih all]
      by_cases down : m.name = "sort.descending"
      · have found : ∃ m' ∈ m :: ms, m'.name = "sort.descending" := ⟨m, List.mem_cons_self, down⟩
        rw [if_pos found, down]
        rfl
      · have up : m.name = "sort.ascending" := isDirection.resolve_right down
        rw [if_pos (beq_iff_eq.mpr up)]
        simp [down]

/-! ## Keys -/

/-- The key has a place in the orders over the registry. -/
def Orders (r : Registry) (key : SortKey) : Prop :=
  (∃ field, r.find? key.base = some field) ∧ ∀ m ∈ key.modifiers, m.IsDirection

/-- What is wrong with a sort key that has no place in an order: its index, and if that is right the
leftmost of its modifiers that is no direction. -/
inductive KeyFault (r : Registry) (key : SortKey) : SelectError → Prop where
  | unknownIndex (unknown : r.find? key.base = none) : KeyFault r key (.unknownIndex key.base)
  | modifier {field : Field} {before after : List Modifier} {m : Modifier}
      (known : r.find? key.base = some field) (split : key.modifiers = before ++ m :: after)
      (directions : ∀ earlier ∈ before, earlier.IsDirection) (other : ¬ m.IsDirection) :
      KeyFault r key (.unsupportedSortModifier m.name)

/-- The error that the index of a sort key is. -/
def columnError? (r : Registry) (key : SortKey) : Option SelectError :=
  match r.find? key.base with
  | some _ => none
  | none => some (.unknownIndex key.base)

/-- The error that a sort key is. -/
def keyError? (r : Registry) (key : SortKey) : Option SelectError :=
  (r.columnError? key).or (key.modifiers.findSome? Modifier.sortError?)

variable {r : Registry} {key : SortKey} {e : SelectError}

/-- A key has a column just when its index is known. -/
theorem columnError?_eq_none_iff :
    r.columnError? key = none ↔ ∃ field, r.find? key.base = some field := by
  unfold columnError?
  cases r.find? key.base with
  | none => simp
  | some field => simp

theorem columnError?_eq_some_iff :
    r.columnError? key = some e ↔ r.find? key.base = none ∧ e = .unknownIndex key.base := by
  unfold columnError?
  cases r.find? key.base with
  | none => simp [eq_comm]
  | some field => simp

/-- A key has a place in an order just when nothing is wrong with it. -/
theorem keyError?_eq_none_iff : r.keyError? key = none ↔ r.Orders key := by
  unfold keyError? Orders
  rw [Option.or_eq_none_iff, columnError?_eq_none_iff, List.findSome?_eq_none_iff]
  simp only [Modifier.sortError?_eq_none_iff]

/-- One thing is reported of a key: its index, or the leftmost modifier that is no direction. -/
theorem keyError?_eq_some_iff : r.keyError? key = some e ↔ r.KeyFault key e := by
  unfold keyError?
  rw [Option.or_eq_some_iff, columnError?_eq_some_iff, columnError?_eq_none_iff,
    List.findSome?_eq_some_iff]
  simp only [Modifier.sortError?_eq_none_iff]
  constructor
  · rintro (⟨unknown, rfl⟩ | ⟨⟨field, known⟩, before, m, after, split, own, directions⟩)
    · exact .unknownIndex unknown
    · unfold Modifier.sortError? at own
      split at own
      · cases own
      · next other =>
        cases own
        exact .modifier known split directions other
  · intro fault
    cases fault with
    | unknownIndex unknown => exact .inl ⟨unknown, rfl⟩
    | modifier known split directions other =>
        exact .inr ⟨⟨_, known⟩, _, _, _, split, if_neg other, directions⟩

theorem reports_sortColumn (r : Registry) (key : SortKey) :
    Reports (r.sortColumn key) (r.columnError? key) := by
  unfold sortColumn resolve columnError?
  cases r.find? key.base with
  | none => rfl
  | some field => exact ⟨field.column, rfl⟩

/-- The index of a key is looked up before its modifiers are looked at. -/
theorem reports_sortTerm (r : Registry) (key : SortKey) :
    Reports (r.sortTerm key) (r.keyError? key) :=
  (r.reports_sortColumn key).bind fun _ => (reports_direction key.modifiers).bind_pure

theorem sortColumn_of_find? {field : Field} (known : r.find? key.base = some field) :
    r.sortColumn key = .ok field.column := by
  unfold sortColumn
  rw [resolve_eq_ok.mpr known]
  rfl

theorem sortTerm_of_find? {field : Field} (known : r.find? key.base = some field)
    (all : ∀ m ∈ key.modifiers, m.IsDirection) : r.sortTerm key = .ok (key.place field) := by
  unfold sortTerm
  rw [sortColumn_of_find? known, direction_of_forall all]
  rfl

/-! ## Lists of keys -/

variable {keys : List SortKey} {fields : List Field}

/-- What the clauses of a statement are joined with is a comma and a space. -/
theorem commaSeparated_eq_intercalate (ss : List String) :
    commaSeparated ss = ", ".intercalate ss := by
  induction ss with
  | nil => rfl
  | cons s ss ih =>
      cases ss with
      | nil => exact String.intercalate_singleton.symm
      | cons t ss =>
          show s ++ ", " ++ commaSeparated (t :: ss) = _
          rw [ih, String.intercalate_cons_cons]

/-- The fields of keys with known indexes, one for each key. -/
theorem exists_fields (known : ∀ key ∈ keys, ∃ field, r.find? key.base = some field) :
    ∃ fields : List Field, keys.map (fun key => r.find? key.base) = fields.map some := by
  induction keys with
  | nil => exact ⟨[], rfl⟩
  | cons key keys ih =>
      obtain ⟨⟨field, found⟩, known⟩ := List.forall_mem_cons.mp known
      obtain ⟨fields, same⟩ := ih known
      exact ⟨field :: fields, by rw [List.map_cons, found, same, List.map_cons]⟩

/-- Keys with known indexes have their columns, whatever their modifiers are. -/
theorem mapM_sortColumn (known : keys.map (fun key => r.find? key.base) = fields.map some) :
    keys.mapM r.sortColumn = .ok (fields.map Field.column) := by
  induction keys generalizing fields with
  | nil =>
      cases List.map_eq_nil_iff.mp known.symm
      rfl
  | cons key keys ih =>
      obtain ⟨field, fields, rfl, found, known⟩ := List.map_eq_cons_iff.mp known.symm
      exact mapM_cons_eq_ok.mpr ⟨_, _, sortColumn_of_find? found.symm, ih known.symm, rfl⟩

theorem mapM_sortTerm (known : keys.map (fun key => r.find? key.base) = fields.map some)
    (all : ∀ key ∈ keys, ∀ m ∈ key.modifiers, m.IsDirection) :
    keys.mapM r.sortTerm = .ok (List.zipWith SortKey.place keys fields) := by
  induction keys generalizing fields with
  | nil =>
      cases List.map_eq_nil_iff.mp known.symm
      rfl
  | cons key keys ih =>
      obtain ⟨field, fields, rfl, found, known⟩ := List.map_eq_cons_iff.mp known.symm
      obtain ⟨here, all⟩ := List.forall_mem_cons.mp all
      exact mapM_cons_eq_ok.mpr ⟨_, _, sortTerm_of_find? found.symm here, ih known.symm all, rfl⟩

/-! ## Orders -/

variable {q : Query}

/-- The order of a sorted query reports the first key at fault. -/
theorem reports_orderText (r : Registry) (sorted : q.SortedBy keys) :
    Reports (r.orderText (some q)) (keys.findSome? r.keyError?) := by
  unfold orderText
  rw [Option.bind_some, Query.sortKeys?_eq_some_iff.mpr sorted]
  exact (Reports.mapM r.reports_sortTerm keys).bind_pure

/-- The columns of a sorted query report the first key whose index is unknown. -/
theorem reports_orderColumns (r : Registry) (sorted : q.SortedBy keys) :
    Reports (r.orderColumns (some q)) (keys.findSome? r.columnError?) := by
  unfold orderColumns
  rw [Option.bind_some, Query.sortKeys?_eq_some_iff.mpr sorted]
  exact (Reports.mapM r.reports_sortColumn keys).bind_pure

/-- The order has one place for each key, in their sequence. -/
theorem orderText_of_fields (sorted : q.SortedBy keys)
    (known : keys.map (fun key => r.find? key.base) = fields.map some)
    (all : ∀ key ∈ keys, ∀ m ∈ key.modifiers, m.IsDirection) :
    r.orderText (some q) =
      .ok (some (", ".intercalate (List.zipWith SortKey.place keys fields))) := by
  unfold orderText
  rw [Option.bind_some, Query.sortKeys?_eq_some_iff.mpr sorted]
  dsimp only
  rw [mapM_sortTerm known all, ok_bind, commaSeparated_eq_intercalate]
  rfl

/-- The columns are listed from the indexes alone. -/
theorem orderColumns_of_fields (sorted : q.SortedBy keys)
    (known : keys.map (fun key => r.find? key.base) = fields.map some) :
    r.orderColumns (some q) = .ok (some (", ".intercalate (fields.map Field.column))) := by
  unfold orderColumns
  rw [Option.bind_some, Query.sortKeys?_eq_some_iff.mpr sorted]
  dsimp only
  rw [mapM_sortColumn known, ok_bind, commaSeparated_eq_intercalate]
  rfl

/-- Where there is no sort there is no order, and only there. -/
theorem order_eq_none_iff (r : Registry) (q : Option Query) :
    (r.orderText q = .ok none ↔ ¬ ∃ whole keys, q = some whole ∧ whole.SortedBy keys) ∧
      (r.orderColumns q = .ok none ↔ ¬ ∃ whole keys, q = some whole ∧ whole.SortedBy keys) := by
  have unsorted : q.bind Query.sortKeys? = none ↔
      ¬ ∃ whole keys, q = some whole ∧ whole.SortedBy keys := by
    rw [Option.eq_none_iff_forall_ne_some]
    constructor
    · rintro noKeys ⟨whole, keys, rfl, sorted⟩
      exact noKeys keys (Query.sortKeys?_eq_some_iff.mpr sorted)
    · intro unsorted keys found
      obtain ⟨whole, rfl, found⟩ := Option.bind_eq_some_iff.mp found
      exact unsorted ⟨whole, keys, rfl, Query.sortKeys?_eq_some_iff.mp found⟩
  unfold orderText orderColumns
  rw [← unsorted]
  cases q.bind Query.sortKeys? with
  | none => exact ⟨iff_of_true rfl rfl, iff_of_true rfl rfl⟩
  | some keys =>
      -- with keys there is a text or an error
      refine ⟨iff_of_false ?_ nofun, iff_of_false ?_ nofun⟩
      · intro noText
        obtain ⟨terms, -, same⟩ := bind_pure_eq_ok.mp noText
        cases same
      · intro noText
        obtain ⟨columns, -, same⟩ := bind_pure_eq_ok.mp noText
        cases same

/-- **Orders.** A query has no order, and no columns to sort by, just when no sort stands at its root
or below the declarations there. Otherwise it has an order just when the index of each key is known
and each of its modifiers is a direction. The order then has one place for each key, in their
sequence, and the columns are the same list without directions. The columns ask for known indexes
only: they are listed also where a modifier is no direction. If there is no order, the first key at
fault is reported; for the columns that is the first key whose index is unknown. -/
theorem order_lists_keys (r : Registry) (q : Option Query) :
    (r.orderText q = .ok none ↔ ¬ ∃ whole keys, q = some whole ∧ whole.SortedBy keys) ∧
    (r.orderColumns q = .ok none ↔ ¬ ∃ whole keys, q = some whole ∧ whole.SortedBy keys) ∧
    ∀ whole keys, q = some whole → whole.SortedBy keys →
      ((∃ order, r.orderText q = .ok order) ↔ ∀ key ∈ keys, r.Orders key) ∧
      ((∃ order, r.orderText q = .ok order) → ∃ fields : List Field,
        keys.map (fun key => r.find? key.base) = fields.map some ∧
        r.orderText q = .ok (some (", ".intercalate (List.zipWith SortKey.place keys fields))) ∧
        r.orderColumns q = .ok (some (", ".intercalate (fields.map Field.column)))) ∧
      ((∀ key ∈ keys, ∃ field, r.find? key.base = some field) → ∃ fields : List Field,
        keys.map (fun key => r.find? key.base) = fields.map some ∧
        r.orderColumns q = .ok (some (", ".intercalate (fields.map Field.column)))) ∧
      (∀ e, r.orderText q = .error e ↔ ∃ before key after, keys = before ++ key :: after ∧
        r.KeyFault key e ∧ ∀ earlier ∈ before, r.Orders earlier) ∧
      (∀ e, r.orderColumns q = .error e ↔ ∃ before key after, keys = before ++ key :: after ∧
        (r.find? key.base = none ∧ e = .unknownIndex key.base) ∧
        ∀ earlier ∈ before, ∃ field, r.find? earlier.base = some field) := by
  obtain ⟨noOrder, noColumns⟩ := r.order_eq_none_iff q
  refine ⟨noOrder, noColumns, ?_⟩
  rintro whole keys rfl sorted
  have ordered : (∃ order, r.orderText (some whole) = .ok order) ↔ ∀ key ∈ keys, r.Orders key := by
    rw [(r.reports_orderText sorted).isOk_iff, List.findSome?_eq_none_iff]
    simp only [keyError?_eq_none_iff]
  refine ⟨ordered, ?_, ?_, ?_, ?_⟩
  · intro succeeds
    have all := ordered.mp succeeds
    obtain ⟨fields, known⟩ := exists_fields fun key member => (all key member).1
    refine ⟨fields, known, orderText_of_fields sorted known ?_, orderColumns_of_fields sorted known⟩
    exact fun key member => (all key member).2
  · intro allKnown
    obtain ⟨fields, known⟩ := exists_fields allKnown
    exact ⟨fields, known, orderColumns_of_fields sorted known⟩
  · intro e
    rw [(r.reports_orderText sorted).eq_error_iff, List.findSome?_eq_some_iff]
    simp only [keyError?_eq_some_iff, keyError?_eq_none_iff]
  · intro e
    rw [(r.reports_orderColumns sorted).eq_error_iff, List.findSome?_eq_some_iff]
    simp only [columnError?_eq_some_iff, columnError?_eq_none_iff]

/-- A query that is sorted below a declaration. -/
def declaredOrder (keys : List SortKey) : Query :=
  .scoped (some "dc") "x" (.sorted (.clause ⟨"title", ⟨"=", []⟩, "a"⟩) keys)

/-- A key that asks for both directions. -/
def costKey : SortKey :=
  ⟨"COST", [⟨"sort.descending", none, none⟩, ⟨"sort.ascending", none, none⟩]⟩

/-- A key with a modifier that is no direction behind one that is. -/
def titleKey : SortKey :=
  ⟨"title", [⟨"sort.descending", none, none⟩, ⟨"missing", none, none⟩]⟩

theorem order_lists_keys_of_catalogue :
    (declaredOrder [costKey, ⟨"title", []⟩]).SortedBy [costKey, ⟨"title", []⟩] ∧
    catalogue.orderText (some (declaredOrder [costKey, ⟨"title", []⟩])) =
      .ok (some "price DESC, title ASC") ∧
    (∃ fields : List Field,
      [costKey, ⟨"title", []⟩].map (fun key => catalogue.find? key.base) = fields.map some ∧
      catalogue.orderText (some (declaredOrder [costKey, ⟨"title", []⟩])) = .ok (some
        (", ".intercalate (List.zipWith SortKey.place [costKey, ⟨"title", []⟩] fields))) ∧
      catalogue.orderColumns (some (declaredOrder [costKey, ⟨"title", []⟩])) =
        .ok (some (", ".intercalate (fields.map Field.column)))) ∧
    (∃ fields : List Field,
      [titleKey, costKey].map (fun key => catalogue.find? key.base) = fields.map some ∧
      catalogue.orderColumns (some (declaredOrder [titleKey, costKey])) =
        .ok (some (", ".intercalate (fields.map Field.column)))) ∧
    catalogue.orderText (some (declaredOrder [titleKey, ⟨"date", []⟩])) =
      .error (.unsupportedSortModifier "missing") ∧
    catalogue.orderColumns (some (declaredOrder [titleKey, ⟨"date", []⟩])) =
      .error (.unknownIndex "date") := by
  have sorted (keys : List SortKey) : (declaredOrder keys).SortedBy keys :=
    .scoped _ _ (.sorted _ _)
  have ordered : catalogue.orderText (some (declaredOrder [costKey, ⟨"title", []⟩])) =
      .ok (some "price DESC, title ASC") := by decide +kernel
  obtain ⟨-, listed, -, -, -⟩ := (order_lists_keys catalogue _).2.2 _ _ rfl (sorted _)
  obtain ⟨-, -, columns, -, -⟩ :=
    (order_lists_keys catalogue _).2.2 _ _ rfl (sorted [titleKey, costKey])
  obtain ⟨-, -, -, refused, refusedColumns⟩ :=
    (order_lists_keys catalogue _).2.2 _ _ rfl (sorted [titleKey, ⟨"date", []⟩])
  have known : catalogue.find? titleKey.base = some ⟨"title", .text { matching := .like }⟩ := by
    decide +kernel
  have knownCost : catalogue.find? costKey.base = some ⟨"price", .number⟩ := by decide +kernel
  refine ⟨sorted _, ordered, listed ⟨_, ordered⟩, columns ?_, ?_, ?_⟩
  · exact List.forall_mem_cons.mpr ⟨⟨_, known⟩, List.forall_mem_singleton.mpr ⟨_, knownCost⟩⟩
  · have split : titleKey.modifiers =
        [⟨"sort.descending", none, none⟩] ++ ⟨"missing", none, none⟩ :: [] := rfl
    have fault : catalogue.KeyFault titleKey (.unsupportedSortModifier "missing") :=
      .modifier known split (List.forall_mem_singleton.mpr (.inr rfl)) (by decide)
    exact (refused _).mpr ⟨[], titleKey, [⟨"date", []⟩], rfl, fault, nofun⟩
  · refine (refusedColumns _).mpr ⟨[titleKey], ⟨"date", []⟩, [], rfl, ⟨by decide +kernel, rfl⟩, ?_⟩
    exact List.forall_mem_singleton.mpr ⟨_, known⟩

end Registry

end ContextQuery
