import SqlBinding.Proofs.Statement.Substitution
import SqlBinding.Proofs.Statement.ValueGroup

/-!
# Batches repeat their group

A batch repeats the only value group of its template for every row (`batch_eq`). Each row is
formatted into the group like any other template, and so an empty row is not refused: without
arguments a template is returned as it is, which leaves the placeholders of the group in the
statement. Every other row must have as many arguments as the group has placeholders.
-/

set_option autoImplicit false

namespace SqlBinding.Statement

variable {d : Dialect} {template before group after : List Char} {rows : List (List Argument)}

/-! ### Batches and their rows -/

/-- Without exactly one group there is no batch. -/
theorem batch_of_not_unique (h : ¬ ∃! i, GroupAt template i) :
    ∃ fault, batch d template rows = .error (.statementSyntax fault) ∧
      (fault = .noGroup ↔ ∀ i, ¬ GroupAt template i) := by
  rw [existsUnique_groupAt_iff] at h
  cases hsplit : splitGroup template with
  | none => exact ⟨.noGroup, by rw [batch, hsplit], by simp [splitGroup_eq_none_iff.1 hsplit]⟩
  | some parts =>
    have hsome : ¬ ∀ i, ¬ GroupAt template i := fun hnone => by
      simp [splitGroup_eq_none_iff.2 hnone] at hsplit
    have hseveral : 1 < groupCount template := by
      have hne : groupCount template ≠ 0 := mt groupCount_eq_zero_iff.1 hsome
      omega
    refine ⟨.severalGroups, ?_, by simp [hsome]⟩
    simp only [batch, hsplit, if_pos hseveral]

/-- With exactly one group, what comes of the rows decides. -/
theorem batch_eq (htemplate : template = before ++ group ++ after) (hgroup : IsValueGroup group)
    (honly : ∃! i, GroupAt template i) :
    batch d template rows =
      if rows = [] then .error .emptyArrayArgument
      else (rows.mapM (format d group)).map fun texts =>
        before ++ List.intercalate [','] texts ++ [';'] := by
  subst htemplate
  have hhere : GroupAt (before ++ group ++ after) before.length := groupAt_length hgroup
  have hfirst : ∀ i < before.length, ¬ GroupAt (before ++ group ++ after) i := fun i hi hat =>
    Nat.ne_of_lt hi (honly.unique hat hhere)
  have hone : ¬ 1 < groupCount (before ++ group ++ after) :=
    Nat.not_lt.2 (groupCount_le_one_iff.2 fun i j hi hj => honly.unique hi hj)
  simp only [batch, splitGroup_append hgroup hfirst, if_neg hone, formatRows_eq_mapM,
    List.isEmpty_iff]

/-- A batch succeeds with the text before the group, its rows with commas between them and a
semicolon. -/
theorem batch_eq_ok_iff (htemplate : template = before ++ group ++ after)
    (hgroup : IsValueGroup group) (honly : ∃! i, GroupAt template i) (hrows : rows ≠ [])
    (out : List Char) :
    batch d template rows = .ok out ↔
      ∃ texts, List.Forall₂ (fun row text => format d group row = .ok text) rows texts ∧
        before ++ List.intercalate [','] texts ++ [';'] = out := by
  rw [batch_eq htemplate hgroup honly, if_neg hrows, Outcome.map_eq_ok_iff]
  simp only [Outcome.mapM_eq_ok_iff]

/-- Whether formatting comes to a row: all rows before it can be formatted. -/
def Reaches (d : Dialect) (group : List Char) (rows : List (List Argument))
    (row : List Argument) : Prop :=
  ∃ front back, rows = front ++ row :: back ∧ ∀ r ∈ front, ∃ text, format d group r = .ok text

/-- The first row that cannot be formatted decides. -/
theorem batch_eq_error_iff (htemplate : template = before ++ group ++ after)
    (hgroup : IsValueGroup group) (honly : ∃! i, GroupAt template i) (hrows : rows ≠ [])
    {e : Error} :
    batch d template rows = .error e ↔
      ∃ row, Reaches d group rows row ∧ format d group row = .error e := by
  rw [batch_eq htemplate hgroup honly, if_neg hrows, Outcome.map_eq_error_iff,
    Outcome.mapM_eq_error_iff]
  constructor
  · rintro ⟨front, row, back, hsplit, hfront, hrow⟩
    exact ⟨row, ⟨front, back, hsplit, hfront⟩, hrow⟩
  · rintro ⟨row, ⟨front, back, hsplit, hfront⟩, hrow⟩
    exact ⟨front, row, back, hsplit, hfront, hrow⟩

/-- Formatting comes to no row if there is none. -/
theorem Reaches.ne_nil {row : List Argument} (h : Reaches d group rows row) : rows ≠ [] := by
  obtain ⟨front, back, rfl, -⟩ := h
  simp

/-- Formatting comes to all rows if none of them fails. -/
theorem reaches_of_mem {texts : List (List Char)}
    (h : List.Forall₂ (fun row text => format d group row = .ok text) rows texts)
    {row : List Argument} (hrow : row ∈ rows) : Reaches d group rows row := by
  have hall : ∀ r ∈ rows, ∃ text, format d group r = .ok text :=
    ((List.forall₂_and_left _ _).1 (h.imp fun _ text htext => ⟨⟨text, htext⟩, htext⟩)).1
  obtain ⟨front, back, rfl⟩ := List.append_of_mem hrow
  exact ⟨front, back, rfl, fun r hr => hall r (List.mem_append_left _ hr)⟩

/-- Another number of arguments than placeholders is refused, unless one of them is zero. -/
theorem format_of_ne {arguments : List Argument} (hplaceholder : 0 < placeholders template)
    (hne : arguments ≠ []) (hcount : placeholders template ≠ arguments.length) :
    format d template arguments =
      .error (.statementFormat (placeholders template) arguments.length) := by
  simp [format, hne, Nat.ne_of_gt hplaceholder, hcount]

/-- A value group has a placeholder. -/
theorem IsValueGroup.placeholders_pos (h : IsValueGroup group) : 0 < placeholders group := by
  obtain ⟨gaps, count, gap, hne, -, -, rfl⟩ := h
  obtain ⟨g, gaps, rfl⟩ := List.exists_cons_of_ne_nil hne
  rw [itemsText_cons]
  exact List.count_pos_iff.2 (by simp [placeholder])

/-- What stands in front of the placeholders of a template is kept when it is formatted. -/
theorem format_append_left (hbefore : placeholder ∉ before) {row : List Argument}
    (hrow : row ≠ []) (hplaceholder : 0 < placeholders group) :
    format d (before ++ group) row = (format d group row).map (before ++ ·) := by
  have hnone : placeholders before = 0 := List.count_eq_zero.2 hbefore
  have hall : placeholders (before ++ group) = placeholders group := by
    rw [placeholders, List.count_append]
    exact (congrArg (· + _) hnone).trans (Nat.zero_add _)
  by_cases hcount : placeholders group = row.length
  · have hkept : fill d before [] = .ok before := by
      rw [← format_eq_fill hnone]
      rfl
    have happend : fill d (before ++ group) ([] ++ row) = _ := fill_append hnone
    rw [hkept, List.nil_append] at happend
    rw [format_eq_fill (hall.trans hcount), format_eq_fill hcount, happend]
    cases fill d group row <;> rfl
  · rw [format_of_ne (hall ▸ hplaceholder) hrow (hall ▸ hcount),
      format_of_ne hplaceholder hrow hcount, hall]
    rfl

/-- The result of a batch: no rows are refused, the first row that cannot be formatted into the
group decides, and otherwise the formatted rows follow the text before the group. -/
structure Repeats (d : Dialect) (before group : List Char) (rows : List (List Argument))
    (result : Except Error (List Char)) : Prop where
  of_empty : rows = [] → result = .error .emptyArrayArgument
  of_failure : ∀ row e, Reaches d group rows row → format d group row = .error e →
    result = .error e
  of_success : ∀ texts, rows ≠ [] →
    List.Forall₂ (fun row text => format d group row = .ok text) rows texts →
      result = .ok (before ++ List.intercalate [','] texts ++ [';'])

/-- A batch has exactly one position at which a value group begins, or it is refused, whatever the
rows are. It repeats the group for every row behind the text before the group, and drops what stands
behind it. For one row with arguments this is the formatted template, if the group ends it and has
all of its placeholders. -/
theorem batch_repeats_group (d : Dialect) (template : List Char) (rows : List (List Argument)) :
    ((¬ ∃! i, GroupAt template i) →
      ∃ fault, batch d template rows = .error (.statementSyntax fault) ∧
        (fault = .noGroup ↔ ∀ i, ¬ GroupAt template i)) ∧
    ∀ before group after, template = before ++ group ++ after → IsValueGroup group →
      (∃! i, GroupAt template i) →
        Repeats d before group rows (batch d template rows) ∧
        ∀ row, rows = [row] → row ≠ [] → after = [] → placeholder ∉ before →
          batch d template rows = (format d template row).map (· ++ [';']) := by
  refine ⟨batch_of_not_unique, fun before group after htemplate hgroup honly => ⟨?_, ?_⟩⟩
  · constructor
    case of_empty =>
      intro hrows
      rw [batch_eq htemplate hgroup honly, if_pos hrows]
    case of_failure =>
      intro row e hreached hrow
      exact (batch_eq_error_iff htemplate hgroup honly hreached.ne_nil).2 ⟨row, hreached, hrow⟩
    case of_success =>
      intro texts hrows htexts
      exact (batch_eq_ok_iff htemplate hgroup honly hrows _).2 ⟨texts, htexts, rfl⟩
  · rintro row rfl hrow rfl hbefore
    rw [batch_eq htemplate hgroup honly, if_neg (List.cons_ne_nil _ _), htemplate,
      List.append_nil, format_append_left hbefore hrow hgroup.placeholders_pos]
    rw [List.mapM_cons]
    cases format d group row <;> simp [Except.map, bind, Except.bind, pure, Except.pure]

/-- A group with blanks of several kinds and two placeholders at its end, for two rows; and a group
that is the end of its template, for one. -/
theorem batch_repeats_group_blanks :
    let before := "INSERT INTO t VALUES ".toList
    let group := "(?,\t?,\u3000??\u00a0)".toList
    let after := " ON CONFLICT (?, x)".toList
    let rows : List (List Argument) :=
      [[.null, .text "?", .bool true, .text "(?,?)"], [.text "it's", .null, .null, .null]]
    let row : List Argument := [.null, .text "x", .bool true, .bool false]
    (∃! i, GroupAt (before ++ group ++ after) i) ∧ IsValueGroup group ∧
      batch .sqlite (before ++ group ++ after) rows =
        .ok ("INSERT INTO t VALUES (NULL,\t'?',\u30001'(?,?)'\u00a0)," ++
          "('it''s',\tNULL,\u3000NULLNULL\u00a0);").toList ∧
      (∃! i, GroupAt (before ++ group ++ []) i) ∧
      format .sqlite (before ++ group ++ []) row =
        .ok "INSERT INTO t VALUES (NULL,\t'x',\u300010\u00a0)".toList ∧
      batch .sqlite (before ++ group ++ []) [row] =
        (format .sqlite (before ++ group ++ []) row).map (· ++ [';']) := by
  have hcount : groupCount ("INSERT INTO t VALUES ".toList ++ "(?,\t?,\u3000??\u00a0)".toList ++
      " ON CONFLICT (?, x)".toList) = 1 := by cbv
  have hcount' : groupCount ("INSERT INTO t VALUES ".toList ++
      "(?,\t?,\u3000??\u00a0)".toList ++ []) = 1 := by cbv
  intro before group after rows row
  have hgroup : IsValueGroup group :=
    ⟨[['\t'], ['\u3000']], 2, ['\u00a0'], by decide, by decide, by decide, rfl⟩
  have honly := existsUnique_groupAt_iff.2 hcount
  have honly' := existsUnique_groupAt_iff.2 hcount'
  refine ⟨honly, hgroup, ?_, honly', rfl, ?_⟩
  · obtain ⟨-, hbatch⟩ := batch_repeats_group .sqlite (before ++ group ++ after) rows
    exact (hbatch before group after rfl hgroup honly).1.of_success _ (List.cons_ne_nil _ _)
      (.cons rfl (.cons rfl .nil))
  · obtain ⟨-, hbatch⟩ := batch_repeats_group .sqlite (before ++ group ++ []) [row]
    exact (hbatch before group [] rfl hgroup honly').2 row rfl (List.cons_ne_nil _ _) rfl
      (by decide)

/-! ### The number of arguments of a row -/

/-- The pieces between separators have no separator in them. -/
theorem not_mem_of_mem_splitOn {c : Char} {cs piece : List Char} (h : piece ∈ cs.splitOn c) :
    c ∉ piece := by
  induction cs generalizing piece with
  | nil =>
    rw [List.splitOn_nil, List.mem_singleton] at h
    simp [h]
  | cons x cs ih =>
    rw [List.splitOn_cons_eq_if_modifyHead] at h
    split at h
    · rcases List.mem_cons.1 h with rfl | h
      · exact List.not_mem_nil
      · exact ih h
    · rename_i hx
      cases hsplit : cs.splitOn c with
      | nil => exact absurd hsplit (List.splitOn_ne_nil c cs)
      | cons first pieces =>
        rw [hsplit, List.modifyHead_cons] at h
        rcases List.mem_cons.1 h with rfl | h
        · have hfirst : c ∉ first := ih (by rw [hsplit]; exact List.mem_cons_self)
          have hne : x ≠ c := fun heq => hx (beq_iff_eq.2 heq)
          exact List.not_mem_cons_of_ne_of_not_mem hne.symm hfirst
        · exact ih (by rw [hsplit]; exact List.mem_cons_of_mem _ h)

/-- There is one more piece than there are separators. -/
theorem length_splitOn (c : Char) (cs : List Char) :
    (cs.splitOn c).length = cs.count c + 1 := by
  induction cs with
  | nil => rfl
  | cons x cs ih =>
    rw [List.splitOn_cons_eq_if_modifyHead, List.count_cons]
    split <;> simp [ih]

/-- A group filled with the literals of a row: they stand between pieces of the group that have no
placeholder. -/
def Fills (d : Dialect) (group : List Char) (row : List Argument) (text : List Char) : Prop :=
  ∃ pieces literals, row.mapM (Argument.literal d) = .ok literals ∧
    List.intercalate [placeholder] pieces = group ∧ (∀ piece ∈ pieces, placeholder ∉ piece) ∧
    pieces.length = literals.length + 1 ∧ text = woven pieces literals

/-- Rows of another number of arguments than the group has placeholders are refused for it, unless
a row before them is refused, and no placeholder of the group is left in the statement. -/
structure ChecksRows (d : Dialect) (before group : List Char) (rows : List (List Argument))
    (result : Except Error (List Char)) : Prop where
  of_length : ∀ row, Reaches d group rows row → row.length ≠ placeholders group →
    result = .error (.statementFormat (placeholders group) row.length)
  length : ∀ out, result = .ok out → ∀ row ∈ rows, row.length = placeholders group
  filled : ∀ out, result = .ok out → ∃ texts, List.Forall₂ (Fills d group) rows texts ∧
    out = before ++ List.intercalate [','] texts ++ [';']

/-- A row is formatted only if it is empty or has an argument for every placeholder of the group. -/
theorem fills_of_format {row : List Argument} {text : List Char} (hgroup : IsValueGroup group)
    (h : format d group row = .ok text) :
    row = [] ∧ text = group ∨ row.length = placeholders group ∧ Fills d group row text := by
  by_cases hrow : row = []
  · subst hrow
    exact .inl ⟨rfl, (Except.ok.inj h).symm⟩
  right
  by_cases hcount : placeholders group = row.length
  · rw [format_eq_woven hcount] at h
    obtain ⟨literals, hliterals, rfl⟩ := Outcome.map_eq_ok_iff.1 h
    have hlength : literals.length = row.length :=
      (Outcome.mapM_eq_ok_iff.1 hliterals).length_eq.symm
    refine ⟨hcount.symm, group.splitOn placeholder, literals, hliterals,
      List.intercalate_splitOn placeholder, fun _ => not_mem_of_mem_splitOn, ?_, rfl⟩
    rw [length_splitOn, hlength, ← hcount]
    rfl
  · rw [format_of_ne hgroup.placeholders_pos hrow hcount] at h
    cases h

/-- The error of a wrong number of arguments never counts none. -/
theorem format_ne_statementFormat_zero (template : List Char) (arguments : List Argument)
    (n : Nat) : format d template arguments ≠ .error (.statementFormat n 0) := by
  intro h
  unfold format at h
  split at h
  · cases h
  · rename_i hsome
    split at h
    · exact fill_ne_statementFormat template arguments n 0 h
    · cases arguments with
      | nil => exact hsome rfl
      | cons a rest => cases h

/-- A batch over one group refuses every row whose number of arguments is neither that of the
placeholders of the group nor zero. A row without arguments leaves the group as it is. Hence the
rows are checked exactly if formatting comes to no empty row. -/
theorem batch_checks_rows_unless_empty (d : Dialect) (template : List Char)
    (rows : List (List Argument)) (before group after : List Char)
    (htemplate : template = before ++ group ++ after) (hgroup : IsValueGroup group)
    (honly : ∃! i, GroupAt template i) (hrows : rows ≠ []) :
    (∀ row, Reaches d group rows row → row ≠ [] → row.length ≠ placeholders group →
      batch d template rows = .error (.statementFormat (placeholders group) row.length)) ∧
    (∀ out, batch d template rows = .ok out →
      ∃ texts, out = before ++ List.intercalate [','] texts ++ [';'] ∧
        List.Forall₂ (fun row text => row = [] ∧ text = group ∨
          row.length = placeholders group ∧ Fills d group row text) rows texts) ∧
    (ChecksRows d before group rows (batch d template rows) ↔ ¬ Reaches d group rows []) := by
  have hrefused : ∀ row, Reaches d group rows row → row ≠ [] → row.length ≠ placeholders group →
      batch d template rows = .error (.statementFormat (placeholders group) row.length) :=
    fun row hreached hrow hlength => (batch_eq_error_iff htemplate hgroup honly hrows).2
      ⟨row, hreached, format_of_ne hgroup.placeholders_pos hrow hlength.symm⟩
  have hok := batch_eq_ok_iff (d := d) htemplate hgroup honly hrows
  refine ⟨hrefused, fun out hout => ?_, fun hchecks hreached => ?_, fun hempty => ?_⟩
  · obtain ⟨texts, htexts, rfl⟩ := (hok out).1 hout
    exact ⟨texts, rfl, htexts.imp fun row text h => fills_of_format hgroup h⟩
  · have hresult := hchecks.of_length [] hreached (Nat.ne_of_lt hgroup.placeholders_pos)
    obtain ⟨row, -, hrow⟩ := (batch_eq_error_iff htemplate hgroup honly hrows).1 hresult
    exact format_ne_statementFormat_zero group row _ hrow
  · -- Without empty rows, whatever is formatted fills the group.
    have hfills {texts : List (List Char)}
        (htexts : List.Forall₂ (fun row text => format d group row = .ok text) rows texts) :
        (∀ row ∈ rows, row.length = placeholders group) ∧
          List.Forall₂ (Fills d group) rows texts := by
      have hne : ∀ row ∈ rows, row ≠ [] := fun row hrow hnil =>
        hempty (hnil ▸ reaches_of_mem htexts hrow)
      have hpairs := (List.forall₂_and_left _ _).2 ⟨hne, htexts⟩
      exact (List.forall₂_and_left _ _).1 <| hpairs.imp fun row text ⟨hrow, h⟩ =>
        (fills_of_format hgroup h).resolve_left fun hnil => hrow hnil.1
    constructor
    case of_length =>
      intro row hreached hlength
      refine hrefused row hreached (fun hrow => hempty ?_) hlength
      rwa [hrow] at hreached
    case length =>
      intro out hout
      obtain ⟨texts, htexts, -⟩ := (hok out).1 hout
      exact (hfills htexts).1
    case filled =>
      intro out hout
      obtain ⟨texts, htexts, rfl⟩ := (hok out).1 hout
      exact ⟨texts, (hfills htexts).2, rfl⟩

/-- The group is sent as it is for a row without arguments. -/
theorem batch_leaves_empty_row :
    let template := "INSERT INTO t (a,b) VALUES (?,?)".toList
    (∃! i, GroupAt template i) ∧ IsValueGroup "(?,?)".toList ∧
      batch .sqlite template [[]] = .ok "INSERT INTO t (a,b) VALUES (?,?);".toList ∧
      ¬ ChecksRows .sqlite "INSERT INTO t (a,b) VALUES ".toList "(?,?)".toList [[]]
        (batch .sqlite template [[]]) := by
  have hcount : groupCount "INSERT INTO t (a,b) VALUES (?,?)".toList = 1 := by cbv
  have hbatch : batch .sqlite "INSERT INTO t (a,b) VALUES (?,?)".toList [[]] =
      .ok "INSERT INTO t (a,b) VALUES (?,?);".toList := by cbv
  refine ⟨existsUnique_groupAt_iff.2 hcount, ⟨[[]], 1, [], by decide, by decide, by decide, rfl⟩,
    hbatch, fun h => ?_⟩
  have hlength := h.length _ hbatch [] (List.mem_singleton_self _)
  revert hlength
  decide

/-- A row that is too short, behind one that is not. -/
theorem batch_checks_rows_short :
    let before := "INSERT INTO t (a,b) VALUES ".toList
    let rows : List (List Argument) := [[.null, .text "x"], [.null]]
    let group := "(?,?)".toList
    rows ≠ [] ∧ (∃! i, GroupAt (before ++ group ++ []) i) ∧ IsValueGroup group ∧
      batch .sqlite (before ++ group ++ []) rows = .error (.statementFormat 2 1) ∧
      ChecksRows .sqlite before group rows (batch .sqlite (before ++ group ++ []) rows) := by
  have hcount : groupCount ("INSERT INTO t (a,b) VALUES ".toList ++ "(?,?)".toList ++ []) = 1 := by
    cbv
  intro before rows group
  have hgroup : IsValueGroup group := ⟨[[]], 1, [], by decide, by decide, by decide, rfl⟩
  have honly := existsUnique_groupAt_iff.2 hcount
  have hrows : rows ≠ [] := List.cons_ne_nil _ _
  obtain ⟨hrefused, -, hchecks⟩ := batch_checks_rows_unless_empty .sqlite
    (before ++ group ++ []) rows before group [] rfl hgroup honly hrows
  have hreached : Reaches .sqlite group rows [.null] := by
    refine ⟨[[.null, .text "x"]], [], rfl, fun r hr => ?_⟩
    rw [List.mem_singleton.1 hr]
    exact ⟨_, rfl⟩
  have hne : [] ∉ rows := by simp [rows]
  refine ⟨hrows, honly, hgroup, hrefused [.null] hreached (List.cons_ne_nil _ _) (by decide),
    hchecks.2 ?_⟩
  rintro ⟨front, back, hsplit, -⟩
  exact hne (by rw [hsplit]; simp)

end SqlBinding.Statement
