import SqlBinding.Argument.Conversion
import SqlBinding.Proofs.Row.Agreement
import SqlBinding.Proofs.Sqlite.Reading
import SqlBinding.Proofs.Sqlite.Storing
import SqlBinding.Proofs.Statement.Substitution
import SqlBinding.Session.Operations
import SqlBinding.Sqlite.Connection

/-!
# Rows read back from SQLite

What a session writes to a table of an INTEGER, a TEXT and a BLOB column it reads back, whatever the
texts contain (`Entry.read_back`). The way there and back goes through the literals of the
arguments, the tokens of the statement, the stored rows, the buffered rows and the map that a row is
bound to.
-/

set_option autoImplicit false

namespace SqlBinding.Sqlite

open Numeric

/-! ### Buffered rows -/

namespace Rows

variable {d : Destination} {p : RowPlan}

/-- Buffered rows are bound one after the other. -/
theorem reads (columns : List ColumnType) (current : Option ResultRow) {rows : List ResultRow}
    {bound : List d.Val} (h : List.Forall₂ (fun row v => d.bind p row.values = .ok v) rows bound) :
    Fetch.Reads d p (⟨columns, rows, current⟩ : Rows) bound ⟨columns, [], none⟩ := by
  induction h generalizing current with
  | nil => exact .ended rfl
  | cons hrow _ ih => exact .row rfl (Fetch.current_eq_ok_iff.2 ⟨_, rfl, hrow⟩) (ih _)

variable {types : List ColumnType} {rows : List ResultRow} {bound : List d.Val}

/-- Planning for a result set uses the columns of its rows, and moves over none. -/
theorem plan_eq (htypes : (of rows).columns = types)
    (hplan : d.plan (types.map ColumnType.name) types = .ok p) :
    Fetch.plan d (of rows) = (.ok p, of rows) := by
  subst htypes
  exact congrArg (·, of rows) hplan

/-- All of them are had. -/
theorem all_eq (htypes : (of rows).columns = types)
    (hplan : d.plan (types.map ColumnType.name) types = .ok p)
    (h : List.Forall₂ (fun row v => d.bind p row.values = .ok v) rows bound) :
    (Fetch.all d (of rows)).1 = .ok bound :=
  Fetch.all_eq_ok_iff.2 ⟨p, _, _, plan_eq htypes hplan, reads _ none h, rfl⟩

/-- The only row of a result set is fetched as what binding it comes to. -/
theorem one_eq {row : ResultRow} {v : d.Val}
    (hplan : d.plan (row.columns.map ColumnType.name) row.columns = .ok p)
    (h : d.bind p row.values = .ok v) : (Fetch.one d (of [row])).1 = .ok v :=
  Fetch.one_eq_ok_iff.2 ⟨p, _, _, plan_eq rfl hplan, reads _ none (.cons h .nil), rfl⟩

end Rows

/-! ### Entries -/

/-- A number, a text and a byte string, each of which may be missing. -/
structure Entry where
  n : Option I64
  s : Option String
  b : Option (List UInt8)

namespace Entry

/-- The arguments by which an entry is written. -/
def arguments (e : Entry) : List Argument :=
  [(Scalar.optional (.int .i64)).toArgument e.n, (Scalar.optional .text).toArgument e.s,
    (Scalar.optional .bytes).toArgument e.b]

/-- The values that are stored of an entry. -/
def cells (e : Entry) : List Cell :=
  [e.n.elim .null .int, e.s.elim .null .text, e.b.elim .null .blob]

/-- The row that an entry is read back as. -/
def row (e : Entry) : NameMap ColumnValue :=
  ⟨[("n", e.n.elim .null .int), ("s", e.s.elim .null .text), ("b", e.b.elim .null .bytes)]⟩

/-- Only a text with a null character cannot be written. -/
def Writable (e : Entry) : Prop := ∀ text ∈ e.s, '\x00' ∉ text.toList

/-! ### Statements -/

/-- The template by which entries are inserted. -/
def insertion : List Char := "INSERT INTO t (n, s, b) VALUES (?, ?, ?)".toList

/-- The value group of the template. -/
def valueGroup : List Char := "(?, ?, ?)".toList

/-- What stands in front of the value group. -/
def beginning : List Char := "INSERT INTO t (n, s, b) VALUES ".toList

open Token in
/-- The list of the columns, and a blank behind it. -/
theorem lex_columns (rest : List Char) :
    lex ("(n, s, b) ".toList ++ rest) =
      [symbol '(', word "n", symbol ',', word "s", symbol ',', word "b", symbol ')'] ++
        lex rest := by
  have hn := lex_name 'n' ',' rfl (by decide) (fun _ => rfl) ("s, b) ".toList ++ rest)
  have hs := lex_name 's' ',' rfl (by decide) (fun _ => rfl) ("b) ".toList ++ rest)
  have hb := lex_name 'b' ')' rfl (by decide) (fun _ => rfl) rest
  calc lex ("(n, s, b) ".toList ++ rest)
      = symbol '(' :: lex ("n, s, b) ".toList ++ rest) := lex_symbol (by decide) _
    _ = [symbol '(', word "n", symbol ','] ++ lex ("s, b) ".toList ++ rest) := congrArg _ hn
    _ = [symbol '(', word "n", symbol ',', word "s", symbol ','] ++ lex ("b) ".toList ++ rest) :=
        congrArg ([symbol '(', word "n", symbol ','] ++ ·) hs
    _ = [symbol '(', word "n", symbol ',', word "s", symbol ',', word "b", symbol ')'] ++
          lex rest :=
        congrArg ([symbol '(', word "n", symbol ',', word "s", symbol ','] ++ ·) hb

open Token in
/-- What stands in front of the value group is the beginning of an insertion. -/
theorem lex_beginning (rest : List Char) :
    lex (beginning ++ rest) = Grammar.insertionTokens "t" ["n", "s", "b"] ++ lex rest := by
  have hinsert := lex_keyword 'I' "NSERT".toList rfl (fun _ => rfl)
    ("INTO t (n, s, b) VALUES ".toList ++ rest)
  have hinto := lex_keyword 'I' "NTO".toList rfl (fun _ => rfl)
    ("t (n, s, b) VALUES ".toList ++ rest)
  have htable := lex_keyword 't' [] rfl (fun _ => rfl) ("(n, s, b) VALUES ".toList ++ rest)
  have hvalues := lex_keyword 'V' "ALUES".toList rfl (fun _ => rfl) rest
  calc lex (beginning ++ rest)
      = word "INSERT" :: lex ("INTO t (n, s, b) VALUES ".toList ++ rest) := hinsert
    _ = [word "INSERT", word "INTO"] ++ lex ("t (n, s, b) VALUES ".toList ++ rest) :=
        congrArg _ hinto
    _ = [word "INSERT", word "INTO", word "t"] ++ lex ("(n, s, b) VALUES ".toList ++ rest) :=
        congrArg ([word "INSERT", word "INTO"] ++ ·) htable
    _ = Grammar.insertionTokens "t" ["n", "s", "b"] ++ lex rest :=
        congrArg ([word "INSERT", word "INTO", word "t"] ++ ·)
          ((lex_columns _).trans (congrArg _ hvalues))

/-- An argument has a literal, which spells a value. -/
def Written (a : Argument) (c : Cell) : Prop :=
  ∃ literal, a.literal .sqlite = .ok literal ∧ Token.Spells literal c

/-- The arguments of a writable entry spell its cells. -/
theorem written {e : Entry} (h : e.Writable) : List.Forall₂ Written e.arguments e.cells := by
  obtain ⟨n, s, b⟩ := e
  refine .cons ?n (.cons ?s (.cons ?b .nil))
  case n =>
    cases n with
    | none => exact ⟨_, rfl, Token.spells_null⟩
    | some n => exact ⟨_, rfl, Token.spells_int n⟩
  case s =>
    cases s with
    | none => exact ⟨_, rfl, Token.spells_null⟩
    | some s => exact ⟨_, rfl, Token.spells_text (h s rfl)⟩
  case b =>
    cases b with
    | none => exact ⟨_, rfl, Token.spells_null⟩
    | some b => exact ⟨_, rfl, Token.spells_bytes b⟩

/-- An entry is written as a row of literals, in the value group alone and in the insertion. -/
theorem exists_text {e : Entry} (h : e.Writable) :
    ∃ text, Statement.format .sqlite valueGroup e.arguments = .ok text ∧
      Statement.format .sqlite insertion e.arguments = .ok (beginning ++ text) ∧
      Token.Cuts text (Token.rowTokens e.cells) := by
  obtain ⟨literals, hliterals, hspells⟩ := Outcome.exists_mapM_eq_ok (e.written h)
  have hformat {template : List Char} (hcount : Statement.placeholders template = 3) :
      Statement.format .sqlite template e.arguments =
        .ok (Statement.woven (template.splitOn Statement.placeholder) literals) := by
    rw [Statement.format_eq_woven hcount, hliterals]
    rfl
  obtain ⟨n, s, b, rfl⟩ := List.length_eq_three.1 hspells.length_eq
  refine ⟨Token.rowText [n, s, b], ?_, ?_, Token.cuts_rowText hspells⟩
  · have hsplit : valueGroup.splitOn Statement.placeholder =
        [['('], [',', ' '], [',', ' '], [')']] := by decide
    rw [hformat (by decide), hsplit]
    simp [Statement.woven, Token.rowText, List.intercalate]
  · have hsplit : insertion.splitOn Statement.placeholder =
        [beginning ++ ['('], [',', ' '], [',', ' '], [')']] := by decide
    rw [hformat (by decide), hsplit]
    simp [Statement.woven, Token.rowText, List.intercalate]

/-- Each writable entry fills the value group with the text of its row. -/
theorem exists_texts {entries : List Entry} (h : ∀ e ∈ entries, e.Writable) :
    ∃ texts, Statement.formatRows .sqlite valueGroup (entries.map arguments) = .ok texts ∧
      List.Forall₂ Token.Cuts texts (entries.map fun e => Token.rowTokens e.cells) := by
  have hall : List.Forall₂ (fun e e' => ∃ text,
      Statement.format .sqlite valueGroup e.arguments = .ok text ∧
        Token.Cuts text (Token.rowTokens e'.cells)) entries entries := by
    refine List.forall₂_same.2 fun e he => ?_
    obtain ⟨text, htext, -, hcuts⟩ := exists_text (h e he)
    exact ⟨text, htext, hcuts⟩
  rw [Statement.formatRows_eq_mapM]
  exact Outcome.exists_mapM_eq_ok
    (List.forall₂_map_left_iff.2 (List.forall₂_map_right_iff.2 hall))

/-- Several entries are written by one statement. -/
theorem exists_batch {entries : List Entry} (hne : entries ≠ []) (h : ∀ e ∈ entries, e.Writable) :
    ∃ texts, Statement.batch .sqlite insertion (entries.map arguments) =
        .ok (beginning ++ List.intercalate [','] texts ++ [';']) ∧
      List.Forall₂ Token.Cuts texts (entries.map fun e => Token.rowTokens e.cells) := by
  obtain ⟨texts, htexts, hcuts⟩ := exists_texts h
  have hsplit : Statement.splitGroup insertion = some (beginning, valueGroup) := by
    decide +kernel
  have hcount : Statement.groupCount insertion = 1 := by decide +kernel
  have hrows : (entries.map arguments).isEmpty = false := by simpa using hne
  refine ⟨texts, ?_, hcuts⟩
  rw [Statement.batch, hsplit]
  simp only [hcount, hrows, htexts]
  rfl

/-- The insertion of entries as tokens. -/
def tokens (entries : List Entry) : List Token :=
  Grammar.insertionTokens "t" ["n", "s", "b"] ++
    Token.listed ((entries.map cells).map Token.rowTokens)

/-- An insertion is one statement. -/
theorem not_mem_tokens (entries : List Entry) : .symbol ';' ∉ tokens entries := by
  intro h
  rcases List.mem_append.1 h with h | h
  · revert h
    decide
  · rcases Token.mem_listed h with h | ⟨item, hitem, h⟩
    · cases h
    · obtain ⟨cells, -, rfl⟩ := List.mem_map.1 hitem
      exact Token.not_mem_rowTokens cells h

/-- The insertion is one statement, terminated or not. -/
theorem statements_insertion {entries : List Entry} {texts : List (List Char)}
    (h : List.Forall₂ Token.Cuts texts (entries.map fun e => Token.rowTokens e.cells))
    {terminator : List Char} (hterminator : terminator = [] ∨ terminator = [';']) :
    Token.statements (beginning ++ List.intercalate [','] texts ++ terminator) =
      [tokens entries] := by
  have hcuts := Token.cuts_intercalate Token.separates_comma h terminator
  have hlex : Token.Ends terminator →
      Token.lex (beginning ++ List.intercalate [','] texts ++ terminator) =
        tokens entries ++ Token.lex terminator := by
    intro hends
    rw [List.append_assoc, lex_beginning, hcuts hends, tokens, List.map_map, List.append_assoc]
    rfl
  apply Token.statements_eq (not_mem_tokens entries) (by simp [tokens, Grammar.insertionTokens])
  rcases hterminator with rfl | rfl
  · left
    rw [hlex (by simp [Token.Ends]), Token.lex, List.append_nil]
  · right
    rw [hlex (by simp [Token.Ends]; decide), Token.lex_symbol (by simp), Token.lex]

/-! ### The table -/

/-- The columns of the table, with any defaults. -/
def columns (n s b : Cell) : List ColumnDef :=
  [{ name := "n", declaredType := "INTEGER", default := n },
    { name := "s", declaredType := "TEXT", default := s },
    { name := "b", declaredType := "BLOB", default := b }]

/-- What is known about the columns of a result. -/
def types : List ColumnType := [⟨"n", "INTEGER", none⟩, ⟨"s", "TEXT", none⟩, ⟨"b", "BLOB", none⟩]

/-- The result row of an entry. -/
def resultRow (e : Entry) : ResultRow := ⟨types, e.cells.map Cell.toColumn⟩

/-- The table has no column of ids and no demand on values. -/
theorem plain_columns {t : Table} {n s b : Cell} (h : t.columns = columns n s b) : t.Plain := by
  intro c hc
  rw [h] at hc
  simp only [columns, List.mem_cons, List.not_mem_nil, or_false] at hc
  rcases hc with rfl | rfl | rfl <;> exact ⟨rfl, rfl⟩

/-- The names of the columns in uppercase, as they are compared. -/
theorem upper_names : upper "n" = "N" ∧ upper "s" = "S" ∧ upper "b" = "B" := by decide

/-- The affinities of the declared types. -/
theorem affinities : Affinity.ofDeclared "INTEGER" = .integer ∧ Affinity.ofDeclared "TEXT" = .text ∧
    Affinity.ofDeclared "BLOB" = .blob := by decide

/-- The columns keep the values of entries as they are. -/
theorem stores (e : Entry) (n s b : Cell) :
    Table.Stores (columns n s b) ["n", "s", "b"] e.cells e.cells := by
  obtain ⟨hn, hs, hb⟩ := upper_names
  obtain ⟨hinteger, htext, hblob⟩ := affinities
  obtain ⟨en, es, eb⟩ := e
  simp only [Table.Stores, columns, cells, List.map_cons, List.map_nil, ColumnDef.affinity,
    hinteger, htext, hblob, Table.given, List.zip_cons_cons, List.find?_cons, sameName, hn, hs, hb]
  cases en <;> cases es <;> rfl

/-- Entries have a value for each of the columns. -/
theorem checkInsert_entries {t : Table} {n s b : Cell} (h : t.columns = columns n s b)
    (entries : List Entry) :
    t.checkInsert ["n", "s", "b"] (entries.map cells) = .ok () := by
  have hnames : (["n", "s", "b"].find? fun name =>
      !t.columns.any fun c => sameName c.name name) = none := by
    simp [h, columns, sameName]
  rw [Table.checkInsert, hnames]
  simp [cells]

/-- The selection is the three columns as they are declared. -/
theorem project_entries {t : Table} {n s b : Cell} (h : t.columns = columns n s b) :
    t.project (.columns [⟨"n", none⟩, ⟨"s", none⟩, ⟨"b", none⟩]) =
      .ok (Table.result [(⟨"n", "INTEGER", none⟩, .column 0), (⟨"s", "TEXT", none⟩, .column 1),
        (⟨"b", "BLOB", none⟩, .column 2)]) := by
  obtain ⟨hn, hs, hb⟩ := upper_names
  have hresolve : t.resolve "n" = .ok (.column 0) ∧ t.resolve "s" = .ok (.column 1) ∧
      t.resolve "b" = .ok (.column 2) := by
    simp [Table.resolve, h, columns, List.findIdx?_cons, sameName, hn, hs, hb]
  have hreported : reportedType "INTEGER" = "INTEGER" ∧ reportedType "TEXT" = "TEXT" ∧
      reportedType "BLOB" = "BLOB" := by decide +kernel
  simp only [Table.project, Table.selected, hresolve, Table.describe, h, columns]
  simp [hreported, bind, Except.bind, Except.map]

/-! ### There and back -/

/-- The table holds these entries and nothing else. -/
def Holds (db : Store) (entries : List Entry) : Prop :=
  ∃ t n s b, db.table "t" = .ok t ∧ t.columns = columns n s b ∧
    t.rows.map Row.cells = entries.map cells

section

variable {db after : Store} {entries : List Entry} {sql : String}

/-- The tokens of an insertion run as the insertion of the cells. -/
theorem run_tokens (hne : entries ≠ []) (hsql : Token.statements sql.toList = [tokens entries])
    (db : Store) :
    Store.runAll (Token.statements sql.toList) db =
      db.insert "t" (some ["n", "s", "b"]) (entries.map cells) none := by
  have hread : Grammar.statement (tokens entries) =
      some (.insert "t" (some ["n", "s", "b"]) (entries.map cells) none) :=
    Grammar.statement_insertion "t" (by simp) (by simpa using hne) (by simp [cells])
  rw [hsql, Store.runAll_singleton hread]
  rfl

/-- The columns store the cells of entries as they are. -/
theorem forall₂_stores (entries : List Entry) (n s b : Cell) :
    List.Forall₂ (Table.Stores (columns n s b) ["n", "s", "b"]) (entries.map cells)
      (entries.map cells) := by
  rw [List.forall₂_map_left_iff, List.forall₂_map_right_iff, List.forall₂_same]
  exact fun e _ => e.stores n s b

/-- After an insertion into the empty table it holds what was inserted. -/
theorem holds_of_execute (hempty : Holds db []) (hne : entries ≠ [])
    (hsql : Token.statements sql.toList = [tokens entries]) {report : ChangeReport}
    (h : Store.execute sql db = (.ok report, after)) : Holds after entries := by
  obtain ⟨t, n, s, b, ht, hcolumns, hrows⟩ := hempty
  have hrows : t.rows = [] := List.map_eq_nil_iff.1 hrows
  have hcounted : Table.Counted t.rows := hrows ▸ Table.counted_nil
  rw [Store.execute, run_tokens hne hsql] at h
  rcases hinsert : db.insert "t" (some ["n", "s", "b"]) (entries.map cells) none with
    ⟨f | effect, s'⟩
  · rw [hinsert] at h
    cases h
  · rw [hinsert] at h
    cases h
    obtain ⟨added, htable, hadded⟩ := Store.insert_eq_ok ht (checkInsert_entries hcolumns entries)
      (hcolumns ▸ forall₂_stores entries n s b) (plain_columns hcolumns) hcounted hinsert
    refine ⟨_, n, s, b, htable, hcolumns, ?_⟩
    rw [hrows, List.nil_append, hadded]

/-- An insertion into the empty table succeeds unless there are more entries than ids. -/
theorem exists_execute (hempty : Holds db []) (hne : entries ≠ [])
    (hsql : Token.statements sql.toList = [tokens entries])
    (hfits : entries.length ≤ IntKind.i64.maxNat) :
    ∃ report after, Store.execute sql db = (.ok report, after) := by
  obtain ⟨t, n, s, b, ht, hcolumns, hrows⟩ := hempty
  have hrows : t.rows = [] := List.map_eq_nil_iff.1 hrows
  have hcounted : Table.Counted t.rows := hrows ▸ Table.counted_nil
  obtain ⟨effect, s', hinsert⟩ := Store.exists_insert_eq_ok ht
    (checkInsert_entries hcolumns entries) (hcolumns ▸ forall₂_stores entries n s b)
    (plain_columns hcolumns) hcounted (by simpa [hrows] using hfits)
  rw [Store.execute, run_tokens hne hsql, hinsert]
  exact ⟨_, _, rfl⟩

/-- The query by which entries are read. -/
def selection : List Char := "SELECT n, s, b FROM t".toList

/-- The selection answers with the entries that the table holds. -/
theorem query_selection (h : Holds db entries) :
    Store.query (String.ofList selection) db = (.ok (.of (entries.map resultRow)), db) := by
  obtain ⟨t, n, s, b, ht, hcolumns, hrows⟩ := h
  have htokens : Token.statements (String.ofList selection).toList =
      [[.word "SELECT", .word "n", .symbol ',', .word "s", .symbol ',', .word "b", .word "FROM",
        .word "t"]] := by
    decide +kernel
  have hread : Grammar.statement [.word "SELECT", .word "n", .symbol ',', .word "s", .symbol ',',
      .word "b", .word "FROM", .word "t"] =
      some (.select (.columns [⟨"n", none⟩, ⟨"s", none⟩, ⟨"b", none⟩]) "t" none none) := by
    decide
  have hresult : Table.result [(⟨"n", "INTEGER", none⟩, .column 0),
      (⟨"s", "TEXT", none⟩, .column 1), (⟨"b", "BLOB", none⟩, .column 2)] t.rows =
      entries.map resultRow := by
    have hview := congrArg (List.map fun cells : List Cell => ResultRow.mk types
      [Cell.toColumn (cells[0]?.getD .null), Cell.toColumn (cells[1]?.getD .null),
        Cell.toColumn (cells[2]?.getD .null)]) hrows
    rw [List.map_map, List.map_map] at hview
    exact hview
  have hselect : db.select (.columns [⟨"n", none⟩, ⟨"s", none⟩, ⟨"b", none⟩]) "t" none none =
      .ok ⟨entries.map resultRow, 0⟩ := by
    simp [Store.select, ht, project_entries hcolumns, Table.filtered, Table.ordered, bind,
      Except.bind, hresult]
  rw [Store.query, htokens, Store.runAll_singleton hread, Store.run, hselect]

end

/-! ### Maps of rows -/

/-- The plan by which result rows become maps. -/
def plan : RowPlan := .forMap (types.map ColumnType.name) types

/-- The type families of the declared types. -/
theorem families : ColumnType.family ⟨"n", "INTEGER", none⟩ = .integer ∧
    ColumnType.family ⟨"s", "TEXT", none⟩ = .text ∧
    ColumnType.family ⟨"b", "BLOB", none⟩ = .raw := by decide +kernel

/-- A stored number is read as itself. -/
theorem read_int (n : Option I64) :
    TypeFamily.integer.read (Cell.toColumn (n.elim .null .int)) none =
      .ok (n.elim .null .int) := by
  cases n with
  | none => rfl
  | some n =>
    have hrange : IntKind.i64.ofInt? n.val = some n := IntKind.ofInt?_eq_some_iff.2 rfl
    show (ColumnValue.toInteger (.int n) .i64).map ColumnValue.int = _
    rw [ColumnValue.toInteger, hrange]
    rfl

/-- A stored text is read as itself. -/
theorem read_text (s : Option String) :
    TypeFamily.text.read (Cell.toColumn (s.elim .null .text)) none = .ok (s.elim .null .text) := by
  cases s <;> rfl

/-- A stored byte string is read as itself. -/
theorem read_bytes (b : Option (List UInt8)) :
    TypeFamily.raw.read (Cell.toColumn (b.elim .null .blob)) none = .ok (b.elim .null .bytes) := by
  cases b <;> rfl

/-- The result row of an entry is bound to the map of the entry. -/
theorem bind_resultRow (e : Entry) : Destination.map.bind plan e.resultRow.values = .ok e.row := by
  obtain ⟨hn, hs, hb⟩ := families
  have hread : plan.readValues 0 .empty (types.zip e.resultRow.values) = .ok e.row := by
    simp only [types, resultRow, cells, List.map_cons, List.map_nil,
      List.zip_cons_cons, List.zip_nil_left, RowPlan.readValues, hn, hs, hb, read_int, read_text,
      read_bytes]
    rfl
  exact hread

/-! ### Entries written and read -/

variable {db after : Store}

/-- The selection answers with what the buffered rows come to. -/
theorem withCursor_selection {α : Type} (use : Rows → Except Error α × Rows)
    {entries : List Entry} (h : Holds db entries) :
    (Session.withCursor use selection db).1 =
      (use (.of (entries.map resultRow))).1 := by
  have hquery : Executor.query (String.ofList selection) db =
      (.ok (Rows.of (entries.map resultRow)), db) := query_selection h
  rw [Session.withCursor, hquery]

/-- The only entry of the table is read back. -/
theorem get_entry {e : Entry} (h : Holds db [e]) :
    (Session.get .sqlite .map selection [] db).1 = .ok e.row := by
  have hget : Session.get .sqlite .map selection [] db =
      Session.withCursor (Fetch.one .map) selection db := rfl
  rw [hget, withCursor_selection _ h]
  exact Rows.one_eq (p := plan) rfl (bind_resultRow e)

/-- All entries of the table are read back in their order. -/
theorem query_entries {entries : List Entry} (hne : entries ≠ []) (h : Holds db entries) :
    (Session.query .sqlite .map selection [] db).1 = .ok (entries.map row) := by
  have hquery : Session.query .sqlite .map selection [] db =
      Session.withCursor (Fetch.all .map) selection db := rfl
  have htypes : (Rows.of (entries.map resultRow)).columns = types := by
    cases entries with
    | nil => exact absurd rfl hne
    | cons e entries => rfl
  have hbound : List.Forall₂ (fun row v => Destination.map.bind plan row.values = .ok v)
      (entries.map resultRow) (entries.map row) := by
    rw [List.forall₂_map_left_iff, List.forall₂_map_right_iff, List.forall₂_same]
    exact fun e _ => bind_resultRow e
  rw [hquery, withCursor_selection _ h]
  exact Rows.all_eq htypes rfl hbound

/-- A statement is sent with success exactly if it is executed with success. -/
theorem exists_send_iff {sql : List Char} :
    (∃ affected, Session.send .sqlite sql db = (.ok affected, after)) ↔
      ∃ report, Store.execute (String.ofList sql) db = (.ok report, after) := by
  have hexecute : Executor.execute (String.ofList sql) db =
      Store.execute (String.ofList sql) db := rfl
  rw [Session.send, hexecute]
  rcases Store.execute (String.ofList sql) db with ⟨e | report, db'⟩
  · simp
  · simp

/-- An entry is inserted by one statement. -/
theorem exec_eq_send {e : Entry} (h : e.Writable) (db : Store) :
    ∃ sql, Token.statements (String.ofList sql).toList = [tokens [e]] ∧
      Session.exec .sqlite insertion e.arguments db = Session.send .sqlite sql db := by
  obtain ⟨text, -, hformat, hcuts⟩ := exists_text h
  have hone : List.Forall₂ Token.Cuts [text] ([e].map fun e => Token.rowTokens e.cells) :=
    .cons hcuts .nil
  refine ⟨beginning ++ text, ?_, ?_⟩
  · simpa using statements_insertion hone (.inl rfl)
  · rw [Session.exec, hformat]

/-- Inserting writable entries sends one statement with their tokens. -/
theorem insertMany_eq_send {entries : List Entry} (hne : entries ≠ [])
    (h : ∀ e ∈ entries, e.Writable) (db : Store) :
    ∃ sql, Token.statements (String.ofList sql).toList = [tokens entries] ∧
      Session.insertMany .sqlite insertion (entries.map arguments) db =
        Session.send .sqlite sql db := by
  obtain ⟨texts, hbatch, hcuts⟩ := exists_batch hne h
  refine ⟨beginning ++ List.intercalate [','] texts ++ [';'], ?_, ?_⟩
  · rw [String.toList_ofList]
    exact statements_insertion hcuts (.inr rfl)
  · rw [Session.insertMany, hbatch]

section

variable {entries : List Entry} {sql : List Char}

/-- After an insertion that succeeds, the table holds the entries. -/
theorem holds_of_send (hempty : Holds db []) (hne : entries ≠ [])
    (hsql : Token.statements (String.ofList sql).toList = [tokens entries])
    {affected : Affected ChangeReport}
    (h : Session.send .sqlite sql db = (.ok affected, after)) : Holds after entries := by
  obtain ⟨report, hexecute⟩ := exists_send_iff.1 ⟨affected, h⟩
  exact holds_of_execute hempty hne hsql hexecute

/-- An insertion into the empty table succeeds, if there are ids for its rows. -/
theorem exists_send (hempty : Holds db []) (hne : entries ≠ [])
    (hsql : Token.statements (String.ofList sql).toList = [tokens entries])
    (hfits : entries.length ≤ IntKind.i64.maxNat) :
    ∃ affected after, Session.send .sqlite sql db = (.ok affected, after) := by
  obtain ⟨report, after, hexecute⟩ := exists_execute hempty hne hsql hfits
  obtain ⟨affected, hsend⟩ := exists_send_iff.2 ⟨report, hexecute⟩
  exact ⟨affected, after, hsend⟩

end

/-- What a session writes to the empty table it reads back. -/
theorem read_back (db : Store) (t : Table) (n s b : Cell) (ht : db.table "t" = .ok t)
    (hcolumns : t.columns = columns n s b) (hempty : t.rows = []) :
    (∀ e : Entry, e.Writable →
      ∃ affected after, Session.exec .sqlite insertion e.arguments db = (.ok affected, after) ∧
        (Session.get .sqlite .map selection [] after).1 = .ok e.row) ∧
      ∀ entries : List Entry, entries ≠ [] → (∀ e ∈ entries, e.Writable) →
        (entries.length ≤ IntKind.i64.maxNat → ∃ affected after,
          Session.insertMany .sqlite insertion (entries.map arguments) db =
            (.ok affected, after)) ∧
        ∀ affected after,
          Session.insertMany .sqlite insertion (entries.map arguments) db =
            (.ok affected, after) →
          (Session.query .sqlite .map selection [] after).1 = .ok (entries.map row) := by
  have hempty : Holds db [] := ⟨t, n, s, b, ht, hcolumns, by rw [hempty]; rfl⟩
  constructor
  · intro e he
    obtain ⟨sql, hsql, hexec⟩ := exec_eq_send he db
    have hone : [e].length ≤ IntKind.i64.maxNat := show 1 ≤ IntKind.i64.maxNat by decide
    obtain ⟨affected, after, hsend⟩ := exists_send hempty (by simp) hsql hone
    have hholds : Holds after [e] := holds_of_send hempty (by simp) hsql hsend
    exact ⟨affected, after, hexec.trans hsend, get_entry hholds⟩
  · intro entries hne hwritable
    obtain ⟨sql, hsql, hinsert⟩ := insertMany_eq_send hne hwritable db
    rw [hinsert]
    refine ⟨exists_send hempty hne hsql, fun affected after hsend => ?_⟩
    exact query_entries hne (holds_of_send hempty hne hsql hsend)

/-- The database with the empty table. -/
def emptyTable : Store where
  tables := [⟨"t", columns .null .null .null, []⟩]

/-- The least number, a text that looks like the end of its literal, and no bytes. -/
def awkward : Entry where
  n := some ⟨-9223372036854775808, by decide, by decide⟩
  s := some "it's?'); -- /*"
  b := some []

/-- An entry whose text tries to end its literal, read back alone and in front of one that has
nothing. -/
theorem read_back_awkward :
    (Store.execute "CREATE TABLE t (n INTEGER, s TEXT, b BLOB)" {}).2 = emptyTable ∧
      (∃ affected after,
        Session.exec .sqlite insertion awkward.arguments emptyTable = (.ok affected, after) ∧
          (Session.get .sqlite .map selection [] after).1 = .ok awkward.row) ∧
      ∃ affected after,
        Session.insertMany .sqlite insertion
            [awkward.arguments, (Entry.mk none none none).arguments] emptyTable =
          (.ok affected, after) ∧
        (Session.query .sqlite .map selection [] after).1 =
          .ok [awkward.row, (Entry.mk none none none).row] := by
  have hawkward : awkward.Writable := by
    intro text htext
    cases htext
    decide
  have hmissing : (Entry.mk none none none).Writable := nofun
  obtain ⟨hone, hseveral⟩ := read_back emptyTable ⟨"t", columns .null .null .null, []⟩
    .null .null .null (by decide +kernel) rfl rfl
  obtain ⟨hsucceeds, hread⟩ := hseveral [awkward, ⟨none, none, none⟩] (by simp)
    (by simpa using ⟨hawkward, hmissing⟩)
  obtain ⟨affected, after, hinsert⟩ := hsucceeds (show 2 ≤ IntKind.i64.maxNat by decide)
  exact ⟨by decide +kernel, hone awkward hawkward, affected, after, hinsert,
    hread affected after hinsert⟩

end Entry

end SqlBinding.Sqlite
