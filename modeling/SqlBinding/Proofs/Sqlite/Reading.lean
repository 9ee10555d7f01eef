import SqlBinding.Proofs.Sqlite.Lexing
import SqlBinding.Sqlite.Grammar

/-!
# Insertions as SQLite reads them

A list with commas between its items is read item by item if every item is (`items_listed`), and so
the rows of values of an insertion are read as the values that their literals spell
(`statement_insertion`).
-/

set_option autoImplicit false

namespace SqlBinding.Sqlite

open Token (listed ofCell rowTokens)

namespace Token

/-- Items with tokens take as many tokens as there are items. -/
theorem length_le_listed {α : Type} {tokens : α → List Token} (hne : ∀ x, tokens x ≠ [])
    (xs : List α) : xs.length ≤ (listed (xs.map tokens)).length := by
  induction xs with
  | nil => exact Nat.zero_le _
  | cons x xs ih =>
    have hx : 1 ≤ (tokens x).length := List.length_pos_iff.2 (hne x)
    cases xs with
    | nil => simpa [listed] using hx
    | cons y ys =>
      simp only [listed, List.map_cons, List.intercalate_cons_cons, List.length_append,
        List.length_cons] at ih ⊢
      omega

end Token

namespace Grammar

/-- The token of a value is read as the value. -/
theorem literal_ofCell (c : Cell) (rest : List Token) :
    literal (ofCell c :: rest) = some (c, rest) := by
  cases c with
  | null =>
    have hnull : upper "NULL" = "NULL" := by decide
    simp [literal, ofCell, hnull]
  | int | real | text | blob => rfl

section

variable {α β : Type} {item : Reader α} (tokens : β → List Token) (value : β → α)

/-- Listed items are read one by one, if the bound allows for all of them. -/
theorem itemsUpTo_listed {xs : List β} (hxs : xs ≠ [])
    (hitem : ∀ x ∈ xs, ∀ rest, item (tokens x ++ rest) = some (value x, rest)) {rest : List Token}
    (hrest : rest.head? ≠ some (.symbol ',')) {count : Nat} (hcount : xs.length ≤ count) :
    itemsUpTo item count (listed (xs.map tokens) ++ rest) = some (xs.map value, rest) := by
  induction xs generalizing count with
  | nil => exact absurd rfl hxs
  | cons x xs ih =>
    obtain ⟨count, rfl⟩ : ∃ k, count = k + 1 := ⟨count - 1, by simp at hcount; omega⟩
    have hfirst := hitem x (List.mem_cons_self ..)
    cases xs with
    | nil =>
      have hx : item (listed ([x].map tokens) ++ rest) = some (value x, rest) := by
        simpa [listed] using hfirst rest
      rw [itemsUpTo, hx]
      cases rest with
      | nil => rfl
      | cons t rest =>
        have ht : t ≠ .symbol ',' := fun ht => hrest (congrArg some ht)
        simp [ht]
    | cons y ys =>
      have hx : item (listed ((x :: y :: ys).map tokens) ++ rest) =
          some (value x, .symbol ',' :: (listed ((y :: ys).map tokens) ++ rest)) := by
        simpa [listed] using hfirst (.symbol ',' :: (listed ((y :: ys).map tokens) ++ rest))
      have hmore := ih (by simp) (fun z hz => hitem z (List.mem_cons_of_mem x hz))
        (Nat.le_of_succ_le_succ hcount)
      rw [itemsUpTo, hx]
      simp only [hmore]
      rfl

/-- Listed items are read up to what is no comma. -/
theorem items_listed (hne : ∀ x, tokens x ≠ []) {xs : List β} (hxs : xs ≠ [])
    (hitem : ∀ x ∈ xs, ∀ rest, item (tokens x ++ rest) = some (value x, rest)) {rest : List Token}
    (hrest : rest.head? ≠ some (.symbol ',')) :
    items item (listed (xs.map tokens) ++ rest) = some (xs.map value, rest) := by
  apply itemsUpTo_listed tokens value hxs hitem hrest
  rw [List.length_append]
  exact Nat.le_add_right_of_le (Token.length_le_listed hne xs)

/-- Listed items in parentheses are read as a group. -/
theorem group_listed (hne : ∀ x, tokens x ≠ []) {xs : List β} (hxs : xs ≠ [])
    (hitem : ∀ x ∈ xs, ∀ rest, item (tokens x ++ rest) = some (value x, rest))
    (rest : List Token) :
    group item (.symbol '(' :: (listed (xs.map tokens) ++ .symbol ')' :: rest)) =
      some (xs.map value, rest) := by
  have hclosing : (Token.symbol ')' :: rest).head? ≠ some (.symbol ',') := by simp
  have hitems := items_listed tokens value hne hxs hitem hclosing
  simp [group, symbol, hitems]

end

/-- The tokens of a row are read as a group of its values. -/
theorem group_rowTokens {cells : List Cell} (hcells : cells ≠ []) (rest : List Token) :
    group literal (rowTokens cells ++ rest) = some (cells, rest) := by
  have hgroup := group_listed (fun c => [ofCell c]) id (by simp) hcells
    (fun c _ rest => literal_ofCell c rest) rest
  simpa [rowTokens] using hgroup

/-- The tokens in front of the rows of an insertion into columns of a table. -/
def insertionTokens (table : String) (columns : List String) : List Token :=
  .word "INSERT" :: .word "INTO" :: .word table :: .symbol '(' ::
    (listed (columns.map fun c => [.word c]) ++ [.symbol ')', .word "VALUES"])

/-- An insertion is read as the values that its literals spell. -/
theorem statement_insertion (table : String) {columns : List String} (hcolumns : columns ≠ [])
    {rows : List (List Cell)} (hrows : rows ≠ []) (hcells : ∀ cells ∈ rows, cells ≠ []) :
    statement (insertionTokens table columns ++ listed (rows.map rowTokens)) =
      some (.insert table (some columns) rows none) := by
  have hinsert : upper "INSERT" = "INSERT" := by decide
  have hinto : upper "INTO" = "INTO" := by decide
  have hvalues : upper "VALUES" = "VALUES" := by decide
  have hname (c : String) (rest : List Token) : name ([.word c] ++ rest) = some (c, rest) := rfl
  have hnames (rest : List Token) := group_listed (fun c => [.word c]) id (by simp) hcolumns
    (fun c _ rest => hname c rest) rest
  have hvaluesRead : items (group literal) (listed (rows.map rowTokens)) = some (rows, []) := by
    have hend : ([] : List Token).head? ≠ some (.symbol ',') := by simp
    have hitems := items_listed rowTokens id (by simp [rowTokens]) hrows
      (fun cells hmem rest => group_rowTokens (hcells cells hmem) rest) hend
    simpa using hitems
  have happend : insertionTokens table columns ++ listed (rows.map rowTokens) =
      .word "INSERT" :: .word "INTO" :: .word table :: .symbol '(' ::
        (listed (columns.map fun c => [.word c]) ++
          .symbol ')' :: .word "VALUES" :: listed (rows.map rowTokens)) := by
    simp [insertionTokens]
  rw [happend]
  simp only [statement, hinsert, insert, keyword, name, columnNames, hinto]
  simp [hnames, keyword, hvalues, hvaluesRead, clause, finish]

end Grammar

end SqlBinding.Sqlite
