import SqlBinding.NameMap

/-!
# Maps from names, looked up

What a map from names holds after an entry has been put into it, or one entry after the other: of
several entries of a name the last one stays (`get?_insertAll`).
-/

set_option autoImplicit false

namespace SqlBinding.NameMap

variable {α : Type}

/-- An entry that was put in is found under its name, and the others are left as they were. -/
theorem lookup_insertEntry (name key : String) (value : α) (entries : List (String × α)) :
    (insertEntry name value entries).lookup key =
      if key = name then some value else entries.lookup key := by
  induction entries with
  | nil =>
    rw [insertEntry]
    by_cases h : key = name
    · simp [h]
    · simp [List.lookup_cons, h, beq_false_of_ne h]
  | cons entry rest ih =>
    obtain ⟨n, v⟩ := entry
    rw [insertEntry]
    by_cases hn : n = name
    · subst hn
      by_cases h : key = n
      · simp [h]
      · simp [List.lookup_cons, h, beq_false_of_ne h]
    · rw [if_neg hn]
      by_cases h : key = n
      · subst h
        simp [hn]
      · simp [List.lookup_cons, beq_false_of_ne h, ih]

/-- A name that is put in has its new value, and every other one what it had. -/
theorem get?_insert (m : NameMap α) (name key : String) (value : α) :
    (m.insert name value).get? key = if key = name then some value else m.get? key :=
  lookup_insertEntry name key value m.entries

/-- The names of a map are those that it has a value for. -/
theorem mem_names_iff (m : NameMap α) (name : String) :
    name ∈ m.names ↔ (m.get? name).isSome := by
  rw [get?, List.lookup_isSome_iff, names, List.mem_map]
  constructor
  · rintro ⟨entry, hentry, rfl⟩
    exact ⟨entry, hentry, beq_self_eq_true _⟩
  · rintro ⟨entry, hentry, hname⟩
    exact ⟨entry, hentry, (eq_of_beq hname).symm⟩

/-- The names behind an insertion are those before it and the new one. -/
theorem mem_names_insert (m : NameMap α) (name key : String) (value : α) :
    key ∈ (m.insert name value).names ↔ key = name ∨ key ∈ m.names := by
  rw [mem_names_iff, mem_names_iff, get?_insert]
  split
  · rename_i h
    simp [h]
  · rename_i h
    simp [h]

/-- A map with one entry of every name keeps that when an entry is put in. -/
theorem nodup_names_insert {m : NameMap α} (h : m.names.Nodup) (name : String) (value : α) :
    (m.insert name value).names.Nodup := by
  obtain ⟨entries⟩ := m
  show ((insertEntry name value entries).map (·.1)).Nodup
  have hnames : (entries.map (·.1)).Nodup := h
  clear h
  induction entries with
  | nil => simp [insertEntry]
  | cons entry rest ih =>
    obtain ⟨n, v⟩ := entry
    obtain ⟨hn, hrest⟩ := List.nodup_cons.1 hnames
    rw [insertEntry]
    split
    · exact List.nodup_cons.2 ⟨hn, hrest⟩
    · rename_i hne
      refine List.nodup_cons.2 ⟨fun hmem => hn ?_, ih hrest⟩
      -- The name is no new one, so its entry has been there before.
      have hbefore := (mem_names_iff ⟨insertEntry name value rest⟩ n).1 hmem
      have hsame : (insertEntry name value rest).lookup n = rest.lookup n := by
        rw [lookup_insertEntry, if_neg hne]
      exact (mem_names_iff ⟨rest⟩ n).2 (by rw [get?, ← hsame]; exact hbefore)

/-- The map with further entries put in one after the other. -/
def insertAll (m : NameMap α) (entries : List (String × α)) : NameMap α :=
  entries.foldl (fun m entry => m.insert entry.1 entry.2) m

/-- Entries are put in by putting in the first of them and then the rest. -/
theorem insertAll_append (m : NameMap α) (entries entries' : List (String × α)) :
    m.insertAll (entries ++ entries') = (m.insertAll entries).insertAll entries' :=
  List.foldl_append

/-- The names behind some insertions are those before them and the new ones. -/
theorem mem_names_insertAll (m : NameMap α) (entries : List (String × α)) (name : String) :
    name ∈ (m.insertAll entries).names ↔ name ∈ m.names ∨ name ∈ entries.map Prod.fst := by
  induction entries generalizing m with
  | nil => simp [insertAll]
  | cons entry rest ih =>
    have hstep : m.insertAll (entry :: rest) = (m.insert entry.1 entry.2).insertAll rest := rfl
    rw [hstep, ih, mem_names_insert, List.map_cons, List.mem_cons, or_comm (a := name = entry.1),
      or_assoc]

/-- Insertions never make a name occur twice. -/
theorem nodup_names_insertAll {m : NameMap α} (h : m.names.Nodup) (entries : List (String × α)) :
    (m.insertAll entries).names.Nodup := by
  induction entries generalizing m with
  | nil => exact h
  | cons entry rest ih => exact ih (nodup_names_insert h entry.1 entry.2)

/-- What stands under a name after entries were put in: the last of them with this name, or what
stood there before if there is none. -/
theorem get?_insertAll (m : NameMap α) (entries : List (String × α)) (name : String) (value : α) :
    (m.insertAll entries).get? name = some value ↔
      (∃ before after, entries = before ++ (name, value) :: after ∧ name ∉ after.map Prod.fst) ∨
        (name ∉ entries.map Prod.fst ∧ m.get? name = some value) := by
  induction entries generalizing m with
  | nil => simp [insertAll]
  | cons entry rest ih =>
    have hstep : m.insertAll (entry :: rest) = (m.insert entry.1 entry.2).insertAll rest := rfl
    rw [hstep, ih, get?_insert]
    constructor
    · rintro (⟨before, after, rfl, hlast⟩ | ⟨hrest, hvalue⟩)
      · exact .inl ⟨entry :: before, after, rfl, hlast⟩
      · split at hvalue
        · rename_i hname
          cases hvalue
          exact .inl ⟨[], rest, by rw [hname]; rfl, hrest⟩
        · rename_i hname
          exact .inr ⟨by simp [hname, hrest], hvalue⟩
    · rintro (⟨before, after, hentries, hlast⟩ | ⟨hrest, hvalue⟩)
      · cases before with
        | nil =>
          obtain ⟨rfl, rfl⟩ := List.cons.inj hentries
          exact .inr ⟨hlast, if_pos rfl⟩
        | cons first before =>
          obtain ⟨rfl, rfl⟩ := List.cons.inj hentries
          exact .inl ⟨before, after, rfl, hlast⟩
      · rw [List.map_cons, List.mem_cons, not_or] at hrest
        exact .inr ⟨hrest.2, by rw [if_neg hrest.1]; exact hvalue⟩

/-- The last entry of a name is the one that is found. -/
theorem get?_insertAll_of_last (m : NameMap α) {entries : List (String × α)} {i : Nat}
    {name : String} {value : α} (hentry : entries[i]? = some (name, value))
    (hlast : ∀ j, i < j → (entries.map Prod.fst)[j]? ≠ some name) :
    (m.insertAll entries).get? name = some value := by
  obtain ⟨hi, hat⟩ := List.getElem?_eq_some_iff.1 hentry
  refine (get?_insertAll m entries name value).2
    (.inl ⟨entries.take i, entries.drop (i + 1), ?_, fun hmem => ?_⟩)
  · rw [← hat, List.getElem_cons_drop, List.take_append_drop]
  · rw [List.map_drop] at hmem
    obtain ⟨j, hj⟩ := List.mem_iff_getElem?.1 hmem
    rw [List.getElem?_drop] at hj
    exact hlast (i + 1 + j) (by omega) hj

end SqlBinding.NameMap
