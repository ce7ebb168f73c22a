import Supervision.Proofs.Toml.Lines
import Supervision.Toml.Document

/-!
# Documents from statements

The assignments under a header fill the table that the header names (`foldlM_assignments`), so a section gives one table
(`foldlM_section`) and sections under the same header in double brackets give a list of tables (`foldlM_tables`). `Opens` is what
the assignments rely on: where a header leads to among the tables so far. A document without dates is what its statements give
(`parse_lines`).
-/

namespace Supervision.Toml

/-- The assignments that fill a table. -/
def assignments (table : Table) : List Statement :=
  table.map fun (key, v) => .assignment [key] v

/-- A table under construction that holds finished values. -/
def leaves (table : Table) : Entries :=
  table.map fun (key, v) => (key, .value v)

/-- A table that holds finished values is finished. -/
theorem tableOf_leaves (table : Table) : tableOf (leaves table) = table := by
  induction table with
  | nil => rfl
  | cons entry table ih => exact congrArg (entry :: ·) ih

theorem tableOf_append (entries entries' : Entries) : tableOf (entries ++ entries') = tableOf entries ++ tableOf entries' := by
  induction entries with
  | nil => rfl
  | cons entry entries ih => exact congrArg ((entry.1, entry.2.toValue) :: ·) ih

/-- Tables that hold finished values are finished. -/
theorem tablesOf_leaves (tables : List Table) : tablesOf (tables.map leaves) = tables.map .table := by
  induction tables with
  | nil => rfl
  | cons table tables ih =>
    rw [List.map_cons, tablesOf, ih, tableOf_leaves]
    rfl

/-! ## Entries -/

namespace Entries

variable {entries : Entries} {key : String}

/-- A key that is not among the keys of a table has nothing under it. -/
theorem find_none (h : key ∉ entries.map (·.1)) : entries.find? key = none := by
  refine List.lookup_eq_none_iff.2 fun entry hentry => ?_
  refine bne_iff_ne.2 ?_
  rintro rfl
  exact h (List.mem_map_of_mem hentry)

/-- What stands last under a new key is found. -/
theorem find_last (h : entries.find? key = none) (node : Node) : find? (entries ++ [(key, node)]) key = some node := by
  rw [find?, List.lookup_append, show entries.lookup key = none from h]
  simp

/-- What is put under a new key stands last. -/
theorem put_new (h : entries.find? key = none) (node : Node) : entries.put key node = entries ++ [(key, node)] := by
  induction entries with
  | nil => rfl
  | cons entry entries ih =>
    obtain ⟨hne, hrest⟩ := List.forall_mem_cons.1 (List.lookup_eq_none_iff.1 h)
    have hkey : entry.1 ≠ key := fun heq => (bne_iff_ne.1 hne) heq.symm
    rw [put, if_neg hkey, ih (List.lookup_eq_none_iff.2 hrest), List.cons_append]

/-- What is put under the last key takes the place of what stood there. -/
theorem put_last (h : entries.find? key = none) (node node' : Node) :
    put (entries ++ [(key, node)]) key node' = entries ++ [(key, node')] := by
  induction entries with
  | nil => exact if_pos rfl
  | cons entry entries ih =>
    obtain ⟨hne, hrest⟩ := List.forall_mem_cons.1 (List.lookup_eq_none_iff.1 h)
    have hkey : entry.1 ≠ key := fun heq => (bne_iff_ne.1 hne) heq.symm
    rw [List.cons_append, put, if_neg hkey, ih (List.lookup_eq_none_iff.2 hrest), List.cons_append]

/-- A value is added under a new key. -/
theorem add_new (h : entries.find? key = none) (v : Value) : entries.add key v = some (entries ++ [(key, .value v)]) := by
  rw [add, h]
  exact congrArg some (put_new h (.value v))

end Entries

/-! ## Sections -/

/-- A header leads to one table among others. -/
def Opens (header : List String) (whole : Entries → Entries) : Prop :=
  ∀ table f, (whole table).within header f = (f table).map whole

/-- Without a header all tables are open. -/
theorem opens_root : Opens [] id := by
  intro table f
  rw [Option.map_id]
  rfl

/-- A header leads to the table that it names. -/
theorem opens_table {entries : Entries} {key : String} (h : entries.find? key = none) :
    Opens [key] fun table => entries ++ [(key, .table .named table)] := by
  intro table f
  have hput : (fun t => Entries.put (entries ++ [(key, .table .named table)]) key (.table .named t)) =
      fun t => entries ++ [(key, .table .named t)] := funext fun t => Entries.put_last h _ _
  rw [Entries.within, Entries.alter, Entries.find_last h]
  simp only [if_true, hput]
  rfl

/-- A header in double brackets leads to the last one of the tables that it names. -/
theorem opens_lastTable {entries : Entries} {key : String} (h : entries.find? key = none) (tables : List Entries) :
    Opens [key] fun table => entries ++ [(key, .tables (tables ++ [table]))] := by
  intro table f
  have hput : (fun t => Entries.put (entries ++ [(key, .tables (tables ++ [table]))]) key
      (.tables ((tables ++ [table]).dropLast ++ [t]))) = fun t => entries ++ [(key, .tables (tables ++ [t]))] := by
    funext t
    rw [Entries.put_last h, List.dropLast_concat]
  rw [Entries.within, Entries.alter, Entries.find_last h]
  simp only [List.getLast?_concat, hput]
  rfl

/-- Assignments of distinct keys fill the table that the header leads to. -/
theorem foldlM_assignments {header : List String} {whole : Entries → Entries} (h : Opens header whole) (table : Table) :
    ∀ entries : Entries, (entries.map (·.1) ++ table.map (·.1)).Nodup →
      (assignments table).foldlM Draft.add ⟨whole entries, header⟩ = some ⟨whole (entries ++ leaves table), header⟩ := by
  induction table with
  | nil =>
    intro entries _
    rw [leaves, List.map_nil, List.append_nil]
    rfl
  | cons entry table ih =>
    obtain ⟨key, v⟩ := entry
    intro entries hkeys
    have hnew : entries.find? key = none := by
      refine Entries.find_none fun hmem => ?_
      exact (List.nodup_append.1 hkeys).2.2 key hmem key List.mem_cons_self rfl
    have hadd : Draft.add ⟨whole entries, header⟩ (.assignment [key] v) =
        some ⟨whole (entries ++ [(key, .value v)]), header⟩ := by
      have hassign : (whole entries).within header (·.assign [key] v) = some (whole (entries ++ [(key, .value v)])) := by
        rw [h, Entries.assign, Entries.add_new hnew]
        rfl
      rw [Draft.add, hassign]
      rfl
    have hrest := ih (entries ++ [(key, .value v)]) (by simpa using hkeys)
    rw [List.append_assoc] at hrest
    rw [assignments, List.map_cons, List.foldlM_cons, hadd]
    exact hrest

/-- A section gives its table. -/
theorem foldlM_section {entries : Entries} {key : String} (h : entries.find? key = none) (header : List String) {table : Table}
    (hkeys : (table.map (·.1)).Nodup) :
    (.header [key] :: assignments table).foldlM Draft.add ⟨entries, header⟩ =
      some ⟨entries ++ [(key, .table .named (leaves table))], [key]⟩ := by
  have hopen : Draft.add ⟨entries, header⟩ (.header [key]) = some ⟨entries ++ [(key, .table .named [])], [key]⟩ := by
    rw [Draft.add, Entries.openTable, h]
    simp only [Option.map_some, Entries.put_new h]
  rw [List.foldlM_cons, hopen]
  exact foldlM_assignments (opens_table h) table [] (by simpa using hkeys)

/-- Sections under one header in double brackets give the list of their tables. -/
theorem foldlM_tables {entries : Entries} {key : String} (h : entries.find? key = none) {tables : List Table}
    (hkeys : ∀ table ∈ tables, (table.map (·.1)).Nodup) :
    ∀ before header, (tables.flatMap fun table => .arrayHeader [key] :: assignments table).foldlM Draft.add
        ⟨entries ++ [(key, .tables before)], header⟩ =
      some ⟨entries ++ [(key, .tables (before ++ tables.map leaves))], if tables = [] then header else [key]⟩ := by
  induction tables with
  | nil =>
    intro before header
    rw [List.map_nil, List.append_nil]
    rfl
  | cons table tables ih =>
    intro before header
    obtain ⟨htable, hrest⟩ := List.forall_mem_cons.1 hkeys
    have hopen : Draft.add ⟨entries ++ [(key, .tables before)], header⟩ (.arrayHeader [key]) =
        some ⟨entries ++ [(key, .tables (before ++ [[]]))], [key]⟩ := by
      rw [Draft.add, Entries.appendTable, Entries.find_last h]
      simp only [Option.map_some, Entries.put_last h]
    have hfill := foldlM_assignments (opens_lastTable h before) table [] (by simpa using htable)
    rw [List.flatMap_cons, List.cons_append, List.foldlM_cons, hopen, Option.bind_eq_bind, Option.bind_some, List.foldlM_append,
      hfill, Option.bind_eq_bind, Option.bind_some, List.nil_append, ih hrest]
    simp

/-- Sections under a new header in double brackets give the list of their tables. -/
theorem foldlM_newTables {entries : Entries} {key : String} (h : entries.find? key = none) (header : List String)
    {tables : List Table} (hne : tables ≠ []) (hkeys : ∀ table ∈ tables, (table.map (·.1)).Nodup) :
    (tables.flatMap fun table => .arrayHeader [key] :: assignments table).foldlM Draft.add ⟨entries, header⟩ =
      some ⟨entries ++ [(key, .tables (tables.map leaves))], [key]⟩ := by
  have hfirst : Draft.add ⟨entries, header⟩ (.arrayHeader [key]) =
      Draft.add ⟨entries ++ [(key, .tables [])], header⟩ (.arrayHeader [key]) := by
    rw [Draft.add, Draft.add, Entries.appendTable, Entries.appendTable, h, Entries.find_last h]
    simp only [Entries.put_new h, Entries.put_last h, List.nil_append]
  have hfold := foldlM_tables h hkeys [] header
  rw [if_neg hne, List.nil_append] at hfold
  rw [← hfold]
  obtain ⟨table, rest, rfl⟩ := List.exists_cons_of_ne_nil hne
  rw [List.flatMap_cons, List.cons_append, List.foldlM_cons, List.foldlM_cons, hfirst]

/-! ## Documents -/

/-- Items without dates are settled. -/
theorem settledItems_self {items : List Value} (h : ∀ v ∈ items, v.settled? = some v) : settledItems? items = some items := by
  induction items with
  | nil => rfl
  | cons v items ih =>
    obtain ⟨hv, hrest⟩ := List.forall_mem_cons.1 h
    rw [settledItems?, hv, ih hrest]
    rfl

/-- Entries without dates are settled. -/
theorem settledEntries_self {table : Table} (h : ∀ entry ∈ table, entry.2.settled? = some entry.2) :
    settledEntries? table = some table := by
  induction table with
  | nil => rfl
  | cons entry table ih =>
    obtain ⟨hv, hrest⟩ := List.forall_mem_cons.1 h
    rw [settledEntries?, hv, ih hrest]
    rfl

/-- A text of lines that begins with no byte order mark is the document that its statements give, if that has no dates. -/
theorem parse_lines {text : List Char} {statements : List Statement} {table : Table} (hlines : Lines text statements)
    (hmark : ∀ c ∈ text.head?, c.toNat ≠ 0xfeff) (htable : assemble? statements = some table)
    (hsettled : settledDocument? table = some table) : parse? (String.ofList text) = some table := by
  have hdrop : dropMark text = text := by
    cases text with
    | nil => rfl
    | cons c t => exact if_neg (hmark c rfl)
  rw [parse?, String.toList_ofList, hdrop, hlines.all, Option.bind_some, htable, Option.bind_some, hsettled]

end Supervision.Toml
