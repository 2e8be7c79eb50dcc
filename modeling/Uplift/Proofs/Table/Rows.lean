import Mathlib
import Uplift.Table.Rows

/-!
# The rows under a match id

A row belongs to a search if the id of the search stands in the first column of match ids
(`rowsOf_eq`), which is known by the letters of its name (`IsIdColumn`). A table is read if it is a
text in which every quote is closed (`readRows_eq_ok_iff`); otherwise the error names the table
(`readRows_eq_error_iff`).
-/

namespace Uplift.Table

variable {id path : String} {header row : List String} {t : Files.Tree}

/-- A column of match ids: the letters and digits of its name spell that, in whatever case. -/
def IsIdColumn (name : String) : Prop :=
  (name.toList.filter Char.isAlphanum).map Char.toLower = ['m', 'a', 't', 'c', 'h', 'i', 'd']

instance (name : String) : Decidable (IsIdColumn name) :=
  inferInstanceAs (Decidable ((name.toList.filter Char.isAlphanum).map Char.toLower = _))

theorem columnKey_eq_iff {name : String} : columnKey name = "matchid" ↔ IsIdColumn name := by
  rw [columnKey, ← String.toList_inj, String.toList_ofList]
  rfl

/-- The value of a row in the first column of match ids. -/
def matchIdOf (header row : List String) : Option String :=
  ((header.zip row).find? fun column => IsIdColumn column.1).map (·.2)

theorem matchIdOf_eq : matchIdOf header row = (idColumn? header).bind (row[·]?) := by
  rw [matchIdOf, idColumn?]
  induction header generalizing row with
  | nil => rfl
  | cons h header ih =>
    cases row with
    | nil => simp
    | cons value row =>
      rw [List.zip_cons_cons, List.find?_cons, List.findIdx?_cons]
      by_cases named : IsIdColumn h
      · simp [named, columnKey_eq_iff]
      · simpa [named, columnKey_eq_iff, Option.bind_map, Function.comp_def] using ih

/-- The rows under a match id are those that have it in the column of match ids, in order. -/
theorem rowsOf_eq (id : String) (header : List String) (rows : List (List String)) :
    rowsOf id (header :: rows) =
      (rows.filter fun row => matchIdOf header row = some id).map fun row =>
        ⟨id, header.zip row⟩ := by
  rw [rowsOf]
  cases column : idColumn? header with
  | none => simp [matchIdOf_eq, column]
  | some i => simp [matchIdOf_eq, column]

/-- The records of a table. -/
def Records (t : Files.Tree) (path : String) (records : List (List String)) : Prop :=
  ∃ text, t.readText path = .ok text ∧ Csv.parse? text.toList = some records

/-- Why a table has no records. -/
inductive Unread (t : Files.Tree) (path : String) : ScanError → Prop
  | file {e} : t.readText path = .error e → Unread t path (.read path e)
  | quote {text} : t.readText path = .ok text → Csv.parse? text.toList = none →
      Unread t path (.table path .unclosedQuote)

theorem readRows_eq_ok_iff {rows : List TableRow} :
    readRows t path id = .ok rows ↔
      ∃ records, Records t path records ∧ rows = rowsOf id records := by
  rw [readRows]
  cases read : t.readText path with
  | error e => simp [Records, read]
  | ok text =>
    cases parsed : Csv.parse? text.toList with
    | none => simp [Records, read, parsed]
    | some records => simp [Records, read, parsed, eq_comm]

theorem readRows_eq_error_iff {e : ScanError} :
    readRows t path id = .error e ↔ Unread t path e := by
  constructor
  · intro failed
    rw [readRows] at failed
    split at failed
    · rename_i cause read
      exact Except.error.inj failed ▸ .file read
    · rename_i text read
      split at failed
      · rename_i parsed
        exact Except.error.inj failed ▸ .quote read parsed
      · cases failed
  · intro unread
    cases unread with
    | file read => rw [readRows, read]
    | quote read parsed => simp only [readRows, read, parsed]

end Uplift.Table
