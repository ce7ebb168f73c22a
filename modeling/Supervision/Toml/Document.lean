import Supervision.Toml.Stamp
import Supervision.Toml.Syntax

/-!
# TOML documents

`parse?` reads a whole document: its statements one after the other, each added to the tables that the ones before it have
built; then the tables that are dates become dates. A text that is no TOML 1.0 gives nothing.
-/

namespace Supervision.Toml

/-- A document under construction: its tables, and the last header. -/
structure Draft where
  entries : Entries := []
  header : List String := []

/-- Adds a statement, if the tables so far admit it. -/
def Draft.add (draft : Draft) : Statement → Option Draft
  | .header path => (draft.entries.openTable path).map fun entries => ⟨entries, path⟩
  | .arrayHeader path => (draft.entries.appendTable path).map fun entries => ⟨entries, path⟩
  | .assignment path v =>
    (draft.entries.within draft.header (·.assign path v)).map fun entries => { draft with entries }

/-- The table that statements build. -/
def assemble? (statements : List Statement) : Option Table :=
  (statements.foldlM Draft.add ({} : Draft)).map fun draft => tableOf draft.entries

/-- A text without the byte order mark at its head. -/
def dropMark : List Char → List Char
  | c :: rest => if c.toNat = 0xfeff then rest else c :: rest
  | [] => []

/-- Reads a document. -/
def parse? (text : String) : Option Table :=
  let s := dropMark text.toList
  ((statements? (s.length + 1) s).bind assemble?).bind settledDocument?

end Supervision.Toml
