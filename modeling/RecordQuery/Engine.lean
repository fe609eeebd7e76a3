import RecordQuery.Filter.Compile
import RecordQuery.Query.Mode
import RecordQuery.Text.Search

/-!
# Queries on a collection

An engine answers queries with the keys of the matching records, in the
order of the collection. A structured query fails as a whole on the first
record it fails on; a search needs every term in some value of a record.
-/

namespace RecordQuery

structure QueryCounts where
  empty : Nat
  structured : Nat
  search : Nat
deriving DecidableEq

namespace QueryCounts

def zero : QueryCounts := ⟨0, 0, 0⟩

def total (counts : QueryCounts) : Nat := counts.empty + counts.structured + counts.search

def ofMode (counts : QueryCounts) : Mode → Nat
  | .empty => counts.empty
  | .structured => counts.structured
  | .search => counts.search

def record (counts : QueryCounts) : Mode → QueryCounts
  | .empty => { counts with empty := counts.empty + 1 }
  | .structured => { counts with structured := counts.structured + 1 }
  | .search => { counts with search := counts.search + 1 }

theorem total_record (counts : QueryCounts) (mode : Mode) :
    (counts.record mode).total = counts.total + 1 := by
  cases mode <;> simp only [record, total] <;> omega

end QueryCounts

def searchTerms (text : List Char) : List (List Char) :=
  Text.words (Text.lower (Text.trim text))

namespace Record

def searchText (record : Record) : Except Failure (List Char) := do
  let texts ← record.mapM fun field => field.2.searchText
  .ok ([' '].intercalate (texts.map Text.lower))

def matchesTerms (terms : List (List Char)) (record : Record) : Except Failure Bool := do
  let text ← record.searchText
  .ok (terms.all fun term => Text.occursIn term text)

/-- Evaluates a query on one record; a blank one accepts it. -/
def satisfies (record : Record) (query : String) : Except Failure Bool :=
  if Text.isBlankText query.toList then .ok true
  else do (← Filter.parse query.toList).apply record

def satisfiesGroup (record : Record) (group : String) : Except Failure Bool := do
  (← Filter.parseGroup (Text.normalize group.toList)).apply record

end Record

/-- Records that pass a test, in order. The first failure of the test is
that of the whole. -/
def matching (test : Record → Except Failure Bool) : List Record → Except Failure (List Record)
  | [] => .ok []
  | record :: rest => do
    let verdict ← test record
    let kept ← matching test rest
    .ok (if verdict then record :: kept else kept)

structure Engine where
  records : List Record
  keyField : Option String
  counts : QueryCounts

namespace Engine

def new (records : List Record) (keyField : Option String) : Engine :=
  ⟨records, keyField, .zero⟩

def keys (engine : Engine) : List Value := engine.records.map (Record.key engine.keyField)

def keysWhere (engine : Engine) (test : Record → Except Failure Bool) :
    Except Failure (List Value) := do
  .ok ((← matching test engine.records).map (Record.key engine.keyField))

/-- Reports what went wrong on a record as a failure of the query. -/
def onRecord (query : String) (filter : Filter) (record : Record) : Except Failure Bool :=
  match filter.apply record with
  | .ok verdict => .ok verdict
  | .error failure => .error (failure.ofQuery (some query))

def select (engine : Engine) (query : String) : Except Failure (List Value) := do
  let filter ← Filter.parse (Text.normalize query.toList)
  engine.keysWhere (onRecord query filter)

def search (engine : Engine) (query : String) : Except Failure (List Value) :=
  match searchTerms query.toList with
  | [] => .ok engine.keys
  | terms => engine.keysWhere (Record.matchesTerms terms)

def filter (engine : Engine) (query : String) : Except Failure (List Value) :=
  match Mode.ofQuery query with
  | .empty => .ok engine.keys
  | .structured => engine.select query
  | .search => engine.search query

/-- Answers a query and counts it, whether or not it fails. -/
def ask (engine : Engine) (query : String) : Engine × Except Failure (List Value) :=
  ({ engine with counts := engine.counts.record (Mode.ofQuery query) }, engine.filter query)

end Engine

end RecordQuery
