import FlatRecord.Record.Basic

namespace FlatRecord

/-- The texts by path that a record is kept as. -/
abbrev Row := KeyMap String

namespace Row

/-- The texts of the effective values; null fields are left out. -/
def ofRecord (r : Record) : Row :=
  .ofList ((r.fields.entries.filter fun e => !e.2.isNull).map fun e => (e.1, e.2.text))

def toRecord (row : Row) (schema : Schema) : Record :=
  (Record.ofFlat (row.entries.map fun e => (e.1, .string e.2))).withSchema schema

end Row

end FlatRecord
