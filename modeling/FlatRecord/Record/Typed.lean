import FlatRecord.Record.Basic
import FlatRecord.Shape.Read

namespace FlatRecord

namespace Record

def Update.setDatum (d : Datum) : Update := populate d.flatten

/-- Replaces the fields by the flat form of typed data. -/
def setDatum (r : Record) (d : Datum) : Except StructureError Record := r.updated (.setDatum d)

theorem setDatum_eq (r : Record) (d : Datum) : r.setDatum d = d.flatten.map r.replaceFields :=
  updated_populate d.flatten r

def ofDatum (d : Datum) : Except StructureError Record := empty.setDatum d

/-- Reads the nested object of the effective values as a type. -/
def readAs (r : Record) (shape : Shape) : Except ReadError Datum := shape.readValue r.toMap

end Record

end FlatRecord
