import FlatRecord.Shape.Error

namespace FlatRecord

abbrev Reader := Position → Value → Except ReadError Datum

namespace Reader

def convert {α : Type} (position : Position) (wrap : α → Datum) :
    Except ConversionError α → Except ReadError Datum
  | .ok a => .ok (wrap a)
  | .error e => .error (.unreadable position (.conversion e))

def bool : Reader := fun position v => convert position .bool v.toBool

def int (type : IntType) : Reader := fun position v =>
  match v.toInt64 with
  | .ok n =>
    if type.holds n.toInt then .ok (.int n.toInt) else .error (.invalidValue (.int n) (.int type))
  | .error e => .error (.unreadable position (.conversion e))

/-- Only integers are read as integers of 128 bits. -/
def wideInt (signed : Bool) : Reader := fun _ v =>
  match v with
  | .int n =>
    if signed || 0 ≤ n then .ok (.int n.toInt) else .error (.invalidValue v (.wideInt signed))
  | _ => .error (.invalidType v (.wideInt signed))

def float : Reader := fun position v => convert position .float v.toFloat

def single : Reader := fun position v => convert position (fun x => .float x.toSingle) v.toFloat

/-- The text of the value must be one character. -/
def char : Reader := fun _ v =>
  match v.text.toList with
  | [c] => .ok (.char c)
  | _ => .error (.invalidValue (.string v.text) .character)

def text : Reader := fun _ v => .ok (.text v.text)

def unit (expected : Expectation) : Reader := fun _ v =>
  if v.isNull then .ok .unit else .error (.invalidType v expected)

def option (content : Reader) : Reader := fun position v =>
  if v.isNull then .ok .absent else (content position v).map .present

/-- The items of an array, of none for null and blank text, or of the array that a text holds. -/
def items (expected : Expectation) (position : Position) : Value → Except ReadError (List Value)
  | .array items => .ok items
  | .null => .ok []
  | .string s =>
    if (Text.trim s).isEmpty then .ok []
    else match Value.readJson? s with
      | some (.array items) => .ok items
      | some other => .error (.unreadable position (.notArrayText other.kind))
      | none => .error (.invalidJson position)
  | other => .error (.invalidType other expected)

/-- The entries of an object, of none for null, or of the object that a text holds. -/
def entries (expected : Expectation) (position : Position) :
    Value → Except ReadError (List (String × Value))
  | .object entries => .ok entries
  | .null => .ok []
  | .string s =>
    match Value.readJson? s with
    | some (.object entries) => .ok entries
    | some other => .error (.unreadable position (.notObjectText other.kind))
    | none => .error (.invalidJson position)
  | other => .error (.invalidType other expected)

/-- Reads items from the given index on, all in one way. -/
def each (item : Reader) (position : Position) : Nat → List Value → Except ReadError (List Datum)
  | _, [] => .ok []
  | i, v :: rest => do
    let d ← item (position ++ [.index i]) v
    let ds ← each item position (i + 1) rest
    return d :: ds

def list (item : Reader) : Reader := fun position v => do
  let vs ← items .list position v
  return .list (← each item position 0 vs)

/-- Reads items from the given index on, each in its own way. A missing item is reported before
surplus ones, with the number of items that there are. -/
def inOrder (expected : Expectation) (position : Position) :
    Nat → List Reader → List Value → Except ReadError (List Datum)
  | _, [], [] => .ok []
  | i, [], surplus => .error (.invalidLength (i + surplus.length) (.items i))
  | i, _ :: _, [] => .error (.invalidLength i expected)
  | i, reader :: readers, v :: rest => do
    let d ← reader (position ++ [.index i]) v
    let ds ← inOrder expected position (i + 1) readers rest
    return d :: ds

def tuple (form : TupleForm) (readers : List Reader) : Reader := fun position v => do
  let vs ← items (.tuple form readers.length) position v
  return .list (← inOrder (.tupleItems form readers.length) position 0 readers vs)

def sameKey (a b : Datum) : Bool :=
  match a, b with
  | .text s, .text t => s == t
  | .int m, .int n => m == n
  | .bool b, .bool c => b == c
  | .char c, .char d => c == d
  | .name m, .name n => m == n
  | _, _ => false

/-- Of entries with the same key the later one stays. -/
def putKey (key item : Datum) (entries : List (Datum × Datum)) : List (Datum × Datum) :=
  entries.filter (fun e => !sameKey e.1 key) ++ [(key, item)]

def mapEntries (key item : Reader) (position : Position) :
    List (Datum × Datum) → List (String × Value) → Except ReadError (List (Datum × Datum))
  | done, [] => .ok done
  | done, (name, v) :: rest => do
    let below := position ++ [.key name]
    let k ← key below (.string name)
    let d ← item below v
    mapEntries key item position (putKey k d done) rest

def map (key item : Reader) : Reader := fun position v => do
  let es ← entries .map position v
  return .map (← mapEntries key item position [] es)

structure OfField where
  name : String
  read : Reader
  missing : Option Datum
  omitEmpty : Bool

/-- Reads the fields in key order; unknown ones are passed over unless the structure is closed. -/
def knownFields (readers : List OfField) (closed : Bool) (position : Position) :
    List (String × Value) → Except ReadError (List (String × Datum))
  | [] => .ok []
  | (name, v) :: rest => do
    match readers.find? (·.name == name) with
    | some reader =>
      let d ← reader.read (position ++ [.key name]) v
      let ds ← knownFields readers closed position rest
      return (name, d) :: ds
    | none =>
      if closed then throw (.unknownField name (readers.map (·.name)))
      else knownFields readers closed position rest

/-- Puts fields into declared order, with fallbacks for missing ones, and leaves out those that
are not written when they are empty. -/
def arrange (found : List (String × Datum)) :
    List OfField → Except ReadError (List (String × Datum))
  | [] => .ok []
  | reader :: rest => do
    match (found.lookup reader.name).or reader.missing with
    | none => throw (.missingField reader.name)
    | some d =>
      let ds ← arrange found rest
      return if reader.omitEmpty && d.isEmpty then ds else (reader.name, d) :: ds

def fields (form : FieldsForm) (closed : Bool) (readers : List OfField) : Reader :=
  fun position v => do
    let es ← entries (.fields form) position v
    let found ← knownFields readers closed position es
    return .fields (← arrange found readers)

/-- Reads one alternative, whose content has no reader if there is none. -/
structure OfVariant where
  name : String
  content : Option Reader

/-- Content is read at the position of the alternative itself. Where none is given, null stands
for it. -/
def content (readers : List OfVariant) (position : Position) (name : String)
    (given : Option Value) : Except ReadError Datum :=
  match readers.find? (·.name == name) with
  | none => .error (.unknownVariant name (readers.map (·.name)))
  | some reader =>
    match reader.content with
    | some read => (read position (given.getD .null)).map (.variant name)
    | none =>
      let v := given.getD .null
      if v.isNull then .ok (.name name) else .error (.invalidType v .bareVariant)

/-- An alternative is a text with its name or an object with its name as the only key. -/
def variants (name : String) (readers : List OfVariant) : Reader := fun position v =>
  match v with
  | .string variant => content readers position variant none
  | .object [(variant, given)] => content readers position variant (some given)
  | .object _ => .error (.invalidValue v .singleKey)
  | other => .error (.invalidType other (.variants name))

end Reader

namespace PlainShape

/-- Takes data that already has the type; an integer also counts as a float. -/
def read? : PlainShape → Value → Option Datum
  | .bool, .bool b => some (.bool b)
  | .int type, .int n => if type.holds n.toInt then some (.int n.toInt) else none
  | .float, .float x => some (.float x)
  | .float, .int n => some (.float (.ofInt n.toInt))
  | .text, .string s => some (.text s)
  | .list item, .array vs => (vs.mapM fun v => item.read? v).map .list
  | _, _ => none

end PlainShape

namespace Shape

mutual

/-- Reads a value as a type. Texts are read as what they spell, and null as nothing. -/
def read : Shape → Reader
  | .bool => .bool
  | .int type => .int type
  | .wideInt signed => .wideInt signed
  | .float => .float
  | .single => .single
  | .char => .char
  | .text => .text
  | .unit => .unit .unit
  | .unitNamed name => .unit (.unitNamed name)
  | .any => fun _ v => .ok (.value v)
  | .option content => .option content.read
  | .wrapped content => content.read
  | .list item => .list item.read
  | .tuple form items => .tuple form (readers items)
  | .map key item => .map key.read item.read
  | .fields form closed parts => .fields form closed (fieldReaders parts)
  | .variants name alternatives => .variants name (variantReaders alternatives)
  | .firstOf name options => fun _ v =>
    match options.findSome? fun o => o.read? v with
    | some d => .ok d
    | none => .error (.noOption name)
termination_by structural shape => shape

def readers : List Shape → List Reader
  | [] => []
  | shape :: rest => shape.read :: readers rest
termination_by structural shapes => shapes

def fieldReaders : List (Field Shape) → List Reader.OfField
  | [] => []
  | ⟨name, type, fallback, omitEmpty⟩ :: rest =>
    ⟨name, type.read, fallback.or type.whenMissing?, omitEmpty⟩ :: fieldReaders rest
termination_by structural fields => fields

def variantReaders : List (Variant Shape) → List Reader.OfVariant
  | [] => []
  | ⟨name, content⟩ :: rest => ⟨name, optionalReader content⟩ :: variantReaders rest
termination_by structural variants => variants

def optionalReader : Option Shape → Option Reader
  | none => none
  | some shape => some shape.read
termination_by structural shape => shape

end

def readValue (shape : Shape) (v : Value) : Except ReadError Datum := shape.read [] v

end Shape

end FlatRecord
