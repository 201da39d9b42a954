/-
**Reading tables of comma-separated values.**

A table is read as bytes. A line feed or a carriage return ends a record, and lines without any byte
are passed over. A field that begins with a quotation mark goes on to the closing one, with commas
and line ends inside it and a doubled mark for one mark; what follows the closing mark belongs to
the field too. A mark elsewhere is an ordinary byte. A byte order mark in front is dropped.
-/

namespace PullbackTrading.Csv

/-- A field as it stands in the file. -/
abbrev Field := List UInt8

/-- Where the reader stands in a record. -/
inductive Place where
  /-- Before the first byte of a record. -/
  | recordStart
  /-- Before the first byte of a field that is not the first. -/
  | fieldStart
  /-- In a field, where marks are ordinary bytes. -/
  | field
  /-- Between quotation marks. -/
  | quoted
  /-- After a quotation mark that ends the quoted part or doubles. -/
  | mark

/-- What has been read: complete records, the fields of the open one and the bytes of the open
field, all last first. -/
structure Reading where
  records : List (List Field)
  fields : List Field
  bytes : Field
  place : Place

namespace Reading

/-- The reader before the first byte. -/
def start : Reading := ⟨[], [], [], .recordStart⟩

/-- The end of a field. -/
def endField (r : Reading) : Reading :=
  { r with fields := r.bytes.reverse :: r.fields, bytes := [], place := .fieldStart }

/-- The end of a record. -/
def endRecord (r : Reading) : Reading :=
  { records := (r.bytes.reverse :: r.fields).reverse :: r.records
    fields := [], bytes := [], place := .recordStart }

/-- One more byte of the open field. -/
def push (r : Reading) (b : UInt8) (place : Place) : Reading :=
  { r with bytes := b :: r.bytes, place := place }

/-- A byte that is not between quotation marks. -/
def plain (r : Reading) (b : UInt8) : Reading :=
  if b = ','.toUInt8 then r.endField
  else if b = '\n'.toUInt8 ∨ b = '\r'.toUInt8 then r.endRecord
  else r.push b .field

/-- One more byte. -/
def step (r : Reading) (b : UInt8) : Reading :=
  let isMark := b = '"'.toUInt8
  match r.place with
  | .recordStart =>
    if b = '\n'.toUInt8 ∨ b = '\r'.toUInt8 then r
    else if isMark then { r with place := .quoted }
    else r.plain b
  | .fieldStart => if isMark then { r with place := .quoted } else r.plain b
  | .field => r.plain b
  | .quoted => if isMark then { r with place := .mark } else r.push b .quoted
  | .mark => if isMark then r.push b .quoted else r.plain b

/-- The records once the file has ended. -/
def finish (r : Reading) : List (List Field) :=
  match r.place with
  | .recordStart => r.records.reverse
  | _ => r.endRecord.records.reverse

end Reading

/-- The bytes after a byte order mark, if there is one. -/
def dropMark : List UInt8 → List UInt8
  | 0xEF :: 0xBB :: 0xBF :: rest => rest
  | bytes => bytes

/-- The records of a file. -/
def records (bytes : List UInt8) : List (List Field) :=
  ((dropMark bytes).foldl Reading.step .start).finish

/-- The text of a field, if its bytes are UTF-8. -/
def fieldText? (f : Field) : Option String := String.fromUTF8? (ByteArray.mk f.toArray)

/-- The texts of a record's fields, if all their bytes are UTF-8. -/
def recordText? (fields : List Field) : Option (List String) := fields.mapM fieldText?

end PullbackTrading.Csv
