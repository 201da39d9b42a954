/-
**Writing tables of comma-separated values.**

A field is quoted only if it holds a comma, a quotation mark or the end of a line; marks inside are
then doubled. Every record ends with a line feed. A table without rows is empty: the header comes
with the first row.
-/

namespace PullbackTrading.Csv

/-- Whether a field cannot stand without quotation marks. -/
def needsQuotes (field : String) : Bool :=
  field.toList.any fun c => c = ',' || c = '"' || c = '\n' || c = '\r'

/-- A field as it is written. -/
def fieldText (field : String) : String :=
  if needsQuotes field then
    String.ofList ('"' :: field.toList.flatMap (fun c => if c = '"' then [c, c] else [c]) ++ ['"'])
  else
    field

/-- A record as it is written. -/
def recordText (fields : List String) : String :=
  String.intercalate "," (fields.map fieldText) ++ "\n"

/-- A table as it is written. -/
def tableText (header : List String) (rows : List (List String)) : String :=
  if rows.isEmpty then "" else String.join ((header :: rows).map recordText)

end PullbackTrading.Csv
