import BeanKit.OrderedMap
import BeanKit.Query.Error
import BeanKit.Text.Blank
/-!
# Statements

The texts of the statements that write a row, and of the filter on its id. Values stand between
single quotes as they are: nothing is escaped and nothing is bound.
-/

namespace BeanKit.Query

/-- The texts of the values to write, by column; their order is the order in the statement. -/
abbrev ColumnValues := OrderedMap String String

/-- A value's text as a literal. -/
def quoted (value : String) : String := "'" ++ value ++ "'"

/-- Refuses a blank table, and a row without columns. -/
def checkRow (table : String) (values : ColumnValues) : Except Error Unit :=
  if Text.isBlankText table then .error (.invalidArgument .blankTable)
  else if values.isEmpty then .error (.invalidArgument (.noColumns table))
  else .ok ()

/-- The statement's text for an insertion. -/
def insertText (table : String) (values : ColumnValues) : String :=
  "INSERT INTO " ++ table ++ " (" ++ ", ".intercalate values.keys ++ ") VALUES ("
    ++ ", ".intercalate (values.values.map quoted) ++ ")"

/-- The statement's text for an update of every row. -/
def updateText (table : String) (values : ColumnValues) : String :=
  "UPDATE " ++ table ++ " SET "
    ++ ", ".intercalate (values.entries.map fun e => e.1 ++ " = " ++ quoted e.2)

/-- The statement that inserts a row. -/
def buildInsert (table : String) (values : ColumnValues) : Except Error String :=
  (checkRow table values).map fun _ => insertText table values

/-- The statement that updates rows, without a filter. -/
def buildUpdate (table : String) (values : ColumnValues) : Except Error String :=
  (checkRow table values).map fun _ => updateText table values

/-- The filter on an id, to be put behind a statement. -/
def filterById (column id : String) : String := " WHERE " ++ column ++ " = " ++ quoted id

/-- The statement that reads the rows of a table under a filter. -/
def selectText (table filter : String) : String := "SELECT * FROM " ++ table ++ filter

/-- The statement that deletes the rows of a table under a filter. -/
def deleteText (table filter : String) : String := "DELETE FROM " ++ table ++ filter

end BeanKit.Query
