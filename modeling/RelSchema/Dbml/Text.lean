import RelSchema.Dbml.Column
import RelSchema.Dbml.Reference
import RelSchema.Text.Trim

/-!
Whole texts, read line by line. A reference affects the tables that are closed before it.
-/
namespace RelSchema.Dbml

inductive Block
  | top
  | table (name : String) (columns : List Column)
  | references
  deriving DecidableEq, Repr

/-- What has been read: the closed tables, the open block, and the number of braces that are open in
a block of no interest. -/
structure Reader where
  tables : List Table := []
  block : Block := .top
  skipped : Int := 0
  deriving DecidableEq, Repr

namespace Reader

def closeTable (name : String) (columns : List Column) : Table :=
  { name, columns, primaryKeys := primaryKeyOrder columns [] }

/-- Reads a line directly inside the block of a table. -/
def readInTable (reader : Reader) (name : String) (columns : List Column) (line : List Char) :
    Reader :=
  if line == ['}'] then
    { reader with tables := reader.tables ++ [closeTable name columns], block := .top }
  else if opensBlock line then { reader with skipped := 1 }
  else if isTableSetting line then reader
  else
    match column? line with
    | some column => { reader with block := .table name (columns ++ [column]) }
    | none => reader

def readAtTop (reader : Reader) (line : List Char) : Reader :=
  match header? line with
  | some name => { reader with block := .table name [] }
  | none =>
    if opensReferences line then { reader with block := .references }
    else
      match reference? line with
      | some body => { reader with tables := applyReference reader.tables body }
      | none => if opensBlock line then { reader with skipped := 1 } else reader

/-- Reads the content of a line, which is not empty. -/
def readContent (reader : Reader) (line : List Char) : Reader :=
  if reader.skipped != 0 then { reader with skipped := reader.skipped + braceBalance line }
  else
    match reader.block with
    | .references =>
      if line == ['}'] then { reader with block := .top }
      else { reader with tables := applyReference reader.tables line }
    | .table name columns => reader.readInTable name columns line
    | .top => reader.readAtTop line

def readLine (reader : Reader) (line : List Char) : Reader :=
  if (content line).isEmpty then reader else reader.readContent (content line)

end Reader

def read (text : String) : Reader :=
  (Text.lines text.toList).foldl Reader.readLine {}

/-- The tables of a text in the order in which their blocks are closed; there has to be one. -/
def parse (text : String) : Except Failure (List Table) :=
  match (read text).tables with
  | [] => .error (.emptySchema "dsl" "")
  | tables => .ok tables

end RelSchema.Dbml
