import StagedLoad.Column
import StagedLoad.Product

/-!
# Column types

The text of a column's type.  The standard rule writes the size of sized types, size and scale of
exact numbers, and nothing else; a product first replaces the types that it does not have.

* `Product.columnType` : the type for a product.
* `Column.standardType` : the type without a product.
-/

namespace StagedLoad

/-- Which parameters a type is declared with. -/
inductive DeclareForm where
  | simple
  | size
  | sizeAndScale
  | sizeAndOptionalScale
deriving DecidableEq, Repr

instance : Word DeclareForm where
  all := [.simple, .size, .sizeAndScale, .sizeAndOptionalScale]
  word
    | .simple => "simple"
    | .size => "size"
    | .sizeAndScale => "size_and_scale"
    | .sizeAndOptionalScale => "size_and_optional_scale"
  kind := "ColumnDeclareType"

/-- The types that are declared with a size. -/
def sizedTypes : List Text := [
  "CHAR", "VARCHAR", "CHAR VARYING", "CHARACTER VARYING", "LONGVARCHAR", "NCHAR", "NVARCHAR",
  "NCHAR VARYING", "NATIONAL CHAR VARYING", "NATIONAL CHARACTER VARYING", "BINARY", "VARBINARY",
  "BINARY VARYING", "LONGVARBINARY", "BIT", "CLOB", "NCLOB", "BLOB"
]

/-- The types that are declared with a size and a scale. -/
def scaledTypes : List Text := ["DECIMAL", "NUMERIC"]

/-- The form that a type is declared in by the standard rule; a negative scale is no scale. -/
def standardForm (typeName : Text) (c : Column) : DeclareForm :=
  if sizedTypes.contains typeName then .size
  else if scaledTypes.contains typeName && 0 ≤ c.scale then .sizeAndScale
  else .simple

namespace Column

/-- The type of the column in a given form. -/
def typeIn (c : Column) (form : DeclareForm) : Text :=
  let sized := c.typeName ++ "(" ++ toString c.size
  match form with
  | .simple => c.typeName
  | .size => sized ++ ")"
  | .sizeAndScale => if c.scale < 0 then sized ++ ",0)" else sized ++ "," ++ toString c.scale ++ ")"
  | .sizeAndOptionalScale =>
    if c.scale < 0 then sized ++ ")" else sized ++ "," ++ toString c.scale ++ ")"

/-- The type of the column by the standard rule. -/
def standardType (c : Column) : Text := c.typeIn (standardForm c.typeName c)

end Column

/-- The greatest size of an NVARCHAR that is not unlimited. -/
def maxNationalSize : Int := 4000

/-- The greatest size of a VARCHAR that is not unlimited. -/
def maxTextSize : Int := 8000

/-- The types that the products refuse a size on. -/
def unsizedTypes : List Text := ["BIT", "FLOAT"]

/-- The form that a type is declared in for the products. -/
def productForm (typeName : Text) (c : Column) : DeclareForm :=
  if unsizedTypes.contains typeName then .simple else standardForm typeName c

/-- The type of a column for a product.  National text that is too long becomes unlimited text that
is not national. -/
def Product.columnType (p : Product) (c : Column) : Text :=
  if c.typeName = "BOOLEAN" then "BIT"
  else if c.typeName = "CLOB" then
    match p with
    | .synapse => "NVARCHAR(4000)"
    | .sqlServer => "NVARCHAR(max)"
  else if c.typeName = "TIMESTAMP" then "DATETIME2"
  else if c.typeName = "NVARCHAR" && maxNationalSize < c.size then "VARCHAR(max)"
  else if c.typeName = "VARCHAR" && maxTextSize < c.size then "VARCHAR(max)"
  else c.typeIn (productForm c.typeName c)

end StagedLoad
