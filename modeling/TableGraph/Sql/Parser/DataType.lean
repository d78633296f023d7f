/-
Reading the types of columns.

A type that has a keyword is read by the form its keyword has; any other word begins the
name of a type of the user's.  Types in angles may be inside each other, and then one mark
of two closing angles ends two of them: what is read inside says whether it has taken the
angle that belongs outside.
-/
import TableGraph.Sql.Parser.Literal
import TableGraph.Sql.Lexer

namespace TableGraph.Sql.Parser

/-! ### Types by their keywords -/

/-- What may follow the keyword of a type. -/
inductive TypeForm
  | bare
  | sized
  /-- A length, and the word for numbers without a sign. -/
  | whole
  | text
  | exact
  | time
deriving Repr, DecidableEq

/-- The types whose keywords say what follows. -/
def typeForms : List (TypeForm × List String) := [
  (.bare, ["BOOLEAN", "BOOL", "REAL", "FLOAT4", "FLOAT8", "UUID", "DATE", "INTERVAL", "JSON",
    "JSONB", "REGCLASS", "TEXT", "TINYTEXT", "MEDIUMTEXT", "LONGTEXT", "TINYBLOB",
    "MEDIUMBLOB", "LONGBLOB", "BYTEA", "TRIGGER"]),
  (.whole, ["TINYINT", "SMALLINT", "MEDIUMINT", "INT", "INTEGER", "BIGINT", "INT2", "INT4",
    "INT8"]),
  (.sized, ["FLOAT", "CLOB", "BINARY", "VARBINARY", "BLOB", "BYTES", "DATETIME", "STRING",
    "TIMESTAMPTZ", "TIMETZ"]),
  (.text, ["VARCHAR", "NVARCHAR"]),
  (.exact, ["NUMERIC", "DECIMAL", "DEC", "BIGNUMERIC", "BIGDECIMAL"]),
  (.time, ["TIMESTAMP", "TIME"])]

/-- The types that are written in a way of their own, which is not in capitals for most. -/
def spelledTypes : List (String × String) := [
  ("INT16", "Int16"), ("INT32", "Int32"), ("INT64", "INT64"), ("INT128", "Int128"),
  ("INT256", "Int256"), ("UINT8", "UInt8"), ("UINT16", "UInt16"), ("UINT32", "UInt32"),
  ("UINT64", "UInt64"), ("UINT128", "UInt128"), ("UINT256", "UInt256"),
  ("FLOAT32", "Float32"), ("FLOAT64", "FLOAT64"), ("DATE32", "Date32")]

/-- The form of the type that the word begins, with its keyword. -/
def typeForm? (w : Word) : Option (TypeForm × String) :=
  typeForms.findSome? fun (form, ks) => (ks.find? w.isKeyword).map (form, ·)

/-- What a length is counted in. -/
def lengthUnit : Parser LengthUnit := do
  match ← keywordOf? ["CHARACTERS", "OCTETS"] with
  | some "CHARACTERS" => return .characters
  | some _ => return .octets
  | none => return .unstated

/-- The length of a text in parentheses, if a parenthesis comes next. -/
def textLength? : Parser (Option TextLength) := do
  if ← nextIs "(" then
    some <$> parenthesized do
      if ← keyword? "MAX" then return .max
      let n ← natural 64
      return .count n (← lengthUnit)
  else return none

/-- The precision of a number. -/
def precision : Parser Precision := do
  match ← precisionScale? with
  | some (digits, some scale) => return .scaled digits scale
  | some (digits, none) => return .digits digits
  | none => return .unlimited

/-- What is said about the zone of a time. -/
def zone : Parser Zone := do
  match ← keywordOf? ["WITH", "WITHOUT"] with
  | some "WITH" => phrase ["TIME", "ZONE"]; return .withZone
  | some _ => phrase ["TIME", "ZONE"]; return .without
  | none => return .unstated

/-- The rest of a type after its keyword. -/
def formedType (form : TypeForm) (keyword : String) : Parser DataType := do
  match form with
  | .bare => return .sized keyword none
  | .sized => return .sized keyword (← length?)
  | .whole =>
    let length ← length?
    if ← keyword? "UNSIGNED" then return .unsigned keyword length
    return .sized keyword length
  | .text => return .text keyword (← textLength?)
  | .exact => return .exact keyword (← precision)
  | .time =>
    let precision ← length?
    return .time keyword precision (← zone)

/-- A type for texts, whose keyword may be followed by more words. -/
def characterType (keyword : String) : Parser DataType := do
  if ← keyword? "VARYING" then return .text (keyword ++ " VARYING") (← textLength?)
  if ← phrase? ["LARGE", "OBJECT"] then return .sized (keyword ++ " LARGE OBJECT") (← length?)
  return .text keyword (← textLength?)

/-- A value that an enumeration allows, with its number if it has one. -/
def enumMember (d : Dialect) : Parser Member := do
  let name ← literalText d
  if ← symbol? "=" then return ⟨name, some (← signedNumber d).render⟩
  return ⟨name, none⟩

/-- The values of a type that is a set. -/
def setValues : Parser (List Member) := do
  symbol "("
  let first ← singleText "a string"
  let others ← many do
    if ← symbol? "," then some <$> singleText "a string" else return none
  unless ← symbol? ")" do reject ", or \x7d"
  return (first :: others).map fun name => ⟨name, none⟩

/-- A moment with the digits of its seconds and its zone. -/
def preciseTime (d : Dialect) : Parser DataType :=
  parenthesized do
    let digits ← natural 64
    let zone ← if ← symbol? "," then some <$> literalText d else pure none
    return .compound ("DateTime64(" ++ toString digits
      ++ (zone.map fun z => ", '" ++ z ++ "'").getD "" ++ ")")

/-! ### Types of the user's -/

/-- An argument of a type of the user's, as it stands. -/
def typeArgument : Token → Option String
  | .word w => some w.spelling
  | .number digits _ => some digits
  | .text .single s => some s
  | _ => none

/-- The arguments of a type of the user's; commas between them are not needed. -/
def typeArguments : Parser (List String) := do
  if ← symbol? "(" then
    let arguments ← many do
      let _ ← many do if ← symbol? "," then return some () else return none
      match (← next?).bind typeArgument with
      | some a => skip; return some a
      | none => return none
    unless ← symbol? ")" do reject "type modifiers"
    return arguments
  else return []

/-- A type of the user's. -/
def customType : Parser DataType := do
  let name ← objectName
  return .custom name (← typeArguments)

/-! ### Types that are made of others -/

/-- Takes the angle that closes a type, unless it is taken already, and says whether it has
taken the one outside too. -/
def closeAngle (taken : Bool) : Parser Bool := do
  if taken then return false
  if ← symbol? ">" then return false
  if ← symbol? ">>" then return true
  fail ">"

/-- A type that ends where it should: no angle outside is taken. -/
def closedType (p : Parser (DataType × Bool)) : Parser DataType := do
  let (type, taken) ← p
  if taken then
    remark ("unmatched > after parsing data type " ++ type.render ++ foundText (← front?)) none
  return type

/-- A field of a type: a name, which may be left out, and a type.  Two words in a row are a
name and a type. -/
def typeField (element : Parser (DataType × Bool)) : Parser (String × Bool) := do
  let named := match (← get) with
    | ⟨.word _, _⟩ :: ⟨.word _, _⟩ :: _ => true
    | _ => false
  let before ← if named then (·.render ++ " ") <$> ident else pure ""
  let (type, taken) ← element
  return (before ++ type.render, taken)

/-- The fields in angles of a type whose keyword is at `start`, and whether an angle outside
is taken. -/
def angledFields (start : Option Location) (element : Parser (DataType × Bool)) :
    Parser (List String × Bool) := do
  if ← symbol? "<" then
    let (first, taken) ← typeField element
    let (fields, taken) ← loop (fun (fields, taken) => do
      if ← symbol? "," then
        if taken then remark "unmatched > in STRUCT definition" start
        let (field, taken) ← typeField element
        return some (field :: fields, taken)
      else return none) ([first], taken)
    return (fields.reverse, ← closeAngle taken)
  else return ([], false)

/-- A keyword with its fields in angles. -/
def renderAngled (keyword : String) (fields : List String) : String :=
  if fields.isEmpty then keyword else keyword ++ "<" ++ ", ".intercalate fields ++ ">"

/-- A column of a type that holds columns. -/
def innerColumn (g : Grammar) (type : Parser DataType) : Parser String := do
  let name ← ident
  let type ← type
  let tail ← g.columnTail
  return name.render ++ " " ++ type.render ++ tail.render

/-- The words of types that are made of others in parentheses. -/
def nestingWords : List String :=
  ["UNION", "NULLABLE", "LOWCARDINALITY", "MAP", "NESTED", "TUPLE"]

/-- The inside of a type that is made of others in parentheses. -/
def nestingType (g : Grammar) (word : String) (element : Parser (DataType × Bool)) :
    Parser DataType := do
  let whole := closedType element
  let inside (name : String) (parts : Parser (List String)) : Parser DataType := do
    return .compound (name ++ "(" ++ ", ".intercalate (← parenthesized parts) ++ ")")
  match word with
  | "UNION" => inside "UNION" (commaSeparated do
      let name ← ident
      return name.render ++ " " ++ (← whole).render)
  | "NULLABLE" => inside "Nullable" do return [(← whole).render]
  | "LOWCARDINALITY" => inside "LowCardinality" do return [(← whole).render]
  | "MAP" => inside "Map" do
      let key ← whole
      symbol ","
      return [key.render, (← whole).render]
  | "NESTED" => inside "Nested" (commaSeparated (innerColumn g whole))
  | _ => inside "Tuple" (commaSeparated do return (← typeField element).1)

/-! ### All types -/

/-- Any number of brackets after the type of an element. -/
def brackets (g : Grammar) (type : DataType) : Parser DataType :=
  loop (fun type => do
    if ← symbol? "[" then
      let sized := g.isOneOf [.generic, .postgresql]
      let size ← if sized then attempt (natural 64) else pure none
      symbol "]"
      return some (.array type size)
    else return none) type

/-- The words of types that have a form of their own. -/
def specialTypeWords : List String := [
  "DOUBLE", "BIT", "CHARACTER", "CHAR", "ENUM", "ENUM8", "ENUM16", "SET", "ARRAY",
  "DATETIME64", "FIXEDSTRING"]

/-- The rest of a type with a form of its own; `element` reads a type inside it. -/
def specialType (g : Grammar) (word : String) (element : Parser (DataType × Bool)) :
    Parser (DataType × Bool) := do
  let simple (p : Parser DataType) : Parser (DataType × Bool) := do return (← p, false)
  match word with
  | "DOUBLE" =>
    if ← keyword? "PRECISION" then return (.sized "DOUBLE PRECISION" none, false)
    return (.sized "DOUBLE" none, false)
  | "BIT" =>
    if ← keyword? "VARYING" then return (.sized "BIT VARYING" (← length?), false)
    return (.sized "BIT" (← length?), false)
  | "SET" => return (.choice "SET" (← setValues), false)
  | "ARRAY" =>
    symbol "<"
    let (inside, taken) ← element
    return (.arrayOf inside, ← closeAngle taken)
  | "DATETIME64" => simple (preciseTime g.dialect)
  | "FIXEDSTRING" => return (.sized "FixedString" (some (← parenthesized (natural 64))), false)
  | "CHARACTER" => simple (characterType "CHARACTER")
  | "CHAR" => simple (characterType "CHAR")
  | keyword =>
    return (.choice keyword (← parenthesized (commaSeparated (enumMember g.dialect))), false)

/-- A type without its brackets, and whether an angle outside is taken; `element` reads a
type inside it. -/
def simpleType (g : Grammar) (element : Parser (DataType × Bool)) :
    Parser (DataType × Bool) := do
  let start ← place?
  match ← next? with
  | some (.word w) =>
    match typeForm? w, spelledTypes.lookup w.capitals with
    | some (form, keyword), _ => skip; return (← formedType form keyword, false)
    | none, some spelling => skip; return (.sized spelling none, false)
    | none, none =>
      match ← keywordOf? specialTypeWords with
      | some word => specialType g word element
      | none =>
        if g.isGeneric then
          if ← keyword? "STRUCT" then
            let (fields, taken) ← angledFields start element
            return (.compound (renderAngled "STRUCT" fields), taken)
          if let some word ← keywordOf? nestingWords then
            return (← nestingType g word element, false)
        return (← customType, false)
  | _ => reject "a data type name"

/-- A type, and whether an angle outside is taken; there are no more types inside each other
than tokens in `left`. -/
def typeTaking (g : Grammar) (left : List Lexeme) : Parser (DataType × Bool) := do
  let element := match left with
    | [] => reject "a data type name"
    | _ :: left => typeTaking g left
  let (type, taken) ← simpleType g element
  return (← brackets g type, taken)

/-- A type. -/
def dataType (g : Grammar) : Parser DataType := do closedType (typeTaking g (← get))

end TableGraph.Sql.Parser
