/-
Reading the operands of operators.

Most words that begin a form of their own may also name a column or a function.  So such a
form is tried first, and if it fails the word is read as a name; what is reported when both
fail is what is wrong with the form.
-/
import TableGraph.Sql.Parser.Function

namespace TableGraph.Sql.Parser

open TableGraph.Sql.Expr

/-! ### Forms in parentheses -/

/-- A change of the type of a value, after its word. -/
def conversion (g : Grammar) (word : String) : Parser Expr := do
  called word <$> parenthesized do
    let e ← g.whole
    if ← keyword? "USING" then return words [e, "USING", ofName (← objectName)]
    symbol ","
    let type ← dataType g
    let charset ← after? ["CHARACTER", "SET"] objectName
    return listed [e, words (.type type :: preceded "CHARACTER SET" (charset.map ofName))]

/-- The format in which a value is cast. -/
def castFormat (g : Grammar) : Parser (List Expr) := do
  if ← keyword? "FORMAT" then
    let format ← value g.dialect
    let zone ← after? ["AT", "TIME", "ZONE"] (value g.dialect)
    return [words ["FORMAT", format]] ++ preceded "AT TIME ZONE" zone
  else return []

/-- A value and the type it is cast to, after the word for the cast. -/
def cast (g : Grammar) (word : String) : Parser Expr := do
  called word <$> parenthesized do
    let e ← g.whole
    keyword "AS"
    let type ← dataType g
    return words ([e, "AS", .type type] ++ (← castFormat g))

/-- The condition that a query has rows. -/
def existence (g : Grammar) : Parser Expr := do
  return words ["EXISTS", .subquery (← parenthesized g.query)]

/-- A part of a moment and the moment. -/
def extraction (g : Grammar) : Parser Expr := do
  called "EXTRACT" <$> parenthesized do
    let part ← timePart g
    if ← keyword? "FROM" then return words [part, "FROM", ← g.whole]
    let comma ← symbol? ","
    if comma && g.isGeneric then return listed [part, ← g.whole]
    remark "Expected 'FROM' or ','" none

/-- A number that is rounded, after the word for it. -/
def rounding (g : Grammar) (word : String) : Parser Expr := do
  called word <$> parenthesized do
    let e ← g.whole
    if ← keyword? "TO" then return words [e, "TO", ← timePart g]
    if ← symbol? "," then
      match ← next? with
      | some (.number _ _) => return listed [e, ← value g.dialect]
      | _ =>
        let _ ← value g.dialect
        remark "Scale field can only be of number type" none
    return e

/-- The place of a text in another one; without the word between them it is a function. -/
def position (g : Grammar) (w : Word) : Parser Expr := do
  let found ← attempt do
    called "POSITION" <$> parenthesized do
      let e ← g.expr (Level.range.strength g.dialect)
      keyword "IN"
      return words [e, "IN", ← g.whole]
  match found with
  | some e => return e
  | none => functionCall g [⟨w.text, w.quote⟩]

/-- A part of a text.  A comma before its beginning stands for commas everywhere. -/
def substring (g : Grammar) : Parser Expr := do
  called "SUBSTRING" <$> parenthesized do
    let e ← g.whole
    let commas ← symbol? ","
    let start ← if commas then some <$> g.whole else after? ["FROM"] g.whole
    let length ← if ← keyword? "FOR" then some <$> g.whole
      else if ← symbol? "," then some <$> g.whole
      else pure none
    if commas then return listed (e :: start.toList ++ length.toList)
    return words (e :: preceded "FROM" start ++ preceded "FOR" length)

/-- A text a part of which is replaced. -/
def overlay (g : Grammar) : Parser Expr := do
  called "OVERLAY" <$> parenthesized do
    let e ← g.whole
    keyword "PLACING"
    let other ← g.whole
    keyword "FROM"
    let start ← g.whole
    let length ← after? ["FOR"] g.whole
    return words ([e, "PLACING", other, "FROM", start] ++ preceded "FOR" length)

/-- A text without the characters at its ends. -/
def trimming (g : Grammar) : Parser Expr := do
  called "TRIM" <$> parenthesized do
    let side := (← keywordOf? ["BOTH", "LEADING", "TRAILING"]).toList.map Expr.verbatim
    let e ← g.whole
    if ← keyword? "FROM" then return words (side ++ [e, "FROM", ← g.whole])
    let comma ← symbol? ","
    if comma && g.isGeneric then return listed (e :: (← g.exprs))
    return words (side ++ [e])

/-- How well texts have to match. -/
def searchMode? : Parser (List Expr) := do
  let mode ← phraseOf? [["IN", "NATURAL", "LANGUAGE", "MODE"], ["IN", "BOOLEAN", "MODE"],
    ["WITH", "QUERY", "EXPANSION"]]
  match mode with
  | some "IN NATURAL LANGUAGE MODE" =>
    let wider := (← phraseOf? [["WITH", "QUERY", "EXPANSION"]]).toList
    return ("IN NATURAL LANGUAGE MODE" :: wider).map Expr.verbatim
  | mode => return mode.toList.map Expr.verbatim

/-- A search for words in columns. -/
def fullTextMatch (g : Grammar) : Parser Expr := do
  let columns ← columnList
  keyword "AGAINST"
  let sought ← parenthesized do return words ((← value g.dialect) :: (← searchMode?))
  return words [called "MATCH " (ofIdents columns), called "AGAINST " sought]

/-- What is made of several cases. -/
def caseExpr (g : Grammar) : Parser Expr := do
  let subject ← if ← nextIsKeyword "WHEN" then pure [] else pure [← g.whole]
  let case : Parser Expr := do
    keyword "WHEN"
    let condition ← g.whole
    keyword "THEN"
    return words ["WHEN", condition, "THEN", ← g.whole]
  let first ← case
  let others ← many do if ← nextIsKeyword "WHEN" then some <$> case else return none
  let last ← after? ["ELSE"] g.whole
  keyword "END"
  return words (verbatim "CASE" :: subject ++ first :: others ++ preceded "ELSE" last
    ++ [verbatim "END"])

/-- A condition that must not hold. -/
def negation (g : Grammar) : Parser Expr := do
  if ← keyword? "EXISTS" then return .unary "NOT" false (← existence g)
  return .unary "NOT" false (← g.expr (Level.negation.strength g.dialect))

/-! ### Collections -/

/-- The values between brackets. -/
def arrayItems (g : Grammar) : Parser Expr := do
  symbol "["
  let items ← commaSeparatedUntil "]" g.whole
  symbol "]"
  return joined ["[", listed items, "]"]

/-- A value of a structure, which has a name if the structure has no type. -/
def structValue (g : Grammar) (typed : Bool) : Parser Expr := do
  let e ← g.whole
  let place ← place?
  if ← keyword? "AS" then
    if typed then remark "Typed syntax does not allow AS" place
    return words [e, "AS", ← identExpr]
  return e

/-- A structure after its word, which stands at `start`. -/
def structLiteral (g : Grammar) (start : Option Location) : Parser Expr := do
  let (fields, taken) ← angledFields start (typeTaking g (← get))
  if taken then remark "unmatched > in STRUCT literal" (← place?)
  let values ← parenthesized (commaSeparated (structValue g !fields.isEmpty))
  return called (renderAngled "STRUCT" fields) (listed values)

/-- A key and its value. -/
def pair (key value : Parser Expr) : Parser Expr := do
  let key ← key
  symbol ":"
  return joined [key, ": ", ← value]

/-- Pairs in braces, as they are read by `pairs`. -/
def inBraces (pairs : Parser (List Expr)) : Parser Expr := do
  symbol "\x7b"
  let pairs ← pairs
  symbol "\x7d"
  return joined ["\x7b", listed pairs, "\x7d"]

/-- A call in braces. -/
def bracedCall (g : Grammar) : Parser Expr := do
  keyword "FN"
  let name ← objectName
  let call ← functionCall g (name.qualifiers ++ [name.base])
  return joined ["\x7bfn ", call, "\x7d"]

/-- What stands in braces. -/
def braced (g : Grammar) : Parser Expr := do
  let opening ← get
  symbol "\x7b"
  match ← attempt (bracedCall g) with
  | some call => symbol "\x7d"; return call
  | none =>
    if g.isGeneric then
      set opening
      inBraces (commaSeparated (pair identExpr g.whole))
    else throw (.unexpected "an expression" opening.head?)

/-! ### Words -/

/-- The parts of a name after its first one, and whether a star ends it. -/
def nameRest (g : Grammar) (first : Ident) : Parser (List Ident × Bool) := do
  let (parts, starred) ← loop (fun (parts, starred) => do
    if starred then return none
    if ← symbol? "." then
      match ← next? with
      | some (.word w) => skip; return some ((⟨w.text, w.quote⟩ : Ident) :: parts, false)
      | some (.text .single s) => skip; return some (⟨s, some '\''⟩ :: parts, false)
      | some (.symbol "*") =>
        if g.dialect == .postgresql then skip; return some (parts, true)
        else reject "an identifier after '.'"
      | _ => reject "an identifier or a '*' after '.'"
    else return none) ([first], false)
  return (parts.reverse, starred)

/-- The text may have the name of its characters before it. -/
def isIntroduced (token : Option Token) : Bool :=
  match token with
  | some (.text kind _) => [.single, .double, .hex].contains kind
  | _ => false

/-- A name, or a call of a function, whose first word has been taken. -/
def namedOperand (g : Grammar) (w : Word) : Parser Expr := do
  let next ← next?
  if next == some (.symbol "(") || next == some (.symbol ".") then
    let (parts, starred) ← nameRest g ⟨w.text, w.quote⟩
    if starred then return .star parts
    if ← nextIs "(" then functionCall g parts else return .path parts
  else if w.text.startsWith "_" && isIntroduced next then
    return words [.verbatim w.text, ← value g.dialect]
  else return .path [⟨w.text, w.quote⟩]

/-- The words for the time, which are functions whose arguments may be left out. -/
def timeWords : List String :=
  ["CURRENT_TIMESTAMP", "CURRENT_TIME", "CURRENT_DATE", "LOCALTIME", "LOCALTIMESTAMP"]

/-- The words for who and where one is, which are functions without arguments. -/
def sessionWords : List String := ["CURRENT_CATALOG", "CURRENT_USER", "SESSION_USER", "USER"]

/-- A word for the time, with its arguments if it has any. -/
def timeCall (g : Grammar) (w : Word) : Parser Expr := do
  if ← symbol? "(" then
    let (arguments, _) ← argumentList g
    return called w.spelling arguments
  return .verbatim w.spelling

/-- The form that a word begins, if it begins one before this token.  The word stands at
`start`, and `operand` reads the operand after a word for an interval. -/
def wordForm? (g : Grammar) (operand : Parser Expr) (w : Word) (start : Option Location)
    (next : Option Token) : Option (Parser Expr) :=
  let before (s : String) := next == some (.symbol s)
  match w.capitals with
  | "TRUE" => some (return "true")
  | "FALSE" => some (return "false")
  | "NULL" => some (return "NULL")
  | "CASE" => some (caseExpr g)
  | "CONVERT" => some (conversion g "CONVERT")
  | "TRY_CONVERT" => if g.isGeneric then some (conversion g "TRY_CONVERT") else none
  | "CAST" => some (cast g "CAST")
  | "TRY_CAST" => some (cast g "TRY_CAST")
  | "SAFE_CAST" => some (cast g "SAFE_CAST")
  | "EXISTS" => some (existence g)
  | "EXTRACT" => some (extraction g)
  | "CEIL" => some (rounding g "CEIL")
  | "FLOOR" => some (rounding g "FLOOR")
  | "POSITION" => if before "(" then some (position g w) else none
  | "SUBSTRING" => some (substring g)
  | "OVERLAY" => some (overlay g)
  | "TRIM" => some (trimming g)
  | "INTERVAL" => some (interval g (if g.dialect == .mysql then g.whole else operand))
  | "ARRAY" =>
    if before "[" then some (do return joined ["ARRAY", ← arrayItems g])
    else if before "(" then
      some (do return joined [.verbatim w.spelling, .subquery (← parenthesized g.query)])
    else none
  | "NOT" => some (negation g)
  | "MATCH" => if g.isOneOf [.mysql, .generic] then some (fullTextMatch g) else none
  | "STRUCT" => if g.isGeneric then some (structLiteral g start) else none
  | "PRIOR" =>
    if g.related then
      some (do return words ["PRIOR", ← g.expr (Level.sum.strength g.dialect)])
    else none
  | "MAP" =>
    if g.isGeneric && before "\x7b" then some do
        return words ["MAP", ← inBraces (commaSeparatedUntil "\x7d" (pair g.whole g.whole))]
    else none
  | capitals =>
    if timeWords.contains capitals then some (timeCall g w)
    else if sessionWords.contains capitals && g.isOneOf [.postgresql, .generic] then
      some (return .verbatim w.spelling)
    else none

/-- The words that cannot be names where their form is malformed. -/
def firmWords : List String := ["EXISTS", "INTERVAL", "STRUCT", "TRIM"]

/-- What a word begins: its form, or else a name.  After a name that stands for a form which
has failed there is no collation. -/
def wordOperand (g : Grammar) (operand : Parser Expr) (w : Word) : Parser Expr := do
  let start ← place?
  skip
  match wordForm? g operand w start (← next?) with
  | none => collated (← namedOperand g w)
  | some form =>
    fun tokens =>
      match form tokens with
      | .ok e rest => collated e rest
      | .error fault _ =>
        if w.isOneOf firmWords then .error fault tokens
        else
          match namedOperand g w tokens with
          | .ok e rest => .ok e rest
          | .error _ _ => .error fault tokens

/-! ### All operands -/

/-- A text with its type before it. -/
def typedText (g : Grammar) (operand : Parser Expr) : Parser Expr := do
  match ← dataType g with
  | .sized "INTERVAL" none => interval g (if g.dialect == .mysql then g.whole else operand)
  | .custom _ _ => fail "literal string"
  | known => return words [.type known, .text .single (← literalText g.dialect)]

/-- What stands in parentheses: a query, or expressions; a point after it names a part. -/
def enclosed (g : Grammar) : Parser Expr := do
  let e ← parenthesized do
    if ← nextIsOneOf ["SELECT", "WITH"] then return .subquery (← g.query)
    return .parentheses (← g.exprs)
  if ← symbol? "." then
    match ← front? with
    | some ⟨.word w, _⟩ => skip; return joined [e, ".", .path [⟨w.text, w.quote⟩]]
    | found =>
      skip
      remark ("Expected identifier, found: " ++ foundText found) (found.map (·.location))
  return e

/-- The operators before an operand where operators are free. -/
def freeSigns : List String := ["!!", "|/", "||/", "@", "~"]

/-- What a mark begins. -/
def symbolOperand (g : Grammar) (s : String) : Parser Expr := do
  if s == "[" then arrayItems g
  else if s == "+" || s == "-" then
    skip
    return .unary s true (← g.expr (Level.product.strength g.dialect))
  else if g.dialect == .postgresql && freeSigns.contains s then
    skip
    return .unary s true (← g.expr (Level.sum.strength g.dialect))
  else if s == "(" then enclosed g
  else if s == ":" || s == "@" then value g.dialect
  else if s == "\x7b" then braced g
  else reject "an expression"

/-- An operand; there are no more of them right inside each other than tokens in `left`. -/
def operandWithin (g : Grammar) (left : List Lexeme) : Parser Expr := do
  let inner := match left with
    | [] => reject "an expression"
    | _ :: left => operandWithin g left
  match ← next? with
  | some (.word w) =>
    match ← attempt (typedText g inner) with
    | some e => return e
    | none => wordOperand g inner w
  | some (.text .escaped _) =>
    if hasEscapedValues g.dialect then collated (← value g.dialect) else reject "an expression"
  | some (.text _ _) | some (.number _ _) | some (.placeholder _) =>
    collated (← value g.dialect)
  | some (.symbol s) => collated (← symbolOperand g s)
  | none => reject "an expression"

/-- An operand. -/
def operand (g : Grammar) : Parser Expr := do operandWithin g (← get)

end TableGraph.Sql.Parser
