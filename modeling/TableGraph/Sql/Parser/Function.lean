/-
Reading calls of functions.

A call has arguments, which may have names, and clauses among them; after the arguments it
may say how rows are grouped, chosen and ordered.  A star stands for all columns, of a table
or of the whole query.
-/
import TableGraph.Sql.Parser.DataType
import TableGraph.Sql.Parser.Strength

namespace TableGraph.Sql.Parser

open TableGraph.Sql.Expr

/-! ### Stars -/

/-- The parts of a dotted name after the first, up to a star if one ends it. -/
def starRest (parts : List Ident) : Parser (Option Expr) := do
  let (parts, starred) ← loop (fun (parts, starred) => do
    if starred then return none
    if ← symbol? "." then
      match ← next? with
      | some (.word w) => skip; return some (⟨w.text, w.quote⟩ :: parts, false)
      | some (.text .single s) => skip; return some (⟨s, some '\''⟩ :: parts, false)
      | some (.symbol "*") => skip; return some (parts, true)
      | _ => reject "an identifier or a '*' after '.'"
    else return none) (parts, false)
  return if starred then some (.star parts.reverse) else none

/-- A star for all columns or for those of a table, if the tokens begin with one. -/
def star? : Parser (Option Expr) := do
  if ← symbol? "*" then return some (.star [])
  let tokens ← get
  let first : Option Ident := match tokens with
    | ⟨.word w, _⟩ :: ⟨.symbol ".", _⟩ :: _ => some ⟨w.text, w.quote⟩
    | ⟨.text .single s, _⟩ :: ⟨.symbol ".", _⟩ :: _ => some ⟨s, some '\''⟩
    | _ => none
  match first with
  | some i =>
    skip
    match ← starRest [i] with
    | some e => return some e
    | none => set tokens; return none
  | none => return none

/-- A star, or an expression. -/
def starOrExpr (g : Grammar) : Parser Expr := do
  match ← star? with
  | some e => return e
  | none => g.whole

/-! ### Arguments -/

/-- The sign between the name of an argument and its value. -/
def argumentSign (d : Dialect) : Parser String := do
  if ← keyword? "VALUE" then return "VALUE"
  let signs := match d with
    | .generic => ["=>", ":="]
    | .postgresql => ["=>", ":"]
    | _ => ["=>"]
  match ← next? with
  | some (.symbol s) => if signs.contains s then skip; return s else fail "argument operator"
  | _ => fail "argument operator"

/-- The value of an argument after its name. -/
def namedArgument (g : Grammar) (name : Expr) : Parser Expr := do
  let sign ← argumentSign g.dialect
  return words [name, .verbatim sign, ← starOrExpr g]

/-- An argument whose name may be any expression.  The expression is read once: if no sign
follows, it is the argument, unless the argument is a star. -/
def freelyNamedArgument (g : Grammar) : Parser Expr := fun tokens =>
  match g.whole tokens with
  | .error .tooDeep rest => .error .tooDeep rest
  | .error e rest =>
    match star? tokens with
    | .ok (some all) rest => .ok all rest
    | .ok none _ => .error e rest
    | .error e rest => .error e rest
  | .ok e rest =>
    match attempt (namedArgument g e) rest with
    | .ok (some argument) rest => .ok argument rest
    | .error e rest => .error e rest
    | .ok none _ =>
      match star? tokens with
      | .ok (some all) rest => .ok all rest
      | .ok none _ => .ok e rest
      | .error e rest => .error e rest

/-- An argument of a function. -/
def argument (g : Grammar) : Parser Expr := do
  if g.dialect == .postgresql then freelyNamedArgument g
  else
    match ← attempt (do namedArgument g (← identExpr)) with
    | some e => return e
    | none => starOrExpr g

/-! ### Clauses -/

/-- The way in which rows are ordered between those that are there, if it is said. -/
def fill? (g : Grammar) : Parser (List Expr) := do
  if !g.isGeneric then return []
  if ← phrase? ["WITH", "FILL"] then
    let part (word : String) : Parser (List Expr) := do
      if ← keyword? word then return [.verbatim word, ← g.whole] else return []
    return [verbatim "WITH FILL"] ++ (← part "FROM") ++ (← part "TO") ++ (← part "STEP")
  return []

/-- The direction of an order, if it is said. -/
def direction? : Parser (List Expr) := do
  match ← keywordOf? ["ASC", "DESC"] with
  | some word => return [.verbatim word]
  | none => return []

/-- An expression by which rows are ordered. -/
def orderedExpr (g : Grammar) : Parser Expr := do
  let e ← g.whole
  let direction ← direction?
  let nulls ← phraseOf? [["NULLS", "FIRST"], ["NULLS", "LAST"]]
  return words (e :: direction ++ (nulls.map Expr.verbatim).toList ++ (← fill? g))

/-- Expressions by which rows are ordered. -/
def orderedExprs (g : Grammar) : Parser (List Expr) := commaSeparated (orderedExpr g)

/-- An order, if one comes next. -/
def order? (g : Grammar) : Parser (List Expr) := do
  if ← phrase? ["ORDER", "BY"] then return clause "ORDER BY" (← orderedExprs g) else return []

/-- What is done with empty values, if it is said. -/
def nullTreatment? : Parser (List Expr) := do
  match ← keywordOf? ["RESPECT", "IGNORE"] with
  | some word => keyword "NULLS"; return [.verbatim (word ++ " NULLS")]
  | none => return []

/-- What becomes of empty values in a document, if it is said. -/
def jsonNull? : Parser (List Expr) := do
  match ← phraseOf? [["ABSENT", "ON", "NULL"], ["NULL", "ON", "NULL"]] with
  | some words => return [.verbatim words]
  | none => return []

/-- Whether equal arguments count once, if it is said. -/
def duplicates? : Parser (List Expr) := do
  let place ← place?
  let all ← keyword? "ALL"
  let distinct ← keyword? "DISTINCT"
  if all && distinct then remark "Cannot specify both ALL and DISTINCT" place
  return if all then ["ALL"] else if distinct then ["DISTINCT"] else []

/-- The tokens that may begin what ends a list which is cut. -/
def beginsFiller (token : Option Token) : Bool :=
  match token with
  | some (.text kind _) => [.single, .escaped, .unicode, .national, .hex].contains kind
  | _ => false

/-- What is done when a list grows too long, if it is said. -/
def overflow? (g : Grammar) : Parser (List Expr) := do
  if ← phrase? ["ON", "OVERFLOW"] then
    if ← keyword? "ERROR" then return ["ON OVERFLOW ERROR"]
    keyword "TRUNCATE"
    let filler ←
      if ← nextIsOneOf ["WITH", "WITHOUT"] then pure []
      else if beginsFiller (← next?) then pure [← g.whole]
      else fail "either filler, WITH, or WITHOUT in LISTAGG"
    match ← keywordOf? ["WITH", "WITHOUT"] with
    | some word =>
      keyword "COUNT"
      return [words ([verbatim "ON OVERFLOW TRUNCATE"] ++ filler
        ++ [verbatim (word ++ " COUNT")])]
    | none => fail "either WITH or WITHOUT in LISTAGG"
  else return []

/-- A clause that begins with a keyword, if it comes next and the dialect has it. -/
def clauseAfter? (allowed : Bool) (word : String) (p : Parser Expr) : Parser (List Expr) := do
  if !allowed then return []
  if ← keyword? word then return [words [.verbatim word, ← p]] else return []

/-- A clause after its words, if they come next. -/
def clauseOf? (ks : List String) (p : Parser Expr) : Parser (List Expr) := do
  return preceded (" ".intercalate ks) (← after? ks p)

/-- The arguments of a function after the parenthesis that opens them, and whether they say
what is done with empty values. -/
def argumentList (g : Grammar) : Parser (Expr × Bool) := do
  let leading ← jsonNull?
  if ← symbol? ")" then return (words leading, false)
  let distinct ← duplicates?
  let arguments ← commaSeparated (argument g)
  let treatment ← if g.isGeneric then nullTreatment? else pure []
  let order ← order? g
  let limit ← clauseAfter? true "LIMIT" g.whole
  let extreme ← clauseAfter? g.isGeneric "HAVING" do
    return words [.verbatim (← keywordOf ["MIN", "MAX"]), ← g.whole]
  let separator ← clauseAfter? (g.isOneOf [.generic, .mysql]) "SEPARATOR" (value g.dialect)
  let overflow ← overflow? g
  let nulls ← jsonNull?
  symbol ")"
  return (words (distinct ++ [listed arguments] ++ leading ++ treatment ++ order ++ limit
    ++ extreme ++ separator ++ overflow ++ nulls), !treatment.isEmpty)

/-! ### Units of time -/

/-- The units that may follow an amount of time. -/
def timeUnits : List String := [
  "YEAR", "MONTH", "WEEK", "DAY", "HOUR", "MINUTE", "SECOND", "CENTURY", "DECADE", "DOW", "DOY",
  "EPOCH", "ISODOW", "ISOYEAR", "JULIAN", "MICROSECOND", "MICROSECONDS", "MILLENIUM",
  "MILLENNIUM", "MILLISECOND", "MILLISECONDS", "NANOSECOND", "NANOSECONDS", "QUARTER",
  "TIMEZONE", "TIMEZONE_HOUR", "TIMEZONE_MINUTE"]

/-- The parts of a moment that are no units. -/
def timeParts : List String := [
  "DATE", "DATETIME", "DAYOFWEEK", "DAYOFYEAR", "ISOWEEK", "TIME", "TIMEZONE_ABBR",
  "TIMEZONE_REGION"]

/-- A part of a moment. -/
def timePart (g : Grammar) : Parser Expr := do
  let free := g.isOneOf [.generic, .postgresql]
  match ← keywordOf? (timeUnits ++ timeParts) with
  | some "WEEK" =>
    if g.isGeneric then
      if ← nextIs "(" then return called "WEEK" (.path [← parenthesized ident])
    return "WEEK"
  | some word => return .verbatim word
  | none =>
    match ← next? with
    | some (.word _) | some (.text .single _) =>
      if free then identExpr else reject "date/time field"
    | _ => reject "date/time field"

/-- A number in parentheses after a blank, if a parenthesis comes next. -/
def unitLength? : Parser (List Expr) := do
  return (← length?).toList.map fun n => .verbatim ("(" ++ toString n ++ ")")

/-- What follows the value of an interval. -/
def intervalUnit (g : Grammar) : Parser (List Expr) := do
  if ← nextIsOneOf timeUnits then
    if ← nextIsKeyword "SECOND" then
      skip
      match ← precisionScale? with
      | some (leading, some fraction) =>
        return [.verbatim ("SECOND (" ++ toString leading ++ ", " ++ toString fraction ++ ")")]
      | some (leading, none) => return [.verbatim ("SECOND (" ++ toString leading ++ ")")]
      | none => return ["SECOND"]
    let first ← timePart g
    let leading ← unitLength?
    return first :: leading ++ (← lastUnit)
  else if g.dialect == .mysql then
    remark "INTERVAL requires a unit after the literal value" (← place?)
  else return (← unitLength?) ++ (← lastUnit)
where
  /-- The smallest unit of the interval, if it is said. -/
  lastUnit : Parser (List Expr) := do
    if ← keyword? "TO" then
      let seconds ← nextIsKeyword "SECOND"
      let last ← timePart g
      let fraction ← if seconds then unitLength? else pure []
      return [verbatim "TO", last] ++ fraction
    else return []

/-- An interval, whose value is read by `value`. -/
def interval (g : Grammar) (value : Parser Expr) : Parser Expr := do
  let value ← value
  return words ([verbatim "INTERVAL", value] ++ (← intervalUnit g))

/-! ### Windows -/

/-- A collation after an operand, if it comes next. -/
def collated (e : Expr) : Parser Expr := do
  if ← keyword? "COLLATE" then return words [e, "COLLATE", ofName (← objectName)] else return e

/-- How far a window reaches. -/
def windowBound (g : Grammar) : Parser Expr := do
  if ← phrase? ["CURRENT", "ROW"] then return "CURRENT ROW"
  let rows ←
    if ← keyword? "UNBOUNDED" then pure (verbatim "UNBOUNDED")
    else
      match ← next? with
      | some (.text .single _) =>
        interval g (if g.dialect == .mysql then g.whole
          else do collated (← value g.dialect))
      | _ => g.whole
  match ← keywordOf? ["PRECEDING", "FOLLOWING"] with
  | some word => return words [rows, .verbatim word]
  | none => fail "PRECEDING or FOLLOWING"

/-- The rows that a window holds. -/
def windowFrame (g : Grammar) : Parser Expr := do
  match ← keywordOf? ["ROWS", "RANGE", "GROUPS"] with
  | none => reject "ROWS, RANGE, GROUPS"
  | some unit =>
    if ← keyword? "BETWEEN" then
      let first ← windowBound g
      keyword "AND"
      return words [.verbatim unit, "BETWEEN", first, "AND", ← windowBound g]
    return words [.verbatim unit, ← windowBound g]

/-- A window after the parenthesis that opens it. -/
def window (g : Grammar) : Parser Expr := do
  let name ← match ← next? with
    | some (.word w) => if w.isPlain then pure [← identExpr] else pure []
    | _ => pure []
  let parts ← if ← phrase? ["PARTITION", "BY"] then g.exprs else pure []
  let order ← order? g
  let frame ← if ← nextIs ")" then pure [] else pure [← windowFrame g]
  symbol ")"
  return words (name ++ clause "PARTITION BY" parts ++ order ++ frame)

/-! ### Calls -/

/-- The arguments of a function, and what is done with its rows. -/
def functionCall (g : Grammar) (name : List Ident) : Parser Expr := do
  symbol "("
  let (first, treated) ← argumentList g
  let head := joined [.path name, "(", first, ")"]
  let (head, treated) ←
    if ← allowed g.isGeneric (symbol? "(") then
      let (second, treated) ← argumentList g
      pure (joined [head, "(", second, ")"], treated)
    else pure (head, treated)
  let group ←
    if ← phrase? ["WITHIN", "GROUP"] then
      let ordered ← parenthesized do
        phrase ["ORDER", "BY"]
        orderedExprs g
      pure [called "WITHIN GROUP " (words ["ORDER BY", listed ordered])]
    else pure []
  let chosen ← if g.isOneOf [.postgresql, .sqlite] then filter? else pure []
  let treatment ← if treated then pure [] else nullTreatment?
  let windowed ←
    if ← keyword? "OVER" then
      if ← symbol? "(" then pure [called "OVER " (← window g)]
      else pure [words ["OVER", ← identExpr]]
    else pure []
  return words (head :: group ++ chosen ++ treatment ++ windowed)
where
  /-- The rows that are chosen.  Words that only begin to say so are passed over. -/
  filter? : Parser (List Expr) := do
    if ← keyword? "FILTER" then
      if ← symbol? "(" then
        if ← keyword? "WHERE" then
          let e ← g.whole
          symbol ")"
          return [called "FILTER " (words ["WHERE", e])]
    return []

end TableGraph.Sql.Parser
