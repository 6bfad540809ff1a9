import CallPolicy.Syntax.PythonLexing

/-! The grammar of Python.

A keyword counts as one only where the grammar expects it; elsewhere it is a name. A name
cannot stand where a statement begins if it is a keyword that begins one.
-/

set_option autoImplicit false

namespace CallPolicy.Syntax.Python

inductive Form where
  | statement
  | simpleStatement
  | suite
  | block
  | rightSide
  | expression
  | disjunction
  | conjunction
  | inversion
  | comparison
  | arithmetic
  | operand
  | primary
  | atom
  | group
  | listDisplay
  | braceDisplay
  | string
  | interpolation
  | argument
  | pattern
  | parameter
  | comprehension
  | forInItem
  | casePattern
  | caseAlternative
  | caseClosed
  deriving DecidableEq, Repr, Inhabited

abbrev PythonRule := Rule Form Lexeme

open Rule

def operators : List (List Char) :=
  ["+", "-", "*", "/", "//", "%", "@", "**", "<<", ">>", "&", "|", "^", "~", "<", ">", "<=", ">=",
   "==", "!=", "<>", "->", "+=", "-=", "*=", "/=", "//=", "%=", "@=", "&=", "|=", "^=", ">>=",
   "<<=", "**=", ":=", "=", ":", ".", "..."].map String.toList

/-- The characters that would make a sign a longer one. -/
def longer (sign : List Char) : List Char :=
  operators.filterMap fun operator =>
    if sign.isPrefixOf operator then (operator.drop sign.length).head? else none

def sign (text : String) : PythonRule :=
  .token none (.sign text.toList (longer text.toList))

/-- A sign that may run into the next one. -/
def bare (text : String) : PythonRule :=
  .token none (.sign text.toList [])

def keyword (text : String) : PythonRule :=
  .token none (.word text.toList)

def nameBut (except : List String) : PythonRule :=
  .token (some .identifier) (.name (except.map String.toList))

def anyName : PythonRule :=
  nameBut []

def leaf (kind : String) (lexeme : Lexeme) : PythonRule :=
  .token (some (.construct kind)) (.lexeme lexeme)

def construct (kind : String) (rule : PythonRule) : PythonRule :=
  .node (.construct kind) rule

def extendTo (kind : String) (rule : PythonRule) : PythonRule :=
  .grow (.construct kind) none rule

def onLine : PythonRule :=
  .not (.hidden .lineEnd)

/-- A continuation: it must stand on the same line where a line end counts. -/
def more (rule : PythonRule) : PythonRule :=
  .seq onLine rule

def header (rule : PythonRule) : PythonRule :=
  .under (.lines .header) rule

def inside (rule : PythonRule) : PythonRule :=
  .under (.lines .bracketed) rule

/-- A rule that begins with an opening bracket; inside it line ends are blanks. -/
def bracketed (opening : String) (rule : PythonRule) : PythonRule :=
  .seq (.ahead (bare opening)) (inside rule)

/-- Items with commas between them. -/
def separated (item : PythonRule) : PythonRule :=
  .seq item (.many (more (.seq (sign ",") item)))

/-- The further items of a list, with commas before them and perhaps one at the end. -/
def furtherItems (item : PythonRule) : PythonRule :=
  .seq (.many (all [onLine, sign ",", onLine, item])) (opt (more (sign ",")))

def listed (item : PythonRule) : PythonRule :=
  .seq item (furtherItems item)

/-- At least one comma and perhaps further items. -/
def commaTail (item : PythonRule) : PythonRule :=
  .alt (.seq (many1 (all [onLine, sign ",", onLine, item])) (opt (more (sign ",")))) (more (sign ","))

def expression : PythonRule := .ref .expression

def expressions : PythonRule :=
  .extend expression (.alt (extendTo "expression_list" (commaTail expression)) keep)

/-- A clause that must follow if its keyword does. -/
def clause (word : String) (rule : PythonRule) : PythonRule :=
  .alt rule (.not (keyword word))

/-- A part of a statement that may stand on a line of its own, which counts once its keyword
is there. -/
def part (word : String) (rule : PythonRule) : PythonRule :=
  .seq (.ahead (keyword word)) (.statement rule)

def statementEnd : PythonRule :=
  .alt (.hidden .lineEnd) (sign ";")

def statementKeywords : List String :=
  ["import", "from", "assert", "return", "del", "raise", "pass", "break", "continue", "if", "for",
   "while", "try", "with", "def", "class", "global", "nonlocal"]

def operandKeywords : List String :=
  ["not", "lambda", "None", "True", "False"]

/-! ### Imports -/

def dottedName : PythonRule :=
  construct "dotted_name" (.seq anyName (.many (more (.seq (sign ".") anyName))))

def importedName : PythonRule :=
  .role .name <| .alt
    (.node .aliasedImport (all [.role .name dottedName, onLine, keyword "as", anyName]))
    dottedName

def importedNames : PythonRule :=
  listed importedName

def bracketedImports : PythonRule :=
  bracketed "(" (all [bare "(", importedNames, sign ")"])

def importStatement : PythonRule :=
  .node .importStatement (.seq (keyword "import") importedNames)

def importFuture : PythonRule :=
  .node .importFuture (all [keyword "from", keyword "__future__", keyword "import",
    .alt bracketedImports importedNames])

def relativeImport : PythonRule :=
  construct "relative_import" (.seq
    (construct "import_prefix" (many1 (bare ".")))
    (opt (.seq (.not (keyword "import")) dottedName)))

def importFrom : PythonRule :=
  .node .importFrom (all [keyword "from", .not (keyword "__future__"),
    .role .moduleName (.alt relativeImport dottedName), keyword "import",
    any [construct "wildcard_import" (sign "*"), bracketedImports, importedNames]])

/-! ### Expressions -/

def comparisonOperator : PythonRule :=
  any [sign "<=", sign "<>", sign "<", sign "==", sign "!=", sign ">=", sign ">", keyword "in",
    .seq (keyword "not") (keyword "in"), .seq (keyword "is") (keyword "not"), keyword "is"]

def arithmeticOperator : PythonRule :=
  any [sign "**", sign "*", sign "//", sign "/", sign "%", sign "@", sign "+", sign "-", sign "<<",
    sign ">>", sign "&", sign "^", sign "|"]

def conditionalTail : PythonRule :=
  extendTo "conditional_expression" (all [keyword "if", expression, keyword "else", expression])

def asTail : PythonRule :=
  extendTo "as_pattern" (.seq (keyword "as") expression)

def lambdaParameters : PythonRule :=
  let target := any [
    construct "dictionary_splat_pattern" (.seq (sign "**") (.ref .pattern)),
    construct "list_splat_pattern" (.seq (sign "*") (.ref .pattern)),
    construct "keyword_separator" (sign "*"),
    construct "positional_separator" (sign "/"),
    .extend (.alt (bracketed "(" (construct "tuple_pattern"
        (all [bare "(", opt (listed (.ref .pattern)), sign ")"]))) anyName)
      (.alt (extendTo "default_parameter" (.seq (sign "=") expression)) keep)]
  construct "lambda_parameters" (listed target)

def lambdaOver (body : PythonRule) : PythonRule :=
  construct "lambda" (all [keyword "lambda", opt lambdaParameters, bare ":", body])

def namedExpression : PythonRule :=
  construct "named_expression" (all [nameBut operandKeywords, onLine, sign ":=", expression])

def listSplat : PythonRule :=
  construct "list_splat" (.seq (sign "*") expression)

def dictionarySplat : PythonRule :=
  construct "dictionary_splat" (.seq (sign "**") expression)

def yieldExpression : PythonRule :=
  construct "yield" (.seq (keyword "yield") (.alt
    (all [onLine, keyword "from", expression])
    (.seq (.not (more (keyword "from"))) (opt (more expressions)))))

/-- An expression where `yield` is a keyword. -/
def yieldOr (rule : PythonRule) : PythonRule :=
  .alt yieldExpression (.seq (.not (keyword "yield")) rule)

def targetKinds : List Kind :=
  [.identifier, .member, .subscript]

def splatTarget : PythonRule :=
  .alt (.only targetKinds (.ref .primary)) (nameBut operandKeywords)

def element : PythonRule :=
  yieldOr (.alt listSplat expression)

def callTail : PythonRule :=
  .grow .call (some .callee) <| bracketed "(" <|
    .extend (.seq (bare "(") (opt (.ref .argument))) <| any [
      extendTo "generator_expression" (.seq (.ref .comprehension) (bare ")")),
      extendTo "argument_list" (.seq (furtherItems (.ref .argument)) (bare ")"))]

def memberTail : PythonRule :=
  .grow .member (some .object) (.seq (sign ".") (.role .attribute anyName))

def subscriptItem : PythonRule :=
  let bounds := .seq (sign ":") (.seq (opt expression) (opt (.seq (sign ":") (opt expression))))
  .alt (construct "slice" bounds) (.extend expression (.alt (extendTo "slice" bounds) keep))

def subscriptTail : PythonRule :=
  .grow .subscript (some .value) (bracketed "[" (all [bare "[", listed subscriptItem, bare "]"]))

def commaOrEnd (item : PythonRule) (close : String) : PythonRule :=
  .seq (furtherItems item) (bare close)

def pairOrElement : PythonRule :=
  .extend element (.alt (extendTo "pair" (.seq (sign ":") expression)) keep)

def pair : PythonRule :=
  .only [.construct "pair"] pairOrElement

/-! ### Patterns and parameters -/

def patternList : PythonRule :=
  .extend (.ref .pattern) (.alt
    (extendTo "pattern_list" (commaTail (.seq (.not (keyword "in")) (.ref .pattern))))
    keep)

def annotation : PythonRule :=
  .alt expression (construct "splat_type" (.seq (.alt (sign "**") (sign "*")) anyName))

def typeParameters : PythonRule :=
  let parameter := .extend annotation
    (.links (extendTo "constrained_type" (.seq (sign ":") annotation)))
  construct "type_parameter" (bracketed "[" (all [bare "[", listed parameter, sign "]"]))

def tuplePattern : PythonRule :=
  construct "tuple_pattern" (bracketed "(" (all [bare "(", opt (listed (.ref .pattern)), sign ")"]))

def parameters : PythonRule :=
  construct "parameters" (bracketed "(" (all [bare "(", opt (listed (.ref .parameter)), sign ")"]))

def forInClause : PythonRule :=
  construct "for_in_clause" (all [opt (keyword "async"), keyword "for", patternList, keyword "in",
    listed (.ref .forInItem)])

/-! ### Statements -/

def assignmentTail : PythonRule :=
  any [
    extendTo "assignment" (all [onLine, sign "=", .ref .rightSide]),
    extendTo "assignment" (all [onLine, sign ":", annotation,
      opt (all [onLine, sign "=", .ref .rightSide])]),
    extendTo "augmented_assignment" (all [onLine,
      any (["+=", "-=", "*=", "/=", "@=", "//=", "%=", "**=", ">>=", "<<=", "&=", "^=", "|="].map sign),
      .ref .rightSide])]

def assignment : PythonRule :=
  .extend patternList assignmentTail

def simpleStatements : PythonRule :=
  all [.ref .simpleStatement, .many (all [onLine, sign ";", onLine, .ref .simpleStatement]),
    opt (more (sign ";")), .hidden .newline]

def expressionStatement : PythonRule :=
  all [.not (any (statementKeywords.map keyword)),
    construct "expression_statement" (yieldOr (.alt assignment expressions)),
    .ahead statementEnd]

def printTo : PythonRule :=
  construct "print_statement" (all [keyword "print",
    construct "chevron" (all [onLine, sign ">>", expression]), furtherItems expression])

def printStatement : PythonRule :=
  construct "print_statement" (all [keyword "print", onLine, listed expression])

def execStatement : PythonRule :=
  construct "exec_statement" (all [keyword "exec", onLine, .alt (.ref .string) anyName,
    opt (all [onLine, keyword "in", separated expression])])

def typeAlias : PythonRule :=
  construct "type_alias_statement" (all [keyword "type", onLine, annotation, onLine, sign "=", annotation,
    .ahead statementEnd])

def elseClause : PythonRule :=
  clause "else" (part "else"
    (construct "else_clause" (all [keyword "else", header (sign ":"), .ref .suite])))

def finallyClause : PythonRule :=
  part "finally"
    (construct "finally_clause" (all [keyword "finally", header (sign ":"), .ref .suite]))

def ifStatement : PythonRule :=
  let elif := part "elif" (construct "elif_clause"
    (.seq (header (all [keyword "elif", expression, sign ":"])) (.ref .suite)))
  construct "if_statement" (all [header (all [keyword "if", expression, sign ":"]), .ref .suite,
    .many elif, .not (keyword "elif"), elseClause])

def forStatement : PythonRule :=
  construct "for_statement" (all [
    header (all [opt (keyword "async"), keyword "for", patternList, keyword "in", expressions, sign ":"]),
    .ref .suite, elseClause])

def whileStatement : PythonRule :=
  construct "while_statement" (all [header (all [keyword "while", expression, sign ":"]),
    .ref .suite, elseClause])

def exceptClause : PythonRule :=
  part "except" (construct "except_clause" (.seq
    (header (all [keyword "except",
      opt (.seq expression (opt (.seq (.alt (keyword "as") (sign ",")) expression))), sign ":"]))
    (.ref .suite)))

def exceptGroup : PythonRule :=
  part "except" (construct "except_group_clause" (.seq
    (header (all [keyword "except", .token none (.adjoined ['*']), expression,
      opt (.seq (keyword "as") expression), sign ":"]))
    (.ref .suite)))

def tryStatement : PythonRule :=
  let rest := all [.not (keyword "except"), elseClause, clause "finally" finallyClause]
  construct "try_statement" (all [header (.seq (keyword "try") (sign ":")), .ref .suite,
    any [.seq (many1 exceptGroup) rest, .seq (many1 exceptClause) rest, finallyClause]])

def withStatement : PythonRule :=
  let item := construct "with_item" expression
  construct "with_statement" (.seq
    (header (all [opt (keyword "async"), keyword "with",
      construct "with_clause" (.alt
        (all [bracketed "(" (all [bare "(", listed item, sign ")"]), .ahead (sign ":")])
        (listed item)),
      sign ":"]))
    (.ref .suite))

def functionDefinition : PythonRule :=
  .node .functionDefinition (.seq
    (header (all [opt (keyword "async"), keyword "def", .role .name anyName, opt typeParameters,
      parameters, opt (.seq (sign "->") annotation), sign ":"]))
    (.ref .suite))

def classDefinition : PythonRule :=
  .node .classDefinition (.seq
    (header (all [keyword "class", .role .name anyName, opt typeParameters,
      opt (construct "argument_list"
        (bracketed "(" (all [bare "(", opt (listed (.ref .argument)), sign ")"]))),
      sign ":"]))
    (.ref .suite))

def decoratedDefinition : PythonRule :=
  .node .decoratedDefinition (.seq
    (many1 (.node .decorator (all [sign "@", expression, .hidden .newline])))
    (.alt classDefinition functionDefinition))

def matchStatement : PythonRule :=
  let case := .statement (construct "case_clause" (.seq
    (header (all [keyword "case", listed (.ref .casePattern),
      opt (construct "if_clause" (.seq (keyword "if") expression)), sign ":"]))
    (.ref .suite)))
  construct "match_statement" (.seq
    (header (all [keyword "match", listed expression, sign ":"]))
    (.alt
      (.seq (.hidden .indent) (construct "block" (.seq (.many case) (.hidden .dedent))))
      (.seq (.not (.hidden .indent)) (construct "block" (.hidden .newline)))))

/-- The signed numbers and complex numbers of a case pattern. -/
def numberPattern : PythonRule :=
  let number := .alt (leaf "float" .float) (leaf "integer" .integer)
  .seq (opt (sign "-")) (.seq number (opt (.seq (.alt (sign "+") (sign "-")) number)))

def casePatterns (opening closing : String) : PythonRule :=
  bracketed opening (all [bare opening, opt (listed (.ref .casePattern)), bare closing])


def formRule : Form → PythonRule
  | .statement => .statement (any [ifStatement, forStatement, whileStatement, tryStatement,
      withStatement, functionDefinition, classDefinition, decoratedDefinition, matchStatement,
      simpleStatements])
  | .simpleStatement => any [importFuture, importStatement, importFrom, printTo,
      construct "assert_statement" (.seq (keyword "assert") (separated expression)),
      construct "return_statement" (.seq (keyword "return") (opt (more expressions))),
      construct "delete_statement" (.seq (keyword "del") expressions),
      construct "raise_statement" (all [keyword "raise",
        opt (all [onLine, .not (keyword "from"), expressions]),
        opt (all [onLine, keyword "from", expression])]),
      construct "pass_statement" (keyword "pass"),
      construct "break_statement" (keyword "break"),
      construct "continue_statement" (keyword "continue"),
      construct "global_statement" (.seq (keyword "global") (separated anyName)),
      construct "nonlocal_statement" (.seq (keyword "nonlocal") (separated anyName)),
      typeAlias, expressionStatement, execStatement, printStatement]
  | .suite => any [
      .seq (.hidden .indent) (.ref .block),
      .seq (.not (.hidden .indent)) (construct "block" (.hidden .newline)),
      .seq onLine (construct "block" simpleStatements)]
  | .block => construct "block" (.seq (.many (.ref .statement)) (.hidden .dedent))
  | .rightSide => yieldOr (.alt assignment expressions)
  | .expression => .extend (.ref .disjunction) (.links (more (.alt conditionalTail asTail)))
  | .disjunction => Rule.chain (.ref .conjunction)
      (more (extendTo "boolean_operator" (.seq (keyword "or") (.ref .conjunction))))
  | .conjunction => Rule.chain (.ref .inversion)
      (more (extendTo "boolean_operator" (.seq (keyword "and") (.ref .inversion))))
  | .inversion => any [construct "not_operator" (.seq (keyword "not") (.ref .inversion)),
      lambdaOver expression, namedExpression,
      .seq (.not (.seq (nameBut operandKeywords) (more (sign ":=")))) (.ref .comparison)]
  | .comparison => .extend (.ref .arithmetic) (.alt
      (extendTo "comparison_operator" (many1 (more (.seq comparisonOperator (.ref .arithmetic)))))
      keep)
  | .arithmetic => Rule.chain (.ref .operand)
      (more (extendTo "binary_operator" (.seq arithmeticOperator (.ref .operand))))
  | .operand => any [
      construct "unary_operator" (.seq (any [sign "-", sign "+", sign "~"]) (.ref .operand)),
      construct "await" (.seq (keyword "await") (more (.ref .operand))),
      .ref .primary]
  | .primary => Rule.chain (.ref .atom) (more (any [callTail, memberTail, subscriptTail]))
  | .atom => any [
      .extend (.ref .string)
        (.alt (extendTo "concatenated_string" (many1 (more (.ref .string)))) keep),
      leaf "float" .float, leaf "integer" .integer, construct "ellipsis" (sign "..."),
      .token (some (.construct "none")) (.word "None".toList),
      .token (some (.construct "true")) (.word "True".toList),
      .token (some (.construct "false")) (.word "False".toList),
      .ref .group, .ref .listDisplay, .ref .braceDisplay,
      construct "list_splat" (.seq (sign "*") splatTarget),
      nameBut operandKeywords]
  | .group => bracketed "(" <| .alt
      (construct "tuple" (.seq (bare "(") (bare ")")))
      (.extend (.seq (bare "(") element) (any [
        extendTo "generator_expression" (.seq (.ref .comprehension) (bare ")")),
        extendTo "parenthesized_expression" (bare ")"),
        extendTo "tuple" (commaOrEnd element ")")]))
  | .listDisplay => bracketed "[" <| .alt
      (construct "list" (.seq (bare "[") (bare "]")))
      (.extend (.seq (bare "[") element) (any [
        extendTo "list_comprehension" (.seq (.ref .comprehension) (bare "]")),
        extendTo "list" (commaOrEnd element "]")]))
  | .braceDisplay => bracketed "\x7b" <| any [
      construct "dictionary" (all [bare "\x7b", opt (sign ","), bare "\x7d"]),
      construct "dictionary" (all [bare "\x7b", dictionarySplat,
        commaOrEnd (.alt dictionarySplat pair) "\x7d"]),
      .extend (.seq (bare "\x7b") pairOrElement) (.alt
        (.seq (.after [.construct "pair"]) (.alt
          (extendTo "dictionary_comprehension" (.seq (.ref .comprehension) (bare "\x7d")))
          (extendTo "dictionary" (commaOrEnd (.alt dictionarySplat pair) "\x7d"))))
        (.seq (.not (.after [.construct "pair"])) (.alt
          (extendTo "set_comprehension" (.seq (.ref .comprehension) (bare "\x7d")))
          (extendTo "set" (commaOrEnd element "\x7d")))))]
  | .string => construct "string" (all [leaf "string_start" .openString,
      .many (.alt (leaf "string_content" .stringChunk) (.ref .interpolation)),
      leaf "string_end" .closeString])
  | .interpolation => construct "interpolation" <| inside <| all [
      .token none (.adjoined ['\x7b']), yieldOr expressions, opt (sign "="),
      opt (leaf "type_conversion" .conversion),
      opt (construct "format_specifier" (.seq (bare ":")
        (.many (.alt (.token none (.lexeme .formatText)) (.ref .interpolation))))),
      bare "\x7d"]
  | .argument => any [
      construct "keyword_argument" (all [nameBut operandKeywords, sign "=", expression]),
      dictionarySplat, listSplat, expression]
  | .pattern => any [.only targetKinds (.ref .primary),
      construct "list_splat_pattern" (.seq (sign "*") (.only targetKinds (.ref .primary))),
      tuplePattern,
      construct "list_pattern" (bracketed "[" (all [bare "[", opt (listed (.ref .pattern)), sign "]"]))]
  | .parameter => any [
      .extend (.alt
          (construct "dictionary_splat_pattern" (.seq (sign "**") (.only targetKinds (.ref .primary))))
          (construct "list_splat_pattern" (.seq (sign "*") (.only targetKinds (.ref .primary)))))
        (.alt (extendTo "typed_parameter" (.seq (sign ":") annotation)) keep),
      construct "keyword_separator" (sign "*"),
      construct "positional_separator" (sign "/"),
      .extend tuplePattern (.alt (extendTo "default_parameter" (.seq (sign "=") expression)) keep),
      .extend anyName (any [
        extendTo "typed_default_parameter" (all [sign ":", annotation, sign "=", expression]),
        extendTo "typed_parameter" (.seq (sign ":") annotation),
        extendTo "default_parameter" (.seq (sign "=") expression), keep])]
  | .comprehension => .seq forInClause
      (.many (.alt forInClause (construct "if_clause" (.seq (keyword "if") (.ref .disjunction)))))
  | .forInItem => .alt (lambdaOver (.ref .forInItem)) (.ref .disjunction)
  | .casePattern => .extend (.alt
        (construct "keyword_pattern" (all [anyName, sign "=", .ref .caseAlternative]))
        (.ref .caseAlternative))
      (.links (extendTo "as_pattern" (.seq (keyword "as") anyName)))
  | .caseAlternative => Rule.chain (.ref .caseClosed)
      (extendTo "union_pattern" (.seq (sign "|") (.ref .caseClosed)))
  | .caseClosed => any [
      .extend (.ref .string)
        (.alt (extendTo "concatenated_string" (many1 (.ref .string))) keep),
      numberPattern,
      .token (some (.construct "none")) (.word "None".toList),
      .token (some (.construct "true")) (.word "True".toList),
      .token (some (.construct "false")) (.word "False".toList),
      construct "splat_pattern" (.seq (.alt (sign "**") (sign "*")) anyName),
      construct "list_pattern" (casePatterns "[" "]"),
      construct "tuple_pattern" (casePatterns "(" ")"),
      construct "dict_pattern" (bracketed "\x7b" (all [bare "\x7b",
        opt (listed (.alt
          (construct "splat_pattern" (.seq (.alt (sign "**") (sign "*")) anyName))
          (all [.ref .caseAlternative, sign ":", .ref .casePattern]))),
        bare "\x7d"])),
      .extend dottedName (.alt (extendTo "class_pattern" (casePatterns "(" ")")) keep)]

def grammar : Syntax.Grammar Form Lexeme where
  toLexing := lexing
  rule := formRule
  lineAtEnd cursor := cursor.statement

/-- The tree of a Python module. -/
def parse (text : List Char) : Node :=
  grammar.parse (.construct "module") (.seq (.many (.ref .statement)) (.hidden .endOfText)) text

end CallPolicy.Syntax.Python
