import CallPolicy.Syntax.RustLexing

/-! The grammar of Rust.

The arguments of a macro are a tree of tokens and hold no expressions. A brace after a
path opens a literal except in the head of a condition, a loop or a match.
-/

set_option autoImplicit false

namespace CallPolicy.Syntax.Rust

inductive Form where
  | statement
  | declaration
  | item
  | block
  | blockLike
  | ifExpression
  | expression
  | logical
  | term
  | operand
  | postfixed
  | atom
  | condition
  | matchArm
  | type
  | bareType
  | typePath
  | typeArguments
  | pattern
  | patternAlternative
  | tokenTree
  | tokens
  | macroTokens
  | useTree
  | visibility
  | parameters
  deriving DecidableEq, Repr, Inhabited

abbrev RustRule := Rule Form Lexeme

open Rule

def sign (text : String) (notBefore : String) : RustRule :=
  .token none (.sign text.toList notBefore.toList)

def bare (text : String) : RustRule :=
  sign text ""

def keyword (text : String) : RustRule :=
  .token none (.word text.toList)

def nameLeaf (kind : Kind) (except : List String) : RustRule :=
  .token (some kind) (.name (except.map String.toList))

def anyName : RustRule :=
  nameLeaf .identifier []

def leaf (kind : String) (lexeme : Lexeme) : RustRule :=
  .token (some (.construct kind)) (.lexeme lexeme)

def wordLeaf (kind : Kind) (text : String) : RustRule :=
  .token (some kind) (.word text.toList)

def construct (kind : String) (rule : RustRule) : RustRule :=
  .node (.construct kind) rule

def extendTo (kind : String) (rule : RustRule) : RustRule :=
  .grow (.construct kind) none rule

def separated (item : RustRule) : RustRule :=
  .seq item (.many (.seq (bare ",") item))

/-- Items with commas between them and perhaps one at the end. -/
def listed (item : RustRule) : RustRule :=
  .seq (separated item) (opt (bare ","))

/-- A list that may be empty; a comma alone is allowed too. -/
def optionalList (item : RustRule) : RustRule :=
  .seq (opt (separated item)) (opt (bare ","))

/-- Inside brackets a brace opens a literal again. -/
def within (opening closing : String) (rule : RustRule) : RustRule :=
  all [bare opening, .under (.braces true) rule, bare closing]

/-- The head of a construct whose block follows. -/
def head (rule : RustRule) : RustRule :=
  .under (.braces false) rule

def expression : RustRule := .ref .expression
def type : RustRule := .ref .type
def pattern : RustRule := .ref .pattern

/-- A clause that must follow if its keyword does. -/
def clause (word : String) (rule : RustRule) : RustRule :=
  .alt rule (.not (keyword word))

def operandKeywords : List String :=
  ["async", "break", "const", "continue", "for", "if", "loop", "match", "move", "return", "static",
   "unsafe", "while", "yield", "true", "false", "self", "super", "crate", "try", "let"]

def statementKeywords : List String :=
  ["mod", "extern", "struct", "enum", "type", "fn", "impl", "trait", "use", "pub"]

/-! ### Paths, literals and token trees -/

def lifetime : RustRule :=
  construct "lifetime" (.seq (bare "'") anyName)

def label : RustRule :=
  construct "label" (.seq (bare "'") anyName)

def mutable : RustRule :=
  .token (some (.construct "mutable_specifier")) (.word "mut".toList)

def metavariable : RustRule :=
  leaf "metavariable" .metavariable

def literal : RustRule :=
  any [leaf "raw_string_literal" .rawString, leaf "string_literal" .string, leaf "char_literal" .character,
    wordLeaf (.construct "boolean_literal") "true", wordLeaf (.construct "boolean_literal") "false",
    leaf "float_literal" .float, leaf "integer_literal" .integer]

def negativeLiteral : RustRule :=
  construct "negative_literal"
    (.seq (bare "-") (.alt (leaf "float_literal" .float) (leaf "integer_literal" .integer)))

/-- The first segment of a path; only the names can be excepted. -/
def firstSegment (except : List String) : RustRule :=
  any [wordLeaf .selfPath "self", wordLeaf .superPath "super", wordLeaf .cratePath "crate",
    metavariable, nameLeaf .identifier (["self", "super", "crate"] ++ except)]

def lastName : RustRule :=
  .role .name (.alt (wordLeaf .superPath "super") (nameLeaf .identifier []))

def rootedPath : RustRule :=
  .node .scopedIdentifier (.seq (bare "::") lastName)

def scopeTail : RustRule :=
  .grow .scopedIdentifier (some .path) (.seq (bare "::") lastName)

/-- A path without arguments for types. -/
def simplePath : RustRule :=
  Rule.chain (.alt rootedPath (firstSegment [])) scopeTail

def typeArguments : RustRule :=
  let binding := construct "type_binding"
    (all [nameLeaf .typeIdentifier [], opt (.ref .typeArguments), bare "=", type])
  let bounds := construct "trait_bounds"
    (.seq (sign ":" ":") (.seq (.alt lifetime type) (.many (.seq (bare "+") (.alt lifetime type)))))
  construct "type_arguments" (all [bare "<",
    listed (.seq (any [binding, lifetime, type, literal, .ref .block]) (opt bounds)), bare ">"])

def bracketedType : RustRule :=
  construct "bracketed_type" (all [bare "<",
    .extend type (.alt (extendTo "qualified_type" (.seq (keyword "as") type)) keep), bare ">"])

def delimited (tokens : RustRule) : RustRule :=
  any [all [bare "(", .many tokens, bare ")"], all [bare "[", .many tokens, bare "]"],
    all [bare "\x7b", .many tokens, bare "\x7d"]]

/-- A token that is no bracket. -/
def plainToken : RustRule :=
  any [literal, nameLeaf .identifier [], .token none (.lexeme .punctuation)]

def tokenTree : RustRule :=
  .ref .tokenTree

/-- A macro's name followed by its mark and a tree of tokens. -/
def macroTail : RustRule :=
  .grow .macroInvocation (some .macroName) (.seq (sign "!" "=") tokenTree)

def macroCall : RustRule :=
  .extend (.only [.identifier, .scopedIdentifier]
    (Rule.chain (any [rootedPath, .seq bracketedType (.ahead (bare "::")), firstSegment []]) scopeTail)) macroTail

def attributeBody : RustRule :=
  .node .attribute (.seq simplePath (opt (.alt (.seq (sign "=" "=") expression) tokenTree)))

def attributeItem : RustRule :=
  .node .attributeItem (all [bare "#", bare "[", attributeBody, bare "]"])

def innerAttribute : RustRule :=
  construct "inner_attribute_item" (all [bare "#", bare "!", bare "[", attributeBody, bare "]"])

/-! ### Types and generics -/

def typeOrLifetime : RustRule :=
  .alt lifetime type

def traitBounds : RustRule :=
  construct "trait_bounds" (all [sign ":" ":", typeOrLifetime, .many (.seq (bare "+") typeOrLifetime)])

def typeParameters : RustRule :=
  let parameter := any [
    .extend lifetime (.alt (extendTo "constrained_type_parameter" traitBounds) keep),
    metavariable,
    construct "const_parameter" (all [keyword "const", anyName, sign ":" ":", type,
      opt (.seq (bare "=") (any [.ref .block, literal, negativeLiteral, anyName]))]),
    .extend (nameLeaf .typeIdentifier ["const"])
      (.extend (.alt (extendTo "constrained_type_parameter" traitBounds) keep)
        (.alt (extendTo "optional_type_parameter" (.seq (bare "=") type)) keep))]
  construct "type_parameters"
    (all [bare "<", listed (.seq (.many attributeItem) parameter), bare ">"])

def higherRanked : RustRule :=
  construct "higher_ranked_trait_bound" (all [keyword "for", typeParameters, .ref .bareType])

def whereClause : RustRule :=
  let left := any [lifetime, higherRanked,
    .only [.typeIdentifier, .genericType, .construct "scoped_type_identifier", .construct "reference_type",
        .construct "pointer_type", .construct "tuple_type", .construct "array_type"] (.ref .bareType)]
  construct "where_clause" (.seq (keyword "where")
    (opt (listed (construct "where_predicate" (.seq left traitBounds)))))

def returnType : RustRule :=
  .seq (bare "->") type

def functionModifiers : RustRule :=
  let externModifier := construct "extern_modifier"
    (.seq (keyword "extern") (opt (.alt (leaf "raw_string_literal" .rawString) (leaf "string_literal" .string))))
  construct "function_modifiers"
    (many1 (any [keyword "async", keyword "default", keyword "const", keyword "unsafe", externModifier]))

def functionTypeTail : RustRule :=
  extendTo "function_type" (.seq (.ref .parameters) (opt returnType))

/-! ### Items -/

def fieldList : RustRule :=
  construct "field_declaration_list" (within "\x7b" "\x7d" (optionalList (.statement (.seq (.many attributeItem)
    (construct "field_declaration" (all [opt (.ref .visibility), anyName, sign ":" ":", type]))))))

def tupleFields : RustRule :=
  construct "ordered_field_declaration_list" (within "(" ")" (optionalList
    (all [.many attributeItem, .alt (.seq (.ref .visibility) type) type])))

def enumVariant : RustRule :=
  construct "enum_variant" (all [opt (.ref .visibility), anyName, opt (.alt fieldList tupleFields),
    opt (.seq (bare "=") expression)])

def declarationList : RustRule :=
  construct "declaration_list" (within "\x7b" "\x7d" (.many (.alt (.ref .declaration) macroCall)))

def functionHead : RustRule :=
  all [opt functionModifiers, keyword "fn", .role .name (.alt metavariable anyName), opt typeParameters,
    .ref .parameters, opt returnType, opt whereClause]

/-- What may follow a visibility. -/
def visibleItem : RustRule :=
  any [
    extendTo "mod_item" (all [keyword "mod", anyName, .alt (bare ";") declarationList]),
    .grow .structItem none (all [keyword "struct", .role .name (nameLeaf .typeIdentifier []),
      opt typeParameters, any [.seq (opt whereClause) fieldList, all [tupleFields, opt whereClause, bare ";"],
        bare ";"]]),
    extendTo "union_item" (all [keyword "union", nameLeaf .typeIdentifier [], opt typeParameters,
      opt whereClause, fieldList]),
    .grow .enumItem none (all [keyword "enum", .role .name (nameLeaf .typeIdentifier []), opt typeParameters,
      opt whereClause, construct "enum_variant_list"
        (within "\x7b" "\x7d" (optionalList (.statement (.seq (.many attributeItem) enumVariant))))]),
    extendTo "type_item" (all [keyword "type", nameLeaf .typeIdentifier [], opt typeParameters,
      opt whereClause, bare "=", type, opt whereClause, bare ";"]),
    .extend (.append functionHead) (.alt
      (.grow .functionItem none (.ref .block))
      (extendTo "function_signature_item" (bare ";"))),
    extendTo "const_item" (all [keyword "const", anyName, sign ":" ":", type,
      opt (.seq (bare "=") expression), bare ";"]),
    extendTo "static_item" (all [keyword "static", opt (keyword "ref"), opt mutable, anyName, sign ":" ":",
      type, opt (.seq (bare "=") expression), bare ";"]),
    extendTo "trait_item" (all [opt (keyword "unsafe"), keyword "trait", nameLeaf .typeIdentifier [],
      opt typeParameters, opt traitBounds, opt whereClause, declarationList]),
    .grow .useDeclaration none (all [keyword "use", .role .argument (.ref .useTree), bare ";"]),
    .grow .externCrate none (all [keyword "extern", wordLeaf .cratePath "crate", .role .name anyName,
      opt (.seq (keyword "as") anyName), bare ";"]),
    extendTo "foreign_mod_item" (all [construct "extern_modifier" (.seq (keyword "extern")
      (opt (.alt (leaf "raw_string_literal" .rawString) (leaf "string_literal" .string)))),
      .alt (bare ";") declarationList])]

def implItem : RustRule :=
  construct "impl_item" (all [opt (keyword "unsafe"), keyword "impl", opt typeParameters,
    opt (all [opt (bare "!"), .ref .typePath, keyword "for"]), type, opt whereClause,
    .alt declarationList (bare ";")])

def associatedType : RustRule :=
  construct "associated_type" (all [keyword "type", nameLeaf .typeIdentifier [], opt typeParameters,
    opt traitBounds, opt whereClause, bare ";"])

def letDeclaration : RustRule :=
  construct "let_declaration" (all [keyword "let", opt mutable, pattern, opt (.seq (sign ":" ":") type),
    opt (.seq (sign "=" "=") expression), opt (.seq (keyword "else") (.ref .block)), bare ";"])

def macroDefinition : RustRule :=
  let tree (tokens : RustRule) := construct "token_tree" (delimited tokens)
  let oneRule := construct "macro_rule"
    (all [tree (.ref .macroTokens), bare "=>", tree (.ref .macroTokens)])
  let rules := opt (.seq (.seq oneRule (.many (.seq (bare ";") oneRule))) (opt (bare ";")))
  construct "macro_definition" (all [keyword "macro_rules", .token none (.adjoined ['!']), anyName, any [
    all [bare "(", rules, bare ")", bare ";"], all [bare "[", rules, bare "]", bare ";"],
    all [bare "\x7b", rules, bare "\x7d"]]])

/-! ### Expressions -/

/-- What makes an expression that ends in a block go on where a statement could end. -/
def goesOn : RustRule :=
  any [sign "." ".", bare "?", keyword "as", bare "==", bare "!=", bare "<=", bare ">=", bare "&&",
    bare "||", bare "<<", bare ">>", bare "+", bare "/", bare "%", bare "^", bare "-=", bare "*=",
    bare "&=", bare "|=", bare ">", sign "=" ">"]

def argumentsRule : RustRule :=
  construct "arguments" (within "(" ")" (optionalList (.seq (.many attributeItem) expression)))

def fieldTail : RustRule :=
  .grow .fieldExpression (some .value)
    (.seq (sign "." ".") (.alt anyName (leaf "integer_literal" .integer)))

def fieldInitializers : RustRule :=
  let value := any [
    construct "base_field_initializer" (.seq (bare "..") expression),
    construct "field_initializer" (all [.many attributeItem,
      .alt anyName (leaf "integer_literal" .integer), sign ":" ":", expression]),
    construct "shorthand_field_initializer" (.seq (.many attributeItem) anyName)]
  construct "field_initializer_list" (within "\x7b" "\x7d" (optionalList (.statement value)))

/-- The kinds of paths. -/
def pathKinds : List Kind :=
  [.identifier, .scopedIdentifier, .selfPath, .superPath, .cratePath, .genericType,
   .construct "metavariable", .construct "bracketed_type"]

def genericTail : RustRule :=
  .seq (.after [.identifier, .scopedIdentifier]) (.grow .genericType (some .base)
    (all [bare "::", typeArguments,
      .ahead (.alt (bare "::") (.seq (.hidden .bracesAllowed) (bare "\x7b")))]))

def postfixTail : RustRule :=
  any [
    .seq (.after [.identifier, .scopedIdentifier]) macroTail,
    genericTail,
    .seq (.after pathKinds) scopeTail,
    .seq (.after [.identifier, .scopedIdentifier, .fieldExpression])
      (.grow .genericFunction (some .callee) (.seq (bare "::") typeArguments)),
    .seq (.after [.identifier, .scopedIdentifier, .genericType])
      (extendTo "struct_expression" (.seq (.hidden .bracesAllowed) fieldInitializers)),
    .grow .callExpression (some .callee) argumentsRule,
    .grow .indexExpression none (within "[" "]" expression),
    extendTo "try_expression" (bare "?"),
    extendTo "await_expression" (.seq (sign "." ".") (keyword "await")),
    fieldTail]

def termTail : RustRule :=
  .alt
    (extendTo "type_cast_expression" (.seq (keyword "as") (.ref .bareType)))
    (extendTo "binary_expression" (.seq
      (any [bare "==", bare "!=", bare "<=", bare ">=", sign "<<" "=", sign ">>" "=", sign "+" "=",
        sign "-" "=", sign "*" "=", sign "/" "=", sign "%" "=", sign "^" "=", sign "&" "&=", sign "|" "|=",
        sign "<" "<=", sign ">" ">="])
      (.ref .operand)))

def logicalTail : RustRule :=
  extendTo "binary_expression" (.seq (.alt (bare "&&") (bare "||")) (.ref .term))

def rangeSign : RustRule :=
  any [bare "..=", bare "...", bare ".."]

/-- The right end of a range; a brace, a bracket or a bar does not begin one. -/
def rangeEnd : RustRule :=
  opt (.seq (.not (any [bare "\x7b", bare "[", bare "|"])) (.ref .logical))

def expressionTail : RustRule :=
  any [
    extendTo "range_expression" (.seq rangeSign rangeEnd),
    extendTo "compound_assignment_expr" (.seq
      (any (["+=", "-=", "*=", "/=", "%=", "&=", "|=", "^=", "<<=", ">>="].map bare)) expression),
    extendTo "assignment_expression" (.seq (sign "=" "=>") expression)]

/-- The rest of an expression of which an operand without its suffixes is read. -/
def expressionRest : RustRule :=
  .extend (.links postfixTail) (.extend (.links termTail)
    (.extend (.links logicalTail) (.links expressionTail)))

def closure : RustRule :=
  let parameter := .extend (.ref .patternAlternative)
    (.alt (extendTo "parameter" (.seq (sign ":" ":") type)) keep)
  construct "closure_expression" (all [opt (keyword "static"), opt (keyword "async"), opt (keyword "move"),
    construct "closure_parameters" (all [bare "|", opt (separated parameter), bare "|"]),
    .alt (all [bare "->", type, .ref .block]) expression])

def labelled (rule : RustRule) : RustRule :=
  .seq (opt (.seq label (sign ":" ":"))) rule

def ifExpression : RustRule :=
  construct "if_expression" (all [keyword "if", head (.ref .condition), .ref .block,
    clause "else" (construct "else_clause"
      (.seq (keyword "else") (.alt (.ref .block) (.ref .ifExpression))))])

def blockForms : RustRule :=
  any [
    construct "unsafe_block" (.seq (keyword "unsafe") (.ref .block)),
    construct "async_block" (all [keyword "async", opt (keyword "move"), .ref .block]),
    construct "gen_block" (all [keyword "gen", opt (keyword "move"), .ref .block]),
    construct "try_block" (.seq (keyword "try") (.ref .block)),
    construct "const_block" (.seq (keyword "const") (.ref .block)),
    .ref .ifExpression,
    construct "match_expression" (all [keyword "match", head expression,
      construct "match_block" (within "\x7b" "\x7d" (.many (.ref .matchArm)))]),
    construct "while_expression" (labelled (all [keyword "while", head (.ref .condition), .ref .block])),
    construct "loop_expression" (labelled (.seq (keyword "loop") (.ref .block))),
    construct "for_expression" (labelled (all [keyword "for", pattern, keyword "in", head expression,
      .ref .block])),
    .ref .block]

def parenthesized : RustRule :=
  .alt (construct "unit_expression" (.seq (bare "(") (bare ")")))
    (.extend (all [bare "(", .under (.braces true) (.seq (.many attributeItem) expression)])
      (.alt (extendTo "parenthesized_expression" (bare ")"))
        (extendTo "tuple_expression" (.under (.braces true)
          (all [bare ",", opt (listed expression), bare ")"])))))

def arrayExpression : RustRule :=
  construct "array_expression" (within "[" "]" (.seq (.many attributeItem)
    (opt (.seq expression (.alt (.seq (bare ";") expression)
      (.seq (.many (all [bare ",", .many attributeItem, expression])) (opt (bare ","))))))))

/-! ### Patterns -/

def rangeBound : RustRule :=
  any [negativeLiteral, literal, simplePath]

def patternPathTail : RustRule :=
  let fieldPattern := .alt
    (construct "remaining_field_pattern" (.seq (bare "..") (.not (bare "."))))
    (construct "field_pattern" (all [.many attributeItem, opt (keyword "ref"), opt mutable,
      .alt anyName (leaf "integer_literal" .integer), opt (.seq (sign ":" ":") pattern)]))
  any [
    .seq (.after [.identifier, .scopedIdentifier]) macroTail,
    .seq (.after [.identifier, .scopedIdentifier]) (.grow .genericType (some .base)
      (.seq (bare "::") typeArguments)),
    .seq (.after pathKinds) scopeTail,
    .seq (.after [.identifier, .scopedIdentifier, .genericType]) (extendTo "tuple_struct_pattern"
      (within "(" ")" (optionalList pattern))),
    .seq (.after [.identifier, .scopedIdentifier, .genericType]) (extendTo "struct_pattern"
      (within "\x7b" "\x7d" (optionalList fieldPattern))),
    .seq (.after [.identifier]) (extendTo "captured_pattern" (.seq (bare "@") pattern)),
    .seq (.after [.identifier, .scopedIdentifier])
      (extendTo "range_pattern" (.seq rangeSign (opt rangeBound)))]

def literalPattern : RustRule :=
  .extend (.alt negativeLiteral literal)
    (.alt (extendTo "range_pattern" (.seq rangeSign (opt rangeBound))) keep)

/-! ### Forms -/

def formRule : Form → RustRule
  | .statement => .statement <| .alt (.ref .declaration)
      (.seq (.not (any (statementKeywords.map keyword))) (.alt
        (.extend (.ref .blockLike) (.alt
          (.seq (.not goesOn) (extendTo "expression_statement" .empty))
          (.extend expressionRest (.alt (extendTo "expression_statement" (bare ";"))
            (.seq (.ahead (bare "\x7d")) keep)))))
        (.extend expression (any [extendTo "expression_statement" (bare ";"),
          .seq (.ahead (bare "\x7d")) keep, .seq (.after [.macroInvocation]) keep]))))
  | .declaration => .statement <| any [
      construct "empty_statement" (bare ";"), attributeItem, innerAttribute, .ref .item]
  | .item => any [macroDefinition, letDeclaration, implItem, associatedType,
      .extend (opt (.ref .visibility)) visibleItem]
  | .block => construct "block" (.seq (opt (.seq label (sign ":" ":")))
      (within "\x7b" "\x7d" (.many (.ref .statement))))
  | .blockLike => blockForms
  | .ifExpression => ifExpression
  | .expression => .extend (.ref .logical) (.links expressionTail)
  | .logical => Rule.chain (.ref .term) logicalTail
  | .term => Rule.chain (.ref .operand) termTail
  | .operand => any [closure,
      construct "return_expression" (.seq (keyword "return") (opt expression)),
      construct "yield_expression" (.seq (keyword "yield") (opt expression)),
      construct "break_expression" (all [keyword "break",
        opt (.seq label (.not (sign ":" ":"))), opt expression]),
      construct "continue_expression" (.seq (keyword "continue") (opt label)),
      construct "unary_expression" (.seq (any [bare "-", bare "*", bare "!"]) (.ref .operand)),
      construct "reference_expression" (.seq (bare "&") (.alt
        (all [keyword "raw", .alt (keyword "const") mutable, .ref .operand])
        (.seq (opt mutable) (.ref .operand)))),
      construct "range_expression" (.seq (.alt (bare "..=") (bare "..")) rangeEnd),
      .ref .postfixed]
  | .postfixed => Rule.chain (.ref .atom) postfixTail
  | .atom => any [literal, .ref .blockLike, parenthesized, arrayExpression, rootedPath,
      .seq bracketedType (.ahead (bare "::")), firstSegment operandKeywords]
  | .condition =>
      let letCondition := construct "let_condition"
        (all [keyword "let", pattern, sign "=" "=", .ref .term])
      .alt (.seq expression (.not (bare "&&")))
        (construct "let_chain" (.seq (.alt letCondition (.ref .term))
          (.many (.seq (bare "&&") (.alt letCondition (.ref .term))))))
  | .matchArm => .statement <| .alt innerAttribute <| construct "match_arm" (all [
      .many (.alt attributeItem innerAttribute), pattern, opt (.seq (keyword "if") (.ref .condition)), bare "=>",
      .alt
        (.extend (.ref .blockLike) (.alt
          (.seq (.not goesOn) (.append (opt (bare ","))))
          (.extend expressionRest (.append (.alt (bare ",") (.ahead (bare "\x7d")))))))
        (.seq expression (.alt (bare ",") (.ahead (bare "\x7d"))))])
  | .type => .extend (.ref .bareType)
      (.links (extendTo "bounded_type" (.seq (bare "+") (.alt lifetime (.ref .bareType)))))
  | .bareType => any [
      construct "abstract_type" (all [keyword "impl", opt (.seq (keyword "for") typeParameters), type]),
      construct "dynamic_type" (.seq (keyword "dyn") (.alt higherRanked (.ref .bareType))),
      construct "reference_type" (all [bare "&", opt lifetime, opt mutable, .ref .bareType]),
      construct "pointer_type" (all [bare "*", .alt (keyword "const") mutable, .ref .bareType]),
      construct "unit_type" (.seq (bare "(") (bare ")")),
      construct "tuple_type" (within "(" ")" (listed type)),
      construct "array_type" (within "[" "]" (.seq type (opt (.seq (bare ";") expression)))),
      construct "never_type" (bare "!"),
      construct "removed_trait_bound" (.seq (bare "?") type),
      construct "function_type" (all [
        opt (construct "for_lifetimes" (all [keyword "for", bare "<", listed lifetime, bare ">"])),
        opt functionModifiers, keyword "fn", .ref .parameters, opt returnType]),
      higherRanked,
      macroCall,
      .extend (.ref .typePath) (.alt functionTypeTail keep)]
  | .typePath => Rule.chain
      (any [construct "scoped_type_identifier" (.seq (bare "::") (nameLeaf .typeIdentifier [])),
        .seq bracketedType (.ahead (bare "::")),
        any [.seq (wordLeaf .selfPath "self") (.ahead (bare "::")),
          .seq (wordLeaf .superPath "super") (.ahead (bare "::")),
          .seq (wordLeaf .cratePath "crate") (.ahead (bare "::")), metavariable,
          nameLeaf .typeIdentifier ["self", "super", "crate", "fn", "impl", "dyn", "mut", "for"]]])
      (.alt (.grow (.construct "scoped_type_identifier") (some .path)
          (.seq (bare "::") (nameLeaf .typeIdentifier [])))
        (.grow .genericType (some .base) (.seq (opt (bare "::")) typeArguments)))
  | .typeArguments => typeArguments
  | .pattern => .extend
      (.alt (construct "or_pattern" (.seq (bare "|") (.ref .patternAlternative))) (.ref .patternAlternative))
      (.links (extendTo "or_pattern" (.seq (sign "|" "|=") (.ref .patternAlternative))))
  | .patternAlternative => any [
      literalPattern,
      construct "range_pattern" (.seq (.alt (bare "..=") (bare "..")) rangeBound),
      construct "remaining_field_pattern" (bare ".."),
      construct "ref_pattern" (.seq (keyword "ref") (.ref .patternAlternative)),
      construct "mut_pattern" (.seq mutable (.ref .patternAlternative)),
      construct "reference_pattern" (all [bare "&", opt mutable, .ref .patternAlternative]),
      construct "tuple_pattern" (within "(" ")" (optionalList (.alt pattern closure))),
      construct "slice_pattern" (within "[" "]" (optionalList pattern)),
      construct "const_block" (.seq (keyword "const") (.ref .block)),
      Rule.chain (any [rootedPath, .seq bracketedType (.ahead (bare "::")),
        firstSegment ["ref", "mut", "const", "true", "false"]]) patternPathTail]
  | .tokenTree => construct "token_tree" (delimited (.ref .tokens))
  | .tokens => any [tokenTree, plainToken, bare "$"]
  | .macroTokens => any [
      construct "token_tree" (delimited (.ref .macroTokens)),
      construct "token_repetition" (all [bare "$", bare "(", .many (.ref .macroTokens), bare ")",
        opt (.token none (.lexeme .separator)), any [bare "+", bare "*", bare "?"]]),
      metavariable, plainToken]
  | .useTree => any [
      .node .useList (within "\x7b" "\x7d" (optionalList (.ref .useTree))),
      .node .useWildcard (bare "*"),
      .node .useWildcard (.seq (bare "::") (bare "*")),
      .node .useScopedList (.seq (bare "::") (.role .list
        (.node .useList (within "\x7b" "\x7d" (optionalList (.ref .useTree)))))),
      .extend simplePath (any [
        .grow .useScopedList (some .path) (.seq (bare "::") (.role .list
          (.node .useList (within "\x7b" "\x7d" (optionalList (.ref .useTree)))))),
        .grow .useWildcard none (.seq (bare "::") (bare "*")),
        .grow .useAs (some .path) (.seq (keyword "as") anyName),
        keep])]
  | .visibility => construct "visibility_modifier" (.alt
      (.seq (keyword "pub") (opt (all [bare "(", any [wordLeaf .selfPath "self", wordLeaf .superPath "super",
        wordLeaf .cratePath "crate", .seq (keyword "in") simplePath], bare ")"])))
      (wordLeaf .cratePath "crate"))
  | .parameters =>
      let selfParameter := construct "self_parameter"
        (all [opt (bare "&"), opt lifetime, opt mutable, wordLeaf .selfPath "self"])
      let parameter := construct "parameter"
        (all [opt mutable, pattern, sign ":" ":", type])
      let variadic := construct "variadic_parameter"
        (all [opt mutable, opt (.seq pattern (sign ":" ":")), bare "..."])
      construct "parameters" (within "(" ")" (optionalList
        (.seq (opt attributeItem) (any [parameter, .seq selfParameter (.not (sign ":" ":")), variadic, type]))))

def grammar : Syntax.Grammar Form Lexeme where
  toLexing := lexing
  rule := formRule
  lineAtEnd cursor := cursor.line

/-- The tree of a Rust source file. -/
def parse (text : List Char) : Node :=
  grammar.parse (.construct "source_file")
    (all [opt (leaf "shebang" .shebang), .many (.ref .statement), .hidden .endOfText]) text

end CallPolicy.Syntax.Rust
