namespace ImportCensus
namespace Syntax

/-!
# Kinds of syntax nodes

Every node of a syntax tree has a kind, and the kinds fall into classes that
say where a node may stand: simple statements and compound statements stand in
a module or a block, clauses and blocks inside compound statements, and all
else, the phrases, inside statements.  Tokens without a kind of their own are
named by their spelling.
-/

/-- Statements that fit on one line. -/
inductive SimpleKind where
  | futureImport | importModules | importFrom | print | assert | expression | ret | delete
  | raise | pass | breakLoop | continueLoop | declareGlobal | declareNonlocal | exec | typeAlias
  deriving DecidableEq, Repr

/-- Statements that own blocks, and the clauses of such statements. -/
inductive CompoundKind where
  | functionDefinition | classDefinition | decoratedDefinition
  | ifStatement | elifClause | elseClause | forStatement | whileStatement
  | tryStatement | exceptClause | exceptGroupClause | finallyClause
  | withStatement | matchStatement | caseClause
  deriving DecidableEq, Repr

/-- What stands inside a statement. -/
inductive PhraseKind where
  | identifier | integer | float | trueLiteral | falseLiteral | noneLiteral | ellipsis
  | string | concatenatedString | stringStart | stringContent | stringEnd
  | escapeSequence | escapeInterpolation | interpolation | formatSpecifier
  | formatExpression | typeConversion | comment | lineContinuation
  | dottedName | aliasedImport | relativeImport | importPrefix | wildcardImport
  | attribute | subscript | slice | call | argumentList | keywordArgument
  | listSplat | dictionarySplat | listSplatPattern | dictionarySplatPattern
  | tuple | list | set | dictionary | pair | parenthesizedExpression
  | parenthesizedListSplat | generatorExpression | listComprehension | setComprehension
  | dictionaryComprehension | forInClause | ifClause
  | tuplePattern | listPattern | patternList | expressionList
  | lambda | lambdaParameters | parameters | defaultParameter | typedParameter
  | typedDefaultParameter | keywordSeparator | positionalSeparator
  | conditionalExpression | namedExpression | asPattern | asPatternTarget
  | notOperator | booleanOperator | comparisonOperator | unaryOperator | binaryOperator
  | await | yield | assignment | augmentedAssignment | chevron
  | type | splatType | constrainedType | typeParameter
  | withClause | withItem | decorator
  | casePattern | unionPattern | classPattern | splatPattern | dictPattern
  | keywordPattern | complexPattern
  deriving DecidableEq, Repr

/-- The kind of a node. -/
inductive Kind where
  | module
  | block
  | simple (kind : SimpleKind)
  | compound (kind : CompoundKind)
  | phrase (kind : PhraseKind)
  /-- A token that is only its spelling, such as a bracket or a keyword. -/
  | token (spelling : String)
  deriving DecidableEq, Repr

def SimpleKind.name : SimpleKind -> String
  | .futureImport => "future_import_statement"
  | .importModules => "import_statement"
  | .importFrom => "import_from_statement"
  | .print => "print_statement"
  | .assert => "assert_statement"
  | .expression => "expression_statement"
  | .ret => "return_statement"
  | .delete => "delete_statement"
  | .raise => "raise_statement"
  | .pass => "pass_statement"
  | .breakLoop => "break_statement"
  | .continueLoop => "continue_statement"
  | .declareGlobal => "global_statement"
  | .declareNonlocal => "nonlocal_statement"
  | .exec => "exec_statement"
  | .typeAlias => "type_alias_statement"

def CompoundKind.name : CompoundKind -> String
  | .functionDefinition => "function_definition"
  | .classDefinition => "class_definition"
  | .decoratedDefinition => "decorated_definition"
  | .ifStatement => "if_statement"
  | .elifClause => "elif_clause"
  | .elseClause => "else_clause"
  | .forStatement => "for_statement"
  | .whileStatement => "while_statement"
  | .tryStatement => "try_statement"
  | .exceptClause => "except_clause"
  | .exceptGroupClause => "except_group_clause"
  | .finallyClause => "finally_clause"
  | .withStatement => "with_statement"
  | .matchStatement => "match_statement"
  | .caseClause => "case_clause"

def PhraseKind.name : PhraseKind -> String
  | .identifier => "identifier"
  | .integer => "integer"
  | .float => "float"
  | .trueLiteral => "true"
  | .falseLiteral => "false"
  | .noneLiteral => "none"
  | .ellipsis => "ellipsis"
  | .string => "string"
  | .concatenatedString => "concatenated_string"
  | .stringStart => "string_start"
  | .stringContent => "string_content"
  | .stringEnd => "string_end"
  | .escapeSequence => "escape_sequence"
  | .escapeInterpolation => "escape_interpolation"
  | .interpolation => "interpolation"
  | .formatSpecifier => "format_specifier"
  | .formatExpression => "format_expression"
  | .typeConversion => "type_conversion"
  | .comment => "comment"
  | .lineContinuation => "line_continuation"
  | .dottedName => "dotted_name"
  | .aliasedImport => "aliased_import"
  | .relativeImport => "relative_import"
  | .importPrefix => "import_prefix"
  | .wildcardImport => "wildcard_import"
  | .attribute => "attribute"
  | .subscript => "subscript"
  | .slice => "slice"
  | .call => "call"
  | .argumentList => "argument_list"
  | .keywordArgument => "keyword_argument"
  | .listSplat => "list_splat"
  | .dictionarySplat => "dictionary_splat"
  | .listSplatPattern => "list_splat_pattern"
  | .dictionarySplatPattern => "dictionary_splat_pattern"
  | .tuple => "tuple"
  | .list => "list"
  | .set => "set"
  | .dictionary => "dictionary"
  | .pair => "pair"
  | .parenthesizedExpression => "parenthesized_expression"
  | .parenthesizedListSplat => "parenthesized_list_splat"
  | .generatorExpression => "generator_expression"
  | .listComprehension => "list_comprehension"
  | .setComprehension => "set_comprehension"
  | .dictionaryComprehension => "dictionary_comprehension"
  | .forInClause => "for_in_clause"
  | .ifClause => "if_clause"
  | .tuplePattern => "tuple_pattern"
  | .listPattern => "list_pattern"
  | .patternList => "pattern_list"
  | .expressionList => "expression_list"
  | .lambda => "lambda"
  | .lambdaParameters => "lambda_parameters"
  | .parameters => "parameters"
  | .defaultParameter => "default_parameter"
  | .typedParameter => "typed_parameter"
  | .typedDefaultParameter => "typed_default_parameter"
  | .keywordSeparator => "keyword_separator"
  | .positionalSeparator => "positional_separator"
  | .conditionalExpression => "conditional_expression"
  | .namedExpression => "named_expression"
  | .asPattern => "as_pattern"
  | .asPatternTarget => "as_pattern_target"
  | .notOperator => "not_operator"
  | .booleanOperator => "boolean_operator"
  | .comparisonOperator => "comparison_operator"
  | .unaryOperator => "unary_operator"
  | .binaryOperator => "binary_operator"
  | .await => "await"
  | .yield => "yield"
  | .assignment => "assignment"
  | .augmentedAssignment => "augmented_assignment"
  | .chevron => "chevron"
  | .type => "type"
  | .splatType => "splat_type"
  | .constrainedType => "constrained_type"
  | .typeParameter => "type_parameter"
  | .withClause => "with_clause"
  | .withItem => "with_item"
  | .decorator => "decorator"
  | .casePattern => "case_pattern"
  | .unionPattern => "union_pattern"
  | .classPattern => "class_pattern"
  | .splatPattern => "splat_pattern"
  | .dictPattern => "dict_pattern"
  | .keywordPattern => "keyword_pattern"
  | .complexPattern => "complex_pattern"

/-- The name under which nodes of a kind are looked up. -/
def Kind.name : Kind -> String
  | .module => "module"
  | .block => "block"
  | .simple kind => kind.name
  | .compound kind => kind.name
  | .phrase kind => kind.name
  | .token spelling => spelling

/-- Whether nodes of a kind are more than a token's spelling. -/
def Kind.isNamed : Kind -> Bool
  | .token _ => false
  | _ => true

end Syntax
end ImportCensus
