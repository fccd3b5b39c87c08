import SourceLedger.Syntax.Node

/-!
# Constructs of Python

The kinds of node that the extraction treats in a way of their own. Every other kind is `other`
and is only passed through.
-/

namespace SourceLedger.Syntax

/-- A syntactic construct. -/
inductive Construct where
  | functionDefinition
  | classDefinition
  | decoratedDefinition
  | decorator
  | typedParameter
  | defaultParameter
  | typedDefaultParameter
  | listSplatPattern
  | dictionarySplatPattern
  | importStatement
  | importFromStatement
  | futureImportStatement
  | dottedName
  | aliasedImport
  | relativeImport
  | importPrefix
  | wildcardImport
  | expressionStatement
  | assignment
  | augmentedAssignment
  | forStatement
  | deleteStatement
  | globalStatement
  | nonlocalStatement
  | call
  | member
  | subscript
  | identifier
  | keywordArgument
  | lambda
  | namedExpression
  | asPattern
  | asPatternTarget
  | forInClause
  /-- A row of targets: a tuple or list, with or without brackets, or a starred target. -/
  | targetGroup
  | other
  deriving DecidableEq, Repr, Inhabited

namespace Construct

/-- The construct that a kind of node stands for. -/
def ofKind : String → Construct
  | "function_definition" => functionDefinition
  | "class_definition" => classDefinition
  | "decorated_definition" => decoratedDefinition
  | "decorator" => decorator
  | "typed_parameter" => typedParameter
  | "default_parameter" => defaultParameter
  | "typed_default_parameter" => typedDefaultParameter
  | "list_splat_pattern" => listSplatPattern
  | "dictionary_splat_pattern" => dictionarySplatPattern
  | "import_statement" => importStatement
  | "import_from_statement" => importFromStatement
  | "future_import_statement" => futureImportStatement
  | "dotted_name" => dottedName
  | "aliased_import" => aliasedImport
  | "relative_import" => relativeImport
  | "import_prefix" => importPrefix
  | "wildcard_import" => wildcardImport
  | "expression_statement" => expressionStatement
  | "assignment" => assignment
  | "augmented_assignment" => augmentedAssignment
  | "for_statement" => forStatement
  | "delete_statement" => deleteStatement
  | "global_statement" => globalStatement
  | "nonlocal_statement" => nonlocalStatement
  | "call" => call
  | "attribute" => member
  | "subscript" => subscript
  | "identifier" => identifier
  | "keyword_argument" => keywordArgument
  | "lambda" => lambda
  | "named_expression" => namedExpression
  | "as_pattern" => asPattern
  | "as_pattern_target" => asPatternTarget
  | "for_in_clause" => forInClause
  | "pattern_list" | "tuple_pattern" | "list_pattern" | "expression_list" | "tuple" | "list"
  | "parenthesized_expression" | "list_splat" => targetGroup
  | _ => other

/-- Definitions open a component wherever they stand. -/
def isDefinition : Construct → Bool
  | functionDefinition | classDefinition | decoratedDefinition => true
  | _ => false

/-- The three forms of import statement. -/
def isImport : Construct → Bool
  | importStatement | importFromStatement | futureImportStatement => true
  | _ => false

/-- Assignments, plain and augmented. -/
def isAssignment : Construct → Bool
  | assignment | augmentedAssignment => true
  | _ => false

end Construct

/-- The construct that a node stands for. -/
def Node.construct (node : Node) : Construct :=
  Construct.ofKind node.kind

/-- An expression statement whose expression is an assignment. -/
def Node.isAssignmentStatement (node : Node) : Bool :=
  node.construct == .expressionStatement &&
    node.firstNamed?.any (·.construct.isAssignment)

end SourceLedger.Syntax
