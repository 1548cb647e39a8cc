import TreeLint.Grammar.Basic

/-!
# The grammar of C#

Tags are spelled as the compiler's syntax kinds. Identifiers compare exactly and may be escaped by
an at-sign.
-/

namespace TreeLint
namespace Grammar
namespace Csharp

/-- The kinds of nodes, tokens and keywords. -/
def kinds : KindSet := [
  "CompilationUnit", "NamespaceDeclaration", "FileScopedNamespaceDeclaration", "UsingDirective",
  "ClassDeclaration", "StructDeclaration", "InterfaceDeclaration", "RecordDeclaration",
  "RecordStructDeclaration", "EnumDeclaration", "DelegateDeclaration", "MethodDeclaration",
  "ConstructorDeclaration", "DestructorDeclaration", "OperatorDeclaration", "PropertyDeclaration",
  "IndexerDeclaration", "FieldDeclaration", "EventFieldDeclaration", "AccessorList",
  "GetAccessorDeclaration", "SetAccessorDeclaration", "InitAccessorDeclaration",
  "LocalFunctionStatement", "TypeParameterList", "TypeParameter", "ParameterList", "Parameter",
  "BaseList", "SimpleBaseType", "AttributeList", "Attribute", "ArrowExpressionClause",
  "EqualsValueClause", "VariableDeclaration", "VariableDeclarator", "Block",
  "LocalDeclarationStatement", "ExpressionStatement", "ReturnStatement", "IfStatement",
  "ElseClause", "WhileStatement", "DoStatement", "ForStatement", "ForEachStatement",
  "EmptyStatement", "ThrowStatement", "BreakStatement", "ContinueStatement", "IdentifierName",
  "GenericName", "QualifiedName", "AliasQualifiedName", "PredefinedType", "TypeArgumentList",
  "NullableType", "ArrayType", "SimpleMemberAccessExpression", "ConditionalAccessExpression",
  "MemberBindingExpression", "InvocationExpression", "ArgumentList", "Argument", "NameColon",
  "ObjectCreationExpression", "ImplicitObjectCreationExpression", "ObjectInitializerExpression",
  "ParenthesizedExpression", "TupleExpression", "DeclarationExpression",
  "SingleVariableDesignation", "ParenthesizedVariableDesignation", "DiscardDesignation",
  "StringLiteralExpression", "NumericLiteralExpression", "CharacterLiteralExpression",
  "TrueLiteralExpression", "FalseLiteralExpression", "NullLiteralExpression",
  "DefaultLiteralExpression", "InterpolatedStringExpression", "AddExpression",
  "SubtractExpression", "MultiplyExpression", "DivideExpression", "LessThanExpression",
  "LessThanOrEqualExpression", "GreaterThanExpression", "GreaterThanOrEqualExpression",
  "EqualsExpression", "NotEqualsExpression", "LogicalAndExpression", "LogicalOrExpression",
  "LogicalNotExpression", "CastExpression", "ThisExpression", "SimpleAssignmentExpression",
  "AddAssignmentExpression", "SubtractAssignmentExpression", "MultiplyAssignmentExpression",
  "DivideAssignmentExpression", "ModuloAssignmentExpression", "AndAssignmentExpression",
  "ExclusiveOrAssignmentExpression", "OrAssignmentExpression", "LeftShiftAssignmentExpression",
  "RightShiftAssignmentExpression", "CoalesceAssignmentExpression", "PreIncrementExpression",
  "PreDecrementExpression", "PostIncrementExpression", "PostDecrementExpression",
  "IdentifierToken", "StringLiteralToken", "NumericLiteralToken", "CharacterLiteralToken",
  "OpenBraceToken", "CloseBraceToken", "OpenParenToken", "CloseParenToken", "OpenBracketToken",
  "CloseBracketToken", "LessThanToken", "LessThanEqualsToken", "GreaterThanToken",
  "GreaterThanEqualsToken", "EqualsEqualsToken", "ExclamationEqualsToken", "ExclamationToken",
  "CommaToken", "SemicolonToken", "ColonToken", "DotToken", "QuestionToken", "EqualsToken",
  "EqualsGreaterThanToken", "PlusToken", "MinusToken", "AsteriskToken", "SlashToken",
  "PlusPlusToken", "MinusMinusToken", "PlusEqualsToken", "MinusEqualsToken",
  "AsteriskEqualsToken", "SlashEqualsToken", "PercentEqualsToken", "AmpersandEqualsToken",
  "CaretEqualsToken", "BarEqualsToken", "LessThanLessThanEqualsToken",
  "GreaterThanGreaterThanEqualsToken", "QuestionQuestionEqualsToken", "AmpersandAmpersandToken",
  "BarBarToken", "PublicKeyword", "PrivateKeyword", "ProtectedKeyword", "InternalKeyword",
  "StaticKeyword", "VirtualKeyword", "OverrideKeyword", "AbstractKeyword", "SealedKeyword",
  "AsyncKeyword", "ReadOnlyKeyword", "ConstKeyword", "PartialKeyword", "ExternKeyword",
  "NewKeyword", "ClassKeyword", "StructKeyword", "InterfaceKeyword", "RecordKeyword",
  "EnumKeyword", "NamespaceKeyword", "UsingKeyword", "VoidKeyword", "IntKeyword", "LongKeyword",
  "StringKeyword", "BoolKeyword", "ObjectKeyword", "ForKeyword", "ForEachKeyword", "InKeyword",
  "WhileKeyword", "DoKeyword", "IfKeyword", "ElseKeyword", "ReturnKeyword", "ThrowKeyword",
  "BreakKeyword", "ContinueKeyword", "TrueKeyword", "FalseKeyword", "NullKeyword",
  "DefaultKeyword", "ThisKeyword", "GetKeyword", "SetKeyword", "InitKeyword", "WhereKeyword"]

/-- Assignments; the first kind is the simple one. -/
def assignments : KindSet := [
  "SimpleAssignmentExpression", "AddAssignmentExpression", "SubtractAssignmentExpression",
  "MultiplyAssignmentExpression", "DivideAssignmentExpression", "ModuloAssignmentExpression",
  "AndAssignmentExpression", "ExclusiveOrAssignmentExpression", "OrAssignmentExpression",
  "LeftShiftAssignmentExpression", "RightShiftAssignmentExpression",
  "CoalesceAssignmentExpression"]

/-- Literals with a constant value. -/
def constantLiterals : KindSet := [
  "StringLiteralExpression", "NumericLiteralExpression", "CharacterLiteralExpression",
  "TrueLiteralExpression", "FalseLiteralExpression", "NullLiteralExpression"]

/-- The types of literals. -/
def literalTypes : List (String × String) := [
  ("StringLiteralExpression", "System.String"),
  ("CharacterLiteralExpression", "System.Char"),
  ("TrueLiteralExpression", "System.Boolean"),
  ("FalseLiteralExpression", "System.Boolean"),
  ("NumericLiteralExpression", "System.Int32")]

/-- An identifier without an at-sign in front. -/
def bareIdentifier : List Char → List Char
  | '@' :: rest => rest
  | cs => cs

end Csharp

/-- The grammar of C#. -/
def csharp : Grammar where
  language := .csharp
  comparison := .caseSensitive
  kinds := Csharp.kinds
  identifierToken := ["IdentifierToken"]
  identifierName := ["IdentifierName"]
  memberAccess := ["SimpleMemberAccessExpression"]
  parenthesized := ["ParenthesizedExpression"]
  objectCreation := ["ObjectCreationExpression", "ImplicitObjectCreationExpression"]
  argumentList := ["ArgumentList"]
  argument := ["Argument"]
  simpleAssignment := ["SimpleAssignmentExpression"]
  assignment := Csharp.assignments
  tuple := ["TupleExpression"]
  declarationPattern := ["DeclarationExpression"]
  variableDesignation := ["SingleVariableDesignation"]
  stringLiteral := ["StringLiteralExpression"]
  constantLiteral := Csharp.constantLiterals
  literalTypes := Csharp.literalTypes
  namedHeader := []
  record := ["RecordDeclaration", "RecordStructDeclaration"]
  unquote := Text.unquoteEscaped?
  bareIdentifier := Csharp.bareIdentifier

end Grammar
end TreeLint
