import TreeLint.Grammar.Basic

/-!
# The grammar of Visual Basic

Tags are spelled as the compiler's syntax kinds. Identifiers compare without regard to case and may
be escaped by square brackets.
-/

namespace TreeLint
namespace Grammar
namespace VisualBasic

/-- The kinds of nodes, tokens and keywords. -/
def kinds : KindSet := [
  "CompilationUnit", "ImportsStatement", "NamespaceBlock", "NamespaceStatement",
  "EndNamespaceStatement", "ClassBlock", "ClassStatement", "EndClassStatement", "ModuleBlock",
  "ModuleStatement", "EndModuleStatement", "StructureBlock", "StructureStatement",
  "EndStructureStatement", "InterfaceBlock", "InterfaceStatement", "EndInterfaceStatement",
  "SubBlock", "FunctionBlock", "SubStatement", "FunctionStatement", "EndSubStatement",
  "EndFunctionStatement", "PropertyBlock", "PropertyStatement", "FieldDeclaration",
  "LocalDeclarationStatement", "VariableDeclarator", "ModifiedIdentifier", "SimpleAsClause",
  "AsNewClause", "EqualsValue", "ParameterList", "Parameter", "TypeParameterList",
  "TypeParameter", "ExpressionStatement", "CallStatement", "ReturnStatement", "ForBlock",
  "ForStatement", "NextStatement", "SimpleAssignmentStatement", "AddAssignmentStatement",
  "SubtractAssignmentStatement", "MultiplyAssignmentStatement", "DivideAssignmentStatement",
  "IntegerDivideAssignmentStatement", "ExponentiateAssignmentStatement",
  "LeftShiftAssignmentStatement", "RightShiftAssignmentStatement",
  "ConcatenateAssignmentStatement", "IdentifierName", "GenericName", "QualifiedName",
  "PredefinedType", "TypeArgumentList", "SimpleMemberAccessExpression", "InvocationExpression",
  "ArgumentList", "SimpleArgument", "NameColonEquals", "ObjectCreationExpression",
  "ObjectMemberInitializer", "NamedFieldInitializer", "ParenthesizedExpression",
  "TupleExpression", "StringLiteralExpression", "NumericLiteralExpression",
  "CharacterLiteralExpression", "TrueLiteralExpression", "FalseLiteralExpression",
  "NothingLiteralExpression", "DateLiteralExpression", "InterpolatedStringExpression",
  "ConcatenateExpression", "AddExpression", "IdentifierToken", "StringLiteralToken",
  "IntegerLiteralToken", "CharacterLiteralToken", "DateLiteralToken", "EqualsToken", "DotToken",
  "OpenParenToken", "CloseParenToken", "CommaToken", "AmpersandToken", "PlusToken",
  "PlusEqualsToken", "MinusEqualsToken", "AsteriskEqualsToken", "SlashEqualsToken",
  "AmpersandEqualsToken", "DimKeyword", "AsKeyword", "NewKeyword", "SubKeyword",
  "FunctionKeyword", "EndKeyword", "ClassKeyword", "ModuleKeyword", "StructureKeyword",
  "InterfaceKeyword", "PropertyKeyword", "PublicKeyword", "PrivateKeyword", "FriendKeyword",
  "ProtectedKeyword", "SharedKeyword", "OverridableKeyword", "OverridesKeyword",
  "MustOverrideKeyword", "ConstKeyword", "ReadOnlyKeyword", "StringKeyword", "IntegerKeyword",
  "DateKeyword", "TrueKeyword", "FalseKeyword", "NothingKeyword", "ReturnKeyword", "ForKeyword",
  "ToKeyword", "NextKeyword", "CallKeyword", "OfKeyword", "WithKeyword", "NamespaceKeyword",
  "ImportsKeyword"]

/-- Assignments; the first kind is the simple one. -/
def assignments : KindSet := [
  "SimpleAssignmentStatement", "AddAssignmentStatement", "SubtractAssignmentStatement",
  "MultiplyAssignmentStatement", "DivideAssignmentStatement", "IntegerDivideAssignmentStatement",
  "ExponentiateAssignmentStatement", "LeftShiftAssignmentStatement",
  "RightShiftAssignmentStatement", "ConcatenateAssignmentStatement"]

/-- Literals with a constant value. -/
def constantLiterals : KindSet := [
  "StringLiteralExpression", "NumericLiteralExpression", "CharacterLiteralExpression",
  "TrueLiteralExpression", "FalseLiteralExpression", "NothingLiteralExpression",
  "DateLiteralExpression"]

/-- The types of literals. -/
def literalTypes : List (String × String) := [
  ("StringLiteralExpression", "System.String"),
  ("CharacterLiteralExpression", "System.Char"),
  ("TrueLiteralExpression", "System.Boolean"),
  ("FalseLiteralExpression", "System.Boolean"),
  ("DateLiteralExpression", "System.DateTime"),
  ("NumericLiteralExpression", "System.Int32")]

/-- Nodes that hold the identifier of the node around them. -/
def namedHeaders : KindSet := [
  "ModifiedIdentifier", "SubStatement", "FunctionStatement", "PropertyStatement",
  "ClassStatement", "ModuleStatement", "StructureStatement", "InterfaceStatement"]

/-- An identifier without square brackets around it. -/
def bareIdentifier : List Char → List Char
  | '[' :: rest => if rest.getLast? = some ']' then rest.dropLast else '[' :: rest
  | cs => cs

end VisualBasic

/-- The grammar of Visual Basic. -/
def visualBasic : Grammar where
  language := .visualBasic
  comparison := .caseInsensitive
  kinds := VisualBasic.kinds
  identifierToken := ["IdentifierToken"]
  identifierName := ["IdentifierName"]
  memberAccess := ["SimpleMemberAccessExpression"]
  parenthesized := ["ParenthesizedExpression"]
  objectCreation := ["ObjectCreationExpression"]
  argumentList := ["ArgumentList"]
  argument := ["SimpleArgument"]
  simpleAssignment := ["SimpleAssignmentStatement"]
  assignment := VisualBasic.assignments
  tuple := ["TupleExpression"]
  declarationPattern := []
  variableDesignation := []
  stringLiteral := ["StringLiteralExpression"]
  constantLiteral := VisualBasic.constantLiterals
  literalTypes := VisualBasic.literalTypes
  namedHeader := VisualBasic.namedHeaders
  record := []
  unquote := Text.unquotePlain?
  bareIdentifier := VisualBasic.bareIdentifier

end Grammar
end TreeLint
