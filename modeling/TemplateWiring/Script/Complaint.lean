namespace TemplateWiring.Script

inductive Complaint where
  -- tokens
  | invalidCharacter (c : Char)
  | invalidNameEscape
  | invalidEscape
  | invalidNumberEnd
  | unterminatedString
  | unterminatedRegex
  | unterminatedComment
  | regexFlag (c : Char)
  | repeatedRegexFlag (c : Char)
  | clashingRegexFlags
  | templateEscape
  | escapedKeyword
  -- the whole text
  | annotatedTypes
  | diffMarker
  -- what stands where something else should
  | unexpectedToken
  | expected (wanted found : String)
  | expectedEither (first second found : String)
  | functionBody
  | functionName
  | emptyParentheses
  | trailingParenthesesComma
  | missingSemicolon
  | reservedName (word : String)
  | optionalName
  | switchClause
  -- classes and functions
  | getterParameters
  | setterParameters
  | setterRest
  | accessorConstructor
  | asyncConstructor
  | generatorConstructor
  | fieldConstructor
  | privateConstructor
  | staticPrototype
  | misplacedModifier (name : String)
  | typeParameterModifier (name : String)
  | readonlyMethod
  | constMember
  | repeatedModifier (name : String)
  | repeatedAccessibility
  | privateAccessibility
  | abstractBody (kind name : String)
  | abstractValue (name : String)
  | repeatedClause (word : String)
  | clauseOrder
  | severalParents
  | optionalDecorator
  | misplacedDecorator
  | parameterModifier
  | restParameterNotLast
  -- patterns and targets
  | restElementNotLast
  | restTrailingComma
  | restInitializer
  | invalidRestElement
  | restArgument
  | spreadNotLast
  | defaultOperator
  | constInitializer
  | patternInitializer
  | usingInitializer
  | usingPattern
  | usingCase
  | notAssignable
  | unusedInitializer
  -- expressions
  | awaitOutside
  | yieldOutside
  | awaitName
  | yieldName
  | newlineBeforeArrow
  | mixedCoalesce
  | unaryBeforePower
  | misplacedPrivate
  | typeAssertion
  | typeCheck
  | markup
  | misplacedSuper
  | newTarget
  | newImport
  | optionalNew
  | optionalTemplate
  | importSpecifier
  | importArguments
  | importMeta
  -- statements
  | returnOutside
  | missingCatch
  | newlineAfterThrow
  | lexicalAlone
  | classAlone
  | generatorAlone
  | asyncAlone
  | awaitLoop
  | asyncLoopTarget
  | exportedString
  | exportedReserved
  | exportedHalf
  | importAlias
  | repeatedExport (name : String)
  deriving DecidableEq, Repr

namespace Complaint

def ticked (s : String) : String := "`" ++ s ++ "`"

def inTypeScript (what : String) : String :=
  what ++ " can only be used in TypeScript files."

def message : Complaint → String
  | invalidCharacter c => "Invalid Character " ++ ticked (String.singleton c)
  | invalidNameEscape => "Invalid Unicode escape sequence"
  | invalidEscape => "Invalid escape sequence"
  | invalidNumberEnd => "Invalid characters after number"
  | unterminatedString => "Unterminated string"
  | unterminatedRegex => "Unterminated regular expression"
  | unterminatedComment => "Unterminated multiline comment"
  | regexFlag c =>
    "Unexpected flag " ++ String.singleton c ++ " in regular expression literal"
  | repeatedRegexFlag c =>
    "Flag " ++ String.singleton c ++ " is mentioned twice in regular expression literal"
  | clashingRegexFlags =>
    "The 'u' and 'v' regular expression flags cannot be enabled at the same time"
  | templateEscape => "Bad escape sequence in untagged template literal"
  | escapedKeyword => "Keywords cannot contain escape characters"
  | annotatedTypes => "Flow is not supported"
  | diffMarker => "Encountered diff marker"
  | unexpectedToken => "Unexpected token"
  | expected wanted found => "Expected " ++ ticked wanted ++ " but found " ++ ticked found
  | expectedEither first second found =>
    "Expected " ++ ticked first ++ " or " ++ ticked second ++ " but found " ++ ticked found
  | functionBody => "Expected function body"
  | functionName => "Expected function name"
  | emptyParentheses => "Empty parenthesized expression"
  | trailingParenthesesComma => "Parenthesized expressions may not have a trailing comma."
  | missingSemicolon =>
    "Expected a semicolon or an implicit semicolon after a statement, but found none"
  | reservedName word =>
    "Identifier expected. '" ++ word ++ "' is a reserved word that cannot be used here."
  | optionalName => "Identifier expected after '?.'"
  | switchClause => "Expected switch clause"
  | getterParameters => "A 'get' accessor must not have any formal parameters."
  | setterParameters => "A 'set' accessor must have exactly one parameter."
  | setterRest => "A 'set' accessor cannot have rest parameter."
  | accessorConstructor => "Constructor can't have get/set modifier"
  | asyncConstructor => "Constructor can't be an async method"
  | generatorConstructor => "Constructor can't be a generator"
  | fieldConstructor => "Classes can't have a field named 'constructor'"
  | privateConstructor => "Classes can't have an element named '#constructor'"
  | staticPrototype => "Classes may not have a static property named 'prototype'"
  | misplacedModifier name => "'" ++ name ++ "' modifier cannot be used here."
  | typeParameterModifier name =>
    "'" ++ name ++
      "' modifier can only appear on a type parameter of a class, interface or type alias."
  | readonlyMethod =>
    "'readonly' modifier can only appear on a property declaration or index signature."
  | constMember => "A class member cannot have the 'const' keyword."
  | repeatedModifier name => "'" ++ name ++ "' modifier already seen."
  | repeatedAccessibility => "Accessibility modifier already seen."
  | privateAccessibility => "An accessibility modifier cannot be used with a private identifier."
  | abstractBody kind name =>
    kind ++ " '" ++ name ++ "' cannot have an implementation because it is marked abstract."
  | abstractValue name =>
    "Property '" ++ name ++ "' cannot have an initializer because it is marked abstract."
  | repeatedClause word => "'" ++ word ++ "' clause already seen"
  | clauseOrder => "'extends' clause must precede 'implements' clause"
  | severalParents => "Classes can only extend a single class."
  | optionalDecorator => "Expression must be enclosed in parentheses to be used as a decorator."
  | misplacedDecorator => "Decorators are not valid here."
  | parameterModifier => inTypeScript "Parameter modifiers"
  | restParameterNotLast => "A rest parameter must be last in a parameter list"
  | restElementNotLast => "A rest element must be last in a destructuring pattern"
  | restTrailingComma => "A rest parameter or binding pattern may not have a trailing comma."
  | restInitializer => "A rest element cannot have an initializer."
  | invalidRestElement => "Invalid rest element"
  | restArgument => "Invalid rest operator's argument."
  | spreadNotLast => "Spread must be last element"
  | defaultOperator => "Only '=' operator can be used for specifying default value."
  | constInitializer => "Missing initializer in const declaration"
  | patternInitializer => "Missing initializer in destructuring declaration"
  | usingInitializer => "Using declarations must have an initializer."
  | usingPattern => "Using declarations may not have binding patterns."
  | usingCase => "Using declaration cannot appear in the bare case statement."
  | notAssignable => "Cannot assign to this expression"
  | unusedInitializer => "Invalid assignment in object literal"
  | awaitOutside => "`await` is only allowed within async functions and at the top levels of modules"
  | yieldOutside => "A 'yield' expression is only allowed in a generator body."
  | awaitName => "Cannot use `await` as an identifier in an async context"
  | yieldName => "Cannot use `yield` as an identifier in a generator context"
  | newlineBeforeArrow => "Line terminator not permitted before arrow"
  | mixedCoalesce => "Logical expressions and coalesce expressions cannot be mixed"
  | unaryBeforePower => "Unexpected exponentiation expression"
  | misplacedPrivate => "Unexpected private identifier"
  | typeAssertion => inTypeScript "Type assertion expressions"
  | typeCheck => inTypeScript "Type satisfaction expressions"
  | markup => "Unexpected JSX expression"
  | misplacedSuper => "'super' can only be used with function calls or in property accesses"
  | newTarget => "The only valid meta property for new is new.target"
  | newImport => "Cannot use new with dynamic import"
  | optionalNew => "Optional chaining cannot appear in the callee of new expressions"
  | optionalTemplate => "Tagged template expressions are not permitted in an optional chain"
  | importSpecifier => "import() requires a specifier."
  | importArguments =>
    "Dynamic imports can only accept a module specifier and an optional set of attributes as arguments"
  | importMeta => "The only valid meta property for import is import.meta"
  | returnOutside => "A 'return' statement can only be used within a function body."
  | missingCatch => "Missing catch or finally clause"
  | newlineAfterThrow => "Illegal newline after throw"
  | lexicalAlone => "Lexical declaration cannot appear in a single-statement context"
  | classAlone => "Invalid class declaration"
  | generatorAlone => "Generators can only be declared at the top level or inside a block"
  | asyncAlone => "Async functions can only be declared at the top level or inside a block"
  | awaitLoop => "await can only be used in conjunction with `for...of` statements"
  | asyncLoopTarget => "The left-hand side of a `for...of` statement may not be `async`"
  | exportedString => "A string literal cannot be used as an exported binding without `from`"
  | exportedReserved => "A reserved word cannot be used as an exported binding without `from`"
  | exportedHalf => "An export name cannot include a unicode lone surrogate"
  | importAlias => inTypeScript "'import ... ='"
  | repeatedExport name => "Duplicated export '" ++ name ++ "'"

end Complaint

structure Fault where
  complaint : Complaint
  offset : Nat
  deriving DecidableEq, Repr

end TemplateWiring.Script
