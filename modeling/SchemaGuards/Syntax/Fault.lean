import SchemaGuards.Text.Escaped

/-!
# Syntax faults

Why a source text is no module of declarations, and where that shows. A fault is placed by
the number of characters before it; lines and columns are counted only when it is reported.
-/

namespace SchemaGuards.Syntax

/-- What is wrong with a source text. -/
inductive Cause where
  /-- The text ends too early. -/
  | endOfText
  /-- A token was due and another one was found. -/
  | expected (due found : String)
  /-- One of several things was due and a token that opens none of them was found. -/
  | unexpected (found due : String)
  /-- A character that opens no token. -/
  | strayCharacter (c : Char)
  | expressionExpected
  | semicolonExpected
  | statementEndExpected
  | nameExpected
  | identifierExpected
  | typeNameReserved
  | classNameReserved
  -- literals
  | openString
  | openTemplate
  | openComment
  | openRegex
  | shortEscape (due : String)
  | brokenEscape
  | brokenUnicodeEscape
  | unicodeEscapeExpected
  | invalidNameCharacter
  | escapedReservedWord (word : String)
  | octalEscape
  | octalLiteral
  | leadingZero
  | digitExpected (base : Nat)
  | exponentExpected
  | misplacedSeparator
  | nameAfterNumber
  | conflictMarker
  | markupComment
  | unknownRegexFlag
  | repeatedRegexFlag (flag : Char)
  -- names
  | strictName (name : String)
  | strictBinding
  | argumentsInField
  | awaitName
  | blankAfterHash
  -- types
  | memberIsPrivate
  | readonlyMethod
  | readonlyAccessor
  | accessorNeedsParameter
  | manyIndexParameters
  | requiredAfterOptional
  | stringExpected
  | parameterProperty
  | modifierNeedsFunction (modifier : String)
  | modifierNeedsClass (modifier : String)
  | modifierOnTypeParameter (modifier : String)
  | modifierRepeated (modifier : String)
  | modifierOrder (first second : String)
  | modifierConflict (first second : String)
  | interfaceBase
  | extendsRepeated
  | implementsRepeated
  | manySuperclasses
  -- enumerations and namespaces
  | computedEnumMember
  | numericEnumMember
  | nestedDeclare
  -- imports and exports
  | importInBlock
  | importReserved
  | importString (value : String)
  | exportReserved (name : String)
  | exportString
  | typeModifierOnImport
  | typeModifierOnExport
  | abstractMisplaced
  -- variables and parameters
  | constWithoutValue
  | patternWithoutValue
  | trailingComma
  | optionalPattern
  | restNotLast
  | restParameterNotLast
  | restOptional
  | restInitializer
  | commaAfterRest
  | restNotName
  | optionalWithInitializer
  | initializerWithoutBody
  | annotationAfterDefault
  -- expressions
  | notAPattern
  | notAssignable
  | targetNotAssignable
  | invalidTarget
  | assignmentProperty
  | notAnExpression
  | arrowNotAllowed
  | breakBeforeArrow
  | emptyGroup
  | spreadInGroup
  | shorthandReserved
  | objectModifier
  | optionalObjectMember
  | commaInComputedName
  | unaryBeforePower
  | mixedNullish
  | deleteName
  | deleteOperand
  | awaitStar
  | awaitInFunction
  | awaitInParameters
  | yieldInParameters
  | invalidSuper
  | invalidSuperCall
  | optionalSuperCall
  | taggedChain
  | nonNullAssertion (word : String)
  | newTarget
  | chainInNew
  -- functions and classes
  | ambientBody
  | getterParameters
  | setterParameters
  | restInSetter
  | privateConstructor
  | constructorRepeated
  | constructorGenerator
  | constructorAsync
  | constructorAccessor
  | constructorProperty
  | parameterPropertyPattern
  | constructorModifier (modifier : String)
  | constructorTypeParameters
  | constructorReturnType
  | emptyTypeParameters
  | abstractBody
  | abstractValue
  | abstractMember
  | abstractConstructor
  | overrideWithoutSuperclass
  | privateAccessibility
  | privateModifier (modifier : String)
  | declareModifier
  | modifierMisplaced
  -- statements
  | declarationNotAllowed
  | breakOutside
  | breakLabel
  | continueOutside
  | continueLabel
  | labelRepeated (label : String)
  | returnOutside
  | throwBreak
  | withStrict
  | defaultRepeated
  | forAwait
  | emptyVariables
  | loopBindings
  | loopInitializer
  | loopType
  | loopPattern
  | asyncLoop
  | strictDirective
  | labelledFunction
  | labelledGenerator
  | usingPattern
  | usingInitializer
  | usingInLoop
  /-- The nesting bound of the parser was reached; the length of the text excludes that. -/
  | exhausted
  deriving DecidableEq, Repr

namespace Cause

/-- The wording of a cause. -/
def message : Cause → String
  | endOfText => "Unexpected eof"
  | expected due found => s!"Expected '{due}', got '{found}'"
  | unexpected found due => s!"Unexpected token `{found}`. Expected {due}"
  | strayCharacter c => s!"Unexpected character {Text.escapedSingle c}"
  | expressionExpected => "Expression expected"
  | semicolonExpected => "Expected a semicolon"
  | statementEndExpected => "Expected ';', '\x7d' or <eof>"
  | nameExpected => "Expected ident"
  | identifierExpected => "Expected an identifier"
  | typeNameReserved => "interface name is invalid"
  | classNameReserved => "Invalid class name"
  | openString => "Unterminated string constant"
  | openTemplate => "Unterminated template"
  | openComment => "Unterminated block comment"
  | openRegex => "Unterminated regexp literal"
  | shortEscape due => s!"Bad character escape sequence, expected {due}"
  | brokenEscape => "Invalid string escape"
  | brokenUnicodeEscape => "Invalid unicode escape"
  | unicodeEscapeExpected => "Expected unicode escape"
  | invalidNameCharacter => "Invalid character in identifier"
  | escapedReservedWord word => s!"Unexpected escape sequence in reserved word: {word}"
  | octalEscape => "Legacy octal escape is not permitted in strict mode"
  | octalLiteral =>
    "Legacy octal literals are not available when targeting ECMAScript 5 and higher"
  | leadingZero => "Legacy decimal escape is not permitted in strict mode"
  | digitExpected base =>
    let kind := match base with
      | 2 => "a binary"
      | 8 => "an octal"
      | 16 => "a hexadecimal"
      | _ => "a decimal"
    s!"Expected {kind} digit"
  | exponentExpected => "Expected +, - or decimal digit after e"
  | misplacedSeparator => "A numeric separator is only allowed between two digits"
  | nameAfterNumber => "Identifier cannot follow number"
  | conflictMarker => "Merge conflict marker encountered."
  | markupComment => "Legacy comments cannot be used in module code"
  | unknownRegexFlag => "Unknown regular expression flags."
  | repeatedRegexFlag flag => s!"Duplicated regular expression flag '{flag}'."
  | strictName name => s!"`{name}` cannot be used as an identifier in strict mode"
  | strictBinding => "'eval' and 'arguments' cannot be used as a binding identifier in strict mode"
  | argumentsInField => "'arguments' is only allowed in functions and class methods"
  | awaitName => "`await` cannot be used as an identifier in an async context"
  | blankAfterHash => "Unexpected space between # and identifier"
  | memberIsPrivate => "private names are not allowed in interface"
  | readonlyMethod => "A method cannot be readonly"
  | readonlyAccessor => "A getter or a setter cannot be readonly"
  | accessorNeedsParameter => "A setter should have parameter"
  | manyIndexParameters => "An index signature must have exactly one parameter"
  | requiredAfterOptional => "A required element cannot follow an optional element."
  | stringExpected => "String literal expected"
  | parameterProperty => "A parameter property is only allowed in a constructor implementation"
  | modifierNeedsFunction modifier =>
    s!"'{modifier}' modifier can only appear on a type parameter of a function, method or class"
  | modifierNeedsClass modifier =>
    s!"'{modifier}' modifier can only appear on a type parameter of a class, interface or " ++
      "type alias"
  | modifierOnTypeParameter modifier =>
    s!"'{modifier}' modifier cannot appear on a type parameter"
  | modifierRepeated modifier => s!"'{modifier}' modifier already seen."
  | modifierOrder first second => s!"'{first}' modifier must precede '{second}' modifier."
  | modifierConflict first second =>
    s!"'{first}' modifier cannot be used with '{second}' modifier."
  | interfaceBase =>
    "An interface can only extend an identifier/qualified-name with optional type arguments."
  | extendsRepeated => "`extends` clause already seen."
  | implementsRepeated => "`implements` clause already seen."
  | manySuperclasses => "Classes can only extend a single class"
  | computedEnumMember => "Computed property names are not allowed in enums"
  | numericEnumMember => "An enum member cannot have a numeric name"
  | nestedDeclare =>
    "`declare` modifier not allowed for code already in an ambient context"
  | importInBlock => "'import', and 'export' cannot be used outside of module code"
  | importReserved => "cannot import as reserved word"
  | importString value =>
    "A string literal cannot be used as an imported binding.\n- Did you mean `import \x7b \"" ++
      value ++ "\" as foo \x7d`?"
  | exportReserved name => s!"`{name}` cannot be used without `from` clause"
  | exportString => "A string literal cannot be used as an exported binding without `from`."
  | typeModifierOnImport =>
    "The 'type' modifier cannot be used on a named import when 'import type' is used on its " ++
      "import statement."
  | typeModifierOnExport =>
    "The 'type' modifier cannot be used on a named export when 'export type' is used on its " ++
      "export statement."
  | abstractMisplaced =>
    "`abstract` modifier can only appear on a class or method declaration"
  | constWithoutValue => "'const' declarations must be initialized"
  | patternWithoutValue => "Destructuring bindings require initializers"
  | trailingComma => "Trailing comma is not allowed"
  | optionalPattern =>
    "A binding pattern parameter cannot be optional in an implementation signature."
  | restNotLast => "Rest element must be final element"
  | restParameterNotLast => "A rest parameter must be last in a parameter list"
  | restOptional => "A rest parameter cannot be optional"
  | restInitializer => "A rest parameter cannot have an initializer"
  | commaAfterRest => "Trailing comma isn't permitted after a rest element"
  | restNotName => "`...` must be followed by an identifier in declaration contexts"
  | optionalWithInitializer => "Parameter cannot have question mark and initializer"
  | initializerWithoutBody =>
    "A parameter initializer is only allowed in a function or constructor implementation"
  | annotationAfterDefault => "Type annotations must come before default assignments"
  | notAPattern => "Not a pattern"
  | notAssignable => "Cannot assign to this"
  | targetNotAssignable =>
    "The left-hand side of an assignment expression must be a variable or a property access."
  | invalidTarget => "Invalid assignment target"
  | assignmentProperty => "assignment property is invalid syntax"
  | notAnExpression => "Not an expression"
  | arrowNotAllowed => "An arrow function is not allowed here"
  | breakBeforeArrow => "Unexpected line break between arrow head and arrow"
  | emptyGroup => "Parenthesized expression cannot be empty"
  | spreadInGroup => "Parenthesized expression cannot contain spread operator"
  | shorthandReserved => "Cannot use a reserved word as a shorthand property"
  | objectModifier => "`async` modifier cannot be used here"
  | optionalObjectMember => "An object member cannot be declared optional"
  | commaInComputedName =>
    "A comma expression is not allowed in a computed property name"
  | unaryBeforePower => "'**' cannot be applied to unary/await expression."
  | mixedNullish =>
    "Nullish coalescing operator(??) requires parens when mixing with logical operators"
  | deleteName => "'delete' cannot be called on an identifier in strict mode"
  | deleteOperand => "The operand of a delete operator must be a property reference."
  | awaitStar =>
    "await* has been removed from the async functions proposal. Use Promise.all() instead."
  | awaitInFunction => "await isn't allowed in non-async function"
  | awaitInParameters => "`await` expressions cannot be used in a parameter initializer"
  | yieldInParameters => "'yield' cannot be used as a parameter within generator"
  | invalidSuper => "Invalid access to super"
  | invalidSuperCall => "Invalid `super()`"
  | optionalSuperCall => "Super call cannot be optional"
  | taggedChain => "Tagged template literals are not allowed in optional chain."
  | nonNullAssertion word =>
    s!"Typescript non-null assertion operator is not allowed with '{word}'"
  | newTarget =>
    "'new.target' is only allowed in the body of a function declaration, function expression, " ++
      "or class."
  | chainInNew => "Constructor in/after an optional chaining is not allowed."
  | ambientBody => "An implementation cannot be declared in ambient contexts"
  | getterParameters => "A `get` accessor cannot have parameters"
  | setterParameters => "A `set` accessor must have exactly one parameter"
  | restInSetter => "Rest pattern is not allowed in setter"
  | privateConstructor => "Classes can't have a private field named '#constructor'."
  | constructorRepeated => "A class can only have one constructor"
  | constructorGenerator => "A constructor cannot be generator"
  | constructorAsync => "Constructor can't be an async function"
  | constructorAccessor => "Class constructor can't be an accessor."
  | constructorProperty => "Classes may not have a non-static field named 'constructor'"
  | parameterPropertyPattern =>
    "Typescript parameter property must be an identifier or assignment pattern"
  | constructorModifier modifier =>
    s!"'{modifier}' modifier cannot appear on a constructor declaration"
  | constructorTypeParameters => "Type parameters cannot appear on a constructor declaration"
  | constructorReturnType => "Type annotation cannot appear on a constructor declaration"
  | emptyTypeParameters => "Type parameter list cannot be empty"
  | abstractBody => "Abstract method cannot have an implementation."
  | abstractValue => "Abstract property cannot have an initializer."
  | abstractMember => "Abstract methods can only appear within an abstract class."
  | abstractConstructor =>
    "`abstract` modifier can only appear on a class or method declaration"
  | overrideWithoutSuperclass =>
    "This member cannot have an 'override' modifier because its containing class does not " ++
      "extend another class."
  | privateAccessibility =>
    "An accessibility modifier cannot be used with a private identifier."
  | privateModifier modifier =>
    s!"'{modifier}' modifier cannot be used with a private identifier"
  | declareModifier => "`declare` modifier cannot appear on class elements of this kind"
  | modifierMisplaced => "Modifiers cannot appear here"
  | declarationNotAllowed => "Declaration is not allowed"
  | breakOutside =>
    "A 'break' statement can only be used within an enclosing iteration or switch statement"
  | breakLabel => "A 'break' statement can only jump to a label of an enclosing statement"
  | continueOutside =>
    "A 'continue' statement can only jump to a label of an enclosing iteration statement"
  | continueLabel => "Jump target cannot cross function boundary"
  | labelRepeated label => s!"Label {label} is already declared"
  | returnOutside => "Return statement is not allowed here"
  | throwBreak => "LineBreak cannot follow 'throw'"
  | withStrict =>
    "The 'with' statement is not supported. All symbols in a 'with' block will have type 'any'."
  | defaultRepeated => "A switch block cannot have multiple defaults"
  | forAwait => "for await syntax is valid only for for-of statement"
  | emptyVariables => "Variable declaration list cannot be empty"
  | loopBindings => "Expected one variable binding"
  | loopType => "The left-hand side of a 'for...of' statement cannot use a type annotation"
  | loopPattern => "The left-hand side of a 'for...in' statement cannot be a destructuring pattern"
  | asyncLoop => "The left-hand side of a `for...of` statement may not be `async`"
  | strictDirective =>
    "Illegal 'use strict' directive in function with non-simple parameter list."
  | labelledFunction => "Function cannot be labelled in strict mode"
  | labelledGenerator => "Generator or async function cannot be labelled"
  | loopInitializer => "Unexpected initializer in for in/of loop"
  | usingPattern => "Using declaration only allows identifiers"
  | usingInitializer => "Using declaration requires initializer"
  | usingInLoop => "Using declaration is not allowed in for-in loop"
  | exhausted => "Unexpected eof"

/-- The name of what keeps a token from being read, as a diagnostic that meets the token tells
it. -/
def tag : Cause → String
  | strayCharacter c => "UnexpectedChar \x7b c: " ++ Text.escapedSingle c ++ " \x7d"
  | openComment => "UnterminatedBlockComment"
  | openTemplate => "UnterminatedTpl"
  | openRegex => "UnterminatedRegExp"
  | nameAfterNumber => "IdentAfterNum"
  | digitExpected base => "ExpectedDigit \x7b radix: " ++ toString base ++ " \x7d"
  | exponentExpected => "NumLitTerminatedWithExp"
  | shortEscape due => "BadCharacterEscapeSequence \x7b expected: \"" ++ due ++ "\" \x7d"
  | brokenEscape => "InvalidStrEscape"
  | brokenUnicodeEscape => "InvalidUnicodeEscape"
  | unicodeEscapeExpected => "ExpectedUnicodeEscape"
  | escapedReservedWord word => "EscapeInReservedWord \x7b word: \"" ++ word ++ "\" \x7d"
  | conflictMarker => "TS1185"
  | _ => "Eof"

/-- The number of characters that the fault of a token covers: none for a fault at a point, and
up to the place that the reading reached where no number is given. -/
def extent? : Cause → Option Nat
  | strayCharacter _ => some 0
  | unicodeEscapeExpected => some 0
  | brokenEscape => some 0
  | nameAfterNumber => some 0
  | conflictMarker => some 7
  | _ => none

end Cause

/-- A cause and the number of characters before the place where it shows. -/
structure Fault where
  cause : Cause
  offset : Nat
  deriving DecidableEq, Repr

/-- A place in a source text. Lines and columns start at one. Columns count units of sixteen
bits, of which a character beyond the basic plane takes two. -/
structure Position where
  line : Nat
  column : Nat
  deriving DecidableEq, Repr

namespace Position

/-- The number of columns that a character takes. -/
def width (c : Char) : Nat := if c.toNat > 0xFFFF then 2 else 1

/-- Walk over the characters before an offset. A line ends at a line feed, or at a carriage
return, or at the two together. -/
def after (position : Position) : List Char → Nat → Position
  | _, 0 => position
  | [], _ => position
  | '\r' :: '\n' :: rest, offset + 1 => after ⟨position.line, position.column + 1⟩ ('\n' :: rest) offset
  | c :: rest, offset + 1 =>
    if c = '\n' || c = '\r' then after ⟨position.line + 1, 1⟩ rest offset
    else after ⟨position.line, position.column + width c⟩ rest offset

/-- The position of the character with the given number of characters before it. -/
def ofOffset (cs : List Char) (offset : Nat) : Position := after ⟨1, 1⟩ cs offset

end Position

/-- Why a source text is no module, as it is reported. -/
structure SyntaxError where
  position : Position
  cause : Cause
  deriving DecidableEq, Repr

/-- The wording of a reported fault with its place. -/
def SyntaxError.message (e : SyntaxError) : String :=
  s!"{e.position.line}:{e.position.column}: {e.cause.message}"

end SchemaGuards.Syntax
