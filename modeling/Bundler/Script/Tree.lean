import Bundler.Number.Magnitude
import Bundler.Script.Operator
import Bundler.Script.StringValue

/-!
# The tree of a script

Expressions, patterns, functions, classes, statements, types and markup of a module, as one family of trees indexed by
the category of the node. Parentheses stay in the tree, because some rules look through them and some do not.

A `pos` is the offset of the first character of a node, and a `close` that of a closing parenthesis: comments are
attached to such offsets, so these are the places before which a comment can be printed.
-/

namespace Bundler.Script

/-! ## Parts without trees inside -/

/-- The words that open a declaration of variables. -/
inductive DeclarationKind where
  | varKind
  | letKind
  | constKind
  | usingKind
  | awaitUsingKind
  deriving DecidableEq, Inhabited, Repr

def DeclarationKind.text : DeclarationKind → String
  | .varKind => "var"
  | .letKind => "let"
  | .constKind => "const"
  | .usingKind => "using"
  | .awaitUsingKind => "await using"

/-- When an imported module is loaded or run, if not at once. -/
inductive ImportPhase where
  | source
  | deferred
  deriving DecidableEq, Inhabited, Repr

def ImportPhase.text : ImportPhase → String
  | .source => "source"
  | .deferred => "defer"

/-- From where a class member may be used. -/
inductive Accessibility where
  | everywhere
  | ownClass
  | subclasses
  deriving DecidableEq, Inhabited, Repr

def Accessibility.text : Accessibility → String
  | .everywhere => "public"
  | .ownClass => "private"
  | .subclasses => "protected"

/-- What a method is for. -/
inductive MethodKind where
  | constructor
  | method
  | getter
  | setter
  deriving DecidableEq, Inhabited, Repr

/-- A name in an import or export list, which may be written as a string. -/
inductive ModuleName where
  | word (name : String)
  | quoted (value : StringValue)
  deriving DecidableEq, Inhabited, Repr

/-- The name as it is exported. -/
def ModuleName.text : ModuleName → String
  | .word name => name
  | .quoted value => value.toText

/-- The name of an element of markup. -/
inductive MarkupName where
  | plain (name : String)
  | spaced (space name : String)
  | member (object : MarkupName) (property : String)
  deriving DecidableEq, Inhabited, Repr

/-- A dotted name in a type. -/
inductive EntityName where
  | word (name : String)
  | thisWord
  | dotted (left : EntityName) (right : String)
  deriving DecidableEq, Inhabited, Repr

/-- What the sign after a name says about its value. -/
inductive NameMark where
  | unmarked
  /-- The value may be missing. -/
  | optional
  /-- The value is set before it is used. -/
  | definite
  deriving DecidableEq, Inhabited, Repr

def NameMark.text : NameMark → String
  | .unmarked => ""
  | .optional => "?"
  | .definite => "!"

/-- How a mapped type treats a modifier of the properties. -/
inductive MappedModifier where
  | untouched
  | present
  | added
  | removed
  deriving DecidableEq, Inhabited, Repr

/-- The words of a type operator. -/
inductive TypeOperator where
  | keyOf
  | unique
  | readonly
  deriving DecidableEq, Inhabited, Repr

def TypeOperator.text : TypeOperator → String
  | .keyOf => "keyof"
  | .unique => "unique"
  | .readonly => "readonly"

/-! ## Trees -/

/-- Which statements can stand in a place. -/
inductive Selection where
  | all
  /-- Only those that can stand behind `export`. -/
  | declarations

/-- The categories of nodes. -/
inductive Category where
  | expression
  /-- An element of an array literal. -/
  | element
  | argument
  | key
  /-- A property of an object literal. -/
  | property
  | function
  | body
  | pattern
  | patternProperty
  /-- What can be assigned to. -/
  | target
  | targetProperty
  | parameter
  | classDefinition
  | heritage
  | member
  | declarator
  | forStart
  | forTarget
  | switchCase
  | importAttribute
  | importAttributes
  | importName
  | exportName
  | importSource
  | namespaceBody
  | enumMember
  | statement (among : Selection)
  | defaultExport
  | handler
  | typeParameter
  | tupleElement
  | type
  | typeMember
  | markupAttribute
  | markupChild
  | many (c : Category)
  | optional (c : Category)

/-- The category of the items of a list, and any other category itself. -/
def Category.item : Category → Category
  | many c => c
  | c => c

/-- Nodes of each category. -/
inductive Tree : Category → Type where
  | nil {c : Category} : Tree (.many c)
  | cons {c : Category} (head : Tree c) (tail : Tree (.many c)) : Tree (.many c)
  | none {c : Category} : Tree (.optional c)
  | some {c : Category} (tree : Tree c) : Tree (.optional c)
  -- Expressions.
  | identifier (name : String) : Tree .expression
  | thisValue : Tree .expression
  | superValue : Tree .expression
  | null : Tree .expression
  | boolean (value : Bool) : Tree .expression
  | number (value : Magnitude) : Tree .expression
  | bigint (value : Nat) : Tree .expression
  | string (value : StringValue) : Tree .expression
  | regex (pattern flags : String) : Tree .expression
  | template (texts : List String) (values : Tree (.many .expression)) : Tree .expression
  | tagged (tag : Tree .expression) (typeArguments : Tree (.many .type)) (texts : List String)
      (values : Tree (.many .expression)) : Tree .expression
  | array (elements : Tree (.many .element)) (trailingComma : Bool) : Tree .expression
  | object (properties : Tree (.many .property)) (trailingComma : Bool) : Tree .expression
  | functionValue (f : Tree .function) : Tree .expression
  | arrow (isAsync isConcise : Bool) (typeParameters : Tree (.many .typeParameter))
      (parameters : Tree (.many .parameter)) (result : Tree (.optional .type)) (body : Tree .body)
      (pure parenthesized : Bool) : Tree .expression
  | classValue (c : Tree .classDefinition) : Tree .expression
  | unary (operator : UnaryOperator) (operand : Tree .expression) : Tree .expression
  | update (operator : UpdateOperator) (isBefore : Bool) (operand : Tree .expression) : Tree .expression
  | binary (operator : BinaryOperator) (left right : Tree .expression) : Tree .expression
  | logical (operator : LogicalOperator) (left right : Tree .expression) : Tree .expression
  | privateIn (name : String) (right : Tree .expression) : Tree .expression
  | conditional (test yes no : Tree .expression) : Tree .expression
  | assign (operator : AssignOperator) (target : Tree .target) (value : Tree .expression) : Tree .expression
  | sequence (expressions : Tree (.many .expression)) : Tree .expression
  | member (object : Tree .expression) (name : String) (optional : Bool) : Tree .expression
  | privateMember (object : Tree .expression) (name : String) (optional : Bool) : Tree .expression
  | index (object key : Tree .expression) (optional : Bool) : Tree .expression
  | call (callee : Tree .expression) (typeArguments : Tree (.many .type)) (arguments : Tree (.many .argument))
      (optional pure : Bool) (close : Nat) : Tree .expression
  | construct (callee : Tree .expression) (typeArguments : Tree (.many .type))
      (arguments : Tree (.many .argument)) (pure : Bool) (close : Nat) : Tree .expression
  | importCall (phase : Option ImportPhase) (arguments : Tree (.many .argument)) (close : Nat) : Tree .expression
  | chain (inner : Tree .expression) : Tree .expression
  | metaProperty (object property : String) : Tree .expression
  | await (operand : Tree .expression) : Tree .expression
  | yield (delegate : Bool) (operand : Tree (.optional .expression)) : Tree .expression
  | parenthesized (inner : Tree .expression) : Tree .expression
  | asType (inner : Tree .expression) (type : Tree .type) : Tree .expression
  | satisfies (inner : Tree .expression) (type : Tree .type) : Tree .expression
  | typeAssertion (type : Tree .type) (inner : Tree .expression) : Tree .expression
  | nonNull (inner : Tree .expression) : Tree .expression
  | instantiation (inner : Tree .expression) (typeArguments : Tree (.many .type)) : Tree .expression
  | markupElement (name : MarkupName) (typeArguments : Tree (.many .type))
      (attributes : Tree (.many .markupAttribute)) (children : Tree (.optional (.many .markupChild))) :
      Tree .expression
  | markupFragment (children : Tree (.many .markupChild)) : Tree .expression
  -- Parts of expressions.
  | elementHole : Tree .element
  | elementItem (value : Tree .expression) : Tree .element
  | elementSpread (value : Tree .expression) : Tree .element
  | argumentItem (pos : Nat) (value : Tree .expression) : Tree .argument
  | argumentSpread (pos : Nat) (value : Tree .expression) : Tree .argument
  | keyName (name : String) : Tree .key
  | keyPrivate (name : String) : Tree .key
  | keyLiteral (value : Tree .expression) : Tree .key
  | keyComputed (value : Tree .expression) : Tree .key
  | propertyShorthand (pos : Nat) (name : String) (init : Tree (.optional .expression)) : Tree .property
  | propertyValue (key : Tree .key) (value : Tree .expression) : Tree .property
  | propertyMethod (kind : MethodKind) (key : Tree .key) (f : Tree .function) : Tree .property
  | propertySpread (value : Tree .expression) : Tree .property
  -- Functions and patterns.
  | functionOf (name : Option String) (isAsync isGenerator isDeclare : Bool)
      (typeParameters : Tree (.many .typeParameter)) (parameters : Tree (.many .parameter))
      (result : Tree (.optional .type)) (body : Tree (.optional .body)) (pure parenthesized : Bool) : Tree .function
  | bodyOf (directives : List String) (statements : Tree (.many (.statement .all))) : Tree .body
  | patternName (name : String) : Tree .pattern
  | patternObject (properties : Tree (.many .patternProperty)) (rest : Tree (.optional .pattern)) : Tree .pattern
  | patternArray (elements : Tree (.many (.optional .pattern))) (rest : Tree (.optional .pattern)) : Tree .pattern
  | patternDefault (inner : Tree .pattern) (value : Tree .expression) : Tree .pattern
  | patternTyped (inner : Tree .pattern) (mark : NameMark) (type : Tree (.optional .type)) : Tree .pattern
  | patternPropertyOf (key : Tree .key) (isShorthand : Bool) (value : Tree .pattern) : Tree .patternProperty
  | targetSimple (value : Tree .expression) : Tree .target
  | targetObject (properties : Tree (.many .targetProperty)) (rest : Tree (.optional .target)) : Tree .target
  | targetArray (elements : Tree (.many (.optional .target))) (rest : Tree (.optional .target))
      (trailingComma : Bool) : Tree .target
  | targetDefault (inner : Tree .target) (value : Tree .expression) : Tree .target
  | targetShorthand (name : String) (init : Tree (.optional .expression)) : Tree .targetProperty
  | targetKeyed (key : Tree .key) (value : Tree .target) : Tree .targetProperty
  | parameterItem (decorators : Tree (.many .expression)) (access : Option Accessibility)
      (isOverride isReadonly : Bool) (pattern : Tree .pattern) : Tree .parameter
  | parameterThis (type : Tree (.optional .type)) : Tree .parameter
  | parameterRest (decorators : Tree (.many .expression)) (pattern : Tree .pattern) : Tree .parameter
  -- Classes.
  | classOf (decorators : Tree (.many .expression)) (name : Option String) (isAbstract isDeclare : Bool)
      (typeParameters : Tree (.many .typeParameter)) (parent : Tree (.optional .expression))
      (parentArguments : Tree (.many .type)) (implemented : Tree (.many .heritage))
      (members : Tree (.many .member)) : Tree .classDefinition
  | heritageOf (base : Tree .expression) (typeArguments : Tree (.many .type)) : Tree .heritage
  | memberMethod (pos : Nat) (decorators : Tree (.many .expression)) (access : Option Accessibility)
      (isAbstract isStatic isOverride : Bool) (kind : MethodKind) (key : Tree .key) (optional : Bool)
      (f : Tree .function) : Tree .member
  | memberField (pos : Nat) (decorators : Tree (.many .expression)) (access : Option Accessibility)
      (isDeclare isAbstract isStatic isOverride isReadonly isAccessor optional definite : Bool) (key : Tree .key)
      (type : Tree (.optional .type)) (value : Tree (.optional .expression)) : Tree .member
  | memberBlock (pos : Nat) (statements : Tree (.many (.statement .all))) : Tree .member
  | memberIndexer (pos : Nat) (isReadonly isStatic : Bool) (name : String) (keyType type : Tree .type) : Tree .member
  -- Parts of statements.
  | declaratorOf (pattern : Tree .pattern) (init : Tree (.optional .expression)) : Tree .declarator
  | forNothing : Tree .forStart
  | forVariables (kind : DeclarationKind) (declarators : Tree (.many .declarator)) : Tree .forStart
  | forValue (value : Tree .expression) : Tree .forStart
  | forEachVariable (kind : DeclarationKind) (declarators : Tree (.many .declarator)) : Tree .forTarget
  | forEachTarget (target : Tree .target) : Tree .forTarget
  | caseOf (test : Tree (.optional .expression)) (statements : Tree (.many (.statement .all))) : Tree .switchCase
  | attributeOf (key : Tree .key) (value : StringValue) : Tree .importAttribute
  | attributesOf (isAssert : Bool) (attributes : Tree (.many .importAttribute)) : Tree .importAttributes
  | importNamed (imported : ModuleName) (name : String) (isType : Bool) : Tree .importName
  | importDefault (name : String) : Tree .importName
  | importAll (name : String) : Tree .importName
  | exportNamed (name exported : ModuleName) (isType : Bool) : Tree .exportName
  | sourceModule (specifier : StringValue) : Tree .importSource
  | sourceEntity (name : EntityName) : Tree .importSource
  | namespaceNothing : Tree .namespaceBody
  | namespaceBlock (body : Tree .body) : Tree .namespaceBody
  | namespaceNested (name : String) (body : Tree .namespaceBody) : Tree .namespaceBody
  | enumMemberOf (pos : Nat) (key : Tree .key) (init : Tree (.optional .expression)) : Tree .enumMember
  | handlerOf (parameter : Tree (.optional .pattern)) (statements : Tree (.many (.statement .all))) : Tree .handler
  -- Statements.
  | evaluation (pos : Nat) (value : Tree .expression) : Tree (.statement .all)
  | block (pos : Nat) (statements : Tree (.many (.statement .all))) : Tree (.statement .all)
  | empty (pos : Nat) : Tree (.statement .all)
  | debugger (pos : Nat) : Tree (.statement .all)
  | choice (pos : Nat) (test : Tree .expression) (yes : Tree (.statement .all))
      (no : Tree (.optional (.statement .all))) : Tree (.statement .all)
  | forLoop (pos : Nat) (start : Tree .forStart) (test update : Tree (.optional .expression))
      (body : Tree (.statement .all)) : Tree (.statement .all)
  | forIn (pos : Nat) (left : Tree .forTarget) (right : Tree .expression) (body : Tree (.statement .all)) :
      Tree (.statement .all)
  | forOf (pos : Nat) (isAwait : Bool) (left : Tree .forTarget) (right : Tree .expression)
      (body : Tree (.statement .all)) : Tree (.statement .all)
  | whileLoop (pos : Nat) (test : Tree .expression) (body : Tree (.statement .all)) : Tree (.statement .all)
  | doLoop (pos : Nat) (body : Tree (.statement .all)) (test : Tree .expression) : Tree (.statement .all)
  | continueTo (pos : Nat) (label : Option String) : Tree (.statement .all)
  | breakTo (pos : Nat) (label : Option String) : Tree (.statement .all)
  | returning (pos : Nat) (value : Tree (.optional .expression)) : Tree (.statement .all)
  | withObject (pos : Nat) (object : Tree .expression) (body : Tree (.statement .all)) : Tree (.statement .all)
  | switch (pos : Nat) (subject : Tree .expression) (cases : Tree (.many .switchCase)) : Tree (.statement .all)
  | labeled (pos : Nat) (label : String) (body : Tree (.statement .all)) : Tree (.statement .all)
  | throwing (pos : Nat) (value : Tree .expression) : Tree (.statement .all)
  | guarded (pos : Nat) (body : Tree (.many (.statement .all))) (handler : Tree (.optional .handler))
      (final : Tree (.optional (.many (.statement .all)))) : Tree (.statement .all)
  -- Declarations.
  | variables {among : Selection} (pos : Nat) (isDeclare : Bool) (kind : DeclarationKind)
      (declarators : Tree (.many .declarator)) : Tree (.statement among)
  | functionDeclaration {among : Selection} (pos : Nat) (f : Tree .function) : Tree (.statement among)
  | classDeclaration {among : Selection} (pos : Nat) (c : Tree .classDefinition) : Tree (.statement among)
  | enumDeclaration {among : Selection} (pos : Nat) (isConst isDeclare : Bool) (name : String)
      (members : Tree (.many .enumMember)) : Tree (.statement among)
  | interfaceDeclaration {among : Selection} (pos : Nat) (isDeclare : Bool) (name : String)
      (typeParameters : Tree (.many .typeParameter)) (parents : Tree (.many .heritage))
      (members : Tree (.many .typeMember)) : Tree (.statement among)
  | typeAlias {among : Selection} (pos : Nat) (isDeclare : Bool) (name : String)
      (typeParameters : Tree (.many .typeParameter)) (type : Tree .type) : Tree (.statement among)
  | namespaceDeclaration {among : Selection} (pos : Nat) (isDeclare isModule : Bool) (name : ModuleName)
      (body : Tree .namespaceBody) : Tree (.statement among)
  | globalDeclaration {among : Selection} (pos : Nat) (isDeclare : Bool) (body : Tree .body) : Tree (.statement among)
  | importEquals {among : Selection} (pos : Nat) (isType : Bool) (name : String) (source : Tree .importSource) :
      Tree (.statement among)
  -- Imports and exports.
  | importFrom (pos : Nat) (isType : Bool) (phase : Option ImportPhase)
      (names : Tree (.optional (.many .importName))) (specifier : StringValue)
      (attributes : Tree (.optional .importAttributes)) : Tree (.statement .all)
  | exportDeclaration (pos : Nat) (declaration : Tree (.statement .declarations)) : Tree (.statement .all)
  | exportList (pos : Nat) (isType : Bool) (names : Tree (.many .exportName)) : Tree (.statement .all)
  | exportFrom (pos : Nat) (isType : Bool) (names : Tree (.many .exportName)) (specifier : StringValue)
      (attributes : Tree (.optional .importAttributes)) : Tree (.statement .all)
  | exportDefault (pos : Nat) (value : Tree .defaultExport) : Tree (.statement .all)
  | exportAll (pos : Nat) (isType : Bool) (exported : Option ModuleName) (specifier : StringValue)
      (attributes : Tree (.optional .importAttributes)) : Tree (.statement .all)
  | exportAssign (pos : Nat) (value : Tree .expression) : Tree (.statement .all)
  | exportNamespace (pos : Nat) (name : String) : Tree (.statement .all)
  | defaultFunction (pos : Nat) (f : Tree .function) : Tree .defaultExport
  | defaultClass (pos : Nat) (c : Tree .classDefinition) : Tree .defaultExport
  | defaultInterface (declaration : Tree (.statement .declarations)) : Tree .defaultExport
  | defaultValue (value : Tree .expression) : Tree .defaultExport
  -- Types.
  | typeParameterOf (name : String) (isConst isIn isOut : Bool) (bound init : Tree (.optional .type)) :
      Tree .typeParameter
  | tupleItem (type : Tree .type) : Tree .tupleElement
  | tupleOptional (type : Tree .type) : Tree .tupleElement
  | tupleRest (element : Tree .tupleElement) : Tree .tupleElement
  | tupleNamed (label : String) (optional : Bool) (element : Tree .tupleElement) : Tree .tupleElement
  | typeKeyword (name : String) : Tree .type
  | typeThis : Tree .type
  | typeReference (name : EntityName) (arguments : Tree (.many .type)) : Tree .type
  | typeLiteral (value : Tree .expression) : Tree .type
  | typeTemplate (texts : List String) (types : Tree (.many .type)) : Tree .type
  | typeArray (element : Tree .type) : Tree .type
  | typeTuple (elements : Tree (.many .tupleElement)) : Tree .type
  | typeUnion (types : Tree (.many .type)) : Tree .type
  | typeIntersection (types : Tree (.many .type)) : Tree .type
  | typeConditional (check bound yes no : Tree .type) : Tree .type
  | typeInfer (parameter : Tree .typeParameter) : Tree .type
  | typeParenthesized (inner : Tree .type) : Tree .type
  | typeOperation (operator : TypeOperator) (operand : Tree .type) : Tree .type
  | typeIndexed (object key : Tree .type) : Tree .type
  | typeMapped (readonly : MappedModifier) (name : String) (bound : Tree .type) (renamed : Tree (.optional .type))
      (optional : MappedModifier) (type : Tree (.optional .type)) : Tree .type
  | typeObject (members : Tree (.many .typeMember)) : Tree .type
  | typeFunction (typeParameters : Tree (.many .typeParameter)) (parameters : Tree (.many .parameter))
      (result : Tree .type) : Tree .type
  | typeConstructor (isAbstract : Bool) (typeParameters : Tree (.many .typeParameter))
      (parameters : Tree (.many .parameter)) (result : Tree .type) : Tree .type
  | typeQuery (name : EntityName) (arguments : Tree (.many .type)) : Tree .type
  | typeImport (source : Tree .type) (options : Tree (.optional .expression)) (qualifier : Option EntityName)
      (arguments : Tree (.many .type)) : Tree .type
  | typeImportQuery (inner : Tree .type) (arguments : Tree (.many .type)) : Tree .type
  | typePredicate (asserts : Bool) (name : EntityName) (type : Tree (.optional .type)) : Tree .type
  | typeNullable (inner : Tree .type) (isBefore : Bool) : Tree .type
  | typeNonNullable (inner : Tree .type) (isBefore : Bool) : Tree .type
  | typeUnknown : Tree .type
  | typeProperty (pos : Nat) (isReadonly optional : Bool) (key : Tree .key) (type : Tree (.optional .type)) :
      Tree .typeMember
  | typeMethod (pos : Nat) (kind : MethodKind) (key : Tree .key) (optional : Bool)
      (typeParameters : Tree (.many .typeParameter)) (parameters : Tree (.many .parameter))
      (result : Tree (.optional .type)) : Tree .typeMember
  | typeCall (pos : Nat) (typeParameters : Tree (.many .typeParameter)) (parameters : Tree (.many .parameter))
      (result : Tree (.optional .type)) : Tree .typeMember
  | typeConstruct (pos : Nat) (typeParameters : Tree (.many .typeParameter)) (parameters : Tree (.many .parameter))
      (result : Tree (.optional .type)) : Tree .typeMember
  | typeIndexer (pos : Nat) (isReadonly isStatic : Bool) (name : String) (keyType type : Tree .type) :
      Tree .typeMember
  -- Markup.
  | attributeFlag (name : MarkupName) : Tree .markupAttribute
  | attributeText (name : MarkupName) (text : String) : Tree .markupAttribute
  | attributeValue (name : MarkupName) (value : Tree .expression) : Tree .markupAttribute
  | attributeElement (name : MarkupName) (element : Tree .expression) : Tree .markupAttribute
  | attributeNothing (name : MarkupName) (close : Nat) : Tree .markupAttribute
  | attributeSpread (value : Tree .expression) : Tree .markupAttribute
  | childText (text : String) : Tree .markupChild
  | childElement (element : Tree .expression) : Tree .markupChild
  | childValue (value : Tree .expression) : Tree .markupChild
  | childNothing (close : Nat) : Tree .markupChild
  | childSpread (value : Tree .expression) : Tree .markupChild

abbrev Expression := Tree .expression
abbrev Pattern := Tree .pattern
abbrev Target := Tree .target
abbrev Statement := Tree (.statement .all)
abbrev Declaration := Tree (.statement .declarations)
abbrev TypeTree := Tree .type

namespace Tree

/-! ## Lists and options of trees -/

/-- The trees of a node, if it is a list. -/
def items {c : Category} : Tree c → List (Tree c.item)
  | nil => []
  | cons head tail => head :: tail.items
  | _ => []

/-- The trees of a list node. -/
def toList {c : Category} (trees : Tree (.many c)) : List (Tree c) :=
  trees.items

@[simp] theorem toList_nil {c : Category} : (nil : Tree (.many c)).toList = [] := rfl

@[simp] theorem toList_cons {c : Category} (head : Tree c) (tail : Tree (.many c)) :
    (cons head tail).toList = head :: tail.toList := rfl

/-- The list node of some trees. -/
def ofList {c : Category} : List (Tree c) → Tree (.many c)
  | [] => nil
  | head :: tail => cons head (ofList tail)

/-- The tree of an option node. -/
def toOption {c : Category} : Tree (.optional c) → Option (Tree c)
  | none => .none
  | some tree => .some tree

/-- The option node of a tree that may be missing. -/
def ofOption {c : Category} : Option (Tree c) → Tree (.optional c)
  | .none => none
  | .some tree => some tree

def isPresent {c : Category} : Tree (.optional c) → Bool
  | none => false
  | some _ => true

/-- The node inside all parentheses around it. -/
def withoutParentheses {c : Category} : Tree c → Tree c
  | parenthesized inner => inner.withoutParentheses
  | e => e

/-- A declaration as a statement of its own. -/
def asStatement : Declaration → Statement
  | .variables pos isDeclare kind declarators => .variables pos isDeclare kind declarators
  | .functionDeclaration pos f => .functionDeclaration pos f
  | .classDeclaration pos c => .classDeclaration pos c
  | .enumDeclaration pos isConst isDeclare name members => .enumDeclaration pos isConst isDeclare name members
  | .interfaceDeclaration pos isDeclare name typeParameters parents members =>
    .interfaceDeclaration pos isDeclare name typeParameters parents members
  | .typeAlias pos isDeclare name typeParameters type => .typeAlias pos isDeclare name typeParameters type
  | .namespaceDeclaration pos isDeclare isModule name body => .namespaceDeclaration pos isDeclare isModule name body
  | .globalDeclaration pos isDeclare body => .globalDeclaration pos isDeclare body
  | .importEquals pos isType name source => .importEquals pos isType name source

end Tree

end Bundler.Script
