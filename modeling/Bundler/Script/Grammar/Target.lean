import Bundler.Script.Grammar.Object

/-!
# Targets of assignments

What stands before an equals sign is read as an expression. Here such an expression becomes the target that it spells:
a name, a property, or a pattern of targets.
-/

namespace Bundler.Script

open Reading

/-- What stands in for a target that cannot be. -/
def missingTarget : Reading Target := do
  fail .cannotAssign
  return .targetSimple .null

/-- The expression inside parentheses and statements about its type. -/
def innerExpression {c : Category} : Tree c → Tree c
  | .parenthesized inner => innerExpression inner
  | .asType inner _ => innerExpression inner
  | .satisfies inner _ => innerExpression inner
  | .typeAssertion _ inner => innerExpression inner
  | .nonNull inner => innerExpression inner
  | .instantiation inner _ => innerExpression inner
  | e => e

/-- Whether an expression names a variable or a property. -/
def isPlainTarget : Expression → Bool
  | .identifier _ | .member _ _ _ | .privateMember _ _ _ | .index _ _ _ => true
  | _ => false

/-- Whether something can be assigned to an expression as it stands. -/
def isSimpleTarget {c : Category} : Tree c → Bool
  | .identifier _ | .member _ _ _ | .privateMember _ _ _ | .index _ _ _ => true
  | .parenthesized (.object _ _) | .parenthesized (.array _ _) => false
  | .parenthesized inner => isSimpleTarget inner
  | .asType inner _ | .satisfies inner _ | .typeAssertion _ inner | .nonNull inner =>
    isPlainTarget (innerExpression inner)
  | _ => false

/-- The target without parentheses. -/
def unwrapTarget {c : Category} : Tree c → Tree c
  | .parenthesized inner => unwrapTarget inner
  | e => e

/-- An expression as a target without parts. -/
def simpleTarget (e : Expression) : Reading Target := do
  if isSimpleTarget e then return .targetSimple (unwrapTarget e) else missingTarget

/-- The elements of an array literal as targets; the last one may take the rest. -/
def elementTargets (item whole : Expression → Reading Target) (trailing : Bool) :
    List (Tree .element) → Reading (List (Tree (.optional .target)) × Option Target)
  | [] => return ([], none)
  | .elementHole :: rest => do
    let (targets, last) ← elementTargets item whole trailing rest
    return (.none :: targets, last)
  | .elementItem e :: rest => do
    let t ← item e
    let (targets, last) ← elementTargets item whole trailing rest
    return (.some t :: targets, last)
  | .elementSpread e :: rest => do
    if !rest.isEmpty then
      fail .spreadNotLast
      return ([], none)
    let t ← whole e
    if trailing then note .restTrailingComma
    return ([], some t)

/-- The properties of an object literal as targets; the last one may take the rest. -/
def propertyTargets (item whole : Expression → Reading Target) (trailing : Bool) :
    List (Tree .property) → Reading (List (Tree .targetProperty) × Option Target)
  | [] => return ([], none)
  | .propertyShorthand pos name init :: rest => do
    closeProperty pos
    let (targets, last) ← propertyTargets item whole trailing rest
    return (.targetShorthand name init :: targets, last)
  | .propertyValue key e :: rest => do
    let t ← item e
    let (targets, last) ← propertyTargets item whole trailing rest
    return (.targetKeyed key t :: targets, last)
  | .propertyMethod _ key _ :: rest => do
    let t ← missingTarget
    let (targets, last) ← propertyTargets item whole trailing rest
    return (.targetKeyed key t :: targets, last)
  | .propertySpread e :: rest => do
    if !rest.isEmpty then
      fail .spreadNotLast
      return ([], none)
    let t ← whole e
    if trailing then note .restTrailingComma
    return ([], some t)

/-- An expression as a target; patterns are taken apart to a depth. -/
def targetOf : Nat → Expression → Reading Target
  | 0, _ => missingTarget
  | depth + 1, e => do
    -- A part of a pattern may have a default value.
    let part : Expression → Reading Target := fun
      | .assign .plain t value => return .targetDefault t value
      | .assign _ _ _ => missingTarget
      | e => targetOf depth e
    match e with
    | .array elements trailing =>
      let (targets, last) ← elementTargets part (targetOf depth) trailing elements.toList
      return .targetArray (.ofList targets) (.ofOption last) trailing
    | .object properties trailing =>
      let (targets, last) ← propertyTargets part (targetOf depth) trailing properties.toList
      return .targetObject (.ofList targets) (.ofOption last)
    | e => simpleTarget e

/-- The target that an expression spells. -/
def readTarget (e : Expression) : Reading Target := do
  targetOf ((← bound) + 1) e

end Bundler.Script
