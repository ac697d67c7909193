import Bundler.Script.Flatten
import Bundler.Script.Grammar.Program
import Mathlib

/-!
# What flattening keeps

A flat module declares what the module declared. What becomes of a statement depends on the statement alone and takes its
place (`flattenBody_append`), so all is said of one statement first: its names stay (`declarations_flatten`), it stays
itself if it is neither import nor export (`flatten_of_not_isModuleSyntax`), and it leaves something behind unless it
declares nothing (`statement?_flatten_eq_none_iff`).

* `flattenBody_keeps` — a body keeps its declarations and all statements that are neither imports nor exports
-/

namespace Bundler.Script

/-! ## Declarations -/

/-- The names that a statement of a module declares, in source order and with repetitions: by itself, behind `export`, or
as a default export that has a name. An import declaration declares none here, and neither does a statement that only
holds other statements. -/
def Tree.declarations {c : Category} : Tree c → List String
  | .variables _ _ _ declarators => boundNames declarators
  | .functionDeclaration _ f => declarations f
  | .functionOf name _ _ _ _ _ _ _ _ _ => name.toList
  | .classDeclaration _ c => declarations c
  | .classOf _ name _ _ _ _ _ _ _ => name.toList
  | .enumDeclaration _ _ _ name _ => [name]
  | .interfaceDeclaration _ _ name _ _ _ => [name]
  | .typeAlias _ _ name _ _ => [name]
  | .namespaceDeclaration _ _ _ (.word name) _ => [name]
  | .importEquals _ _ name _ => [name]
  | .exportDeclaration _ declaration => declarations declaration
  | .exportDefault _ value => declarations value
  | .defaultFunction _ f => declarations f
  | .defaultClass _ c => declarations c
  | .defaultInterface declaration => declarations declaration
  | _ => []

/-- An import or an export, of whatever form. -/
def isModuleSyntax : Statement → Bool
  | .importFrom _ _ _ _ _ _ | .exportDeclaration _ _ | .exportList _ _ _ | .exportFrom _ _ _ _ _ | .exportDefault _ _
  | .exportAll _ _ _ _ _ | .exportAssign _ _ | .exportNamespace _ _ => true
  | _ => false

theorem Tree.declarations_asStatement (d : Declaration) : d.asStatement.declarations = d.declarations := by
  cases d with
  | namespaceDeclaration pos isDeclare isModule name body => cases name <;> rfl
  | _ => rfl

theorem isModuleSyntax_asStatement (d : Declaration) : isModuleSyntax d.asStatement = false := by
  cases d <;> rfl

/-! ## Names in parentheses -/

namespace Tree

theorem withoutParentheses_iterate (depth : Nat) (name : String) :
    (parenthesized^[depth] (identifier name)).withoutParentheses = identifier name := by
  induction depth with
  | zero => rfl
  | succ depth ih => rw [Function.iterate_succ_apply', withoutParentheses, ih]

theorem exists_eq_iterate_parenthesized (e : Expression) :
    ∃ depth, e = parenthesized^[depth] e.withoutParentheses := by
  cases e with
  | parenthesized inner =>
    obtain ⟨depth, hinner⟩ := exists_eq_iterate_parenthesized inner
    exact ⟨depth + 1, by rw [Function.iterate_succ_apply', withoutParentheses, ← hinner]⟩
  | _ => exact ⟨0, rfl⟩
termination_by sizeOf e

/-- Inside all of its parentheses an expression is a name exactly if it is the name in some number of parentheses. -/
theorem withoutParentheses_eq_identifier_iff {e : Expression} {name : String} :
    e.withoutParentheses = identifier name ↔ ∃ depth, e = parenthesized^[depth] (identifier name) := by
  constructor
  · intro h
    obtain ⟨depth, he⟩ := exists_eq_iterate_parenthesized e
    exact ⟨depth, h ▸ he⟩
  · rintro ⟨depth, rfl⟩
    exact withoutParentheses_iterate depth name

end Tree

/-! ## One statement -/

/-- A statement that leaves nothing behind: an import, a list of names that are exported, or the default export of a name. -/
inductive LeavesNothing : Statement → Prop
  | importFrom (pos : Nat) (isType : Bool) (phase : Option ImportPhase) (names : Tree (.optional (.many .importName)))
      (specifier : StringValue) (attributes : Tree (.optional .importAttributes)) :
      LeavesNothing (.importFrom pos isType phase names specifier attributes)
  | exportList (pos : Nat) (isType : Bool) (names : Tree (.many .exportName)) :
      LeavesNothing (.exportList pos isType names)
  | exportName (pos depth : Nat) (name : String) :
      LeavesNothing (.exportDefault pos (.defaultValue (Tree.parenthesized^[depth] (.identifier name))))

theorem statement?_flattenDefault_eq_none_iff {pos : Nat} {value : Tree .defaultExport} :
    (flattenDefault pos value).statement? = none ↔
      ∃ depth name, value = .defaultValue (Tree.parenthesized^[depth] (.identifier name)) := by
  cases value with
  | defaultValue e =>
    have hname : (∃ depth name, Tree.defaultValue e = .defaultValue (Tree.parenthesized^[depth] (.identifier name))) ↔
        ∃ name, e.withoutParentheses = .identifier name := by
      simp only [Tree.defaultValue.injEq, Tree.withoutParentheses_eq_identifier_iff]
      exact exists_comm
    rw [hname, flattenDefault]
    split
    · next name heq => simp [Flattened.statement?, heq]
    · next hother =>
      have hnone : ¬∃ name, e.withoutParentheses = .identifier name := fun ⟨name, hname⟩ => hother name hname
      simp [Flattened.statement?, hnone]
  | defaultFunction inner f => simp [flattenDefault, Flattened.statement?]
  | defaultClass inner c => simp [flattenDefault, Flattened.statement?]
  | defaultInterface declaration => simp [flattenDefault, Flattened.statement?]

/-- **Only imports, lists of names and default exports of a name leave nothing behind.** -/
theorem statement?_flatten_eq_none_iff (s : Statement) : (flatten s).statement? = none ↔ LeavesNothing s := by
  constructor
  · intro h
    cases s with
    | importFrom => exact .importFrom ..
    | exportList => exact .exportList ..
    | exportDefault pos value =>
      obtain ⟨depth, name, rfl⟩ := statement?_flattenDefault_eq_none_iff.mp h
      exact .exportName pos depth name
    | _ => exact absurd h (Option.some_ne_none _)
  · intro h
    cases h with
    | importFrom => rfl
    | exportList => rfl
    | exportName pos depth name => exact statement?_flattenDefault_eq_none_iff.mpr ⟨depth, name, rfl⟩

/-- What is neither import nor export stays as it is. -/
theorem flatten_of_not_isModuleSyntax {s : Statement} (h : isModuleSyntax s = false) : flatten s = .kept s := by
  cases s with
  | importFrom | exportDeclaration | exportList | exportFrom | exportDefault | exportAll | exportAssign
  | exportNamespace => simp [isModuleSyntax] at h
  | _ => rfl

theorem declarations_flattenDefault (pos : Nat) (value : Tree .defaultExport) :
    (flattenDefault pos value).statement?.toList.flatMap Tree.declarations = value.declarations := by
  unfold flattenDefault
  split
  · exact List.flatMap_singleton _ _
  · exact List.flatMap_singleton _ _
  · next declaration => exact (List.flatMap_singleton _ _).trans declaration.declarations_asStatement
  · split <;> rfl

/-- A statement leaves its names behind. -/
theorem declarations_flatten (s : Statement) :
    (flatten s).statement?.toList.flatMap Tree.declarations = s.declarations := by
  cases s with
  | importFrom => rfl
  | exportList => rfl
  | exportDefault pos value => exact declarations_flattenDefault pos value
  | exportDeclaration pos declaration =>
    exact (List.flatMap_singleton _ _).trans declaration.declarations_asStatement
  | _ => exact List.flatMap_singleton _ _

/-! ## Bodies -/

theorem flattenBody_append (first second : List Statement) :
    (flattenBody (first ++ second)).statements = (flattenBody first).statements ++ (flattenBody second).statements := by
  simp [flattenBody]

theorem flattenBody_cons (s : Statement) (rest : List Statement) :
    (flattenBody (s :: rest)).statements = (flatten s).statement?.toList ++ (flattenBody rest).statements := by
  cases h : (flatten s).statement? <;> simp [flattenBody, h]

/-- The names that are declared stay, in their order. -/
theorem declarations_flattenBody (body : List Statement) :
    (flattenBody body).statements.flatMap Tree.declarations = body.flatMap Tree.declarations := by
  induction body with
  | nil => rfl
  | cons s body ih => rw [flattenBody_cons, List.flatMap_append, declarations_flatten, ih, List.flatMap_cons]

/-- The statements that are neither imports nor exports stay, in their order. -/
theorem filter_sublist_flattenBody (body : List Statement) :
    (body.filter fun s => !isModuleSyntax s).Sublist (flattenBody body).statements := by
  induction body with
  | nil => exact .slnil
  | cons s body ih =>
    rw [flattenBody_cons]
    by_cases hs : isModuleSyntax s = true
    · rw [List.filter_cons_of_neg (by simp [hs])]
      exact ih.trans (List.sublist_append_right _ _)
    · rw [Bool.not_eq_true] at hs
      rw [List.filter_cons_of_pos (by simp [hs]), flatten_of_not_isModuleSyntax hs]
      exact ih.cons_cons s

/--
**Flattening keeps every declaration and every other statement.**

The names that a body declares are the same before and after, in the same order and as often. The statements that are
neither imports nor exports are all there as they were, in their order. What a statement leaves behind stands between what
the statements before and after it leave: at most one statement, with the same names, which is the statement itself if
that is neither import nor export. Nothing is left exactly of an import declaration, of a list of exported names without a
source, and of the default export of a name in any number of parentheses.
-/
theorem flattenBody_keeps (body : List Statement) :
    (flattenBody body).statements.flatMap Tree.declarations = body.flatMap Tree.declarations ∧
    (body.filter fun s => !isModuleSyntax s).Sublist (flattenBody body).statements ∧
    ∀ before s after, body = before ++ s :: after →
      ∃ left : Option Statement,
        (flattenBody body).statements =
          (flattenBody before).statements ++ left.toList ++ (flattenBody after).statements ∧
        left.toList.flatMap Tree.declarations = s.declarations ∧
        (isModuleSyntax s = false → left = some s) ∧
        (left = none ↔ LeavesNothing s) := by
  refine ⟨declarations_flattenBody body, filter_sublist_flattenBody body, ?_⟩
  rintro before s after rfl
  refine ⟨(flatten s).statement?, ?_, declarations_flatten s, fun hs => ?_, statement?_flatten_eq_none_iff s⟩
  · rw [flattenBody_append, flattenBody_cons, List.append_assoc]
  · rw [flatten_of_not_isModuleSyntax hs]
    rfl

/-- The default export of a name goes, the declaration behind the other export stays, and so does the rest. -/
theorem flattenBody_keeps_default_name :
    ∃ name declaration rest : Statement,
      name = .exportDefault 0 (.defaultValue (.parenthesized (.identifier "a"))) ∧
      declaration = .exportDeclaration 20
        (.variables 27 false .constKind (.cons (.declaratorOf (.patternName "a") .none) .nil)) ∧
      rest = .debugger 40 ∧
      (flattenBody [name, declaration, rest]).statements.flatMap Tree.declarations = ["a"] ∧
      [rest].Sublist (flattenBody [name, declaration, rest]).statements ∧
      (flattenBody [name, declaration, rest]).statements = (flattenBody [declaration, rest]).statements := by
  refine ⟨_, _, _, rfl, rfl, rfl, ?_⟩
  obtain ⟨hdeclared, hkept, hplaced⟩ := flattenBody_keeps
    [.exportDefault 0 (.defaultValue (.parenthesized (.identifier "a"))),
      .exportDeclaration 20 (.variables 27 false .constKind (.cons (.declaratorOf (.patternName "a") .none) .nil)),
      .debugger 40]
  obtain ⟨left, hstatements, -, -, hnone⟩ := hplaced [] _ _ rfl
  obtain rfl : left = none := hnone.mpr (.exportName 0 1 "a")
  exact ⟨hdeclared.trans rfl, hkept, hstatements⟩

end Bundler.Script
