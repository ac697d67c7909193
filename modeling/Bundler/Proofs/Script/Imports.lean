import Bundler.Script.Processor
import Mathlib

/-!
# Import declarations

A module is flattened statement by statement, so an import declaration is found where it is a statement of the module
itself. But a source can have import declarations in other places too, wherever statements stand: in a block, in a
function or a class, in a namespace.

* `Tree.imports` — the specifiers of all import declarations in a tree, at any depth
* `Program.imports_flat` — what flattening leaves of them: all but those that are statements of the module itself
* `specifiers_eq_imports_iff` — all are found and none is left exactly if each is a statement of the module itself
* `nested_import_is_missed` — a module for which this fails
-/

namespace Bundler.Script

/-! ## The imports of a tree -/

/-- The specifiers of the import declarations in a tree, at any depth, in source order. -/
def Tree.imports {c : Category} : Tree c → List StringValue
  | .importFrom _ _ _ names specifier attributes => specifier :: (imports names ++ imports attributes)
  -- No parts.
  | .nil | .none | .identifier _ | .thisValue | .superValue | .null | .boolean _ | .number _ | .bigint _ | .string _
  | .regex _ _ | .metaProperty _ _ | .elementHole | .keyName _ | .keyPrivate _ | .patternName _ | .forNothing
  | .importNamed _ _ _ | .importDefault _ | .importAll _ | .exportNamed _ _ _ | .sourceModule _ | .sourceEntity _
  | .namespaceNothing | .empty _ | .debugger _ | .continueTo _ _ | .breakTo _ _ | .exportNamespace _ _
  | .typeKeyword _ | .typeThis | .typeUnknown | .attributeFlag _ | .attributeText _ _ | .attributeNothing _ _
  | .childText _ | .childNothing _ => []
  -- One part.
  | .some a | .template _ a | .array a _ | .object a _ | .functionValue a | .classValue a | .unary _ a
  | .update _ _ a | .privateIn _ a | .sequence a | .member a _ _ | .privateMember a _ _ | .importCall _ a _
  | .chain a | .await a | .yield _ a | .parenthesized a | .nonNull a | .markupFragment a | .elementItem a
  | .elementSpread a | .argumentItem _ a | .argumentSpread _ a | .keyLiteral a | .keyComputed a
  | .propertyShorthand _ _ a | .propertySpread a | .bodyOf _ a | .targetSimple a | .targetShorthand _ a
  | .parameterThis a | .memberBlock _ a | .forVariables _ a | .forValue a | .forEachVariable _ a | .forEachTarget a
  | .attributeOf a _ | .attributesOf _ a | .namespaceBlock a | .namespaceNested _ a | .evaluation _ a | .block _ a
  | .returning _ a | .labeled _ _ a | .throwing _ a | .variables _ _ _ a | .functionDeclaration _ a
  | .classDeclaration _ a | .enumDeclaration _ _ _ _ a | .namespaceDeclaration _ _ _ _ a | .globalDeclaration _ _ a
  | .importEquals _ _ _ a | .exportDeclaration _ a | .exportList _ _ a | .exportDefault _ a | .exportAll _ _ _ _ a
  | .exportAssign _ a | .defaultFunction _ a | .defaultClass _ a | .defaultInterface a | .defaultValue a
  | .tupleItem a | .tupleOptional a | .tupleRest a | .tupleNamed _ _ a | .typeReference _ a | .typeLiteral a
  | .typeTemplate _ a | .typeArray a | .typeTuple a | .typeUnion a | .typeIntersection a | .typeInfer a
  | .typeParenthesized a | .typeOperation _ a | .typeObject a | .typeQuery _ a | .typePredicate _ _ a
  | .typeNullable a _ | .typeNonNullable a _ | .attributeValue _ a | .attributeElement _ a | .attributeSpread a
  | .childElement a | .childValue a | .childSpread a => imports a
  -- Two parts.
  | .cons a b | .binary _ a b | .logical _ a b | .assign _ a b | .index a b _ | .asType a b | .satisfies a b
  | .typeAssertion a b | .instantiation a b | .propertyValue a b | .propertyMethod _ a b | .patternObject a b
  | .patternArray a b | .patternDefault a b | .patternTyped a _ b | .patternPropertyOf a _ b | .targetObject a b
  | .targetArray a b _ | .targetDefault a b | .targetKeyed a b | .parameterItem a _ _ _ b | .parameterRest a b
  | .heritageOf a b | .memberIndexer _ _ _ _ a b | .declaratorOf a b | .caseOf a b | .enumMemberOf _ a b
  | .handlerOf a b | .whileLoop _ a b | .doLoop _ a b | .withObject _ a b | .switch _ a b | .typeAlias _ _ _ a b
  | .exportFrom _ _ a _ b | .typeParameterOf _ _ _ _ a b | .typeIndexed a b | .typeImportQuery a b
  | .typeProperty _ _ _ a b | .typeIndexer _ _ _ _ a b => imports a ++ imports b
  -- Three parts.
  | .tagged a b _ c | .conditional a b c | .call a b c _ _ _ | .construct a b c _ _ | .markupElement _ a b c
  | .memberMethod _ a _ _ _ _ _ b _ c | .choice _ a b c | .forIn _ a b c | .forOf _ _ a b c | .guarded _ a b c
  | .interfaceDeclaration _ _ _ a b c | .typeMapped _ _ a b _ c | .typeFunction a b c | .typeConstructor _ a b c
  | .typeImport a b _ c | .typeCall _ a b c | .typeConstruct _ a b c => imports a ++ imports b ++ imports c
  -- Four parts.
  | .arrow _ _ a b c d _ _ | .functionOf _ _ _ _ a b c d _ _ | .memberField _ a _ _ _ _ _ _ _ _ _ b c d
  | .forLoop _ a b c d | .typeConditional a b c d | .typeMethod _ _ a _ b c d =>
    imports a ++ imports b ++ imports c ++ imports d
  -- Six parts.
  | .classOf a _ _ _ b c d e f => imports a ++ imports b ++ imports c ++ imports d ++ imports e ++ imports f

/-- The specifier of a statement that is an import declaration. -/
def importSpecifier? : Statement → Option StringValue
  | .importFrom _ _ _ _ specifier _ => some specifier
  | _ => none

namespace Tree

/-- A list of exported names imports nothing. -/
theorem imports_exportNames : (names : Tree (.many .exportName)) → names.imports = []
  | .nil => rfl
  | .cons (.exportNamed _ _ _) rest => imports_exportNames rest

theorem imports_withoutParentheses {c : Category} (t : Tree c) : t.withoutParentheses.imports = t.imports := by
  fun_induction Tree.withoutParentheses t with
  | case1 inner ih => exact ih
  | case2 => rfl

theorem imports_asStatement (d : Declaration) : d.asStatement.imports = d.imports := by
  cases d <;> rfl

end Tree

/-- Lists of which each is a part of another come to the same length only if they are the same. -/
theorem forall_eq_of_length_flatMap {α β : Type} {f g : α → List β} {l : List α}
    (hsub : ∀ a ∈ l, (f a).Sublist (g a)) (h : (l.flatMap f).length = (l.flatMap g).length) :
    ∀ a ∈ l, f a = g a := by
  induction l with
  | nil => exact fun a ha => absurd ha List.not_mem_nil
  | cons a l ih =>
    have hrest : ∀ b ∈ l, (f b).Sublist (g b) := fun b hb => hsub b (List.mem_cons_of_mem _ hb)
    have hfirst := hsub a List.mem_cons_self
    have hle := hfirst.length_le
    have hle' := (List.Sublist.flatMap_right l hrest).length_le
    rw [List.flatMap_cons, List.flatMap_cons, List.length_append, List.length_append] at h
    intro b hb
    rcases List.mem_cons.mp hb with rfl | hb
    · exact hfirst.eq_of_length (by omega)
    · exact ih hrest (by omega) b hb

/-! ## What flattening leaves of them -/

theorem specifier?_flattenDefault (pos : Nat) (value : Tree .defaultExport) :
    (flattenDefault pos value).specifier? = none := by
  unfold flattenDefault
  split
  · rfl
  · rfl
  · rfl
  · split <;> rfl

/-- A default export keeps its imports; a name that goes has none. -/
theorem imports_statement?_flattenDefault (pos : Nat) (value : Tree .defaultExport) :
    (flattenDefault pos value).statement?.elim [] Tree.imports = value.imports := by
  unfold flattenDefault
  split
  · rfl
  · rfl
  · next declaration => exact declaration.imports_asStatement
  · next e =>
    split
    · next name hname =>
      have himports := e.imports_withoutParentheses
      rw [hname] at himports
      exact himports
    · rfl

/-- A specifier is found exactly in a statement that is an import declaration. -/
theorem specifier?_flatten (s : Statement) : (flatten s).specifier? = importSpecifier? s := by
  cases s with
  | exportDefault pos value => exact specifier?_flattenDefault pos value
  | _ => rfl

/-- A statement keeps all its imports, unless it is an import declaration itself. -/
theorem imports_statement?_flatten (s : Statement) :
    (flatten s).statement?.elim [] Tree.imports = if (importSpecifier? s).isSome then [] else s.imports := by
  cases s with
  | exportDefault pos value => exact imports_statement?_flattenDefault pos value
  | exportList pos isType names => exact (Tree.imports_exportNames names).symm
  | exportDeclaration pos declaration => exact declaration.imports_asStatement
  | _ => rfl

/-- The import declaration that a statement is stands among the imports in it. -/
theorem importSpecifier?_sublist (s : Statement) : (importSpecifier? s).toList.Sublist s.imports := by
  cases s with
  | importFrom pos isType phase names specifier attributes => exact (List.nil_sublist _).cons_cons specifier
  | _ => exact List.nil_sublist _

namespace Program

variable (p : Program)

/-- The specifiers of all import declarations of a module, at any depth, in source order. -/
def imports : List StringValue :=
  p.statements.flatMap Tree.imports

/-- The specifiers of the statements of a module that are import declarations. -/
def specifiers : List StringValue :=
  p.statements.filterMap importSpecifier?

/-- The flat module. -/
def flat : Program :=
  { p with statements := (p.statements.map flatten).filterMap Flattened.statement? }

/-- Every import declaration is a statement of the module itself. -/
def ImportsAtTop : Prop :=
  ∀ s ∈ p.statements, s.imports = (importSpecifier? s).toList

/-- Flattening leaves the imports of the statements that are no import declarations themselves. -/
theorem imports_flat :
    p.flat.imports = p.statements.flatMap fun s => if (importSpecifier? s).isSome then [] else s.imports := by
  rw [imports, flat, List.filterMap_map, List.filterMap_eq_flatMap_toList, List.flatMap_assoc]
  refine congrArg (p.statements.flatMap ·) (funext fun s => ?_)
  rw [← imports_statement?_flatten, Function.comp_apply]
  cases (flatten s).statement? with
  | none => rfl
  | some kept => exact List.append_nil _

theorem specifiers_eq_flatMap : p.specifiers = p.statements.flatMap fun s => (importSpecifier? s).toList :=
  List.filterMap_eq_flatMap_toList _ _

theorem specifiers_sublist : p.specifiers.Sublist p.imports := by
  rw [specifiers_eq_flatMap]
  exact List.Sublist.flatMap_right _ fun s _ => importSpecifier?_sublist s

/-- All import declarations are found exactly if each is a statement of the module itself. -/
theorem length_specifiers_eq_iff : p.specifiers.length = p.imports.length ↔ p.ImportsAtTop := by
  rw [specifiers_eq_flatMap]
  constructor
  · intro hlength s hs
    exact (forall_eq_of_length_flatMap (fun s _ => importSpecifier?_sublist s) hlength s hs).symm
  · intro htop
    rw [imports, List.flatMap_congr htop]

/-- If each is a statement of the module itself, none is left. -/
theorem imports_flat_eq_nil (h : p.ImportsAtTop) : p.flat.imports = [] := by
  rw [imports_flat, List.flatMap_eq_nil_iff]
  intro s hs
  cases hspecifier : importSpecifier? s with
  | none =>
    rw [Option.isSome_none, if_neg (by simp), h s hs, hspecifier]
    rfl
  | some specifier => rfl

end Program

/-! ## What is found -/

/-- The code of a processed module is the text of the flat module, and its specifiers are those of its statements. -/
theorem processor_eq_ok {singleQuote : Bool} {path : ModulePath} {source : String} {events : List Event}
    {processed : ProcessedModule} (h : processor singleQuote path source = (events, .ok processed)) :
    ∃ program, Program.ofSource (.ofPath path) source = .ok program ∧
      processed.code = program.flat.text (Dialect.ofPath path).hasMarkup (if singleQuote then '\'' else '"') ∧
      processed.specifiers = program.specifiers.map StringValue.toText := by
  unfold processor at h
  cases hprogram : Program.ofSource (.ofPath path) source with
  | error faults => simp [hprogram] at h
  | ok program =>
    simp only [hprogram] at h
    obtain ⟨-, hprocessed⟩ := Prod.mk.inj h
    obtain rfl := Except.ok.inj hprocessed
    refine ⟨program, rfl, rfl, ?_⟩
    show ((program.statements.map flatten).filterMap Flattened.specifier?).map StringValue.toText = _
    rw [Program.specifiers, List.filterMap_map]
    exact congrArg (List.map _) (List.filterMap_congr fun s _ => specifier?_flatten s)

/--
**All import declarations are found exactly if each is a statement of the module itself.**

Of every text that is accepted the specifiers are those of the statements that are import declarations, in source order,
and the code is the text of the flat module, in which the import declarations inside other statements are left. So the
specifiers are those of all import declarations, at any depth, and none is left in the flat module, exactly if no import
declaration stands inside another statement.
-/
theorem specifiers_eq_imports_iff (singleQuote : Bool) (path : ModulePath) (source : String) :
    ∀ events processed, processor singleQuote path source = (events, .ok processed) →
      ∃ program, Program.ofSource (.ofPath path) source = .ok program ∧
        processed.code = program.flat.text (Dialect.ofPath path).hasMarkup (if singleQuote then '\'' else '"') ∧
        processed.specifiers = program.specifiers.map StringValue.toText ∧
        program.flat.imports =
          program.statements.flatMap (fun s => if (importSpecifier? s).isSome then [] else s.imports) ∧
        (processed.specifiers = program.imports.map StringValue.toText ∧ program.flat.imports = [] ↔
          program.ImportsAtTop) := by
  intro events processed h
  obtain ⟨program, hprogram, hcode, hspecifiers⟩ := processor_eq_ok h
  refine ⟨program, hprogram, hcode, hspecifiers, program.imports_flat, ?_, fun htop => ⟨?_, ?_⟩⟩
  · rintro ⟨hall, -⟩
    rw [hspecifiers] at hall
    have hlength := congrArg List.length hall
    rw [List.length_map, List.length_map] at hlength
    exact program.length_specifiers_eq_iff.mp hlength
  · have hlength := program.length_specifiers_eq_iff.mpr htop
    rw [hspecifiers, program.specifiers_sublist.eq_of_length hlength]
  · exact program.imports_flat_eq_nil htop

theorem specifiers_eq_imports_iff_two :
    ∃ program, Program.ofSource .plain "import'b';f();import'c'" = .ok program ∧ program.ImportsAtTop ∧
      program.imports.map StringValue.toText = ["b", "c"] ∧ program.flat.imports = [] := by
  have hrun : processor false (.ofPath (.ofString "/a.js")) "import'b';f();import'c'" =
      ([], .ok ⟨"f();", ["b", "c"]⟩) := by
    decide +kernel
  obtain ⟨program, hprogram, -, -, -, hiff⟩ := specifiers_eq_imports_iff _ _ _ _ _ hrun
  have hall : (Program.ofSource .plain "import'b';f();import'c'").map (fun p => p.statements.all fun s =>
      s.imports = (importSpecifier? s).toList) = .ok true := by
    decide +kernel
  have hdialect : Dialect.ofPath (.ofPath (.ofString "/a.js")) = .plain := by decide +kernel
  rw [hdialect] at hprogram
  rw [hprogram] at hall
  have htop : program.ImportsAtTop := by
    simpa [Except.map, Program.ImportsAtTop] using hall
  exact ⟨program, hprogram, htop, (hiff.mpr htop).1.symm, (hiff.mpr htop).2⟩

/-- The block is accepted, and the import declaration in it is neither found nor taken out. -/
theorem nested_import_is_missed :
    ∃ program, Program.ofSource .plain "\x7b import './b.js'; \x7d" = .ok program ∧
      program.imports = [.ofText "./b.js"] ∧ program.flat.imports = [.ofText "./b.js"] ∧ ¬program.ImportsAtTop ∧
      processor false (.ofPath (.ofString "/a.js")) "\x7b import './b.js'; \x7d" =
        ([], .ok ⟨"\x7b\n  import \"./b.js\";\n\x7d", []⟩) := by
  have hread : (Program.ofSource .plain "\x7b import './b.js'; \x7d").map
      (fun p => (p.imports, p.flat.imports, p.specifiers)) = .ok ([.ofText "./b.js"], [.ofText "./b.js"], []) := by
    decide +kernel
  cases hprogram : Program.ofSource .plain "\x7b import './b.js'; \x7d" with
  | error faults =>
    rw [hprogram] at hread
    simp [Except.map] at hread
  | ok program =>
    rw [hprogram] at hread
    have hparts := Except.ok.inj hread
    simp only [Prod.mk.injEq] at hparts
    obtain ⟨himports, hflat, hspecifiers⟩ := hparts
    refine ⟨program, rfl, himports, hflat, ?_, by decide +kernel⟩
    rw [← program.length_specifiers_eq_iff, hspecifiers, himports]
    decide

end Bundler.Script
