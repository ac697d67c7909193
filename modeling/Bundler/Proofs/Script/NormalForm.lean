import Bundler.Proofs.Script.Declarations

/-!
# Flat bodies

Flattening reaches its normal form at once. A body is flat if no statement of it would go or be replaced, and that is so
exactly if flattening gives it back (`flattenBody_eq_self_iff`). What a statement leaves is never such a statement again:
a declaration that was exported is no import or export itself (`isStripped_left`).

* `flattenBody_normal_form` — flat bodies are the ones that flattening gives back, and what it gives is flat
-/

namespace Bundler.Script

/-- An import declaration, a default export, or an export of names or of a declaration without a source. -/
def isStripped : Statement → Bool
  | .importFrom _ _ _ _ _ _ | .exportDefault _ _ | .exportDeclaration _ _ | .exportList _ _ _ => true
  | _ => false

/-- No statement is an import declaration, a default export, or a named export without a source. -/
def IsFlat (body : List Statement) : Prop :=
  ∀ s ∈ body, isStripped s = false

instance (body : List Statement) : Decidable (IsFlat body) :=
  inferInstanceAs (Decidable (∀ s ∈ body, isStripped s = false))

/-! ## One statement -/

theorem isStripped_of_not_isModuleSyntax {s : Statement} (h : isModuleSyntax s = false) : isStripped s = false := by
  cases s with
  | importFrom | exportDefault | exportDeclaration | exportList => cases h
  | _ => rfl

theorem flatten_of_not_isStripped {s : Statement} (h : isStripped s = false) : flatten s = .kept s := by
  cases s with
  | importFrom | exportDefault | exportDeclaration | exportList => cases h
  | _ => rfl

/-- What takes the place of a statement that is stripped is neither import nor export. -/
theorem isModuleSyntax_left {s left : Statement} (hs : isStripped s = true)
    (hleft : (flatten s).statement? = some left) : isModuleSyntax left = false := by
  cases s with
  | importFrom | exportList => cases hleft
  | exportDeclaration pos declaration =>
    obtain rfl := Option.some.inj hleft
    exact isModuleSyntax_asStatement declaration
  | exportDefault pos value =>
    cases value with
    | defaultFunction | defaultClass =>
      cases hleft
      rfl
    | defaultInterface declaration =>
      obtain rfl := Option.some.inj hleft
      exact isModuleSyntax_asStatement declaration
    | defaultValue e =>
      rw [flatten, flattenDefault] at hleft
      split at hleft
      · cases hleft
      · cases hleft
        rfl
  | _ => cases hs

/-- The statements that leave themselves are the ones that are not stripped. -/
theorem statement?_flatten_eq_self_iff (s : Statement) :
    (flatten s).statement? = some s ↔ isStripped s = false := by
  constructor
  · intro h
    by_contra hs
    rw [Bool.not_eq_false] at hs
    exact absurd (isStripped_of_not_isModuleSyntax (isModuleSyntax_left hs h)) (by simp [hs])
  · intro h
    rw [flatten_of_not_isStripped h]
    rfl

/-- What a statement leaves stays when it is flattened again. -/
theorem isStripped_left {s left : Statement} (hleft : (flatten s).statement? = some left) :
    isStripped left = false := by
  by_cases hs : isStripped s = true
  · exact isStripped_of_not_isModuleSyntax (isModuleSyntax_left hs hleft)
  · rw [Bool.not_eq_true] at hs
    rw [flatten_of_not_isStripped hs] at hleft
    cases hleft
    exact hs

/-! ## Bodies -/

theorem length_flattenBody_le (body : List Statement) : (flattenBody body).statements.length ≤ body.length := by
  simpa only [flattenBody, List.length_map] using List.length_filterMap_le Flattened.statement? (body.map flatten)

theorem flattenBody_of_isFlat {body : List Statement} (h : IsFlat body) : flattenBody body = ⟨body, []⟩ := by
  have hkept : body.map flatten = body.map .kept :=
    List.map_congr_left fun s hs => flatten_of_not_isStripped (h s hs)
  simp [flattenBody, hkept, List.filterMap_map, Function.comp_def, Flattened.statement?, Flattened.specifier?]

/-- A statement that goes is missed in the end, as no statement ever leaves two. -/
theorem isFlat_of_statements_eq {body : List Statement} (h : (flattenBody body).statements = body) : IsFlat body := by
  induction body with
  | nil => exact List.forall_mem_nil _
  | cons s body ih =>
    rw [flattenBody_cons] at h
    cases hleft : (flatten s).statement? with
    | none =>
      have hlength := congrArg List.length h
      have hle := length_flattenBody_le body
      simp only [hleft, Option.toList_none, List.nil_append, List.length_cons] at hlength
      omega
    | some left =>
      simp only [hleft, Option.toList_some, List.singleton_append, List.cons.injEq] at h
      exact List.forall_mem_cons.mpr ⟨(statement?_flatten_eq_self_iff s).mp (h.1 ▸ hleft), ih h.2⟩

/-- The bodies that flattening gives back, naming no module, are the flat ones. -/
theorem flattenBody_eq_self_iff (body : List Statement) : flattenBody body = ⟨body, []⟩ ↔ IsFlat body :=
  ⟨fun h => isFlat_of_statements_eq (congrArg FlatBody.statements h), flattenBody_of_isFlat⟩

theorem isFlat_flattenBody (body : List Statement) : IsFlat (flattenBody body).statements := by
  intro left hleft
  simp only [flattenBody, List.filterMap_map, List.mem_filterMap, Function.comp_apply] at hleft
  obtain ⟨s, -, hleft⟩ := hleft
  exact isStripped_left hleft

/--
**Flattening reaches its normal form in one pass.**

Flattening gives a body back as it is, without the specifier of a module, exactly if no statement of the body is an import
declaration, a default export, or a named export without a source. Every body is of that form once it is flat, so that
flattening it again changes nothing and names no module.
-/
theorem flattenBody_normal_form (body : List Statement) :
    (flattenBody body = ⟨body, []⟩ ↔ IsFlat body) ∧
    IsFlat (flattenBody body).statements ∧
    flattenBody (flattenBody body).statements = ⟨(flattenBody body).statements, []⟩ :=
  ⟨flattenBody_eq_self_iff body, isFlat_flattenBody body, flattenBody_of_isFlat (isFlat_flattenBody body)⟩

/-- The default export of an interface leaves the interface, and an exported import of a module the import. -/
example : flattenBody [.exportDefault 0 (.defaultInterface (.interfaceDeclaration 15 false "A" .nil .nil .nil)),
      .exportDeclaration 30 (.importEquals 37 false "b" (.sourceModule (.ofText "./b.js")))] =
    ⟨[.interfaceDeclaration 15 false "A" .nil .nil .nil,
      .importEquals 37 false "b" (.sourceModule (.ofText "./b.js"))], []⟩ :=
  rfl

end Bundler.Script
