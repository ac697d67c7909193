import Bundler.Proofs.Graph.Opening

/-!
# The walk as a recursion

The walk keeps its frames by itself. What it does can be said without them, as a recursion: a path that is in the map is
skipped; any other module is read, processed and recorded, then the same is done for everything it imports, in source
order, and the first failure ends it all.

* `descend?` and `descendAll?` — the recursion
* `descendAll?_of_run?` — a walk does what the recursion does on all the paths that wait in its frames
* `descendFrom?_eq_extend` — from an entry both leave the same map, do the same in the same order and end alike

The recursion has no answer where it does not end.
-/

namespace Bundler

/-- What a recursion leaves: the map, what was done, in order, and how it ended. -/
abbrev Descent := ModuleMap × List Action × Except Failure Unit

namespace Descent

/-- Puts what was done before in front. -/
def after (d : Descent) (actions : List Action) : Descent :=
  (d.1, actions ++ d.2.1, d.2.2)

/-- Goes on from the map that is left, unless something has failed. -/
def andThen (d : Descent) (next : ModuleMap → Option Descent) : Option Descent :=
  match d.2.2 with
  | .error _ => some d
  | .ok () => (next d.1).map fun others => others.after d.2.1

end Descent

namespace ModuleMap

mutual

/-- Reads a module, processes it and adds its record, then goes through what it imports. -/
def descend? (read : ModulePath → Except Failure String) (process : Processor) (path : ModulePath)
    (modules : ModuleMap) : Option Descent :=
  match load read process path with
  | .error failure => some (modules, openingActions read process path, .error failure)
  | .ok record => do
    let below ← modules.insert path record |>.descendAll? read process record.dependencies
    return below.after (openingActions read process path)
partial_fixpoint

/-- Goes through paths in order, skipping those that are in the map when they are reached, up to the first failure. -/
def descendAll? (read : ModulePath → Except Failure String) (process : Processor) (paths : List ModulePath)
    (modules : ModuleMap) : Option Descent :=
  match paths with
  | [] => some (modules, [], .ok ())
  | path :: rest =>
    if modules.contains path then do
      let others ← modules |>.descendAll? read process rest
      return others.after [.logged (.alreadyVisited path)]
    else do
      let below ← modules |>.descend? read process path
      match below.2.2 with
      | .error _ => return below
      | .ok () =>
        let others ← below.1 |>.descendAll? read process rest
        return others.after below.2.1
partial_fixpoint

end

/-- The recursion from an entry; an entry that is in the map is skipped. -/
def descendFrom? (read : ModulePath → Except Failure String) (process : Processor) (entry : ModulePath)
    (modules : ModuleMap) : Option Descent :=
  if modules.contains entry then some (modules, [], .ok ()) else descend? read process entry modules

end ModuleMap

/-! ## Equations -/

namespace Descent

/-- A recursion that is known but for what was done. -/
theorem exists_actions {found : Option Descent} {modules : ModuleMap} {result : Except Failure Unit}
    (h : found.map (fun d => (d.1, d.2.2)) = some (modules, result)) :
    ∃ actions, found = some (modules, actions, result) := by
  obtain ⟨⟨_, actions, _⟩, rfl, heq⟩ := Option.map_eq_some_iff.mp h
  obtain ⟨rfl, rfl⟩ := Prod.mk.inj heq
  exact ⟨actions, rfl⟩

theorem andThen_of_ok {d : Descent} (h : d.2.2 = .ok ()) (next : ModuleMap → Option Descent) :
    d.andThen next = (next d.1).map fun others => others.after d.2.1 := by
  rw [andThen, h]

theorem andThen_after (d : Descent) (actions : List Action) (next : ModuleMap → Option Descent) :
    (d.after actions).andThen next = (d.andThen next).map fun e => e.after actions := by
  obtain ⟨modules, done, result⟩ := d
  cases result with
  | error failure => rfl
  | ok _ =>
    rw [andThen_of_ok rfl, andThen_of_ok rfl]
    simp [after, Function.comp_def]

theorem andThen_andThen (d : Descent) (next last : ModuleMap → Option Descent) :
    (d.andThen next).bind (·.andThen last) = d.andThen fun m => (next m).bind (·.andThen last) := by
  obtain ⟨modules, done, result⟩ := d
  cases result with
  | error failure => rfl
  | ok _ =>
    rw [andThen_of_ok rfl, andThen_of_ok rfl]
    cases next modules with
    | none => rfl
    | some e => exact andThen_after e done last

end Descent

namespace ModuleMap

variable {read : ModulePath → Except Failure String} {process : Processor} {path : ModulePath}
  {modules : ModuleMap}

theorem descend?_of_load_error {failure : Failure} (h : load read process path = .error failure) :
    descend? read process path modules = some (modules, openingActions read process path, .error failure) := by
  rw [descend?, h]

theorem descend?_of_load_ok {record : ModuleRecord} (h : load read process path = .ok record) :
    descend? read process path modules =
      (descendAll? read process record.dependencies (modules.insert path record)).map
        (·.after (openingActions read process path)) := by
  rw [descend?, h]
  show (descendAll? read process record.dependencies (modules.insert path record)).bind _ = _
  cases descendAll? read process record.dependencies (modules.insert path record) <;> rfl

theorem descendAll?_nil : descendAll? read process [] modules = some (modules, [], .ok ()) := by
  rw [descendAll?]

theorem descendAll?_seen (h : modules.contains path = true) (rest : List ModulePath) :
    descendAll? read process (path :: rest) modules =
      (descendAll? read process rest modules).map (·.after [.logged (.alreadyVisited path)]) := by
  rw [descendAll?, if_pos h]
  cases descendAll? read process rest modules <;> rfl

theorem descendAll?_new (h : modules.contains path = false) (rest : List ModulePath) :
    descendAll? read process (path :: rest) modules =
      (descend? read process path modules).bind (·.andThen (descendAll? read process rest)) := by
  rw [descendAll?, if_neg (by simp [h])]
  cases descend? read process path modules with
  | none => rfl
  | some below =>
    obtain ⟨modules', actions, result⟩ := below
    cases result with
    | error failure => rfl
    | ok _ =>
      rw [Option.bind_some, Descent.andThen_of_ok rfl]
      show (descendAll? read process rest modules').bind _ = _
      cases descendAll? read process rest modules' <;> rfl

/-- Paths one after the other: first the ones in front, then, if nothing failed, the others. -/
theorem descendAll?_append (front others : List ModulePath) (modules : ModuleMap) :
    descendAll? read process (front ++ others) modules =
      (descendAll? read process front modules).bind (·.andThen (descendAll? read process others)) := by
  induction front generalizing modules with
  | nil =>
    rw [List.nil_append, descendAll?_nil, Option.bind_some, Descent.andThen_of_ok rfl]
    cases descendAll? read process others modules <;> rfl
  | cons path front ih =>
    rw [List.cons_append]
    by_cases hseen : modules.contains path = true
    · rw [descendAll?_seen hseen, descendAll?_seen hseen, ih, Option.bind_map]
      cases descendAll? read process front modules with
      | none => rfl
      | some d => exact (Descent.andThen_after d _ _).symm
    · rw [Bool.not_eq_true] at hseen
      rw [descendAll?_new hseen, descendAll?_new hseen, Option.bind_assoc]
      congr 1
      funext below
      rw [Descent.andThen_andThen]
      congr 1
      funext m
      exact ih m

/-- What a module imports is gone through where the module stood, in front of the rest. -/
theorem descendAll?_entered {record : ModuleRecord} (hnew : modules.contains path = false)
    (hload : load read process path = .ok record) (rest : List ModulePath) :
    descendAll? read process (path :: rest) modules =
      (descendAll? read process (record.dependencies ++ rest) (modules.insert path record)).map
        (·.after (openingActions read process path)) := by
  rw [descendAll?_new hnew, descend?_of_load_ok hload, descendAll?_append]
  cases descendAll? read process record.dependencies (modules.insert path record) with
  | none => rfl
  | some below => exact Descent.andThen_after below _ _

/-- Induction on a recursion that ends, for both of its functions at once. -/
theorem descend?_induction {one : ModulePath → ModuleMap → Descent → Prop}
    {all : List ModulePath → ModuleMap → Descent → Prop}
    (failed : ∀ path modules failure, load read process path = .error failure →
      one path modules (modules, openingActions read process path, .error failure))
    (entered : ∀ path modules record below, load read process path = .ok record →
      all record.dependencies (modules.insert path record) below →
      one path modules (below.after (openingActions read process path)))
    (nil : ∀ modules, all [] modules (modules, [], .ok ()))
    (seen : ∀ path rest modules others, modules.contains path = true → all rest modules others →
      all (path :: rest) modules (others.after [.logged (.alreadyVisited path)]))
    (stopped : ∀ path rest modules below actions failure, modules.contains path = false →
      one path modules (below, actions, .error failure) →
      all (path :: rest) modules (below, actions, .error failure))
    (wentOn : ∀ path rest modules below actions others, modules.contains path = false →
      one path modules (below, actions, .ok ()) → all rest below others →
      all (path :: rest) modules (others.after actions)) :
    (∀ path modules d, descend? read process path modules = some d → one path modules d) ∧
      ∀ paths modules d, descendAll? read process paths modules = some d → all paths modules d := by
  refine descend?.mutual_partial_correctness read process one all ?single ?several
  case single =>
    intro several ih path modules d h
    cases hload : load read process path with
    | error failure =>
      rw [hload] at h
      rw [← Option.some.inj h]
      exact failed path modules failure hload
    | ok record =>
      rw [hload] at h
      obtain ⟨below, hbelow, hd⟩ := Option.bind_eq_some_iff.mp h
      rw [← Option.some.inj hd]
      exact entered path modules record below hload (ih _ _ _ hbelow)
  case several =>
    intro single several ihone ihall paths modules d h
    match paths, h with
    | [], h =>
      rw [← Option.some.inj h]
      exact nil modules
    | path :: rest, h =>
      by_cases hseen : modules.contains path = true
      · simp only [hseen, if_true] at h
        obtain ⟨others, hothers, hd⟩ := Option.bind_eq_some_iff.mp h
        rw [← Option.some.inj hd]
        exact seen path rest modules others hseen (ihall _ _ _ hothers)
      · simp only [hseen] at h
        rw [Bool.not_eq_true] at hseen
        obtain ⟨⟨below, actions, result⟩, hbelow, h⟩ := Option.bind_eq_some_iff.mp h
        have hone := ihone _ _ _ hbelow
        cases result with
        | error failure =>
          rw [← Option.some.inj h]
          exact stopped path rest modules below actions failure hseen hone
        | ok _ =>
          obtain ⟨others, hothers, hd⟩ := Option.bind_eq_some_iff.mp h
          rw [← Option.some.inj hd]
          exact wentOn path rest modules below actions others hseen hone (ihall _ _ _ hothers)

/-! ## The walk and the recursion -/

/--
**A walk does what the recursion does on all the paths that wait in its frames.**

The innermost frame comes first. Opening a module puts its imports in front of everything that waits, which is where
the recursion goes through them, so the frames say no more than their concatenation.
-/
theorem descendAll?_of_run? {w : Walk} {ended : Walk × Except Failure Unit}
    (h : w.run? read process = some ended) :
    ∃ actions, descendAll? read process w.frames.flatten w.modules =
        some (ended.1.modules, actions, ended.2) ∧
      ended.1.trace = actions.reverse ++ w.trace := by
  refine Walk.run?_induction (motive := fun w ended => ∃ actions,
    descendAll? read process w.frames.flatten w.modules = some (ended.1.modules, actions, ended.2) ∧
      ended.1.trace = actions.reverse ++ w.trace) ?finished ?left ?passed ?failed ?entered h
  case finished => exact fun modules trace => ⟨[], descendAll?_nil, rfl⟩
  case left => exact fun modules outer trace ended ih => ih
  case passed =>
    intro modules path rest outer trace ended hseen ⟨actions, hdescend, htrace⟩
    refine ⟨.logged (.alreadyVisited path) :: actions, ?_, ?_⟩
    · show descendAll? read process (path :: (rest ++ outer.flatten)) modules = _
      rw [descendAll?_seen hseen]
      show (descendAll? read process (rest :: outer).flatten modules).map _ = _
      rw [hdescend]
      rfl
    · rw [htrace, List.reverse_cons, List.append_assoc]
      rfl
  case failed =>
    intro modules path rest outer trace failure hnew hload
    refine ⟨openingActions read process path, ?_, rfl⟩
    show descendAll? read process (path :: (rest ++ outer.flatten)) modules = _
    rw [descendAll?_new hnew, descend?_of_load_error hload]
    rfl
  case entered =>
    intro modules path rest outer trace ended record hnew hload ⟨actions, hdescend, htrace⟩
    refine ⟨openingActions read process path ++ actions, ?_, ?_⟩
    · show descendAll? read process (path :: (rest ++ outer.flatten)) modules = _
      rw [descendAll?_entered hnew hload]
      show (descendAll? read process (record.dependencies :: rest :: outer).flatten _).map _ = _
      rw [hdescend]
      rfl
    · rw [htrace, List.reverse_append, List.append_assoc]

/-- What the walk answers from an entry is what the recursion answers. -/
theorem descendFrom?_of_extend? {entry : ModulePath} {d : Descent}
    (h : modules.extend? read process entry = some d) :
    descendFrom? read process entry modules = some d := by
  unfold descendFrom?
  by_cases hseen : modules.contains entry = true
  · rw [ModuleMap.extend?_of_contains hseen] at h
    rw [if_pos hseen, h]
  · rw [if_neg hseen]
    rw [Bool.not_eq_true] at hseen
    cases hload : load read process entry with
    | error failure => rw [descend?_of_load_error hload, ← extend?_of_load_error hseen hload, h]
    | ok record =>
      rw [extend?_of_load_ok hseen hload] at h
      obtain ⟨ended, hrun, rfl⟩ := Option.map_eq_some_iff.mp h
      obtain ⟨actions, hdescend, htrace⟩ := descendAll?_of_run? hrun
      rw [List.flatten_singleton] at hdescend
      rw [descend?_of_load_ok hload, hdescend]
      simp [Descent.after, Walk.answer, htrace]

/-- A walk has passed over its entry, or the recursion has opened it. -/
theorem descend?_of_extend? {entry : ModulePath} {d : Descent} (h : modules.extend? read process entry = some d) :
    modules.contains entry = true ∧ d = (modules, [], .ok ()) ∨
      modules.contains entry = false ∧ modules.descend? read process entry = some d := by
  have hdescend := descendFrom?_of_extend? h
  unfold descendFrom? at hdescend
  by_cases hseen : modules.contains entry = true
  · rw [if_pos hseen] at hdescend
    exact Or.inl ⟨hseen, (Option.some.inj hdescend).symm⟩
  · rw [if_neg hseen] at hdescend
    exact Or.inr ⟨by simpa using hseen, hdescend⟩

/-- Where only finitely many paths can be read, a walk from a new entry answers what the recursion answers. -/
theorem extend?_eq_descend? (sources : Sources) (process : Processor) {entry : ModulePath}
    (hnew : modules.contains entry = false) :
    modules.extend? sources.read process entry = modules.descend? sources.read process entry := by
  have hdescend := descendFrom?_of_extend? (modules.extend?_eq_some sources process entry)
  rw [descendFrom?, if_neg (by simp [hnew])] at hdescend
  rw [extend?_eq_some, hdescend]

/--
**The walk is the recursion.**

Where only finitely many paths can be read the recursion ends, and from every entry and every map it gives the answer of
the walk: the same map with the same modules in the same order, the same actions in the same order (so the same paths
are read and the same skips are met), and the same end.
-/
theorem descendFrom?_eq_extend (sources : Sources) (process : Processor) (entry : ModulePath)
    (modules : ModuleMap) :
    modules.descendFrom? sources.read process entry = some (modules.extend sources process entry) :=
  descendFrom?_of_extend? (modules.extend?_eq_some sources process entry)

end ModuleMap

end Bundler
