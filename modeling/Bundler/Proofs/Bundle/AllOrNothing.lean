import Bundler.Bundle.Run
import Bundler.Proofs.Graph.Descent

/-!
# A bundle is written whole or not at all

Discovery only reads. So a bundle whose discovery fails has written nothing, and one whose discovery succeeds is written
in one go, after everything is read. `bundle?_all_or_nothing` compares a bundle with the graph of the same entry, on any
store: the same modules are read, the same failure is passed on, and what is written and reported are views of the map
that the graph shows.
-/

namespace Bundler

variable {read : ModulePath → Except Failure String} {process : Processor}

/-! ## Discovery only reads -/

theorem writes_openingActions (path : ModulePath) : Action.writes (openingActions read process path) = [] := by
  unfold openingActions
  cases read path with
  | error failure => rfl
  | ok text =>
    show Action.writes ((process path text).1.map .logged ++ _) = []
    rw [Action.writes_append, Action.writes_map_logged]
    cases (process path text).2 <;> rfl

theorem writes_after (d : Descent) (actions : List Action) :
    Action.writes (d.after actions).2.1 = Action.writes actions ++ Action.writes d.2.1 := by
  rw [Descent.after, Action.writes_append]

theorem writes_of_descend? :
    (∀ path (modules : ModuleMap) d, modules.descend? read process path = some d → Action.writes d.2.1 = []) ∧
      ∀ paths (modules : ModuleMap) d, modules.descendAll? read process paths = some d → Action.writes d.2.1 = [] := by
  refine ModuleMap.descend?_induction ?failed ?entered ?nil ?seen ?stopped ?wentOn
  case failed => exact fun path modules failure _ => writes_openingActions path
  case entered =>
    intro path modules record below _ ih
    rw [writes_after, writes_openingActions, ih]
    rfl
  case nil => exact fun modules => rfl
  case seen =>
    intro path rest modules others _ ih
    rw [writes_after, ih]
    rfl
  case stopped => exact fun path rest modules below actions failure _ ih => ih
  case wentOn =>
    intro path rest modules below actions others _ ih ihothers
    rw [writes_after, ihothers, List.append_nil]
    exact ih

theorem writes_of_extend? {entry : ModulePath} {modules : ModuleMap} {d : Descent}
    (h : modules.extend? read process entry = some d) : Action.writes d.2.1 = [] := by
  rcases ModuleMap.descend?_of_extend? h with ⟨-, rfl⟩ | ⟨-, hdescend⟩
  · rfl
  · exact writes_of_descend?.1 _ _ _ hdescend

/-- Discovery writes nothing, however it ends. -/
theorem writes_of_collect? {entry : ModulePath} {found : List Action × Except Failure ModuleMap}
    (h : collect? read process entry = some found) : Action.writes found.1 = [] := by
  obtain ⟨⟨modules, actions, result⟩, hextend, rfl⟩ := Option.map_eq_some_iff.mp h
  have hactions : Action.writes actions = [] := writes_of_extend? hextend
  show Action.writes ([.logged (.started .moduleGraph)] ++ actions ++ [_]) = []
  rw [Action.writes_append, Action.writes_append, hactions]
  rfl

/-! ## What is written -/

/-- The modules under their headers, what was found last first. -/
def bundleText (modules : ModuleMap) : String :=
  String.join (modules.discoveryOrder.reverse.map fun (path, record) =>
    "// " ++ path.portable ++ "\n" ++ record.code ++ "\n\n")

/-- The report of a bundle: its modules in the order of the headers, and the bytes of its text in UTF-8. -/
def reportOf (options : Options) (modules : ModuleMap) : Report :=
  { modules := modules.paths.reverse
    output := options.output
    bytes := (bundleText modules).utf8ByteSize }

theorem render_eq_bundleText (modules : ModuleMap) : modules.render = bundleText modules := by
  rw [ModuleMap.render, bundleText, ModuleMap.emissionOrder, ModuleMap.discoveryOrder, List.reverse_reverse]
  rfl

variable {State : Type}

/-- The modules were written in one go after the last read, and the run ended as the store answered. -/
structure WritesBundle (files : FileService State) (options : Options) (state : State) (modules : ModuleMap)
    (bundled : Outcome State Report) : Prop where
  once : ∃ before after, bundled.actions = before ++ .wrote options.output (bundleText modules) :: after ∧
    Action.writes before = [] ∧ Action.writes after = [] ∧ Action.reads after = []
  left : bundled.state = (files.write state options.output (bundleText modules)).1
  refused : ∀ failure, (files.write state options.output (bundleText modules)).2 = .error failure →
    bundled.result = .error failure
  reported : (files.write state options.output (bundleText modules)).2 = .ok () →
    bundled.result = .ok (reportOf options modules)

/-- What a bundle is, given the graph of the same entry. -/
structure BundlesGraph (files : FileService State) (options : Options) (state : State)
    (listed : Outcome State ModuleMap) (bundled : Outcome State Report) : Prop where
  graph_writes : Action.writes listed.actions = []
  graph_left : listed.state = state
  reads : Action.reads bundled.actions = Action.reads listed.actions
  failed : ∀ failure, listed.result = .error failure →
    bundled.result = .error failure ∧ bundled.state = state ∧ Action.writes bundled.actions = []
  found : ∀ modules, listed.result = .ok modules → WritesBundle files options state modules bundled

/-- What follows the writing of the bundle: its duration, and the closing lines if it was written. -/
def closingActions (report : Report) (answer : Except Failure Unit) : List Action :=
  .logged (.completed .writingBundle) ::
    match answer with
    | .error _ => []
    | .ok () => (closingEvents report).map .logged

theorem finish_ok (files : FileService State) (options : Options) (state : State) (done : List Action)
    (modules : ModuleMap) :
    files.finish options state done (.ok modules) =
      { state := (files.write state options.output (bundleText modules)).1
        actions := done ++ [.logged (.started .writingBundle)] ++ .wrote options.output (bundleText modules) ::
          closingActions (reportOf options modules) (files.write state options.output (bundleText modules)).2
        result := (files.write state options.output (bundleText modules)).2.map
          fun _ => reportOf options modules } := by
  unfold FileService.finish FileService.emit
  simp only [render_eq_bundleText, ModuleMap.emissionOrder_map_fst]
  cases (files.write state options.output (bundleText modules)).2 with
  | error failure => simp [Except.map, closingActions]
  | ok _ => simp [Except.map, closingActions, reportOf]

theorem reads_closingActions (report : Report) (answer : Except Failure Unit) :
    Action.reads (closingActions report answer) = [] := by
  cases answer <;> rfl

theorem writes_closingActions (report : Report) (answer : Except Failure Unit) :
    Action.writes (closingActions report answer) = [] := by
  cases answer <;> rfl

theorem reads_finish (files : FileService State) (options : Options) (state : State) (done : List Action)
    (found : Except Failure ModuleMap) :
    Action.reads (files.finish options state done found).actions = Action.reads done := by
  cases found with
  | error failure => rfl
  | ok modules =>
    rw [finish_ok, Action.reads_append, Action.reads_append]
    show Action.reads done ++ [] ++ Action.reads (closingActions _ _) = _
    rw [reads_closingActions, List.append_nil, List.append_nil]

/-- Once the modules are found, the bundle is written and reported. -/
theorem writesBundle_finish (files : FileService State) (options : Options) (state : State) {done : List Action}
    (hdone : Action.writes done = []) (modules : ModuleMap) :
    WritesBundle files options state modules (files.finish options state done (.ok modules)) where
  once := by
    refine ⟨_, _, congrArg Outcome.actions (finish_ok files options state done modules), ?_,
      writes_closingActions _ _, reads_closingActions _ _⟩
    rw [Action.writes_append, hdone]
    rfl
  left := by rw [finish_ok]
  refused := fun failure h => by rw [finish_ok, h]; rfl
  reported := fun h => by rw [finish_ok, h]; rfl

/-! ## A bundle and its graph -/

/--
**A bundle is written whole or not at all, and shows the graph of its entry.**

On any store a bundle and a graph of the same entry both come to an end or neither does. The graph writes nothing. The
bundle reads the same modules in the same order. If the graph fails, the bundle fails with the same failure, before it
has written anything. If the graph succeeds, the bundle writes the text of its modules to the output, once and after the
last read; a refusal is passed on, and else the report lists the modules of the graph in the order of the text, with the
number of bytes of the text.
-/
theorem bundle?_all_or_nothing (files : FileService State) (process : Processor)
    (currentDirectory : Except StoreError Path) (options : Options) (state : State) :
    Option.Rel (BundlesGraph files options state)
      (files.graph? process currentDirectory options state)
      (files.bundle? process currentDirectory options state) := by
  unfold FileService.graph? FileService.bundle?
  cases entryPlace currentDirectory options.entry with
  | error failure =>
    refine .some ⟨rfl, rfl, rfl, fun other h => ⟨?_, rfl, rfl⟩, fun modules h => ?_⟩
    · rw [← Except.error.inj h]
    · simp at h
  | ok entry =>
    show Option.Rel _ ((collect? (files.read state) process entry).map _)
      ((collect? (files.read state) process entry).map _)
    cases hcollect : collect? (files.read state) process entry with
    | none => exact .none
    | some found =>
      obtain ⟨collecting, found⟩ := found
      have hcollecting : Action.writes collecting = [] := writes_of_collect? hcollect
      have hdone : Action.writes ((openingEvents entry options.output).map .logged ++ collecting) = [] := by
        rw [Action.writes_append, Action.writes_map_logged, hcollecting, List.append_nil]
      refine .some ⟨hcollecting, rfl, ?_, ?_, ?_⟩
      · show Action.reads (files.finish options state _ found).actions = Action.reads collecting
        rw [reads_finish, Action.reads_append, Action.reads_map_logged, List.nil_append]
      · rintro failure rfl
        exact ⟨rfl, rfl, hdone⟩
      · rintro modules rfl
        exact writesBundle_finish files options state hdone modules

end Bundler
