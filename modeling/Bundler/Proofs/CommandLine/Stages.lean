import Bundler.CommandLine.Run
import Bundler.Proofs.Bundle.OnFiles
import Bundler.Proofs.Store.Files

/-!
# The stages of a run

A command loads the settings, chooses what to do, discovers the modules and, for a bundle, writes them. A run on a tree of
files either comes through all of these stages (`Succeeds`) or stops at one of them with its failure (`StopsWith`), and
`ends_run` tells what it leaves in either case. No note that is put around a failure on its way out hides it
(`Trouble.report_eq_detailed`).

* `runOn_faithful` — the exit status, the error output and the files that a command line leaves are those of its stages
-/

namespace Bundler.CommandLine

/-! ## Errors on their way out -/

/-- No note hides the failure inside. -/
theorem Trouble.report_eq_detailed {trouble : Trouble} {failure : Failure} (h : trouble.failure? = some failure) :
    trouble.report = failure.detailed := by
  rw [report, h]

/-! ## Stages -/

/-- The settings of the current directory, if it holds any. -/
def loadSettings (currentDirectory : Path) (tree : DirectoryTree) : Except Failure (Option Settings) :=
  (Config.load currentDirectory (settingsFile? tree currentDirectory)).2

/-- The entry: what the command line gives, and else what the settings give. -/
def Command.chosenEntry? (command : Command) (settings : Option Settings) : Option Path :=
  command.entry?.or ((settings.bind Settings.entry).map Path.ofString)

/-- The output: what the command line gives, and else what the settings give, and else `bundle.js`. -/
def Command.chosenOutput (command : Command) (settings : Option Settings) : Path :=
  (command.output?.or ((settings.bind Settings.output).map Path.ofString)).getD (Path.ofString "bundle.js")

/-- What a command chooses to do, given the settings. -/
structure Command.Chooses (command : Command) (settings : Option Settings) (options : Options) : Prop where
  entry : command.chosenEntry? settings = some options.entry
  output : options.output = command.chosenOutput settings
  singleQuote : options.singleQuote = (command.singleQuote || (settings.bind Settings.singleQuote).getD false)

/-- The failure to choose an entry. -/
def noEntry : Failure :=
  .config ("no entry module given on the command line or in " ++ Config.fileName)

/-- A command that writes a bundle. -/
def Command.writes : Command → Bool
  | bundle _ _ _ => true
  | graph _ => false

section

variable (processor : Bool → Processor) (currentDirectory : Path) (tree : DirectoryTree) (command : Command)

/-- A module is reached from the entry by imports. -/
def Reaches (options : Options) : ModulePath → Prop :=
  ReachedOutside (importsOf tree.readModule (processor options.singleQuote)) []
    (entryPath currentDirectory options.entry)

/-- The graph of the entry, or why there is none. -/
def discover (options : Options) : Except Failure ModuleMap :=
  (Bundler.graph DirectoryTree.fileSystem (processor options.singleQuote) currentDirectory options tree).result

/-- A command comes through all stages with what it chooses to do. -/
structure Succeeds (options : Options) : Prop where
  chosen : ∃ settings, loadSettings currentDirectory tree = .ok settings ∧ command.Chooses settings options
  discovered : ∀ path, Reaches processor currentDirectory tree options path →
    ∃ record, load tree.readModule (processor options.singleQuote) path = .ok record
  written : command.writes = true → ∀ modules, discover processor currentDirectory tree options = .ok modules →
    (tree.write options.output (bundleText modules)).2 = .ok ()

/-- A command stops at the first stage that fails. -/
inductive StopsWith : Failure → Prop
  | loading {failure : Failure} (hload : loadSettings currentDirectory tree = .error failure) : StopsWith failure
  | choosing {settings : Option Settings} (hload : loadSettings currentDirectory tree = .ok settings)
      (hnone : command.chosenEntry? settings = none) : StopsWith noEntry
  | discovering {settings : Option Settings} {options : Options} {path : ModulePath} {failure : Failure}
      (hload : loadSettings currentDirectory tree = .ok settings) (hchosen : command.Chooses settings options)
      (hreached : Reaches processor currentDirectory tree options path)
      (hfailed : load tree.readModule (processor options.singleQuote) path = .error failure)
      (hdiscover : discover processor currentDirectory tree options = .error failure) : StopsWith failure
  | writing {settings : Option Settings} {options : Options} {modules : ModuleMap} {failure : Failure}
      (hload : loadSettings currentDirectory tree = .ok settings) (hchosen : command.Chooses settings options)
      (hdiscover : discover processor currentDirectory tree options = .ok modules) (hwrites : command.writes = true)
      (hwrite : (tree.write options.output (bundleText modules)).2 = .error failure) : StopsWith failure

/-- How a run ends: with the files that all stages leave, or with a failure and no file changed. -/
inductive Ends (run : Run DirectoryTree) : Prop
  | succeeded {options : Options} {modules : ModuleMap}
      (hsucceeds : Succeeds processor currentDirectory tree command options)
      (hdiscover : discover processor currentDirectory tree options = .ok modules) (hresult : run.result = .ok ())
      (hstate : run.state =
        if command.writes then (tree.write options.output (bundleText modules)).1 else tree)
  | stopped {failure : Failure} {trouble : Trouble}
      (hstops : StopsWith processor currentDirectory tree command failure) (hresult : run.result = .error trouble)
      (hcause : trouble.failure? = some failure) (hstate : tree.Grows run.state)

end

section

variable {processor : Bool → Processor} {currentDirectory : Path} {tree : DirectoryTree} {command : Command}
  {settings : Option Settings} {options options' : Options} {modules : ModuleMap} {failure : Failure}

theorem Command.Chooses.unique (h : command.Chooses settings options) (h' : command.Chooses settings options') :
    options = options' := by
  obtain ⟨entry, output, singleQuote⟩ := options
  obtain ⟨entry', output', singleQuote'⟩ := options'
  obtain rfl : entry = entry' := Option.some.inj (h.entry.symm.trans h'.entry)
  obtain rfl : output = output' := h.output.trans h'.output.symm
  obtain rfl : singleQuote = singleQuote' := h.singleQuote.trans h'.singleQuote.symm
  rfl

/-- Merging chooses, unless there is no entry. -/
theorem merge_eq (command : Command) (settings : Option Settings) :
    (∃ options, command.Chooses settings options ∧
      Config.merge settings command.entry? command.output? command.singleQuote = .ok options) ∨
    command.chosenEntry? settings = none ∧
      Config.merge settings command.entry? command.output? command.singleQuote = .error noEntry := by
  have hentry : command.entry?.or ((settings.getD Config.noSettings).entry.map Path.ofString) =
      command.chosenEntry? settings := by cases settings <;> rfl
  unfold Config.merge
  simp only [hentry]
  split
  · next hnone => exact .inr ⟨hnone, rfl⟩
  · next entry hsome =>
    refine .inl ⟨_, ⟨hsome, ?_, ?_⟩, rfl⟩
    · cases settings <;> rfl
    · cases settings <;> rfl

theorem Succeeds.unique (h : Succeeds processor currentDirectory tree command options)
    (h' : Succeeds processor currentDirectory tree command options') : options = options' := by
  obtain ⟨settings, hload, hchosen⟩ := h.chosen
  obtain ⟨settings', hload', hchosen'⟩ := h'.chosen
  obtain rfl := Except.ok.inj (hload.symm.trans hload')
  exact hchosen.unique hchosen'

/-- Only one of the two ways is open. -/
theorem StopsWith.not_succeeds (h : StopsWith processor currentDirectory tree command failure) (options : Options) :
    ¬Succeeds processor currentDirectory tree command options := by
  rintro ⟨⟨settings, hloaded, hchosen⟩, hdiscovered, hwritten⟩
  cases h with
  | loading hload =>
    rw [hload] at hloaded
    cases hloaded
  | choosing hload hnone =>
    obtain rfl := Except.ok.inj (hload.symm.trans hloaded)
    rw [hchosen.entry] at hnone
    cases hnone
  | discovering hload hchosen' hreached hfailed hdiscover =>
    obtain rfl := Except.ok.inj (hload.symm.trans hloaded)
    obtain rfl := hchosen'.unique hchosen
    obtain ⟨record, hrecord⟩ := hdiscovered _ hreached
    rw [hfailed] at hrecord
    cases hrecord
  | writing hload hchosen' hdiscover hwrites hwrite =>
    obtain rfl := Except.ok.inj (hload.symm.trans hloaded)
    obtain rfl := hchosen'.unique hchosen
    rw [hwritten hwrites _ hdiscover] at hwrite
    cases hwrite

/-! ## Carrying out what was chosen -/

/-- Discovery that fails stops every command, with no file touched. -/
theorem carryOut_of_discover_error (command : Command)
    (h : discover processor currentDirectory tree options = .error failure) :
    let carried := command.carryOut DirectoryTree.fileSystem processor currentDirectory options tree
    carried.state = tree ∧ ∃ trouble, carried.result = .error trouble ∧ trouble.failure? = some failure := by
  unfold discover at h
  unfold Command.carryOut
  cases command with
  | graph entry =>
    simp only [h]
    exact ⟨state_graph, _, rfl, rfl⟩
  | bundle entry output singleQuote =>
    obtain ⟨hresult, hstate⟩ := bundle_of_graph_error h
    simp only [hresult]
    exact ⟨hstate, _, rfl, rfl⟩

/-- A graph touches no file. -/
theorem carryOut_graph (entry : Option Path) (h : discover processor currentDirectory tree options = .ok modules) :
    let carried := (Command.graph entry).carryOut DirectoryTree.fileSystem processor currentDirectory options tree
    carried.state = tree ∧ carried.result = .ok () := by
  unfold discover at h
  unfold Command.carryOut
  simp only [h]
  exact ⟨state_graph, trivial⟩

/-- A bundle leaves what writing its text leaves, and fails as that does. -/
theorem carryOut_bundle (entry output : Option Path) (singleQuote : Bool)
    (h : discover processor currentDirectory tree options = .ok modules) :
    let carried := (Command.bundle entry output singleQuote).carryOut DirectoryTree.fileSystem processor
      currentDirectory options tree
    carried.state = (tree.write options.output (bundleText modules)).1 ∧
      match (tree.write options.output (bundleText modules)).2 with
      | .ok () => carried.result = .ok ()
      | .error failure => ∃ trouble, carried.result = .error trouble ∧ trouble.failure? = some failure := by
  obtain ⟨hresult, hstate⟩ := bundle_of_graph_ok h
  change (bundle _ _ _ _ _).result = (tree.write options.output (bundleText modules)).2.map _ at hresult
  change (bundle _ _ _ _ _).state = (tree.write options.output (bundleText modules)).1 at hstate
  unfold Command.carryOut
  cases hwrite : (tree.write options.output (bundleText modules)).2 with
  | error failure =>
    simp only [hresult, hwrite, Except.map]
    exact ⟨hstate, _, rfl, rfl⟩
  | ok _ =>
    simp only [hresult, hwrite, Except.map]
    exact ⟨hstate, trivial⟩

/-- What was chosen succeeds, or discovery or writing fails. -/
theorem ends_carryOut (hload : loadSettings currentDirectory tree = .ok settings)
    (hchosen : command.Chooses settings options) :
    Ends processor currentDirectory tree command
      (command.carryOut DirectoryTree.fileSystem processor currentDirectory options tree) := by
  cases hdiscover : discover processor currentDirectory tree options with
  | error failure =>
    obtain ⟨hstate, trouble, hresult, hcause⟩ := carryOut_of_discover_error command hdiscover
    obtain ⟨path, hreached, hfailed⟩ := load_error_of_graph_error hdiscover
    refine .stopped (.discovering hload hchosen hreached hfailed hdiscover) hresult hcause ?_
    rw [hstate]
    exact .refl
  | ok modules =>
    have hdiscovered : ∀ path, Reaches processor currentDirectory tree options path →
        ∃ record, load tree.readModule (processor options.singleQuote) path = .ok record :=
      fun path => load_ok_of_graph_ok hdiscover
    cases command with
    | graph entry =>
      obtain ⟨hstate, hresult⟩ := carryOut_graph entry hdiscover
      exact .succeeded ⟨⟨settings, hload, hchosen⟩, hdiscovered, by simp [Command.writes]⟩ hdiscover hresult hstate
    | bundle entry output singleQuote =>
      obtain ⟨hstate, hresult⟩ := carryOut_bundle entry output singleQuote hdiscover
      cases hwrite : (tree.write options.output (bundleText modules)).2 with
      | error failure =>
        rw [hwrite] at hresult
        obtain ⟨trouble, hresult, hcause⟩ := hresult
        exact .stopped (.writing hload hchosen hdiscover rfl hwrite) hresult hcause
          (hstate ▸ DirectoryTree.grows_of_write_error hwrite)
      | ok _ =>
        rw [hwrite] at hresult
        refine .succeeded ⟨⟨settings, hload, hchosen⟩, hdiscovered, fun _ others hothers => ?_⟩ hdiscover hresult hstate
        obtain rfl := Except.ok.inj (hdiscover.symm.trans hothers)
        exact hwrite

/-! ## Runs -/

/-- What a command is to do is what it chooses once the settings are loaded. -/
theorem options_of_load_ok (command : Command) (h : loadSettings currentDirectory tree = .ok settings) :
    (command.options currentDirectory (settingsFile? tree currentDirectory)).2 =
      Config.merge settings command.entry? command.output? command.singleQuote := by
  show (loadSettings currentDirectory tree).bind _ = _
  rw [h]
  rfl

theorem options_of_load_error (command : Command) (h : loadSettings currentDirectory tree = .error failure) :
    (command.options currentDirectory (settingsFile? tree currentDirectory)).2 = .error failure := by
  show (loadSettings currentDirectory tree).bind _ = _
  rw [h]
  rfl

theorem run_of_options_error {file : Option (Except StoreError String)}
    (h : (command.options currentDirectory file).2 = .error failure) :
    command.run DirectoryTree.fileSystem processor currentDirectory file tree =
      ⟨tree, (command.options currentDirectory file).1.map .logged, .error (.ofFailure failure)⟩ := by
  unfold Command.run
  generalize command.options currentDirectory file = told at h ⊢
  obtain ⟨loading, found⟩ := told
  obtain rfl : found = .error failure := h
  rfl

theorem run_of_options_ok {file : Option (Except StoreError String)}
    (h : (command.options currentDirectory file).2 = .ok options) :
    ∃ actions, command.run DirectoryTree.fileSystem processor currentDirectory file tree =
      { command.carryOut DirectoryTree.fileSystem processor currentDirectory options tree with actions } := by
  unfold Command.run
  generalize command.options currentDirectory file = told at h ⊢
  obtain ⟨loading, found⟩ := told
  obtain rfl : found = .ok options := h
  exact ⟨_, rfl⟩

/-- How a run ends does not depend on what was done meanwhile. -/
theorem Ends.withActions {run : Run DirectoryTree} (h : Ends processor currentDirectory tree command run)
    (actions : List Action) : Ends processor currentDirectory tree command { run with actions } := by
  cases h with
  | succeeded hsucceeds hdiscover hresult hstate => exact .succeeded hsucceeds hdiscover hresult hstate
  | stopped hstops hresult hcause hstate => exact .stopped hstops hresult hcause hstate

/-- **A run comes through all stages or stops at one of them.** -/
theorem ends_run (processor : Bool → Processor) (currentDirectory : Path) (tree : DirectoryTree) (command : Command) :
    Ends processor currentDirectory tree command
      (command.run DirectoryTree.fileSystem processor currentDirectory (settingsFile? tree currentDirectory) tree) := by
  cases hload : loadSettings currentDirectory tree with
  | error failure =>
    rw [run_of_options_error (options_of_load_error command hload)]
    exact .stopped (.loading hload) rfl rfl .refl
  | ok settings =>
    rcases merge_eq command settings with ⟨options, hchosen, hmerge⟩ | ⟨hnone, hmerge⟩
    · obtain ⟨actions, hrun⟩ := run_of_options_ok ((options_of_load_ok command hload).trans hmerge)
      rw [hrun]
      exact (ends_carryOut hload hchosen).withActions actions
    · rw [run_of_options_error ((options_of_load_ok command hload).trans hmerge)]
      exact .stopped (.choosing hload hnone) rfl rfl .refl

/-! ## Command lines -/

section

variable (logVariable : Option String) {arguments : List Word}

theorem runOn_of_parse_error {answer : Answer} (h : parse arguments = .error answer) :
    let transcript := runOn processor currentDirectory logVariable arguments tree
    transcript.state = tree ∧ transcript.exitStatus = answer.exitStatus := by
  simp only [runOn, runIn, h]
  split
  · next hzero => exact ⟨rfl, hzero.symm⟩
  · exact ⟨rfl, rfl⟩

variable {invocation : Invocation}

/-- A run that succeeds shows no errors. -/
theorem runOn_of_result_ok (h : parse arguments = .ok invocation)
    (hresult : (invocation.command.run DirectoryTree.fileSystem processor currentDirectory
      (settingsFile? tree currentDirectory) tree).result = .ok ()) :
    let transcript := runOn processor currentDirectory logVariable arguments tree
    transcript.state = (invocation.command.run DirectoryTree.fileSystem processor currentDirectory
      (settingsFile? tree currentDirectory) tree).state ∧ transcript.exitStatus = 0 ∧ transcript.errors = "" := by
  simp only [runOn, runIn, World.run, h, hresult, and_self]

/-- A run that fails reports its error. -/
theorem runOn_of_result_error (h : parse arguments = .ok invocation) {trouble : Trouble}
    (hresult : (invocation.command.run DirectoryTree.fileSystem processor currentDirectory
      (settingsFile? tree currentDirectory) tree).result = .error trouble) :
    let transcript := runOn processor currentDirectory logVariable arguments tree
    transcript.state = (invocation.command.run DirectoryTree.fileSystem processor currentDirectory
      (settingsFile? tree currentDirectory) tree).state ∧ transcript.exitStatus = 1 ∧
      transcript.errors = trouble.report ++ "\n" := by
  simp only [runOn, runIn, World.run, h, hresult, and_self]

end

end

/--
**A command line is faithful to its stages, and leaves all files or none.**

Where the words of a command line ask for nothing to be done, no file is touched. Otherwise the exit status is 0 exactly
if the settings are loaded, there is an entry, every module that is reached from it can be loaded, and a bundle can be
written. The entry and the output are what the command line gives, and else what the settings give; the output is else
`bundle.js`. A graph then touches no file, and a bundle leaves the text of the graph of its entry at the output, with every
other file as it was. If a stage fails, the exit status is 1, what is printed is the long wording of its failure and nothing
else, and the content of no file has changed.
-/
theorem runOn_faithful (processor : Bool → Processor) (currentDirectory : Path) (logVariable : Option String)
    (arguments : List Word) (tree : DirectoryTree) :
    let transcript := runOn processor currentDirectory logVariable arguments tree
    (∀ answer, parse arguments = .error answer →
      transcript.state = tree ∧ transcript.exitStatus = answer.exitStatus) ∧
    ∀ invocation, parse arguments = .ok invocation →
      (transcript.exitStatus = 0 ↔ ∃ options, Succeeds processor currentDirectory tree invocation.command options) ∧
      (∀ options, Succeeds processor currentDirectory tree invocation.command options →
        transcript.errors = "" ∧ ∃ modules, discover processor currentDirectory tree options = .ok modules ∧
          if invocation.command.writes then
            transcript.state.read options.output = .ok (bundleText modules) ∧
              ∀ location, location ≠ options.output.location tree.current →
                transcript.state.file? location = tree.file? location
          else transcript.state = tree) ∧
      ((∀ options, ¬Succeeds processor currentDirectory tree invocation.command options) →
        transcript.exitStatus = 1 ∧
        (∃ failure, StopsWith processor currentDirectory tree invocation.command failure ∧
          transcript.errors = failure.detailed ++ "\n") ∧
        ∀ location, transcript.state.file? location = tree.file? location) := by
  refine ⟨fun answer => runOn_of_parse_error logVariable, fun invocation hparse => ?_⟩
  cases ends_run processor currentDirectory tree invocation.command with
  | @succeeded options modules hsucceeds hdiscover hresult hstate =>
    obtain ⟨hleft, hexit, herrors⟩ := runOn_of_result_ok logVariable hparse hresult
    refine ⟨iff_of_true hexit ⟨options, hsucceeds⟩, fun options' hsucceeds' => ⟨herrors, modules, ?_⟩,
      fun hnot => (hnot options hsucceeds).elim⟩
    obtain rfl := hsucceeds.unique hsucceeds'
    refine ⟨hdiscover, ?_⟩
    simp only [hleft, hstate]
    split
    · next hwrites =>
      obtain ⟨grown, target, hwritten⟩ := DirectoryTree.exists_writes (hsucceeds.written hwrites modules hdiscover)
      exact ⟨hwritten.read_eq, fun location => hwritten.file?_eq⟩
    · rfl
  | @stopped failure trouble hstops hresult hcause hstate =>
    obtain ⟨hleft, hexit, herrors⟩ := runOn_of_result_error logVariable hparse hresult
    have hnot := hstops.not_succeeds
    refine ⟨iff_of_false (by simp [hexit]) (by simpa using hnot), fun options hsucceeds => (hnot options hsucceeds).elim,
      fun _ => ⟨hexit, ⟨failure, hstops, ?_⟩, fun location => ?_⟩⟩
    · rw [herrors, Trouble.report_eq_detailed hcause]
    · rw [hleft, hstate.file?_eq]

/-! A small site: the settings name the entry, and the command line an output. -/

namespace Site

def place (text : String) : List Name :=
  (Path.ofString text).location []

def tree : DirectoryTree :=
  ⟨place "/work", [(place "/work", .directory), (place "/work/main.js", .file (.text "1;")),
    (place "/work/knit.config.json", .file (.text "\x7b\"entry\": \"main.js\"\x7d"))]⟩

/-- A module stays as it is and imports nothing. -/
def processor (_ : Bool) : Processor := fun _ text =>
  ([], .ok ⟨text, []⟩)

def arguments (output : String) : List Word :=
  ["knit", "bundle", "-o", output].map Utf8.encode

def bundle (output : String) : Transcript DirectoryTree :=
  runOn processor (.ofString "/work") none (arguments output) tree

end Site

/-- A bundle may be written into a new directory, but not below a file. -/
theorem runOn_faithful_site :
    (∃ modules, (Site.bundle "dist/out.js").state.read (.ofString "dist/out.js") = .ok (bundleText modules) ∧
      (Site.bundle "dist/out.js").state.file? (Site.place "/work/main.js") = some (.text "1;")) ∧
    (Site.bundle "main.js/out.js").errors =
      (Failure.write (.ofString "main.js/out.js") .entryExists).detailed ++ "\n" ∧
    ∀ location, (Site.bundle "main.js/out.js").state.file? location = Site.tree.file? location := by
  have hparse : ∀ output ∈ ["dist/out.js", "main.js/out.js"], parse (Site.arguments output) =
      .ok ⟨.bundle none (some (.ofString output)) false, false⟩ := by
    simp only [List.forall_mem_cons]
    exact ⟨by cbv, by cbv, by simp⟩
  constructor
  · have hexit : (Site.bundle "dist/out.js").exitStatus = 0 := by cbv
    obtain ⟨hiff, hsucceeds, -⟩ := (runOn_faithful Site.processor (.ofString "/work") none
      (Site.arguments "dist/out.js") Site.tree).2 _ (hparse _ (by simp))
    obtain ⟨options, hoptions⟩ := hiff.mp hexit
    obtain ⟨-, modules, -, hread, hothers⟩ := hsucceeds options hoptions
    obtain ⟨settings, -, hchosen⟩ := hoptions.chosen
    obtain houtput : options.output = .ofString "dist/out.js" := hchosen.output
    rw [houtput] at hread hothers
    exact ⟨modules, hread, (hothers _ (by decide)).trans (by decide)⟩
  · have hended : ((Site.bundle "main.js/out.js").exitStatus, (Site.bundle "main.js/out.js").errors) =
        (1, (Failure.write (.ofString "main.js/out.js") .entryExists).detailed ++ "\n") := by cbv
    obtain ⟨hexit, herrors⟩ := Prod.mk.inj hended
    obtain ⟨hiff, -, hfails⟩ := (runOn_faithful Site.processor (.ofString "/work") none
      (Site.arguments "main.js/out.js") Site.tree).2 _ (hparse _ (by simp))
    have hnot : ∀ options, ¬Succeeds Site.processor (.ofString "/work") Site.tree _ options :=
      fun options hoptions => absurd (hexit.symm.trans (hiff.mpr ⟨options, hoptions⟩)) (by decide)
    exact ⟨herrors, (hfails hnot).2.2⟩

end Bundler.CommandLine
