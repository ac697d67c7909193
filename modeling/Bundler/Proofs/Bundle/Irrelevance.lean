import Bundler.Proofs.Bundle.AllOrNothing
import Bundler.Proofs.Graph.Mirror
import Bundler.Proofs.Store.Locality
import Bundler.Script.Processor

/-!
# Files outside the graph are irrelevant

A run asks a store for the modules it reads and for nothing else, so it shows the same on every other store that answers
these questions alike (`bundle?_depends_on_reads`). In particular the bundle itself does not matter, unless it was
written over one of the modules: bundled again, they give the same bytes.

That the output is none of the paths read is not enough for this. The walk reads normalized absolute paths and the output
is written as it is given, so it may lead to a module under another spelling (`bundle_over_its_entry`).

The second run may be on a store of another kind. Each run leaves its own files, and `Outcome.Alike` compares the rest.
-/

namespace Bundler

variable {State State' Result : Type}

/-- Two runs that do the same and end alike, each on files of its own. -/
structure Outcome.Alike (outcome : Outcome State Result) (outcome' : Outcome State' Result) : Prop where
  actions : outcome'.actions = outcome.actions
  result : outcome'.result = outcome.result

/-- To note when it began and when it ended reads nothing. -/
theorem reads_timed (actions : List Action) :
    Action.reads (.logged (.started .moduleGraph) :: actions ++ [.logged (.completed .moduleGraph)]) =
      Action.reads actions := by
  show Action.reads ([.logged (.started .moduleGraph)] ++ actions ++ [.logged (.completed .moduleGraph)]) = _
  rw [Action.reads_append, Action.reads_append]
  exact List.append_nil _

/-- What the modules leave out has no influence on which they are. -/
theorem collect?_congr {read read' : ModulePath → Except Failure String} {process : Processor} {entry : ModulePath}
    {found : List Action × Except Failure ModuleMap} (h : collect? read process entry = some found)
    (hagree : ∀ path ∈ Action.reads found.1, read' path = read path) : collect? read' process entry = some found := by
  obtain ⟨⟨modules, actions, result⟩, hextend, rfl⟩ := Option.map_eq_some_iff.mp h
  have hsame := extend?_congr hextend fun path hpath => hagree path (by rwa [reads_timed])
  rw [collect?, hsame, Option.map_some]

theorem finish_alike {files : FileService State} {files' : FileService State'} {options : Options} {state : State}
    {state' : State'} (done : List Action) {found : Except Failure ModuleMap}
    (hwrite : ∀ modules, found = .ok modules →
      (files'.write state' options.output (bundleText modules)).2 =
        (files.write state options.output (bundleText modules)).2) :
    (files.finish options state done found).Alike (files'.finish options state' done found) := by
  cases found with
  | error failure => exact ⟨rfl, rfl⟩
  | ok modules =>
    rw [finish_ok, finish_ok, hwrite modules rfl]
    exact ⟨rfl, rfl⟩

section

variable {files : FileService State} {files' : FileService State'} {process : Processor}
  {currentDirectory : Except StoreError Path} {options : Options} {state : State} {state' : State'}
  {listed : Outcome State ModuleMap} {entry : ModulePath} {found : List Action × Except Failure ModuleMap}

theorem graph?_of_collect? (hentry : entryPlace currentDirectory options.entry = .ok entry)
    (hcollect : collect? (files.read state) process entry = some found) :
    files.graph? process currentDirectory options state = some ⟨state, found.1, found.2⟩ := by
  simp only [FileService.graph?, hentry, hcollect, Option.map_some]

theorem bundle?_of_collect? (hentry : entryPlace currentDirectory options.entry = .ok entry)
    (hcollect : collect? (files.read state) process entry = some found) :
    files.bundle? process currentDirectory options state =
      some (files.finish options state ((openingEvents entry options.output).map .logged ++ found.1) found.2) := by
  simp only [FileService.bundle?, hentry, hcollect, Option.map_some]

/-- A graph that comes to an end has found its modules, unless there is no entry to begin with. -/
theorem exists_collect?_of_graph? (hlisted : files.graph? process currentDirectory options state = some listed)
    (hentry : entryPlace currentDirectory options.entry = .ok entry) :
    collect? (files.read state) process entry = some (listed.actions, listed.result) := by
  simp only [FileService.graph?, hentry] at hlisted
  obtain ⟨found, hcollect, rfl⟩ := Option.map_eq_some_iff.mp hlisted
  exact hcollect

/-- The graph on another store that answers the same questions alike. -/
theorem graph?_congr (hlisted : files.graph? process currentDirectory options state = some listed)
    (hreads : ∀ path ∈ Action.reads listed.actions, files'.read state' path = files.read state path) :
    ∃ listed', files'.graph? process currentDirectory options state' = some listed' ∧ listed.Alike listed' := by
  cases hentry : entryPlace currentDirectory options.entry with
  | error failure =>
    simp only [FileService.graph?, hentry] at hlisted ⊢
    obtain rfl := Option.some.inj hlisted
    exact ⟨_, rfl, rfl, rfl⟩
  | ok entry =>
    have hcollect := exists_collect?_of_graph? hlisted hentry
    exact ⟨_, graph?_of_collect? hentry (collect?_congr hcollect hreads), rfl, rfl⟩

theorem bundle?_congr (hlisted : files.graph? process currentDirectory options state = some listed)
    (hreads : ∀ path ∈ Action.reads listed.actions, files'.read state' path = files.read state path)
    (hwrite : ∀ modules, listed.result = .ok modules →
      (files'.write state' options.output (bundleText modules)).2 =
        (files.write state options.output (bundleText modules)).2) :
    ∃ bundled bundled', files.bundle? process currentDirectory options state = some bundled ∧
      files'.bundle? process currentDirectory options state' = some bundled' ∧ bundled.Alike bundled' := by
  cases hentry : entryPlace currentDirectory options.entry with
  | error failure =>
    simp only [FileService.bundle?, hentry]
    exact ⟨_, _, rfl, rfl, rfl, rfl⟩
  | ok entry =>
    have hcollect := exists_collect?_of_graph? hlisted hentry
    exact ⟨_, _, bundle?_of_collect? hentry hcollect,
      bundle?_of_collect? hentry (collect?_congr hcollect hreads), finish_alike _ hwrite⟩

/-- Where all modules were found, each of them could be read. -/
theorem exists_text_of_collect? {read : ModulePath → Except Failure String} {modules : ModuleMap}
    {actions : List Action} (h : collect? read process entry = some (actions, .ok modules)) {path : ModulePath}
    (hpath : path ∈ Action.reads actions) : ∃ text, read path = .ok text := by
  obtain ⟨⟨final, done, result⟩, hextend, hanswer⟩ := Option.map_eq_some_iff.mp h
  obtain ⟨rfl, hresult⟩ := Prod.mk.inj hanswer
  cases result with
  | error failure => simp [Except.map] at hresult
  | ok _ =>
    rw [reads_timed] at hpath
    exact exists_text_of_mem_reads hextend hpath

/-- A bundle with a report: its modules were found, and their text was written. -/
theorem written_of_bundle? (hlisted : files.graph? process currentDirectory options state = some listed)
    {bundled : Outcome State Report} {report : Report}
    (hbundled : files.bundle? process currentDirectory options state = some bundled)
    (hreport : bundled.result = .ok report) :
    ∃ entry modules, entryPlace currentDirectory options.entry = .ok entry ∧ listed.result = .ok modules ∧
      (files.write state options.output (bundleText modules)).2 = .ok () ∧
      bundled.state = (files.write state options.output (bundleText modules)).1 := by
  cases hentry : entryPlace currentDirectory options.entry with
  | error failure =>
    simp only [FileService.bundle?, hentry] at hbundled
    obtain rfl := Option.some.inj hbundled
    simp at hreport
  | ok entry =>
    have hcollect := exists_collect?_of_graph? hlisted hentry
    rw [bundle?_of_collect? hentry hcollect] at hbundled
    obtain rfl := Option.some.inj hbundled
    cases hfound : listed.result with
    | error failure => simp [hfound, FileService.finish] at hreport
    | ok modules =>
      simp only [hfound, finish_ok] at hreport ⊢
      refine ⟨entry, modules, rfl, rfl, ?_, rfl⟩
      cases hwrite : (files.write state options.output (bundleText modules)).2 with
      | error failure => simp [hwrite, Except.map] at hreport
      | ok _ => rfl

theorem WritesBundle.writes {modules : ModuleMap} {bundled : Outcome State Report}
    (h : WritesBundle files options state modules bundled) :
    Action.writes bundled.actions = [(options.output, bundleText modules)] := by
  obtain ⟨before, after, hactions, hbefore, hafter, -⟩ := h.once
  rw [hactions, Action.writes_append, hbefore, List.nil_append]
  exact congrArg (_ :: ·) hafter

/-- An entry that imports nothing is the only module read, and the bundle has only its text. -/
theorem exists_bundle_of_imports_nothing (files : FileSystem State) {code : String}
    (hentry : entryPlace currentDirectory options.entry = .ok entry)
    (hload : load (files.sources state).read process entry = .ok ⟨code, []⟩) :
    ∃ listed bundled, files.service.graph? process currentDirectory options state = some listed ∧
      files.service.bundle? process currentDirectory options state = some bundled ∧
      Action.reads listed.actions = [entry] ∧
      WritesBundle files.service options state ⟨[(entry, ⟨code, []⟩)]⟩ bundled := by
  have hextend : ModuleMap.empty.extend? (files.sources state).read process entry =
      some (⟨[(entry, ⟨code, []⟩)]⟩, openingActions (files.sources state).read process entry, .ok ()) := by
    rw [ModuleMap.extend?_eq_descend? _ _ rfl, ModuleMap.descend?_of_load_ok hload, ModuleMap.descendAll?_nil,
      Option.map_some, Descent.after, List.append_nil]
    rfl
  have hcollect : collect? (files.service.read state) process entry = _ := congrArg (Option.map _) hextend
  refine ⟨_, _, graph?_of_collect? hentry hcollect, bundle?_of_collect? hentry hcollect, ?_, ?_⟩
  · exact (reads_timed _).trans (reads_openingActions entry)
  · refine writesBundle_finish files.service options state ?_ _
    rw [Action.writes_append, Action.writes_map_logged, writes_of_collect? hcollect, List.append_nil]

end

/--
**Files outside the graph are irrelevant.**

Let the graph of the modules come to an end on some store, as it does on all files. On every other store which answers the
same to each of its reads, the graph comes to the same end and does the same in the same order. If it also answers the
same to the writing of the bundle, then so does the bundle: the same reads, the same text, the same report or failure.

In particular a bundle that was written can be made once more. Unless the output leads to one of the modules, they are
read with the same texts as before, and the second bundle does what the first one did.
-/
theorem bundle?_depends_on_reads (files : FileService State) (process : Processor)
    (currentDirectory : Except StoreError Path) (options : Options) (state : State) {listed : Outcome State ModuleMap}
    (hlisted : files.graph? process currentDirectory options state = some listed) :
    (∀ (State' : Type) (files' : FileService State') (state' : State'),
      (∀ path ∈ Action.reads listed.actions, files'.read state' path = files.read state path) →
      (∃ listed', files'.graph? process currentDirectory options state' = some listed' ∧ listed.Alike listed') ∧
      ((∀ text, (files'.write state' options.output text).2 = (files.write state options.output text).2) →
        ∃ bundled bundled', files.bundle? process currentDirectory options state = some bundled ∧
          files'.bundle? process currentDirectory options state' = some bundled' ∧ bundled.Alike bundled')) ∧
    ∀ (addressing : files.Addressing) bundled report,
      files.bundle? process currentDirectory options state = some bundled → bundled.result = .ok report →
      (∀ path ∈ Action.reads listed.actions, ¬addressing.leads state options.output path) →
      (∀ path ∈ Action.reads listed.actions, ∃ text,
        files.read state path = .ok text ∧ files.read bundled.state path = .ok text) ∧
      ∃ again, files.bundle? process currentDirectory options bundled.state = some again ∧ bundled.Alike again := by
  refine ⟨fun State' files' state' hreads => ⟨graph?_congr hlisted hreads, fun hwrite => ?_⟩, ?_⟩
  · exact bundle?_congr hlisted hreads fun modules _ => hwrite (bundleText modules)
  · intro addressing bundled report hbundled hreport houtput
    obtain ⟨entry, modules, hentry, hfound, hwrite, hleft⟩ := written_of_bundle? hlisted hbundled hreport
    have hcollect := exists_collect?_of_graph? hlisted hentry
    rw [hfound] at hcollect
    have htexts : ∀ path ∈ Action.reads listed.actions, ∃ text,
        files.read state path = .ok text ∧ files.read bundled.state path = .ok text := by
      intro path hpath
      obtain ⟨text, hread⟩ := exists_text_of_collect? hcollect hpath
      rw [hleft]
      exact ⟨text, hread, addressing.keeps hwrite (houtput path hpath) hread⟩
    have hsame : ∀ path ∈ Action.reads listed.actions, files.read bundled.state path = files.read state path := by
      intro path hpath
      obtain ⟨text, hbefore, hafter⟩ := htexts path hpath
      rw [hbefore, hafter]
    obtain ⟨first, again, hfirst, hagain, halike⟩ := bundle?_congr hlisted hsame fun other hother => by
      obtain rfl := Except.ok.inj (hfound.symm.trans hother)
      rw [hwrite, hleft]
      exact addressing.again (bundleText modules) hwrite
    obtain rfl := Option.some.inj (hbundled.symm.trans hfirst)
    exact ⟨htexts, again, hagain, halike⟩

/-! A small world: a tree with two modules, and an output whose path goes through a directory that is not there yet. -/

namespace Work

def place (text : String) : List Name :=
  (Path.ofString text).location []

def tree : DirectoryTree :=
  ⟨place "/work", [(place "/work", .directory), (place "/work/main.js", .file (.text "./lib.js")),
    (place "/work/lib.js", .file (.text ""))]⟩

/-- The same modules among other files, in a store without directories. -/
def memory : MemoryStore :=
  ⟨[((Path.ofString "/work/lib.js").components, .text ""),
    ((Path.ofString "/work/main.js").components, .text "./lib.js"),
    ((Path.ofString "/work/out.js").components, .text "old")], []⟩

/-- The text of a module is the specifier of what it imports. -/
def processor : Processor := fun _ text =>
  ([], .ok ⟨text, if text = "" then [] else [text]⟩)

def options : Options :=
  ⟨.ofString "main.js", .ofString "dist/../out.js", false⟩

def directory : Path :=
  .ofString "/work"

/-- The bundle of the modules on some store. -/
def bundle? {State : Type} (files : FileSystem State) (state : State) : Option (Outcome State Report) :=
  files.service.bundle? processor (.ok directory) options state

end Work

theorem bundle?_depends_on_reads_work :
    ∃ bundled report again bundled',
      Work.bundle? DirectoryTree.fileSystem Work.tree = some bundled ∧ bundled.result = .ok report ∧
      report.modules = [⟨.root, Work.place "/work/lib.js"⟩, ⟨.root, Work.place "/work/main.js"⟩] ∧
      Work.bundle? DirectoryTree.fileSystem bundled.state = some again ∧ bundled.Alike again ∧
      Work.bundle? MemoryStore.fileSystem Work.memory = some bundled' ∧ bundled.Alike bundled' := by
  have hgraph : (DirectoryTree.fileSystem.service.graph? Work.processor (.ok Work.directory) Work.options Work.tree).map
      (fun listed => Action.reads listed.actions) =
        some [⟨.root, Work.place "/work/main.js"⟩, ⟨.root, Work.place "/work/lib.js"⟩] := by cbv
  have hbundle : (Work.bundle? DirectoryTree.fileSystem Work.tree).map Outcome.result =
      some (.ok ⟨[⟨.root, Work.place "/work/lib.js"⟩, ⟨.root, Work.place "/work/main.js"⟩], Work.options.output, 45⟩) := by
    cbv
  obtain ⟨listed, hlisted, hreads⟩ := Option.map_eq_some_iff.mp hgraph
  obtain ⟨bundled, hbundled, hreport⟩ := Option.map_eq_some_iff.mp hbundle
  obtain ⟨hothers, hagain⟩ := bundle?_depends_on_reads DirectoryTree.fileSystem.service Work.processor
    (.ok Work.directory) Work.options Work.tree hlisted
  -- the other store answers alike
  have hmemory : ∀ path ∈ Action.reads listed.actions,
      MemoryStore.fileSystem.service.read Work.memory path = DirectoryTree.fileSystem.service.read Work.tree path := by
    rw [hreads]
    decide
  have hwrite : ∀ text, (MemoryStore.fileSystem.service.write Work.memory Work.options.output text).2 =
      (DirectoryTree.fileSystem.service.write Work.tree Work.options.output text).2 := fun text => rfl
  obtain ⟨first, bundled', hfirst, hbundled', halike'⟩ := (hothers MemoryStore _ Work.memory hmemory).2 hwrite
  obtain rfl := Option.some.inj (hbundled.symm.trans hfirst)
  -- and the output leads to neither module
  have houtput : ∀ path ∈ Action.reads listed.actions,
      ¬DirectoryTree.addressing.leads Work.tree Work.options.output path := by
    simp only [hreads, DirectoryTree.addressing_leads]
    decide
  obtain ⟨-, again, hagain, halike⟩ := hagain DirectoryTree.addressing bundled _ hbundled hreport houtput
  exact ⟨bundled, _, again, bundled', hbundled, hreport, rfl, hagain, halike, hbundled', halike'⟩

/-! Another one: a tree with one module, and an output that leads to it under another spelling. -/

namespace Overwritten

def tree : DirectoryTree :=
  ⟨Work.place "/work/project/app", [(Work.place "/work", .directory), (Work.place "/work/project", .directory),
    (Work.place "/work/project/app", .directory), (Work.place "/work/project/app/main.js", .file (.text "f();"))]⟩

def options : Options :=
  ⟨.ofString "main.js", .ofString "dist/../main.js", false⟩

def directory : Path :=
  .ofString "/work/project/app"

def main : ModulePath :=
  .ofPath (.ofString "/work/project/app/main.js")

/-- The modules of the first bundle. -/
def found : ModuleMap :=
  ⟨[(main, ⟨"f();", []⟩)]⟩

/-- The tree with the first bundle in it. -/
def written : DirectoryTree :=
  (tree.write options.output (bundleText found)).1

/-- The module as it is processed before and after it was written over: what was a header is a comment of the code. -/
theorem load_eq_ok :
    load tree.sources.read (Script.processor false) main = .ok ⟨"f();", []⟩ ∧
      load written.sources.read (Script.processor false) main =
        .ok ⟨"// /work/project/app/main.js\nf();", []⟩ := by
  decide +kernel

end Overwritten

/-- The output is none of the paths read and the bundle is written, but it is written over the entry: the entry is read
with another text afterwards, and the second bundle is another one. -/
theorem bundle_over_its_entry :
    ∃ listed bundled report again,
      DirectoryTree.fileSystem.service.graph? (Script.processor false) (.ok Overwritten.directory) Overwritten.options
        Overwritten.tree = some listed ∧
      DirectoryTree.fileSystem.service.bundle? (Script.processor false) (.ok Overwritten.directory) Overwritten.options
        Overwritten.tree = some bundled ∧ bundled.result = .ok report ∧
      (∀ path ∈ Action.reads listed.actions, path.components ≠ Overwritten.options.output.components) ∧
      (∃ path ∈ Action.reads listed.actions,
        bundled.state.sources.read path ≠ Overwritten.tree.sources.read path) ∧
      DirectoryTree.fileSystem.service.bundle? (Script.processor false) (.ok Overwritten.directory) Overwritten.options
        bundled.state = some again ∧ Action.writes again.actions ≠ Action.writes bundled.actions := by
  obtain ⟨hfirst, hsecond⟩ := Overwritten.load_eq_ok
  have hentry : entryPlace (.ok Overwritten.directory) Overwritten.options.entry = .ok Overwritten.main := by
    decide +kernel
  obtain ⟨listed, bundled, hlisted, hbundled, hreads, hwrites⟩ :=
    exists_bundle_of_imports_nothing DirectoryTree.fileSystem hentry hfirst
  obtain ⟨-, again, -, hagain, -, hwrites'⟩ := exists_bundle_of_imports_nothing DirectoryTree.fileSystem hentry hsecond
  have hleft : bundled.state = Overwritten.written := hwrites.left
  refine ⟨listed, bundled, _, again, hlisted, hbundled, hwrites.reported (by decide +kernel), ?_, ?_,
    by rw [hleft]; exact hagain, ?_⟩
  · rw [hreads]
    decide +kernel
  · rw [hreads, hleft]
    exact ⟨Overwritten.main, List.mem_singleton_self _, by decide +kernel⟩
  · rw [hwrites.writes, hwrites'.writes]
    decide +kernel

end Bundler
