import Bundler.Proofs.Graph.Imports

/-!
# The order of the bundle

The bundle lists what was discovered last first. This is the reverse of a pre-order and not a post-order, so a module may
stand in front of something it imports: in a diamond the shared module is discovered through its first importer and
listed before that one only. What does hold rests on one fact about pre-orders: whatever is discovered, except the entry,
is discovered behind a module that imports it (`discoveredBefore_importer`).

* `emission_order` — the entry comes last, every other module comes before the first of its importers, and exceptions to
  "imports first" have one of two causes
-/

namespace Bundler

namespace ModuleMap

/-- One module was discovered before the other. -/
def DiscoveredBefore (modules : ModuleMap) : ModulePath → ModulePath → Prop :=
  Precedes modules.paths

/-- One module stands in the bundle before the other. -/
def EmittedBefore (modules : ModuleMap) : ModulePath → ModulePath → Prop :=
  Precedes (modules.emissionOrder.map Prod.fst)

theorem emittedBefore_iff {modules : ModuleMap} {first second : ModulePath} :
    modules.EmittedBefore first second ↔ modules.DiscoveredBefore second first := by
  rw [EmittedBefore, emissionOrder_map_fst, precedes_reverse, DiscoveredBefore]

end ModuleMap

/-! ## A map found from an entry -/

/-- All modules of the map were discovered from the entry, in depth-first pre-order. -/
def DiscoveredFrom (read : ModulePath → Except Failure String) (process : Processor) (entry : ModulePath)
    (modules : ModuleMap) : Prop :=
  DepthFirst (importsOf read process) [] [entry] modules.paths ∧ Adds read process .empty modules.paths modules

variable {read : ModulePath → Except Failure String} {process : Processor} {entry : ModulePath}
  {modules : ModuleMap} {m d : ModulePath}

theorem discoveredFrom_of_extend? {actions : List Action}
    (h : ModuleMap.empty.extend? read process entry = some (modules, actions, .ok ())) :
    DiscoveredFrom read process entry modules := by
  cases followsPreorder_of_extend? h with
  | ok horder hadds =>
    obtain rfl : modules.paths = _ := hadds.paths_eq
    exact ⟨horder, hadds⟩

namespace DiscoveredFrom

variable (h : DiscoveredFrom read process entry modules)

include h

theorem nodup : modules.paths.Nodup :=
  h.1.nodup

theorem imports_iff : modules.Imports m d ↔ m ∈ modules.paths ∧ d ∈ importsOf read process m := by
  rw [h.2.imports_iff]
  simp [ModuleMap.Imports, ModuleMap.empty, ModuleMap.discoveryOrder]

theorem imported_mem (himports : modules.Imports m d) : d ∈ modules.paths := by
  obtain ⟨hm, hd⟩ := h.imports_iff.mp himports
  exact h.2.imported_mem h.1 hm hd

theorem chain (hd : d ∈ modules.paths) : modules.Chain entry d :=
  h.2.chain_of_mem h.1 hd

theorem paths_head? : modules.paths.head? = some entry := by
  obtain ⟨below, hpaths, -⟩ := (DepthFirst.singleton_iff (by simp)).mp h.1
  rw [hpaths, List.head?_cons]

/-- What is not the entry is discovered behind a module that imports it. -/
theorem discoveredBefore_importer (hd : d ∈ modules.paths) (hne : d ≠ entry) :
    ∃ importer, modules.Imports importer d ∧ modules.DiscoveredBefore importer d := by
  rcases h.1.mem_roots_or_found d hd with hroot | ⟨importer, himports, hprec⟩
  · exact absurd (List.mem_singleton.mp hroot) hne
  · exact ⟨importer, h.imports_iff.mpr ⟨hprec.left_mem, himports⟩, hprec⟩

/-- Of the importers of a module that is not the entry, the first one is discovered before all others and before the
module itself. -/
theorem exists_firstImporter (hd : d ∈ modules.paths) (hne : d ≠ entry) :
    ∃ first, modules.Imports first d ∧ modules.DiscoveredBefore first d ∧
      ∀ m, modules.Imports m d → m = first ∨ modules.DiscoveredBefore first m := by
  obtain ⟨importer, himports, hbefore⟩ := h.discoveredBefore_importer hd hne
  obtain ⟨first, -, hfirst, hleast⟩ := exists_first (p := (modules.Imports · d)) himports.importer_mem himports
  refine ⟨first, hfirst, ?_, fun m hm => hleast m hm.importer_mem hm⟩
  rcases hleast importer himports.importer_mem himports with rfl | hprec
  · exact hbefore
  · exact hprec.trans hbefore h.nodup

/-- A module that stands behind one of its importers is the entry, or it has an earlier importer. -/
theorem emittedBefore_imported (himports : modules.Imports m d) (hemitted : modules.EmittedBefore m d) :
    d = entry ∧ Relation.TransGen modules.Imports d m ∨
      ∃ other, other ≠ m ∧ modules.Imports other d ∧ modules.DiscoveredBefore other m := by
  have hbefore : modules.DiscoveredBefore d m := ModuleMap.emittedBefore_iff.mp hemitted
  by_cases hentry : d = entry
  · left
    refine ⟨hentry, ?_⟩
    rcases Relation.reflTransGen_iff_eq_or_transGen.mp (h.chain himports.importer_mem) with heq | hchain
    · exact absurd (hentry.trans heq.symm) (hbefore.ne h.nodup)
    · exact hentry ▸ hchain
  · right
    obtain ⟨first, hfirst, hfound, -⟩ := h.exists_firstImporter (h.imported_mem himports) hentry
    have hearlier : modules.DiscoveredBefore first m := hfound.trans hbefore h.nodup
    exact ⟨first, hearlier.ne h.nodup, hfirst, hearlier⟩

/-- Where imports form a tree, all that a module imports comes before it, however far away. -/
theorem emittedBefore_of_tree (hacyclic : ∀ m, ¬Relation.TransGen modules.Imports m m)
    (hsingle : ∀ m m' d, modules.Imports m d → modules.Imports m' d → m = m')
    (hchain : Relation.TransGen modules.Imports m d) : modules.EmittedBefore d m := by
  have hone : ∀ {m d}, modules.Imports m d → modules.EmittedBefore d m := by
    intro m d himports
    have hne : d ≠ m := by
      rintro rfl
      exact hacyclic d (.single himports)
    rcases precedes_or_precedes himports.importer_mem (h.imported_mem himports) hne.symm with hbefore | hbehind
    · exact ModuleMap.emittedBefore_iff.mpr hbefore
    · rcases h.emittedBefore_imported himports (ModuleMap.emittedBefore_iff.mpr hbehind) with
        ⟨-, hback⟩ | ⟨other, hother, himports', -⟩
      · exact absurd (hback.tail himports) (hacyclic d)
      · exact absurd (hsingle other m d himports' himports) hother
  induction hchain with
  | single himports => exact hone himports
  | tail _ himports ih =>
    have hlast := ModuleMap.emittedBefore_iff.mp (hone himports)
    exact ModuleMap.emittedBefore_iff.mpr ((ModuleMap.emittedBefore_iff.mp ih).trans hlast h.nodup)

end DiscoveredFrom

/-! ## The guarantee -/

/--
**What a bundle lists first.**

When a walk from an empty map succeeds, the entry is listed last, and every other module before the earliest discovered
of the modules that import it. So if a module is listed before something else that it imports, then this is the entry,
from which a chain of imports leads back to the module, or another module that was discovered earlier imports it too. If
no chain of imports returns to where it began and nothing is imported twice, then every module is listed after all that
it imports, directly or through others.
-/
theorem emission_order {actions : List Action}
    (h : ModuleMap.empty.extend? read process entry = some (modules, actions, .ok ())) :
    (modules.emissionOrder.map Prod.fst).getLast? = some entry ∧
    (∀ d ∈ modules.paths, d ≠ entry → ∃ first, modules.Imports first d ∧
      (∀ m, modules.Imports m d → m = first ∨ modules.DiscoveredBefore first m) ∧
      modules.EmittedBefore d first) ∧
    (∀ m d, modules.Imports m d → d ≠ m → modules.EmittedBefore m d →
      d = entry ∧ Relation.TransGen modules.Imports d m ∨
        ∃ other, other ≠ m ∧ modules.Imports other d ∧ modules.DiscoveredBefore other m) ∧
    ((∀ m, ¬Relation.TransGen modules.Imports m m) →
      (∀ m m' d, modules.Imports m d → modules.Imports m' d → m = m') →
      ∀ m d, Relation.TransGen modules.Imports m d → modules.EmittedBefore d m) := by
  have hfrom := discoveredFrom_of_extend? h
  refine ⟨?_, fun d hd hne => ?_, fun m d himports _ hemitted => ?_, fun hacyclic hsingle m d hchain => ?_⟩
  · rw [ModuleMap.emissionOrder_map_fst, List.getLast?_reverse, hfrom.paths_head?]
  · obtain ⟨first, hfirst, hbefore, hleast⟩ := hfrom.exists_firstImporter hd hne
    exact ⟨first, hfirst, hleast, ModuleMap.emittedBefore_iff.mpr hbefore⟩
  · exact hfrom.emittedBefore_imported himports hemitted
  · exact hfrom.emittedBefore_of_tree hacyclic hsingle hchain

/-! A small world: the entry imports two modules, the first of which imports a third one, and so may the second. -/

namespace Diamond

def main : ModulePath := .ofPath (.ofString "/main.js")

def left : ModulePath := .ofPath (.ofString "/left.js")

def right : ModulePath := .ofPath (.ofString "/right.js")

def shared : ModulePath := .ofPath (.ofString "/shared.js")

def store : RecordedStore :=
  ⟨[(main, .ok "entry"), (left, .ok "side"), (right, .ok "other side"), (shared, .ok "end")], none⟩

/-- Reads off the text of a module what it imports; the second side imports something if both sides do. -/
def processor (both : Bool) : Processor := fun _ text =>
  ([], .ok ⟨text,
    if text = "entry" then ["./left.js", "./right.js"]
    else if text = "side" ∨ text = "other side" ∧ both then ["./shared.js"]
    else []⟩)

/-- The map that a walk from the entry leaves. -/
def found (both : Bool) : ModuleMap :=
  ⟨[(right, ⟨"other side", if both then [shared] else []⟩), (shared, ⟨"end", []⟩), (left, ⟨"side", [shared]⟩),
    (main, ⟨"entry", [left, right]⟩)]⟩

theorem extend?_main (both : Bool) : ∃ actions,
    ModuleMap.empty.extend? store.read (processor both) main = some (found both, actions, .ok ()) := by
  refine Descent.exists_actions ?_
  cases both <;> cbv

theorem imports_found {both : Bool} {m d : ModulePath} (h : (found both).Imports m d) :
    m = main ∧ (d = left ∨ d = right) ∨ (m = left ∨ m = right ∧ both) ∧ d = shared := by
  obtain ⟨record, hmem, hd⟩ := h
  simp only [found, ModuleMap.discoveryOrder, List.reverse_cons, List.reverse_nil, List.nil_append,
    List.cons_append, List.mem_cons, List.not_mem_nil, or_false, Prod.mk.injEq] at hmem
  rcases hmem with ⟨rfl, rfl⟩ | ⟨rfl, rfl⟩ | ⟨rfl, rfl⟩ | ⟨rfl, rfl⟩ <;> simp at hd
  · exact Or.inl ⟨rfl, hd⟩
  · exact Or.inr ⟨Or.inl rfl, hd⟩
  · exact Or.inr ⟨Or.inr ⟨rfl, hd.1⟩, hd.2⟩

/-- How many imports lead to a module. -/
def depth (m : ModulePath) : Nat :=
  if m = main then 0 else if m = shared then 2 else 1

theorem depth_lt {both : Bool} {m d : ModulePath} (h : (found both).Imports m d) : depth m < depth d := by
  rcases imports_found h with ⟨rfl, rfl | rfl⟩ | ⟨rfl | ⟨rfl, -⟩, rfl⟩ <;> decide

theorem acyclic {both : Bool} (m : ModulePath) : ¬Relation.TransGen (found both).Imports m m := by
  have hlt : ∀ {m d}, Relation.TransGen (found both).Imports m d → depth m < depth d := by
    intro m d h
    induction h with
    | single h => exact depth_lt h
    | tail _ h ih => exact ih.trans (depth_lt h)
  exact fun h => Nat.lt_irrefl _ (hlt h)

theorem importer_eq {m d : ModulePath} (h : (found false).Imports m d) :
    m = if d = shared then left else main := by
  rcases imports_found h with ⟨rfl, rfl | rfl⟩ | ⟨rfl | ⟨rfl, hboth⟩, rfl⟩
  · decide
  · decide
  · decide
  · simp at hboth

end Diamond

theorem emission_order_diamond :
    (∃ modules actions,
      ModuleMap.empty.extend? Diamond.store.read (Diamond.processor true) Diamond.main =
        some (modules, actions, .ok ()) ∧
      modules.emissionOrder.map Prod.fst = [Diamond.right, Diamond.shared, Diamond.left, Diamond.main] ∧
      ∃ other, other ≠ Diamond.right ∧ modules.Imports other Diamond.shared ∧
        modules.DiscoveredBefore other Diamond.right) ∧
    ∃ modules actions,
      ModuleMap.empty.extend? Diamond.store.read (Diamond.processor false) Diamond.main =
        some (modules, actions, .ok ()) ∧
      modules.EmittedBefore Diamond.shared Diamond.main := by
  constructor
  · obtain ⟨actions, hrun⟩ := Diamond.extend?_main true
    refine ⟨_, actions, hrun, rfl, ?_⟩
    have himports : (Diamond.found true).Imports Diamond.right Diamond.shared :=
      ⟨⟨"other side", [Diamond.shared]⟩, by simp [Diamond.found, ModuleMap.discoveryOrder], by simp⟩
    have hemitted : (Diamond.found true).EmittedBefore Diamond.right Diamond.shared :=
      precedes_cons_of_mem (by simp)
    rcases (emission_order hrun).2.2.1 _ _ himports (by decide) hemitted with ⟨hentry, -⟩ | hother
    · exact absurd hentry (by decide)
    · exact hother
  · obtain ⟨actions, hrun⟩ := Diamond.extend?_main false
    refine ⟨_, actions, hrun, ?_⟩
    have hfirst : (Diamond.found false).Imports Diamond.main Diamond.left :=
      ⟨⟨"entry", [Diamond.left, Diamond.right]⟩, by simp [Diamond.found, ModuleMap.discoveryOrder], by simp⟩
    have hsecond : (Diamond.found false).Imports Diamond.left Diamond.shared :=
      ⟨⟨"side", [Diamond.shared]⟩, by simp [Diamond.found, ModuleMap.discoveryOrder], by simp⟩
    exact (emission_order hrun).2.2.2 Diamond.acyclic
      (fun m m' d h h' => (Diamond.importer_eq h).trans (Diamond.importer_eq h').symm) _ _
      (.tail (.single hfirst) hsecond)

end Bundler
