import Bundler.Bundle.Run
import Bundler.Proofs.Graph.Discovery
import Bundler.Proofs.Path.Display
import Bundler.Script.Processor
import Mathlib

/-!
# Headers

Where a reader of the bundle is between two tokens when a header begins, the header is a line comment, and a line comment
ends at the first line end. So of a path only the part before its first line end is in the comment (`ModulePath.shown`);
what is behind it is read as script (`ModulePath.leaked`).

All of this is about a reading that starts at the header. Whether a reader of the whole bundle is between two tokens there
is for the code of the modules before it: if that leaves something open, a string or a comment say, the header is a part
of it.

* `headers_read_up_to_line_end` — how every header of a bundle is read from its start on, and where the line ends come from
* `path_leaves_its_header` — a bundle in which a path leaves its header
-/

namespace Bundler

open Script

/-! ## Line comments -/

/-- If a gap is read from the start of the source, it begins with a line comment and goes on with what is next. -/
structure OpensWithComment (comment source next : List Char) : Prop where
  spelling : comment <+: source
  reads : ∀ trivia onNewLine n, skipGap trivia onNewLine n .blank source =
    skipGap (trivia.comment true n (n + comment.length) source) true (n + comment.length + 1) .blank next

section

variable {line rest : List Char} {stop : Char}

/-- In a line comment everything is passed over up to a line end. -/
theorem skipGap_line {trivia : Trivia} {onNewLine : Bool} {start n : Nat} {source : List Char}
    (hline : ∀ c ∈ line, isLineEnd c = false) (hstop : isLineEnd stop = true) :
    skipGap trivia onNewLine n (.line start source) (line ++ stop :: rest) =
      skipGap (trivia.comment true start (n + line.length) source) true (n + line.length + 1) .blank rest := by
  induction line generalizing n with
  | nil =>
    rw [List.nil_append, skipGap, if_pos hstop]
    rfl
  | cons c line ih =>
    rw [List.forall_mem_cons] at hline
    rw [List.cons_append, skipGap, if_neg (by simp [hline.1]), ih hline.2, List.length_cons, Nat.add_assoc n 1,
      Nat.add_comm 1]

theorem OpensWithComment.of_line (hline : ∀ c ∈ line, isLineEnd c = false) (hstop : isLineEnd stop = true) :
    OpensWithComment ('/' :: '/' :: line) ('/' :: '/' :: line ++ stop :: rest) rest where
  spelling := List.prefix_append _ _
  reads := by
    intro trivia onNewLine n
    rw [List.cons_append, List.cons_append, skipGap, skipGap_line hline hstop, List.length_cons, List.length_cons,
      Nat.add_assoc n 2, Nat.add_comm 2]

end

/-! ## What a header holds of a path -/

namespace ModulePath

/-- The text of a module path up to its first line end. -/
def shown (m : ModulePath) : List Char :=
  m.portable.toList.takeWhile fun c => !isLineEnd c

/-- The text of a module path from its first line end on. -/
def leaked (m : ModulePath) : List Char :=
  m.portable.toList.dropWhile fun c => !isLineEnd c

theorem shown_append_leaked (m : ModulePath) : m.shown ++ m.leaked = m.portable.toList :=
  List.takeWhile_append_dropWhile

theorem isLineEnd_of_mem_shown {m : ModulePath} {c : Char} (h : c ∈ m.shown) : isLineEnd c = false := by
  simpa using List.mem_takeWhile_imp h

theorem leaked_eq_nil_iff {m : ModulePath} : m.leaked = [] ↔ IsOneLine m.portable := by
  simp [leaked, List.dropWhile_eq_nil_iff, IsOneLine]

/-- What leaks begins with a line end. -/
theorem isLineEnd_of_leaked {m : ModulePath} {c : Char} {rest : List Char} (h : m.leaked = c :: rest) :
    isLineEnd c = true := by
  have hhead := List.head?_dropWhile_not (fun c => !isLineEnd c) m.portable.toList
  rw [← leaked, h] at hhead
  simpa using hhead

theorem shown_of_isOneLine {m : ModulePath} (h : IsOneLine m.portable) : m.shown = m.portable.toList := by
  rw [← shown_append_leaked, leaked_eq_nil_iff.mpr h, List.append_nil]

end ModulePath

/-! ## What is read of a bundle -/

/-- The text of some modules of a bundle. -/
def sections (modules : List (ModulePath × ModuleRecord)) : List Char :=
  modules.flatMap fun (path, record) => (record.section path).toList

theorem sections_cons (path : ModulePath) (record : ModuleRecord) (modules : List (ModulePath × ModuleRecord)) :
    sections ((path, record) :: modules) = (record.section path).toList ++ sections modules :=
  List.flatMap_cons

theorem sections_append (before after : List (ModulePath × ModuleRecord)) :
    sections (before ++ after) = sections before ++ sections after :=
  List.flatMap_append

theorem toList_render (modules : ModuleMap) : modules.render.toList = sections modules.emissionOrder := by
  rw [ModuleMap.render, String.toList_join, List.flatMap_map]
  rfl

theorem toList_section (path : ModulePath) (record : ModuleRecord) :
    (record.section path).toList =
      '/' :: '/' :: ' ' :: path.shown ++ (path.leaked ++ '\n' :: (record.code.toList ++ ['\n', '\n'])) := by
  simp only [ModuleRecord.section, String.toList_append, ← path.shown_append_leaked, List.append_assoc]
  rfl

/-- **A header is read up to the first line end**, which may be one in the path, if the reading starts at it. -/
theorem opensWithComment_section (path : ModulePath) (record : ModuleRecord) (rest : List Char) :
    OpensWithComment ('/' :: '/' :: ' ' :: path.shown) ((record.section path).toList ++ rest)
      (path.leaked ++ '\n' :: (record.code.toList ++ '\n' :: '\n' :: rest)).tail := by
  have hshown : ∀ c ∈ ' ' :: path.shown, isLineEnd c = false :=
    List.forall_mem_cons.mpr ⟨by decide, fun c hc => ModulePath.isLineEnd_of_mem_shown hc⟩
  have hsource : (record.section path).toList ++ rest =
      '/' :: '/' :: ' ' :: path.shown ++ (path.leaked ++ '\n' :: (record.code.toList ++ '\n' :: '\n' :: rest)) := by
    simp [toList_section]
  rw [hsource]
  cases hleaked : path.leaked with
  | nil => exact .of_line hshown (by decide)
  | cons c leaked => exact .of_line hshown (ModulePath.isLineEnd_of_leaked hleaked)

/-- From its start on, a header with a path of one line is a comment with the whole path, and the code is next. -/
theorem opensWithComment_section_of_isOneLine {path : ModulePath} (h : IsOneLine path.portable) (record : ModuleRecord)
    (rest : List Char) :
    OpensWithComment ('/' :: '/' :: ' ' :: path.portable.toList) ((record.section path).toList ++ rest)
      (record.code.toList ++ '\n' :: '\n' :: rest) := by
  have hopens := opensWithComment_section path record rest
  rw [ModulePath.shown_of_isOneLine h, ModulePath.leaked_eq_nil_iff.mpr h] at hopens
  exact hopens

/-! ## Where line ends come from -/

/-- The specifiers of a module; none if it cannot be read or processed. -/
def specifiersOf (read : ModulePath → Except Failure String) (process : Processor) (path : ModulePath) : List String :=
  match read path with
  | .error _ => []
  | .ok text =>
    match (process path text).2 with
    | .error _ => []
    | .ok processed => processed.specifiers

variable {read : ModulePath → Except Failure String} {process : Processor}

theorem importsOf_eq_map_resolve (path : ModulePath) :
    importsOf read process path = (specifiersOf read process path).map path.resolve := by
  unfold importsOf load specifiersOf
  cases read path with
  | error failure => rfl
  | ok text =>
    cases hprocess : (process path text).2 with
    | error failure => simp [hprocess]
    | ok processed => simp [hprocess]

/-- If neither the entry nor a specifier has a line end, no path that is reached has one. -/
theorem isOneLine_of_reached {entry path : ModulePath} (hentry : IsOneLine entry.portable)
    (hspecifiers : ∀ path, ReachedOutside (importsOf read process) [] entry path →
      ∀ specifier ∈ specifiersOf read process path, IsOneLine specifier)
    (h : ReachedOutside (importsOf read process) [] entry path) : IsOneLine path.portable := by
  induction h with
  | start => exact hentry
  | step hrequester himported _ ih =>
    rw [importsOf_eq_map_resolve] at himported
    obtain ⟨specifier, hspecifier, rfl⟩ := List.mem_map.mp himported
    exact ModulePath.isOneLine_resolve ih (hspecifiers _ hrequester specifier hspecifier)

/--
**A header is read up to the first line end of its path.**

In the bundle of a walk that succeeds, a reading that starts at the header of a module finds a line comment that holds the
path up to its first line end; what is behind it is read next, and then the code. A path has a line end exactly if one of
its names has. If neither the entry nor any specifier of a module in the bundle has one, then no path has: a reading that
starts at a header finds one comment with the whole path, and goes on with the code on the next line.
-/
theorem headers_read_up_to_line_end (read : ModulePath → Except Failure String) (process : Processor)
    (entry : ModulePath) :
    ∀ final actions, ModuleMap.empty.extend? read process entry = some (final, actions, .ok ()) →
      (∀ before path record after, final.emissionOrder = before ++ (path, record) :: after →
        ∃ source, final.render.toList = sections before ++ source ∧
          OpensWithComment ('/' :: '/' :: ' ' :: path.shown) source
            (path.leaked ++ '\n' :: (record.code.toList ++ '\n' :: '\n' :: sections after)).tail) ∧
      (∀ path ∈ final.paths, path.shown ++ path.leaked = path.portable.toList ∧
        (path.leaked = [] ↔ ∀ name ∈ path.names, IsOneLine (Utf8.decodeLossy name.bytes))) ∧
      (IsOneLine entry.portable →
        (∀ path ∈ final.paths, ∀ specifier ∈ specifiersOf read process path, IsOneLine specifier) →
        ∀ before path record after, final.emissionOrder = before ++ (path, record) :: after →
          ∃ source, final.render.toList = sections before ++ source ∧
            OpensWithComment ('/' :: '/' :: ' ' :: path.portable.toList) source
              (record.code.toList ++ '\n' :: '\n' :: sections after)) := by
  intro final actions h
  have hsource : ∀ before path record after, final.emissionOrder = before ++ (path, record) :: after →
      final.render.toList = sections before ++ ((record.section path).toList ++ sections after) := by
    intro before path record after horder
    rw [toList_render, horder, sections_append, sections_cons]
  refine ⟨?_, fun path _ => ⟨path.shown_append_leaked, ?_⟩, ?_⟩
  · intro before path record after horder
    exact ⟨_, hsource before path record after horder, opensWithComment_section path record (sections after)⟩
  · rw [ModulePath.leaked_eq_nil_iff, ModulePath.isOneLine_portable_iff]
  · intro hentry hspecifiers before path record after horder
    have hreached : ∀ path, path ∈ final.paths ↔ ReachedOutside (importsOf read process) [] entry path := by
      cases followsPreorder_of_extend? h with
      | ok hpreorder hadds =>
        intro path
        rw [hadds.paths_eq]
        exact hpreorder.mem_iff
    have hmem : path ∈ final.paths := by
      rw [← List.mem_reverse, ← ModuleMap.emissionOrder_map_fst, horder]
      simp
    have honeLine : IsOneLine path.portable :=
      isOneLine_of_reached hentry (fun path hpath => hspecifiers path ((hreached path).mpr hpath))
        ((hreached path).mp hmem)
    exact ⟨_, hsource before path record after horder,
      opensWithComment_section_of_isOneLine honeLine record (sections after)⟩

/-! Two small worlds: in one the entry imports a module from a file whose name has a line break, in the other it imports
nothing. -/

namespace BrokenName

def main : ModulePath := .ofPath (.ofString "/main.js")

def lib : ModulePath := .ofPath (.ofString "/a\nb.js")

/-- The specifier in the text has an escape, which stands for the line break. -/
def broken : RecordedStore :=
  ⟨[(main, .ok "import './a\\nb.js'"), (lib, .ok "f()")], none⟩

def single : RecordedStore :=
  ⟨[(main, .ok "f()")], none⟩

def found : ModuleMap :=
  ⟨[(lib, ⟨"f();", []⟩), (main, ⟨"", [lib]⟩)]⟩

/-- The modules of the two worlds, as they are processed. -/
theorem load_eq_ok :
    load broken.sources.read (Script.processor false) main = .ok ⟨"", [lib]⟩ ∧
      load broken.sources.read (Script.processor false) lib = .ok ⟨"f();", []⟩ ∧
      load single.sources.read (Script.processor false) main = .ok ⟨"f();", []⟩ := by
  decide +kernel

theorem extend?_broken : ∃ actions,
    ModuleMap.empty.extend? broken.sources.read (Script.processor false) main = some (found, actions, .ok ()) := by
  obtain ⟨hmain, hlib, -⟩ := load_eq_ok
  refine Descent.exists_actions ?_
  rw [ModuleMap.extend?_eq_descend? _ _ rfl, ModuleMap.descend?_of_load_ok hmain,
    ModuleMap.descendAll?_entered (by decide) hlib, List.append_nil, ModuleMap.descendAll?_nil]
  rfl

theorem extend?_single : ∃ actions,
    ModuleMap.empty.extend? single.sources.read (Script.processor false) main =
      some (⟨[(main, ⟨"f();", []⟩)]⟩, actions, .ok ()) := by
  obtain ⟨-, -, hmain⟩ := load_eq_ok
  refine Descent.exists_actions ?_
  rw [ModuleMap.extend?_eq_descend? _ _ rfl, ModuleMap.descend?_of_load_ok hmain, ModuleMap.descendAll?_nil]
  rfl

end BrokenName

/-- In the one world the first header is over in the middle of its path, and the rest of the path is read as script; in the
other it holds the whole path, and the code is read next. -/
theorem headers_read_up_to_line_end_both :
    (∃ final actions,
      ModuleMap.empty.extend? BrokenName.broken.sources.read (Script.processor false) BrokenName.main =
        some (final, actions, .ok ()) ∧
      OpensWithComment "// /a".toList final.render.toList "b.js\nf();\n\n// /main.js\n\n\n".toList) ∧
    ∃ final actions,
      ModuleMap.empty.extend? BrokenName.single.sources.read (Script.processor false) BrokenName.main =
        some (final, actions, .ok ()) ∧
      OpensWithComment "// /main.js".toList final.render.toList "f();\n\n".toList := by
  constructor
  · obtain ⟨actions, hextend⟩ := BrokenName.extend?_broken
    obtain ⟨hheaders, -, -⟩ := headers_read_up_to_line_end _ _ _ _ _ hextend
    obtain ⟨source, hsource, hopens⟩ := hheaders [] BrokenName.lib ⟨"f();", []⟩ _ rfl
    have hcomment : '/' :: '/' :: ' ' :: BrokenName.lib.shown = "// /a".toList := by decide +kernel
    have hnext : (BrokenName.lib.leaked ++ '\n' :: ("f();".toList ++ '\n' :: '\n' ::
        sections [(BrokenName.main, ⟨"", [BrokenName.lib]⟩)])).tail =
          "b.js\nf();\n\n// /main.js\n\n\n".toList := by
      decide +kernel
    refine ⟨BrokenName.found, actions, hextend, ?_⟩
    rw [hsource, ← hcomment, ← hnext]
    exact hopens
  · obtain ⟨actions, hextend⟩ := BrokenName.extend?_single
    obtain ⟨-, -, hheaders⟩ := headers_read_up_to_line_end _ _ _ _ _ hextend
    have hspecifiers : specifiersOf BrokenName.single.sources.read (Script.processor false) BrokenName.main = [] := by
      decide +kernel
    obtain ⟨source, hsource, hopens⟩ := hheaders (by decide +kernel) (by simp [ModuleMap.paths,
      ModuleMap.discoveryOrder, hspecifiers]) [] BrokenName.main ⟨"f();", []⟩ [] rfl
    have hcomment : '/' :: '/' :: ' ' :: BrokenName.main.portable.toList = "// /main.js".toList := by decide +kernel
    refine ⟨_, actions, hextend, ?_⟩
    rw [hsource, ← hcomment]
    exact hopens

/-- The bundle is made, a path in it has a line end, and the first word of its script is a part of that path. -/
theorem path_leaves_its_header :
    ∃ final actions,
      ModuleMap.empty.extend? BrokenName.broken.sources.read (Script.processor false) BrokenName.main =
        some (final, actions, .ok ()) ∧
      BrokenName.lib ∈ final.paths ∧ ¬IsOneLine BrokenName.lib.portable ∧
      (Script.lexFirst final.render.length ⟨final.render.toList, 0⟩).token.name = "b" := by
  obtain ⟨actions, hextend⟩ := BrokenName.extend?_broken
  exact ⟨BrokenName.found, actions, hextend, by decide, by decide +kernel, by decide +kernel⟩

end Bundler
