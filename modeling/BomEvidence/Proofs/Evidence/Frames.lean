import BomEvidence.Proofs.Evidence.Stacks
import BomEvidence.Proofs.Text.Joined
import Mathlib.Data.List.Forall2

/-!
What the frames of call stacks show. A frame shows the place of a step or of a node as the slice
tells it; only the package of a node is another one where the node stands outside of all packages.
A stack of the reachables slice has a frame for each step of its chain that stands in a file, and
one of the data-flow slice a frame for each node on its path.
-/

namespace BomEvidence

/-- A frame shows a place of the code: a package, and a class, a method and a file as they are told
or as empty texts. Its line and its column are those that are told, except that none is zero. -/
structure Frame.Shows (package : String → Prop) (module function file : Option String)
    (line column : Option UInt64) (frame : Frame) : Prop where
  package : package frame.package
  module : frame.module = module.getD ""
  function : frame.function = function.getD ""
  file : frame.file = file.getD ""
  line : ∀ number, frame.line = some number ↔ line = some number ∧ 0 < number
  column : ∀ number, frame.column = some number ↔ column = some number ∧ 0 < number

theorem positive_iff {told : Option UInt64} {number : UInt64} :
    told.filter (0 < ·) = some number ↔ told = some number ∧ 0 < number :=
  Option.filter_eq_some_iff.trans (and_congr_right fun _ => decide_eq_true_iff)

def ReachableFlow.ShownAs (flow : ReachableFlow) : Frame → Prop :=
  Frame.Shows (· = flow.parentPackage.getD "") flow.parentClass flow.parentMethod flow.parentFile
    flow.line flow.column

theorem ReachableFlow.frame_shows (flow : ReachableFlow) : flow.ShownAs flow.frame :=
  ⟨rfl, rfl, rfl, rfl, fun _ => positive_iff, fun _ => positive_iff⟩

namespace DataFlowNode

/-- A node outside of all packages, whose class is named by a file and what follows two colons. -/
def IsGlobal (node : DataFlowNode) (file : String) : Prop :=
  node.parentPackage = some "<global>" ∧ Text.Clear "::".toList file.toList ∧
    ∃ rest, node.parentClass = some (file ++ "::" ++ rest)

/-- The package of a node: the one that is told, or for a global one its file, of which only the
directory counts if it is a JavaScript file in a directory. -/
inductive StandsIn (node : DataFlowNode) : String → Prop
  | told (inside : ∀ file, ¬node.IsGlobal file) : StandsIn node (node.parentPackage.getD "")
  | file {file : String} (isGlobal : node.IsGlobal file)
      (other : ".js".toList <:+: file.toList → '/' ∉ file.toList) : StandsIn node file
  | directory {directory name : String} (isGlobal : node.IsGlobal (directory ++ "/" ++ name))
      (script : ".js".toList <:+: (directory ++ "/" ++ name).toList) (last : '/' ∉ name.toList) :
      StandsIn node directory

def ShownAs (node : DataFlowNode) : Frame → Prop :=
  Frame.Shows node.StandsIn node.parentClass node.parentMethod node.parentFile node.line node.column

theorem package_of_global {node : DataFlowNode} {file : String} (isGlobal : node.IsGlobal file) :
    node.package = if Text.contains file ".js" then Text.directory file else file := by
  obtain ⟨noPackage, clear, rest, named⟩ := isGlobal
  have outside : (decide ("<global>" = "<global>") && Text.contains (file ++ "::" ++ rest) "::") =
      true := by
    rw [Text.contains_mark]
    decide
  unfold package
  dsimp only
  rw [named, noPackage, Option.getD_some, Option.getD_some, if_pos outside, Text.before_mark clear]

theorem package_of_inside {node : DataFlowNode} (inside : ∀ file, ¬node.IsGlobal file) :
    node.package = node.parentPackage.getD "" := by
  unfold package
  refine if_neg fun outside => ?_
  obtain ⟨noPackage, marked⟩ := Bool.and_eq_true_iff.1 outside
  have isGlobal : node.parentPackage = some "<global>" := by
    cases told : node.parentPackage with
    | none => simp [told] at noPackage
    | some package => simpa [told] using noPackage
  cases told : node.parentClass with
  | none =>
      rw [told] at marked
      exact absurd marked (by decide)
  | some name =>
      rw [told, Option.getD_some, Text.contains_iff] at marked
      have cut : ∃ pieces, Text.CutsInto "::".toList name.toList pieces :=
        Text.exists_cut (by decide) name.toList
      obtain ⟨pieces, cuts⟩ := cut
      generalize letters : name.toList = text at cuts
      cases cuts with
      | whole free => exact free (letters ▸ marked)
      | @cut piece rest _ clear =>
          have same : (String.ofList piece).toList = piece := String.toList_ofList
          refine inside (String.ofList piece) ⟨isGlobal, same.symm ▸ clear, String.ofList rest, ?_⟩
          rw [told, Option.some.injEq, ← String.toList_inj, letters]
          simp

theorem stands_in_package (node : DataFlowNode) : node.StandsIn node.package := by
  by_cases somewhere : ∃ file, node.IsGlobal file
  · obtain ⟨file, isGlobal⟩ := somewhere
    rw [package_of_global isGlobal]
    by_cases script : ".js".toList <:+: file.toList
    · rw [if_pos (Text.contains_iff.2 script)]
      by_cases inDirectory : '/' ∈ file.toList
      · -- The file is cut at its last slash, which is the first one from behind.
        obtain ⟨name, directory, split, last⟩ :=
          List.eq_append_cons_of_mem (List.mem_reverse.2 inDirectory)
        have parts : file = String.ofList directory.reverse ++ "/" ++ String.ofList name.reverse := by
          rw [← String.toList_inj, ← List.reverse_inj, split]
          simp
        have isName : '/' ∉ (String.ofList name.reverse).toList := by
          rwa [String.toList_ofList, List.mem_reverse]
        subst parts
        rw [Text.directory_of_within _ isName]
        exact .directory isGlobal script isName
      · rw [Text.directory_of_name inDirectory]
        exact .file isGlobal fun _ => inDirectory
    · rw [if_neg fun contains => script (Text.contains_iff.1 contains)]
      exact .file isGlobal fun isScript => absurd isScript script
  · have inside : ∀ file, ¬node.IsGlobal file := not_exists.1 somewhere
    rw [package_of_inside inside]
    exact .told inside

theorem frame_shows (node : DataFlowNode) : node.ShownAs node.frame :=
  ⟨node.stands_in_package, rfl, rfl, rfl, fun _ => positive_iff, fun _ => positive_iff⟩

end DataFlowNode

/-! ### Stacks -/

theorem ReachablesSlice.stacks_show {slice : ReachablesSlice} {purl : String} {stack : List Frame}
    (told : stack ∈ slice.stacksOf purl) : ∃ node ∈ slice.nodes, purl ∈ node.purls ∧
      List.Forall₂ ReachableFlow.ShownAs (node.flows.filter ReachableFlow.hasSourceFile) stack := by
  obtain ⟨node, among, rfl⟩ := List.mem_map.1 told
  obtain ⟨member, named⟩ := List.mem_filter.1 among
  refine ⟨node, member, List.contains_iff_mem.1 (Bool.and_eq_true_iff.1 named).2, ?_⟩
  exact List.forall₂_map_right_iff.2 (List.forall₂_same.2 fun flow _ => flow.frame_shows)

theorem DataFlowSlice.stacks_show {slice : DataFlowSlice} {collector : Collector} {types : TextSet}
    {purl : String} {stack : List Frame} (told : stack ∈ slice.stacksOf collector types purl) :
    ∃ path ∈ slice.paths, List.Forall₂ DataFlowNode.ShownAs (slice.nodesOn path) stack := by
  obtain ⟨path, among, rfl⟩ := List.mem_map.1 told
  refine ⟨path, (List.mem_filter.1 among).1, ?_⟩
  exact List.forall₂_map_right_iff.2 (List.forall₂_same.2 fun node _ => node.frame_shows)

end BomEvidence
