import BomEvidence.Proofs.Bom.Account
import BomEvidence.Proofs.Run.Callstacks
import BomEvidence.Proofs.Run.Degraded
import BomEvidence.Proofs.Run.Turns

/-!
Packages that get frames. If one of the stacks of a package has frames, its component has frames
after a run, unless the stack that is picked has none, which is then the first one. Then the
component keeps the call stack that it had.
-/

namespace BomEvidence

/-- The first stack has no frames, and none between the first and the last takes its place. -/
def PicksNoFrames (calls : List (List Frame)) : Prop :=
  calls[0]? = some [] ∧ ∀ position, ¬DeepAt calls position

theorem picks_nil_iff {calls : List (List Frame)} : Picks calls [] ↔ PicksNoFrames calls := by
  constructor
  · intro picks
    rcases picks with ⟨position, ⟨_, _, stack, standing, deep⟩, _, found⟩ | ⟨noneDeep, found⟩
    · rw [standing] at found
      rw [Option.some.inj found] at deep
      exact absurd deep (Nat.not_lt_zero 2)
    · exact ⟨found, noneDeep⟩
  · intro blank
    exact Or.inr ⟨blank.2, blank.1⟩

instance (calls : List (List Frame)) : Decidable (PicksNoFrames calls) :=
  decidable_of_iff (pickFrames? calls = some []) (pick_frames_iff.trans picks_nil_iff)

namespace Run

def sampleChains (firstFile : String) : Json :=
  let chain (file : String) : Json :=
    .object [("purls", .array [.text "pkg:maven/slf4j@2.0"]),
      ("flows", .array [.object [("parentFileName", .text file)]])]
  .object [("reachables", .array [chain firstFile, chain "App.java"])]

def sampleChainsFiles (firstFile : String) : FileTree :=
  (FileTree.empty.add "bom.json" (.text sampleDocument.toJson.compact)).add "reachables.json"
    (.text (sampleChains firstFile).compact)

def sampleChainsConfig : RunConfig :=
  { sampleConfig with
    usagesPath := none
    reachablesPath := some "reachables.json"
    withReachables := true }

theorem chains_in_place : InPlace sampleChainsConfig .none := ⟨rfl, Or.inr rfl, rfl⟩

theorem read_chains_sample (firstFile : String) :
    readDocument sampleChainsConfig (sampleChainsFiles firstFile) = .ok sampleDocument := by
  have found : (sampleChainsFiles firstFile).readText "bom.json" =
      .ok sampleDocument.toJson.compact := rfl
  exact read_sample found

def fileFrame (file : String) : Frame := { (default : Frame) with file := file }

theorem unplaced_chain_hides_frames :
    ¬∀ (config : RunConfig) (given : Collaborators) (now : Instant) (files : FileTree)
      (document written : Bom.Document), Turns config given now files document written →
      given.postProcessor = .identity →
      ∀ (position : Nat) (input : Bom.Component) (purl : String),
        document.components[position]? = some input → input.purl = some purl →
        (∃ stack ∈ stacksOf config given files document purl, stack ≠ []) →
        ∃ output stack, written.components[position]? = some output ∧
          stack ≠ [] ∧ output.frames = some stack := by
  intro always
  let chains := sampleChainsFiles "<unknown>"
  let maps := (collected sampleChainsConfig .none chains sampleDocument).maps
  let input : Bom.Component := sampleDocument.components[0]
  have reread : (evidenced sampleChainsConfig .none chains sampleDocument ⟨0⟩).toJson.Reread :=
    Json.reread_of_plain (by decide +kernel)
  have turns := turns_in_place chains_in_place (read_chains_sample "<unknown>") reread
  have told : stacksOf sampleChainsConfig .none chains sampleDocument "pkg:maven/slf4j@2.0" =
      [[], [fileFrame "App.java"]] := by
    decide +kernel
  obtain ⟨output, stack, standing, _, framed⟩ := always _ _ _ _ _ _ turns rfl 0 input
    "pkg:maven/slf4j@2.0" rfl rfl (by rw [told]; decide)
  have attached : output = input.attach maps :=
    Option.some.inj (standing.symm.trans (Bom.Document.attach_component rfl))
  have held : input.HasCallstack (maps.stacksOf "pkg:maven/slf4j@2.0") (input.attach maps) :=
    Bom.Component.attach_has_callstack rfl
  rw [collected_stacks, told] at held
  have kept := held.ofNoFrames (picks_nil_iff.2 (by decide))
  rw [attached, Bom.Component.frames, kept] at framed
  cases framed

end Run

end BomEvidence
