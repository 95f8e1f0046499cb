import BomEvidence.Proofs.Bom.Cryptography
import BomEvidence.Proofs.Evidence.Services
import BomEvidence.Proofs.Run.Degraded
import BomEvidence.Proofs.Run.Intakes

/-!
Runs with and without cryptography. Both see the same places and services. With cryptography a
reachables slice is loaded even where reachables are not asked for, and then its call stacks are
those of its packages, ahead of the call stacks of the data flow.
-/

namespace BomEvidence

def RunConfig.withCrypto (config : RunConfig) (includeCrypto : Bool) : RunConfig :=
  { config with includeCrypto }

namespace Run

section Parts

variable (config : RunConfig) (given : Collaborators) (files : FileTree) (document : Bom.Document)

/-- The call stacks of a package that are there with cryptography alone: those of the reachables
slice, where reachables are not asked for. -/
def cryptoStacks (purl : String) : List (List Frame) :=
  if config.withReachables then []
  else (RunSlices.loaded? (slices (config.withCrypto true) given files document).reachables).elim []
    fun slice => slice.data.stacksOf purl

theorem reachables_without_crypto :
    (slices (config.withCrypto false) given files document).reachables =
      if config.withReachables then
        (slices (config.withCrypto true) given files document).reachables
      else none := by
  unfold slices RunSlices.load RunConfig.withCrypto
  dsimp only
  rw [Bool.or_false, Bool.or_true, if_pos rfl]
  rfl

theorem stacks_with_crypto (purl : String) :
    stacksOf (config.withCrypto true) given files document purl =
      cryptoStacks config given files document purl ++
        stacksOf (config.withCrypto false) given files document purl := by
  unfold stacksOf cryptoStacks
  rw [reachables_without_crypto]
  cases config.withReachables with
  | true => rfl
  | false => rfl

theorem places_with_crypto (purl place : String) :
    Places (config.withCrypto true) given files document purl place ↔
      Places (config.withCrypto false) given files document purl place := by
  have alike : (starter (config.withCrypto true) given files document).Alike
      (starter (config.withCrypto false) given files document) := ⟨rfl, rfl, fun _ => rfl⟩
  have usages : UsagePlaces (starter (config.withCrypto true) given files document)
        (slices (config.withCrypto true) given files document) purl place ↔
      UsagePlaces (starter (config.withCrypto false) given files document)
        (slices (config.withCrypto false) given files document) purl place :=
    exists_congr fun slice => and_congr Iff.rfl alike.places_iff
  exact or_congr Iff.rfl (or_congr usages Iff.rfl)

/-- The collector of a run before any slice but the reachables is taken in. -/
def reaching : Collector :=
  addSlice Collector.addReachables
    (RunSlices.loaded? (slices config given files document).reachables)
    (seeded config given files document)

def unreaching : RunSlices :=
  { slices config given files document with reachables := none }

theorem collected_of_reaching : collected config given files document =
    (reaching config given files document).takeAll
      ((unreaching config given files document).intakes document.components) :=
  collect_eq (reaching config given files document) document.components
    (unreaching config given files document)

theorem services_of_reaching : (reaching config given files document).maps.services =
    (seeded config given files document).maps.services :=
  add_slice_keeps (fun collector => collector.maps.services)
    (Collector.add_reachables_keeps (fun _ _ _ => rfl) (fun _ _ _ => rfl) (fun _ _ => rfl))
    _ _

theorem services_with_crypto :
    (collected (config.withCrypto true) given files document).maps.services =
      (collected (config.withCrypto false) given files document).maps.services := by
  have languages (includeCrypto : Bool) :
      (reaching (config.withCrypto includeCrypto) given files document).language =
        (seeded (config.withCrypto includeCrypto) given files document).language :=
    add_reached.1.language
  rw [collected_of_reaching, collected_of_reaching]
  change (Collector.takeAll _ ((unreaching (config.withCrypto false) given files document).intakes
    document.components)).maps.services = _
  apply Collector.take_all_services
  · rw [languages, languages]
    rfl
  · rw [services_of_reaching, services_of_reaching]
    rfl

/-- What a run without cryptography and one with it wrote differs in what is there for cryptography
and in call stacks. The run with cryptography picks from the call stacks of the reachables slice as
well, though reachables are not asked for and the other run does not load the slice. Where the slice
tells none of a package, its components are the same, and where it tells none at all, everything. -/
structure DifferInCrypto (plain crypto : Bom.Document) : Prop where
  unloaded : config.withReachables = false →
    (slices (config.withCrypto false) given files document).reachables = none
  rest : plain.uncrypted Bom.Component.uncalled document.components.length =
    crypto.uncrypted Bom.Component.uncalled document.components.length
  components : ∀ (position : Nat) (input : Bom.Component),
    document.components[position]? = some input →
      ∃ first second, plain.components[position]? = some first ∧
        crypto.components[position]? = some second ∧
        (∀ purl, input.purl = some purl →
          input.HasCallstack (stacksOf (config.withCrypto false) given files document purl) first ∧
          input.HasCallstack (cryptoStacks config given files document purl ++
            stacksOf (config.withCrypto false) given files document purl) second) ∧
        ((∀ purl, input.purl = some purl → cryptoStacks config given files document purl = []) →
          first.untagged = second.untagged)
  whole : (∀ purl, document.Lists purl → cryptoStacks config given files document purl = []) →
    plain.uncrypted Bom.Component.untagged document.components.length =
      crypto.uncrypted Bom.Component.untagged document.components.length

theorem evidenced_differ_in_crypto (now : Instant) :
    DifferInCrypto config given files document
      (evidenced (config.withCrypto false) given files document now)
      (evidenced (config.withCrypto true) given files document now) := by
  let maps := (collected (config.withCrypto false) given files document).maps
  let cryptoMaps := (collected (config.withCrypto true) given files document).maps
  have places (purl place : String) : maps.HasPlace purl place ↔ cryptoMaps.HasPlace purl place :=
    (collected_has_place ..).trans
      ((places_with_crypto ..).symm.trans (collected_has_place ..).symm)
  have services : maps.services = cryptoMaps.services :=
    (services_with_crypto config given files document).symm
  have held (purl : String) : maps.stacksOf purl =
      stacksOf (config.withCrypto false) given files document purl := collected_stacks ..
  have cryptoHeld (purl : String) : cryptoMaps.stacksOf purl =
      cryptoStacks config given files document purl ++
        stacksOf (config.withCrypto false) given files document purl :=
    (collected_stacks ..).trans (stacks_with_crypto ..)
  have untagged (component : Bom.Component)
      (unreached : ∀ purl, component.purl = some purl →
        cryptoStacks config given files document purl = []) :
      (component.attach maps).untagged = (component.attach cryptoMaps).untagged := by
    refine Bom.Component.untagged_attach fun purl isPackage => ?_
    refine EvidenceUpdate.of_maps_congr (places purl) ?_
    rw [held, cryptoHeld, unreached purl isPackage, List.nil_append]
  constructor
  · intro unasked
    rw [reachables_without_crypto, unasked, if_neg Bool.false_ne_true]
  · exact Bom.Document.uncrypted_attach services
      (fun component _ => Bom.Component.uncalled_attach places component) _ _ now
  · intro position input found
    refine ⟨input.attach maps, input.attach cryptoMaps, Bom.Document.attach_component found,
      Bom.Document.attach_component found, fun purl isPackage => ?_, untagged input⟩
    rw [← cryptoHeld, ← held]
    exact ⟨Bom.Component.attach_has_callstack isPackage,
      Bom.Component.attach_has_callstack isPackage⟩
  · intro unreached
    refine Bom.Document.uncrypted_attach services (fun component member => ?_) _ _ now
    exact untagged component fun purl isPackage => unreached purl ⟨component, member, isPackage⟩

end Parts

variable {config : RunConfig} {given : Collaborators} {now : Instant} {files : FileTree}

/-- Two runs that differ in cryptography alone write the same but for what is there for
cryptography and for the call stacks of the reachables slice. -/
theorem crypto_run_adds_reached_stacks
    (plainly : (execute (config.withCrypto false) given now files).outcome.isOk = true)
    (cryptically : (execute (config.withCrypto true) given now files).outcome.isOk = true) :
    ∃ document plain crypto, readDocument config files = .ok document ∧
      Leaves (config.withCrypto false) given now files plain ∧
      Leaves (config.withCrypto true) given now files crypto ∧
      DifferInCrypto config given files document plain crypto := by
  obtain ⟨document, read, plainLeaves⟩ := execute_is_ok plainly
  obtain ⟨other, alsoRead, cryptoLeaves⟩ := execute_is_ok cryptically
  obtain rfl : document = other := Except.ok.inj (read.symm.trans alsoRead)
  exact ⟨document, _, _, read, plainLeaves, cryptoLeaves,
    evidenced_differ_in_crypto config given files document now⟩

def sampleChainFiles : FileTree :=
  (FileTree.empty.add "bom.json" (.text sampleDocument.toJson.compact)).add "reachables.json"
    (.text sampleReachables.compact)

def sampleChainConfig : RunConfig :=
  { sampleConfig with
    usagesPath := none
    reachablesPath := some "reachables.json" }

theorem chain_in_place (includeCrypto : Bool) :
    InPlace (sampleChainConfig.withCrypto includeCrypto) .none := ⟨rfl, Or.inr rfl, rfl⟩

theorem read_chain_sample (includeCrypto : Bool) :
    readDocument (sampleChainConfig.withCrypto includeCrypto) sampleChainFiles =
      .ok sampleDocument := by
  have found : sampleChainFiles.readText "bom.json" = .ok sampleDocument.toJson.compact := rfl
  exact read_sample found

theorem crypto_run_of_sample :
    ((execute (sampleChainConfig.withCrypto false) .none ⟨0⟩ sampleChainFiles).outcome.isOk = true ∧
      (execute (sampleChainConfig.withCrypto true) .none ⟨0⟩ sampleChainFiles).outcome.isOk =
        true) ∧
    ∃ document plain crypto, readDocument sampleChainConfig sampleChainFiles = .ok document ∧
      Leaves (sampleChainConfig.withCrypto false) .none ⟨0⟩ sampleChainFiles plain ∧
      Leaves (sampleChainConfig.withCrypto true) .none ⟨0⟩ sampleChainFiles crypto ∧
      DifferInCrypto sampleChainConfig .none sampleChainFiles document plain crypto := by
  have plainly := (written_in_place (chain_in_place false) (read_chain_sample false) ⟨0⟩).2
  have cryptically := (written_in_place (chain_in_place true) (read_chain_sample true) ⟨0⟩).2
  exact ⟨⟨plainly, cryptically⟩, crypto_run_adds_reached_stacks plainly cryptically⟩

theorem crypto_alone_attaches_callstack :
    ¬∀ (config : RunConfig) (given : Collaborators) (now : Instant) (files : FileTree)
      (document plain crypto : Bom.Document),
      Turns (config.withCrypto false) given now files document plain →
      Turns (config.withCrypto true) given now files document crypto →
      given.postProcessor = .identity →
      plain.uncrypted Bom.Component.untagged document.components.length =
        crypto.uncrypted Bom.Component.untagged document.components.length := by
  intro always
  let left (includeCrypto : Bool) : Bom.Document :=
    evidenced (sampleChainConfig.withCrypto includeCrypto) .none sampleChainFiles sampleDocument ⟨0⟩
  have reread : ∀ includeCrypto, (left includeCrypto).toJson.Reread := by
    intro includeCrypto
    apply Json.reread_of_plain
    cases includeCrypto <;> decide +kernel
  have turns (includeCrypto : Bool) : Turns (sampleChainConfig.withCrypto includeCrypto) .none ⟨0⟩
      sampleChainFiles sampleDocument (left includeCrypto) :=
    turns_in_place (chain_in_place includeCrypto) (read_chain_sample includeCrypto)
      (reread includeCrypto)
  have same := always _ _ _ _ _ _ _ (turns false) (turns true) rfl
  have differ : (left false).uncrypted Bom.Component.untagged 1 ≠
      (left true).uncrypted Bom.Component.untagged 1 := by
    decide +kernel
  exact differ same

end Run

end BomEvidence
