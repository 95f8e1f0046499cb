import BomEvidence.Proofs.Bom.Codec
import BomEvidence.Proofs.Json.Members

/-!
The members of a document that its model does not declare. They are written at the place where
they were read, with the value that was read, except in properties and in frames, which keep
nothing but their fields.
-/

namespace BomEvidence

namespace Bom

inductive Part where
  | document
  | metadata
  | component
  | property
  | service
  | dependency
  | evidence
  | occurrence
  | callstack
  | frame
  deriving DecidableEq, Repr

namespace Part

def fieldNames : Part → List String
  | .document => Document.fieldNames
  | .metadata => ["timestamp", "tools"]
  | .component => Component.fieldNames
  | .property => ["name", "value"]
  | .service => ServiceEntry.fieldNames
  | .dependency => ["ref", "dependsOn", "provides"]
  | .evidence => ["occurrences", "callstack"]
  | .occurrence => ["location"]
  | .callstack => ["frames"]
  | .frame => Frame.fieldNames

def step? : Part → Json.Step → Option Part
  | .document, ⟨"metadata", none⟩ => some .metadata
  | .document, ⟨"components", some _⟩ => some .component
  | .document, ⟨"services", some _⟩ => some .service
  | .document, ⟨"dependencies", some _⟩ => some .dependency
  | .component, ⟨"properties", some _⟩ => some .property
  | .component, ⟨"evidence", none⟩ => some .evidence
  | .evidence, ⟨"occurrences", some _⟩ => some .occurrence
  | .evidence, ⟨"callstack", none⟩ => some .callstack
  | .callstack, ⟨"frames", some _⟩ => some .frame
  | _, _ => none

def at? (place : List Json.Step) : Option Part := place.foldlM step? .document

/-- A part was read from a tree, and a value was written of it. -/
def Rewritten : Part → Json.Tree → Json → Prop
  | .document => Json.Rewrites Document.ofTree? Document.toJson
  | .metadata => Json.Rewrites Metadata.ofTree? Metadata.toJson
  | .component => Json.Rewrites Component.ofTree? Component.toJson
  | .property => Json.Rewrites Property.ofTree? Property.toJson
  | .service => Json.Rewrites ServiceEntry.ofTree? ServiceEntry.toJson
  | .dependency => Json.Rewrites Dependency.ofTree? Dependency.toJson
  | .evidence => Json.Rewrites Evidence.ofTree? Evidence.toJson
  | .occurrence => Json.Rewrites Occurrence.ofTree? Occurrence.toJson
  | .callstack => Json.Rewrites Callstack.ofTree? Callstack.toJson
  | .frame => Json.Rewrites Frame.ofTree? Frame.toJson

/-- A step from a part that was read leads to a part that was read, and that was written at the
place to which the same step leads. -/
theorem rewritten_step {part inner : Part} {source inside : Json.Tree} {written : Json}
    {step : Json.Step} (rewritten : part.Rewritten source written)
    (isPart : part.step? step = some inner) (found : source.step? step = some inside)
    (present : inside ≠ .null) :
    ∃ value, written.step? step = some value ∧ inner.Rewritten inside value := by
  -- One case for each field that holds a part, in the order in which the steps are declared.
  unfold step? at isPart
  split at isPart
  all_goals cases isPart
  all_goals obtain ⟨read, readFrom, rfl⟩ := rewritten
  · obtain ⟨known, opened, metadata, _⟩ := Document.of_tree_opens readFrom
    exact Json.rewrites_field opened rfl (by decide) (by decide) metadata rfl found present
  · obtain ⟨known, opened, _, components, _⟩ := Document.of_tree_opens readFrom
    exact Json.rewrites_of_list opened rfl (by decide) (by decide) components rfl found
  · obtain ⟨known, opened, _, _, services, _⟩ := Document.of_tree_opens readFrom
    exact Json.rewrites_listed opened rfl (by decide) (by decide) services rfl found
  · obtain ⟨known, opened, _, _, _, dependencies, _⟩ := Document.of_tree_opens readFrom
    exact Json.rewrites_listed opened rfl (by decide) (by decide) dependencies rfl found
  · obtain ⟨known, opened, properties, _⟩ := Component.of_tree_opens readFrom
    exact Json.rewrites_listed opened rfl (by decide) (by decide) properties rfl found
  · obtain ⟨known, opened, _, evidence, _⟩ := Component.of_tree_opens readFrom
    exact Json.rewrites_field opened rfl (by decide) (by decide) evidence rfl found present
  · obtain ⟨known, opened, occurrences, _⟩ := Evidence.of_tree_opens readFrom
    exact Json.rewrites_listed opened rfl (by decide) (by decide) occurrences rfl found
  · obtain ⟨known, opened, _, callstack⟩ := Evidence.of_tree_opens readFrom
    exact Json.rewrites_field opened rfl (by decide) (by decide) callstack rfl found present
  · obtain ⟨known, opened, frames⟩ := Callstack.of_tree_opens readFrom
    exact Json.rewrites_listed opened rfl (by decide) (by decide) frames rfl found

theorem rewritten_at {start part : Part} {source holder : Json.Tree} {written : Json}
    {place : List Json.Step} (rewritten : start.Rewritten source written)
    (isPart : place.foldlM step? start = some part)
    (held : place.foldlM Json.Tree.step? source = some holder) (present : holder ≠ .null) :
    ∃ value, place.foldlM Json.step? written = some value ∧ part.Rewritten holder value := by
  induction place generalizing start source written with
  | nil =>
      cases isPart
      cases held
      exact ⟨written, rfl, rewritten⟩
  | cons step rest ih =>
      rw [List.foldlM_cons] at isPart held
      obtain ⟨inner, innerIs, isPart⟩ := Option.bind_eq_some_iff.1 isPart
      obtain ⟨inside, insideIs, held⟩ := Option.bind_eq_some_iff.1 held
      -- Nothing is below a `null`, so that none is met on the way.
      have insidePresent : inside ≠ .null := by
        intro isNull
        subst isNull
        cases rest with
        | nil =>
            cases held
            exact present rfl
        | cons => cases held
      obtain ⟨value, valueIs, innerRewritten⟩ :=
        rewritten_step rewritten innerIs insideIs insidePresent
      obtain ⟨last, lastIs, partRewritten⟩ := ih innerRewritten isPart held
      refine ⟨last, ?_, partRewritten⟩
      rw [List.foldlM_cons]
      exact Option.bind_eq_some_iff.2 ⟨value, valueIs, lastIs⟩

theorem opened_of_rewritten {part : Part} {source : Json.Tree} {written : Json}
    (rewritten : part.Rewritten source written) (keeps : part ≠ .property ∧ part ≠ .frame) :
    ∃ known extra fields, source.openRecord? part.fieldNames = some (known, extra) ∧
      fields.map Prod.fst = part.fieldNames ∧ Json.ofFields fields extra = written := by
  cases part with
  | document =>
      obtain ⟨read, readFrom, rfl⟩ := rewritten
      obtain ⟨known, opened, _⟩ := Document.of_tree_opens readFrom
      exact ⟨known, read.extra, _, opened, rfl, rfl⟩
  | metadata =>
      obtain ⟨read, readFrom, rfl⟩ := rewritten
      obtain ⟨known, opened, _⟩ := Metadata.of_tree_opens readFrom
      exact ⟨known, read.extra, _, opened, rfl, rfl⟩
  | component =>
      obtain ⟨read, readFrom, rfl⟩ := rewritten
      obtain ⟨known, opened, _⟩ := Component.of_tree_opens readFrom
      exact ⟨known, read.extra, _, opened, rfl, rfl⟩
  | property => exact absurd rfl keeps.1
  | service =>
      obtain ⟨read, readFrom, rfl⟩ := rewritten
      obtain ⟨known, opened⟩ := ServiceEntry.of_tree_opens readFrom
      exact ⟨known, read.extra, _, opened, rfl, rfl⟩
  | dependency =>
      obtain ⟨read, readFrom, rfl⟩ := rewritten
      obtain ⟨known, opened⟩ := Dependency.of_tree_opens readFrom
      exact ⟨known, read.extra, _, opened, rfl, rfl⟩
  | evidence =>
      obtain ⟨read, readFrom, rfl⟩ := rewritten
      obtain ⟨known, opened, _⟩ := Evidence.of_tree_opens readFrom
      exact ⟨known, read.extra, _, opened, rfl, rfl⟩
  | occurrence =>
      obtain ⟨read, readFrom, rfl⟩ := rewritten
      obtain ⟨known, opened⟩ := Occurrence.of_tree_opens readFrom
      exact ⟨known, read.extra, _, opened, rfl, rfl⟩
  | callstack =>
      obtain ⟨read, readFrom, rfl⟩ := rewritten
      obtain ⟨known, opened, _⟩ := Callstack.of_tree_opens readFrom
      exact ⟨known, read.extra, _, opened, rfl, rfl⟩
  | frame => exact absurd rfl keeps.2

theorem dropped_of_rewritten {part : Part} {source : Json.Tree} {written : Json}
    (rewritten : part.Rewritten source written) (drops : part = .property ∨ part = .frame)
    {key : String} (undeclared : key ∉ part.fieldNames) : written.member? key = none := by
  rcases drops with rfl | rfl
  · obtain ⟨property, _, rfl⟩ := rewritten
    rw [Property.toJson, Json.member_of_fields (by simp), TextMap.lookup_of_not_mem undeclared]
    rfl
  · obtain ⟨frame, _, rfl⟩ := rewritten
    apply TextMap.lookup_of_not_mem
    intro written
    apply undeclared
    revert written
    cases frame.line <;> cases frame.column <;> simp [fieldNames, Frame.fieldNames] <;> tauto

theorem undeclared_of_rewritten {part : Part} {source item : Json.Tree} {written : Json}
    {key : String} (rewritten : part.Rewritten source written) (undeclared : key ∉ part.fieldNames)
    (found : source.member? key = some item) :
    (∃ value, item.value? = some value ∧ written.member? key = some value) ↔
      part ≠ .property ∧ part ≠ .frame := by
  constructor
  · intro fact
    rcases fact with ⟨value, _, kept⟩
    rw [← not_or]
    intro drops
    rw [dropped_of_rewritten rewritten drops undeclared] at kept
    cases kept
  · intro keeps
    obtain ⟨known, extra, fields, opened, named, rfl⟩ := opened_of_rewritten rewritten keeps
    have nodup : part.fieldNames.Nodup := by
      cases part <;> decide
    exact Json.written_of_open_record opened named nodup undeclared found

theorem rewritten_of_parse {path source : String} {document : Document}
    {tree holder item : Json.Tree} {place : List Json.Step} {part : Part} {key : String}
    (parsed : Document.parse path source = .ok document)
    (read : Json.Tree.ofText? source = some tree) (isPart : at? place = some part)
    (held : tree.at? place = some holder) (found : holder.member? key = some item) :
    ∃ written, document.toJson.at? place = some written ∧ part.Rewritten holder written := by
  have readDocument : Document.ofTree? tree = some document := by
    unfold Document.parse at parsed
    rw [read] at parsed
    split at parsed
    · rename_i other otherRead
      cases parsed
      exact otherRead
    · cases parsed
  have present : holder ≠ .null := by
    intro isNull
    rw [isNull] at found
    cases found
  have documentRewritten : Part.document.Rewritten tree document.toJson :=
    ⟨document, readDocument, rfl⟩
  exact rewritten_at documentRewritten isPart held present

end Part

/-- Which members are written that the model does not declare: at their place in the document and
with their value all that stand in an object, unless it is a property or a frame. -/
theorem undeclared_member_written_iff {path source : String} {document : Document}
    {tree holder item : Json.Tree} {place : List Json.Step} {part : Part} {key : String}
    (parsed : Document.parse path source = .ok document)
    (read : Json.Tree.ofText? source = some tree) (isPart : Part.at? place = some part)
    (held : tree.at? place = some holder) (found : holder.member? key = some item)
    (undeclared : key ∉ part.fieldNames) :
    (∃ value, item.value? = some value ∧
      ((document.toJson.at? place).bind fun written => written.member? key) = some value) ↔
      part ≠ .property ∧ part ≠ .frame := by
  obtain ⟨written, writtenIs, rewritten⟩ := Part.rewritten_of_parse parsed read isPart held found
  rw [writtenIs, Option.bind_some]
  exact Part.undeclared_of_rewritten rewritten undeclared found

def framedText : String :=
  "\x7b\"components\":[\x7b\"evidence\":\x7b\"callstack\":\x7b\"frames\":[" ++
  "\x7b\"function\":\"main\",\"parameters\":[\"args\"]\x7d]\x7d\x7d\x7d]\x7d"

def framePlace : List Json.Step :=
  [⟨"components", some 0⟩, ⟨"evidence", none⟩, ⟨"callstack", none⟩, ⟨"frames", some 0⟩]

theorem framed_text_parses : ∃ document tree holder item,
    Document.parse "bom.json" framedText = .ok document ∧
      Json.Tree.ofText? framedText = some tree ∧ tree.at? framePlace = some holder ∧
      holder.member? "parameters" = some item := by
  have readable : ((Json.Tree.ofText? framedText).bind Document.ofTree?).isSome = true := by
    decide +kernel
  have framed : ((Json.Tree.ofText? framedText).bind fun tree =>
      (tree.at? framePlace).bind fun holder => holder.member? "parameters").isSome = true := by
    decide +kernel
  obtain ⟨document, documentRead⟩ := Option.isSome_iff_exists.1 readable
  obtain ⟨item, itemIs⟩ := Option.isSome_iff_exists.1 framed
  obtain ⟨tree, read, inTree⟩ := Option.bind_eq_some_iff.1 itemIs
  obtain ⟨holder, held, found⟩ := Option.bind_eq_some_iff.1 inTree
  refine ⟨document, tree, holder, item, ?_, read, held, found⟩
  unfold Document.parse
  rw [documentRead]

theorem undeclared_member_of_framed_text :
    ∃ document tree holder item, (Document.parse "bom.json" framedText = .ok document ∧
      Json.Tree.ofText? framedText = some tree ∧ Part.at? framePlace = some .frame ∧
      tree.at? framePlace = some holder ∧ holder.member? "parameters" = some item ∧
      "parameters" ∉ Part.frame.fieldNames) ∧
      ((∃ value, item.value? = some value ∧ ((document.toJson.at? framePlace).bind fun written =>
        written.member? "parameters") = some value) ↔
        Part.frame ≠ .property ∧ Part.frame ≠ .frame) := by
  obtain ⟨document, tree, holder, item, parsed, read, held, found⟩ := framed_text_parses
  have isFrame : Part.at? framePlace = some .frame := by decide
  have undeclared : "parameters" ∉ Part.frame.fieldNames := by decide
  exact ⟨document, tree, holder, item, ⟨parsed, read, isFrame, held, found, undeclared⟩,
    undeclared_member_written_iff parsed read isFrame held found undeclared⟩

theorem frame_parameters_are_lost :
    ¬∀ (path source : String) (document : Document) (tree holder item : Json.Tree)
      (place : List Json.Step) (part : Part) (key : String),
      Document.parse path source = .ok document → Json.Tree.ofText? source = some tree →
      Part.at? place = some part → tree.at? place = some holder →
      holder.member? key = some item → key ∉ part.fieldNames →
      ∃ value, item.value? = some value ∧
        ((document.toJson.at? place).bind fun written => written.member? key) = some value := by
  intro kept
  obtain ⟨document, tree, holder, item, parsed, read, held, found⟩ := framed_text_parses
  have isFrame : Part.at? framePlace = some .frame := by decide
  have undeclared : "parameters" ∉ Part.frame.fieldNames := by decide
  obtain ⟨value, _, written⟩ := kept _ _ document tree holder item framePlace .frame "parameters"
    parsed read isFrame held found undeclared
  obtain ⟨frame, frameIs, rewritten⟩ := Part.rewritten_of_parse parsed read isFrame held found
  rw [frameIs, Option.bind_some,
    Part.dropped_of_rewritten rewritten (Or.inr rfl) undeclared] at written
  cases written

end Bom

end BomEvidence
