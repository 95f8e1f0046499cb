import BomEvidence.Proofs.Bom.Attached
import BomEvidence.Proofs.Evidence.Stacks

/-!
The call stack of a component with evidence. Of all stacks of its package one is picked: the last
one of more than two frames that is neither the first nor the last, or else the first. Its frames
take the place of those that the component had, unless it has none.
-/

namespace BomEvidence

/-! ### The stack that is picked -/

/-- At a position between the first and the last stack stands one of more than two frames. -/
def DeepAt (calls : List (List Frame)) (position : Nat) : Prop :=
  1 ≤ position ∧ position < calls.length - 1 ∧
    ∃ stack, calls[position]? = some stack ∧ 2 < stack.length

/-- The stack at the greatest position of a deep one, or the first stack where none is deep. -/
def Picks (calls : List (List Frame)) (picked : List Frame) : Prop :=
  (∃ position, DeepAt calls position ∧ (∀ other, DeepAt calls other → other ≤ position) ∧
    calls[position]? = some picked) ∨
  (∀ position, ¬DeepAt calls position) ∧ calls[0]? = some picked

theorem Picks.unique {calls : List (List Frame)} {first second : List Frame}
    (left : Picks calls first) (right : Picks calls second) : first = second := by
  rcases left with ⟨position, deep, greatest, found⟩ | ⟨noneDeep, found⟩
  · rcases right with ⟨other, otherDeep, otherGreatest, otherFound⟩ | ⟨noneDeep, _⟩
    · have same : position = other :=
        Nat.le_antisymm (otherGreatest position deep) (greatest other otherDeep)
      rw [same, otherFound] at found
      exact (Option.some.inj found).symm
    · exact absurd deep (noneDeep position)
  · rcases right with ⟨other, otherDeep, _⟩ | ⟨_, otherFound⟩
    · exact absurd otherDeep (noneDeep other)
    · rw [otherFound] at found
      exact (Option.some.inj found).symm

theorem position_of_last_passing {Item : Type} {keep : Item → Bool} {items : List Item}
    {last : Item} (found : (items.filter keep).getLast? = some last) :
    keep last = true ∧ ∃ position : Nat, items[position]? = some last ∧
      ∀ (later : Nat) other, position < later → items[later]? = some other →
        keep other = false := by
  rw [← List.head?_reverse, ← List.filter_reverse, List.head?_filter,
    List.find?_eq_some_iff_append] at found
  obtain ⟨passes, after, before, reversed, noneAfter⟩ := found
  have split : items = before.reverse ++ last :: after.reverse := by
    have twice := congrArg List.reverse reversed
    simpa using twice
  subst split
  refine ⟨passes, before.reverse.length, ?_, ?_⟩
  · rw [List.getElem?_append_right (Nat.le_refl _), Nat.sub_self]
    rfl
  · intro later other beyond standing
    rw [List.getElem?_append_right (Nat.le_of_lt beyond), List.getElem?_cons,
      if_neg (by omega)] at standing
    have member : other ∈ after := List.mem_reverse.1 (List.mem_of_getElem? standing)
    simpa using noneAfter other member

theorem deep_at_succ_iff {first : List Frame} {others : List (List Frame)} {position : Nat} :
    DeepAt (first :: others) (position + 1) ↔
      ∃ stack, others.dropLast[position]? = some stack ∧ 2 < stack.length := by
  unfold DeepAt
  rw [List.getElem?_cons_succ, List.length_cons, Nat.add_sub_cancel, List.getElem?_dropLast]
  constructor
  · intro fact
    rcases fact with ⟨_, inside, stack, standing, deep⟩
    exact ⟨stack, by rw [if_pos (by omega), standing], deep⟩
  · intro fact
    rcases fact with ⟨stack, standing, deep⟩
    split at standing
    · exact ⟨by omega, by omega, stack, standing, deep⟩
    · cases standing

theorem not_deep_at_zero (calls : List (List Frame)) : ¬DeepAt calls 0 :=
  fun deep => Nat.not_succ_le_zero 0 deep.1

theorem picks_of_pick_frames {calls : List (List Frame)} {picked : List Frame}
    (chosen : pickFrames? calls = some picked) : Picks calls picked := by
  cases calls with
  | nil => cases chosen
  | cons first others =>
      have chosen : (others.dropLast.filter fun stack => 2 < stack.length).getLast?.getD first =
          picked := Option.some.inj chosen
      cases last : (others.dropLast.filter fun stack => 2 < stack.length).getLast? with
      | some stack =>
          rw [last, Option.getD_some] at chosen
          subst chosen
          obtain ⟨deep, position, standing, noneLater⟩ := position_of_last_passing last
          have inPlace : (first :: others)[position + 1]? = some stack := by
            rw [List.getElem?_dropLast] at standing
            split at standing
            · rwa [List.getElem?_cons_succ]
            · cases standing
          -- The first stack is not searched: positions in the list are one more than in `others`.
          refine Or.inl ⟨position + 1,
            deep_at_succ_iff.2 ⟨stack, standing, of_decide_eq_true deep⟩, ?_, inPlace⟩
          intro other otherDeep
          cases other with
          | zero => omega
          | succ before =>
              obtain ⟨other, otherStanding, manyFrames⟩ := deep_at_succ_iff.1 otherDeep
              by_cases beyond : position < before
              · have short := noneLater before other beyond otherStanding
                exact absurd manyFrames (of_decide_eq_false short)
              · omega
      | none =>
          rw [last, Option.getD_none] at chosen
          subst chosen
          refine Or.inr ⟨?_, rfl⟩
          intro position deep
          cases position with
          | zero => exact not_deep_at_zero _ deep
          | succ before =>
              obtain ⟨stack, standing, manyFrames⟩ := deep_at_succ_iff.1 deep
              rw [List.getLast?_eq_none_iff, List.filter_eq_nil_iff] at last
              exact last stack (List.mem_of_getElem? standing) (decide_eq_true manyFrames)

theorem pick_frames_iff {calls : List (List Frame)} {picked : List Frame} :
    pickFrames? calls = some picked ↔ Picks calls picked := by
  refine ⟨picks_of_pick_frames, ?_⟩
  intro picks
  cases chosen : pickFrames? calls with
  | some other => rw [(picks_of_pick_frames chosen).unique picks]
  | none =>
      cases calls with
      | nil => rcases picks with ⟨_, _, _, found⟩ | ⟨_, found⟩ <;> cases found
      | cons first others => cases chosen

/-! ### The stack of a component -/

theorem EvidenceUpdate.merge_into_callstack (update : EvidenceUpdate)
    (existing : Option Bom.Evidence) :
    (update.mergeInto existing).bind Bom.Evidence.callstack =
      match update.frames with
      | none => existing.bind Bom.Evidence.callstack
      | some frames => some { ((existing.bind Bom.Evidence.callstack).getD default) with
          frames := some frames } := by
  unfold mergeInto
  by_cases nothing : update.isEmpty = true
  · have noFrames : update.frames = none :=
      Option.isNone_iff_eq_none.1 (Bool.and_eq_true_iff.1 nothing).2
    rw [if_pos nothing, noFrames]
  · rw [if_neg nothing]
    cases existing <;> cases update.frames <;> rfl

theorem EvidenceUpdate.frames_of_maps (maps : EvidenceMaps) (purl : String) :
    (ofMaps maps purl).frames = (pickFrames? (maps.stacksOf purl)).filter (!·.isEmpty) := by
  unfold ofMaps EvidenceMaps.stacksOf
  cases maps.callstacks.get? purl <;> rfl

namespace Bom

def Component.callstack (component : Component) : Option Callstack :=
  component.evidence.bind Evidence.callstack

/-- A component of the output has the frames of the stack that is picked of those of its package,
if there are any, and otherwise the call stack of the input. -/
structure Component.HasCallstack (calls : List (List Frame)) (input output : Component) :
    Prop where
  ofNoStack : calls = [] → output.callstack = input.callstack
  picks : calls ≠ [] → ∃ picked, Picks calls picked
  ofNoFrames : Picks calls [] → output.callstack = input.callstack
  ofFrames : ∀ picked, Picks calls picked → picked ≠ [] →
    output.callstack = some { input.callstack.getD default with frames := some picked }

theorem Component.attach_has_callstack {maps : EvidenceMaps} {component : Component}
    {purl : String} (isPackage : component.purl = some purl) :
    HasCallstack (maps.stacksOf purl) component (component.attach maps) := by
  have merged : (component.attach maps).callstack =
      match (pickFrames? (maps.stacksOf purl)).filter (!·.isEmpty) with
      | none => component.callstack
      | some frames => some { component.callstack.getD default with frames := some frames } := by
    rw [attach_of_purl isPackage, ← EvidenceUpdate.frames_of_maps]
    exact EvidenceUpdate.merge_into_callstack _ _
  constructor
  · intro nothing
    rw [merged, nothing]
    rfl
  · intro some
    cases chosen : pickFrames? (maps.stacksOf purl) with
    | some picked => exact ⟨picked, pick_frames_iff.1 chosen⟩
    | none =>
        exfalso
        apply some
        cases calls : maps.stacksOf purl with
        | nil => rfl
        | cons first others =>
            rw [calls] at chosen
            cases chosen
  · intro picks
    rw [merged, pick_frames_iff.2 picks]
    rfl
  · intro picked picks someFrames
    have kept : (some picked).filter (!·.isEmpty) = some picked := by
      cases picked with
      | nil => exact absurd rfl someFrames
      | cons frame rest => rfl
    rw [merged, pick_frames_iff.2 picks, kept]

end Bom

end BomEvidence
