import Handoff.Module.Markup
import Handoff.Proofs.Component.Walk

/-!
# Texts of a model

The walk writes a text as an entry with nothing below it, which is neither an asset nor an instance, and at every
other node it writes no text. So the texts of a model are its nodes of that kind, and each of them that no property
swaps becomes a text element.
-/

namespace Handoff

namespace Entry

mutual

/-- The node of an entry and those below it, in order. -/
def nodes : Entry → List ModelNode
  | mk n none _ => [n]
  | mk n (some entries) _ => n :: nodesAll entries

/-- The nodes of entries, in order. -/
def nodesAll : List Entry → List ModelNode
  | [] => []
  | entry :: rest => nodes entry ++ nodesAll rest

end

/-- Whether texts stand for themselves in an entry: they are no assets and no instances, and nothing is below
them. -/
inductive TextsAlone : Entry → Prop where
  | leaf {n : ModelNode} {isAsset : Bool} : (isAsset = true ∨ n.use.isSome → n.kind ≠ .text) →
    TextsAlone (.mk n none isAsset)
  | container {n : ModelNode} {entries : List Entry} : n.kind ≠ .text → n.swapProp = none → n.use = none →
    (∀ entry ∈ entries, TextsAlone entry) → TextsAlone (.mk n (some entries) false)

end Entry

/-- The nodes of a model below its root, in order. -/
def Model.nodes (m : Model) : List ModelNode := Entry.nodesAll m.tree

namespace Document

variable {d : Document}

private theorem ne_text_of_isAsset {kind : NodeKind} (h : kind.isAsset = true) : kind ≠ .text := by
  rintro rfl
  exact Bool.false_ne_true h

/-- Texts stand for themselves in what a visit writes. -/
theorem textsAlone_of_visit {fuel : Nat} {n : Node} {s s' : Capture} {entry : Entry}
    (h : d.visit fuel n s = (s', .ok entry)) : entry.TextsAlone := by
  induction fuel generalizing n s s' entry with
  | zero =>
    cases h
    exact .leaf (by simp [modelNode])
  | succ fuel ih =>
    rcases visit_cases h with ⟨leaf, use⟩ | ⟨goes, below, rfl, walked⟩
    · cases leaf with
      | slot => exact .leaf (by simp [modelNode])
      | asset _ asset => exact .leaf fun _ => ne_text_of_isAsset asset
      | use _ used => exact .leaf fun _ same => by simp [modelNode, use rfl] at same
      | text => exact .leaf (by simp [modelNode])
    · cases below with
      | nil => exact .leaf (by simp [modelNode])
      | cons first rest =>
        simp only [Node.endsWalk, Bool.or_eq_false_iff, beq_eq_false_iff_ne] at goes
        obtain ⟨⟨⟨swap, -⟩, -⟩, text⟩ := goes
        refine .container text (by simpa [modelNode] using swap) rfl fun entry listed => ?_
        obtain ⟨_, _, _, _, visited⟩ := exists_visit_of_mem walked listed
        exact ih visited

/-- Texts stand for themselves in a model. -/
theorem textsAlone_of_extract {descriptor : Descriptor} {log : List LogRecord} {m : Model}
    (h : d.extract descriptor = (log, .ok m)) : ∀ entry ∈ m.tree, entry.TextsAlone := by
  obtain ⟨_, _, -, walked, -⟩ := exists_walk_of_extract h
  intro entry listed
  obtain ⟨_, _, _, _, visited⟩ := exists_visit_of_mem walked listed
  exact textsAlone_of_visit visited

end Document
end Handoff
