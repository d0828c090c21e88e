import Handoff.Proofs.Bundle.RoundTrip
import Handoff.Proofs.Bundle.PluginData
import Handoff.Proofs.Component.Walk

/-!
# Where the assets of a bundle come from

Every asset of a compiled bundle was captured from an asset node of the document and has that node's
sizes. So if the sizes of the asset nodes read back, every compiled bundle reads back.
-/

namespace Handoff

/-- Whether an asset was captured from a node of a document. -/
def Asset.From (d : Document) (a : Asset) : Prop :=
  ∃ n ∈ d.nodes, n.kind.isAsset = true ∧ a.id = n.id ∧ a.name = n.name ∧ a.width = n.width ∧
    a.height = n.height

/-- Whether all captured assets come from nodes of a document. -/
def Capture.AssetsFrom (d : Document) (s : Capture) : Prop := ∀ e ∈ s.assets.entries, e.2.From d

namespace Document

variable {d : Document}

private theorem assetsFrom_addAsset {s : Capture} {n : Node} (hs : s.AssetsFrom d)
    (hn : n ∈ d.nodes) (hk : n.kind.isAsset = true) : (s.addAsset d n).AssetsFrom d := by
  unfold Capture.addAsset
  split
  · intro e he
    rcases OrderedMap.mem_entries_insert he with rfl | he
    · exact ⟨n, hn, hk, rfl, rfl, rfl, rfl⟩
    · exact hs e he
  · exact hs
  · exact hs

private theorem assetsFrom_addStyle {s : Capture} (hs : s.AssetsFrom d) (slug : String)
    (style : StyleMap) : (s.addStyle slug style).AssetsFrom d := by
  unfold Capture.addStyle
  split <;> exact hs

/-- Walks capture assets of the document only. -/
theorem keeps_assetsFrom (d : Document) : d.Keeps (·.AssetsFrom d) where
  links _ _ hs := hs
  primitive _ _ hs := hs
  style _ slug style hs := assetsFrom_addStyle hs slug style
  asset _ _ hn asset hs := assetsFrom_addAsset hs hn asset
  use step hs := by cases step <;> exact hs

private theorem assetsFrom_extract {descriptor : Descriptor} {m : Model}
    (h : (d.extract descriptor).2 = .ok m) : ∀ e ∈ m.assets.entries, e.2.From d := by
  obtain ⟨s, holds, assets⟩ := d.keeps_assetsFrom.extract (fun _ => by rintro _ ⟨⟩) (Prod.ext rfl h)
  rw [holds.assets]
  exact assets

/-- Every asset of a bundle was captured from an asset node of the document. -/
theorem asset_from_of_compile {s : Settings} {id : NodeId} {b : Bundle}
    (h : (d.compile s id).2 = .ok b) : ∀ e ∈ b.assets.entries, e.2.From d := by
  obtain ⟨descriptor, m, written, -, extracted, -, rfl⟩ := compile_eq_ok_iff.1 h
  intro e he
  have mem : e ∈ m.assets.values.map fun a => (a.hash, a) := OrderedMap.mem_entries_ofList he
  obtain ⟨a, ha, rfl⟩ := List.mem_map.1 mem
  obtain ⟨entry, hentry, rfl⟩ := List.mem_map.1 ha
  exact assetsFrom_extract extracted entry hentry

/-- Whether the sizes of all asset nodes read back. -/
def SizesReadBack (d : Document) : Prop :=
  ∀ n ∈ d.nodes, n.kind.isAsset = true → n.width.ReadsBack ∧ n.height.ReadsBack

instance (d : Document) : Decidable d.SizesReadBack :=
  inferInstanceAs (Decidable (∀ n ∈ d.nodes, _))

/-- The sizes in a compiled bundle read back if those of the document do. -/
theorem sizesReadBack_of_compile {s : Settings} {id : NodeId} {b : Bundle} (hd : d.SizesReadBack)
    (h : (d.compile s id).2 = .ok b) : b.SizesReadBack := by
  intro e he
  obtain ⟨n, hn, hk, -, -, hw, hh⟩ := asset_from_of_compile h e he
  rw [hw, hh]
  exact hd n hn hk

/-- Plugin data does not matter for the sizes of asset nodes. -/
theorem sizesReadBack_of_bare_eq {e : Document} (h : d.bare = e.bare) (hd : d.SizesReadBack) :
    e.SizesReadBack := by
  intro n hn hk
  have mem : n.bare ∈ d.nodes.map Node.bare := by
    have nodes : d.nodes.map Node.bare = e.nodes.map Node.bare := by
      rw [← nodes_mapNodes, ← nodes_mapNodes]
      exact congrArg Document.nodes h
    rw [nodes]
    exact List.mem_map_of_mem hn
  obtain ⟨m, hm, hb⟩ := List.mem_map.1 mem
  have kind : m.kind = n.kind := Node.kind_eq_of_bare hb
  have width : m.width = n.width :=
    Node.eq_of_bare (fun _ => rfl) hb
  have height : m.height = n.height :=
    Node.eq_of_bare (fun _ => rfl) hb
  rw [← width, ← height]
  exact hd m hm (by rw [kind]; exact hk)

end Document
end Handoff
