import Handoff.Proofs.Bundle.Code
import Handoff.Proofs.Session.Discovery
import Handoff.Proofs.Session.Load
import Handoff.Proofs.Session.Revision

/-!
# Incremental compilation

A session that has loaded a snapshot and goes over to a new one keeps its bundles up to date where the
changes reach. A component that owns a revised node is compiled anew; any other keeps the bundle that it
had, and this still has the code of a fresh one as long as everything else that its module depends on is
as it was.
-/

namespace Handoff

variable {namespaceName key : String} {m : OrderedMap Bundle} {d : Document}

/-! ## What changes do to the table -/

namespace Session

/-- Following changes leaves in the table, for every component that the changes do not ask for, what was
there, and for every other one that compiles, what compiling it yields. -/
theorem handleChanges_serves {s : Session} (h : s.store.Over namespaceName key m d)
    (changes : List Change) :
    ∃ m' d', (s.handleChanges changes).1.store.Over namespaceName key m' d' ∧
      ∀ id ∈ d.discover.elems,
        (id ∉ (d.updatedTargets changes).elems → m'.get? id = m.get? id) ∧
        (id ∈ (d.updatedTargets changes).elems → ∀ b, (d.compile s.settings id).2 = .ok b →
          m'.get? id = some b) := by
  have doc : s.document = d := h.document
  unfold handleChanges
  rw [doc]
  simp only
  split
  · next hnone =>
    refine ⟨m, d, h, fun id found => ⟨fun _ => rfl, fun asked => ?_⟩⟩
    rw [Bool.or_eq_true, List.isEmpty_iff, List.isEmpty_iff] at hnone
    rcases hnone with hnone | hnone
    · rw [hnone] at found
      cases found
    · rw [hnone] at asked
      cases asked
  · obtain ⟨results, m', d', run, hover, -, -⟩ :=
      compile_run h d.discover.elems (d.updatedTargets changes).elems true
    refine ⟨m', d', hover, fun id found => ⟨fun unasked => ?_, fun asked b built => ?_⟩⟩
    · rw [run.get?_of_not_mem unasked, OrderedMap.get?_filterKeys, if_pos (by simpa using found)]
    · exact (run.bundle_of_fresh run.fresh_of_skip asked (Document.isIcon_of_mem_discover found)
        built).1

/-- Going over to a new snapshot leaves in the table, for every component of the snapshot that is not
compiled anew, what was there, and for every other one that compiles, what compiling it yields. -/
theorem reload_serves {s : Session} (h : s.store.Over namespaceName key m d) (snapshot : Document) :
    ∃ m' d', (s.reload snapshot).1.store.Over namespaceName key m' d' ∧
      ∀ id ∈ snapshot.discover.elems,
        (id ∉ s.reloadTargets snapshot → m'.get? id = m.get? id) ∧
        (id ∈ s.reloadTargets snapshot → ∀ b, (snapshot.compile s.settings id).2 = .ok b →
          m'.get? id = some b) := by
  let after := snapshot.adoptPluginData s.document
  have adopted : after.bare = snapshot.bare := Document.bare_adoptPluginData s.document
  have hstart : (s.withDocument after).store.Over namespaceName key m after :=
    ⟨h.volatile, h.durable, rfl⟩
  obtain ⟨m', d', hover, served⟩ := handleChanges_serves hstart (s.reloadChanges snapshot)
  rw [Document.discover_of_bare_eq adopted] at served
  by_cases hnone : s.reloadChanges snapshot = []
  · have same : (s.reload snapshot).1 = s.withDocument after := by
      unfold reload
      simp only
      rw [if_pos (by rw [List.isEmpty_iff]; exact hnone)]
    rw [same]
    refine ⟨m, after, hstart, fun id found => ⟨fun _ => rfl, fun asked => ?_⟩⟩
    rw [reloadTargets, hnone] at asked
    cases asked
  · have same : (s.reload snapshot).1 =
        ((s.withDocument after).handleChanges (s.reloadChanges snapshot)).1 := by
      unfold reload
      simp only
      rw [if_neg (by rw [List.isEmpty_iff]; exact hnone)]
      rfl
    rw [same]
    refine ⟨m', d', hover, fun id found => ⟨(served id found).1, fun asked b built => ?_⟩⟩
    apply (served id found).2 asked b
    rw [Document.compile_of_bare_eq adopted]
    exact built

end Session

/-! ## Components of both snapshots -/

namespace Document

variable {id : NodeId}

private theorem isIcon_eq {n : Node} (hn : d.node? id = some n) :
    d.isIcon id = Text.isIconName n.name := by
  rw [isIcon, hn]

variable {old new : Document}

/-- A component that is discovered in a new tree is discovered in an old one where it is its own target
and which finds all that extraction inspects for it. -/
theorem mem_discover_of_finds (tree₁ : old.TreeShaped) (tree₂ : new.TreeShaped)
    (own : old.compileTarget? id = some id) (finds : ∀ n, new.Inspected id n → old.Finds n)
    (found : id ∈ new.discover.elems) : id ∈ old.discover.elems := by
  rw [mem_discover_iff] at found ⊢
  obtain ⟨hicon, c, hc, hk, hct⟩ := found
  obtain ⟨n, hn, alone⟩ := standsAlone_of_compileTarget? (keyed_of_linked tree₂.linked) hct
  have hid := keyed_of_linked tree₂.linked _ _ hn
  obtain ⟨m, hm, hb⟩ := finds n (.target hn)
  have hmid : m.id = id := (Node.id_eq_of_bare hb).trans hid
  rw [hid] at hm
  refine ⟨?_, ?_⟩
  · rw [isIcon_eq hm, Node.name_eq_of_bare hb, ← isIcon_eq hn, hicon]
  · rcases alone with hset | ⟨hcomponent, -⟩
    · -- Some member of the set is a component, and it is a member in the old tree, too.
      have member := tree₂.mem_children_of_compileTarget? hc hk hct hn hset
      obtain ⟨-, p, hp, lists⟩ := tree₂.mem_children_iff.1 member
      rw [hn] at hp
      cases hp
      obtain ⟨a, ha, hab⟩ := finds c (.member member)
      have hak : a.kind = .component := (Node.kind_eq_of_bare hab).trans hk
      have kept : a ∈ old.children id := by
        refine tree₁.mem_children_iff.2 ⟨mem_nodes_of_node? ha, m, hm, ?_⟩
        rw [children_eq_of_bare hb, Node.id_eq_of_bare hab]
        exact lists
      exact ⟨a, mem_nodes_of_node? ha, hak,
        tree₁.compileTarget?_of_mem_children kept hak hm ((Node.kind_eq_of_bare hb).trans hset)⟩
    · refine ⟨m, mem_nodes_of_node? hm, (Node.kind_eq_of_bare hb).trans hcomponent, ?_⟩
      rw [hmid, own]

end Document

/-! ## Reloading -/

namespace Session

variable {settings : Settings} {old new : Document} {id : NodeId} {b : Bundle}

/-- A session that has loaded a snapshot. -/
def loaded (settings : Settings) (old : Document) : Session := (Session.start settings old).load.1

/-- A session that has loaded a snapshot and gone over to a new one. -/
def reloaded (settings : Settings) (old new : Document) : Session :=
  ((loaded settings old).reload new).1

private theorem settings_load (s : Session) : s.load.1.settings = s.settings := by
  apply load_keeps (P := fun t => t.settings = s.settings) fun _ _ _ _ h => h
  rfl

/-- Loading changes plugin data only. -/
theorem bare_loaded (settings : Settings) (old : Document) :
    (loaded settings old).document.bare = old.bare := by
  obtain ⟨m', d', hover, bare, -⟩ := load_serves (start_over settings old)
  show (Session.start settings old).load.1.store.document.bare = old.bare
  rw [hover.document, bare]

/-- After loading, the volatile tier has what a component compiles to. -/
theorem volatile?_loaded (found : id ∈ old.discover.elems)
    (built : (old.compile settings id).2 = .ok b) :
    (loaded settings old).store.volatile? id = some b := by
  obtain ⟨m', d', hover, -, served⟩ := load_serves (start_over settings old)
  rw [loaded, Store.volatile?_of_over hover]
  exact (served id found b built).1

/-- After a reload, the volatile tier has what a component compiles to that was compiled anew. -/
theorem volatile?_reloaded_of_mem (found : id ∈ new.discover.elems)
    (built : (new.compile settings id).2 = .ok b)
    (listed : id ∈ (loaded settings old).reloadTargets new) :
    (reloaded settings old new).store.volatile? id = some b := by
  obtain ⟨m₁, d₁, hover₁, -, -⟩ := load_serves (start_over settings old)
  obtain ⟨m₂, d₂, hover₂, served⟩ := reload_serves hover₁ new
  rw [settings_load] at served
  rw [reloaded, loaded, Store.volatile?_of_over hover₂]
  exact (served id found).2 listed b built

/-- After a reload, the volatile tier has what it had for a component that was not compiled anew. -/
theorem volatile?_reloaded_of_not_mem (found : id ∈ new.discover.elems)
    (unlisted : id ∉ (loaded settings old).reloadTargets new) :
    (reloaded settings old new).store.volatile? id = (loaded settings old).store.volatile? id := by
  obtain ⟨m₁, d₁, hover₁, -, -⟩ := load_serves (start_over settings old)
  obtain ⟨m₂, d₂, hover₂, served⟩ := reload_serves hover₁ new
  rw [reloaded, loaded, Store.volatile?_of_over hover₂, Store.volatile?_of_over hover₁]
  exact (served id found).1 unlisted

/-- A component that is not compiled anew had a bundle with the code of a fresh one, provided that changes
which matter for it lie within what it owns, and no record of an inspected node names plugin data next to
other fields. -/
theorem compile_of_not_mem_reloadTargets (tree₁ : old.TreeShaped) (tree₂ : new.TreeShaped)
    (found : id ∈ new.discover.elems) (built : (new.compile settings id).2 = .ok b)
    (within : old.ChangesWithin new id)
    (unmixed : ∀ n, new.Inspected id n → ∀ c ∈ (loaded settings old).reloadChanges new,
      c.node = n.id → pluginDataField ∈ c.properties → c.properties = [pluginDataField])
    (unlisted : id ∉ (loaded settings old).reloadTargets new) :
    id ∈ old.discover.elems ∧ ∃ b₀, (old.compile settings id).2 = .ok b₀ ∧ b₀.code = b.code := by
  have finds (n : Node) (inspected : new.Inspected id n) : old.Finds n :=
    finds_of_not_mem_reloadTargets tree₂ (bare_loaded settings old) within unmixed unlisted inspected
  obtain ⟨-, c, -, -, hct⟩ := Document.mem_discover_iff.1 found
  have keyed := Document.keyed_of_linked tree₂.linked
  have own := Document.compileTarget?_of_compileTarget? keyed hct
  obtain ⟨t, ht, -⟩ := Document.standsAlone_of_compileTarget? keyed hct
  have same := Document.sameInside_of_inspected tree₂ finds ht within.looks within.references
  exact ⟨Document.mem_discover_of_finds tree₁ tree₂ within.own finds found,
    Document.code_eq_of_sameInside tree₂ tree₁ same own within.own built⟩

/-- Incremental compilation after a reload, for a component of the new snapshot that compiles. If it is
among the components that are compiled anew, the volatile tier has what compiling it yields. If not, the
volatile tier has what it had, and if the old snapshot has the component and compiles it, that is what
compiling it in the old snapshot yields. In both cases the bundle has the code of a fresh one if changes
that matter for it lie within what it owns and no record of an inspected node names plugin data next to
other fields. -/
theorem reload_incremental (tree₁ : old.TreeShaped) (tree₂ : new.TreeShaped)
    (found : id ∈ new.discover.elems) (built : (new.compile settings id).2 = .ok b) :
    (id ∈ (loaded settings old).reloadTargets new →
      (reloaded settings old new).store.volatile? id = some b) ∧
    (id ∉ (loaded settings old).reloadTargets new →
      (reloaded settings old new).store.volatile? id = (loaded settings old).store.volatile? id ∧
      ∀ b₀, id ∈ old.discover.elems → (old.compile settings id).2 = .ok b₀ →
        (reloaded settings old new).store.volatile? id = some b₀) ∧
    (old.ChangesWithin new id →
      (∀ n, new.Inspected id n → ∀ c ∈ (loaded settings old).reloadChanges new, c.node = n.id →
        pluginDataField ∈ c.properties → c.properties = [pluginDataField]) →
      ∃ b', (reloaded settings old new).store.volatile? id = some b' ∧ b'.code = b.code) := by
  refine ⟨volatile?_reloaded_of_mem found built, fun unlisted => ?_, fun within unmixed => ?_⟩
  · have kept := volatile?_reloaded_of_not_mem found unlisted
    refine ⟨kept, fun b₀ found₀ built₀ => ?_⟩
    rw [kept, volatile?_loaded found₀ built₀]
  · by_cases listed : id ∈ (loaded settings old).reloadTargets new
    · exact ⟨b, volatile?_reloaded_of_mem found built listed, rfl⟩
    · obtain ⟨found₀, b₀, built₀, code⟩ :=
        compile_of_not_mem_reloadTargets tree₁ tree₂ found built within unmixed listed
      refine ⟨b₀, ?_, code⟩
      rw [volatile?_reloaded_of_not_mem found listed, volatile?_loaded found₀ built₀]

end Session

/-! ## Galleries -/

namespace Document

/-- A gallery with a label in the button. -/
def labelledGallery : Document :=
  galleryOf (galleryCard .empty) galleryHint
    { id := "b", name := "Button", kind := .component, children := ["t"] }
    [{ id := "t", name := "Label", kind := .text }]

/-- A gallery with another name of the button. -/
def renamedGallery : Document :=
  galleryOf (galleryCard .empty) galleryHint { id := "b", name := "Knob", kind := .component } []

/-- The label is part of the button, and not of the card that uses the button. -/
example : labelledGallery.owningTarget? "t" = some "b" := by decide +kernel

private theorem visited_labelledGallery {n : Node} :
    labelledGallery.Visited "a" n ↔ n ∈ [galleryCard .empty, galleryBody, galleryUse] :=
  visited_gallery (galleryCard .empty) (by decide +kernel) rfl (by decide +kernel) (by decide +kernel)

private theorem inspected_labelledGallery {n : Node} (h : labelledGallery.Inspected "a" n) :
    n ∈ [galleryCard .empty, galleryBody, galleryUse, galleryHint] := by
  have below : ∀ m ∈ [galleryCard .empty, galleryBody, galleryUse],
      ∀ k ∈ labelledGallery.children m.id,
        k ∈ [galleryCard .empty, galleryBody, galleryUse, galleryHint] := by decide +kernel
  cases h with
  | target h =>
    have card : labelledGallery.node? "a" = some (galleryCard .empty) := by decide +kernel
    rw [card] at h
    cases h
    exact List.mem_cons_self
  | member h => exact below (galleryCard .empty) List.mem_cons_self n h
  | below opens h =>
    rcases opens with root | ⟨visited, -⟩
    · exact below _ (visited_labelledGallery.1 (.root root)) n h
    · exact below _ (visited_labelledGallery.1 visited) n h

private theorem changesWithin_labelledGallery : gallery.ChangesWithin labelledGallery "a" where
  own := by decide +kernel
  owned n h := by
    have owned : ∀ n ∈ [galleryCard .empty, galleryBody, galleryUse, galleryHint],
        labelledGallery.owningTarget? n.id = some "a" := by decide +kernel
    exact .inr (owned n (inspected_labelledGallery h))
  said n h m hm _ := by
    have same : ∀ n ∈ [galleryCard .empty, galleryBody, galleryUse, galleryHint],
        gallery.node? n.id = some n := by decide +kernel
    rw [same n (inspected_labelledGallery h)] at hm
    cases hm
    rfl
  looks _ _ := resolve_congr rfl rfl
  references n h := by
    have same : ∀ n ∈ [galleryCard .empty, galleryBody, galleryUse], ∀ r ∈ n.references,
        SameReference labelledGallery gallery r := by
      unfold SameReference
      decide +kernel
    exact same n (visited_labelledGallery.1 h)

private theorem treeShaped_gallery : gallery.TreeShaped :=
  treeShaped_of_rank (by decide +kernel) (by decide +kernel)
    (["i", "h", "t", "f", "a", "b", "p"].idxOf ·) (by decide +kernel)

end Document

namespace Session

/-- The card of a gallery keeps its code when the button in it gets a label. -/
theorem reload_labelledGallery : ∃ b b',
    (Document.labelledGallery.compile {} "a").2 = .ok b ∧
    (reloaded {} Document.gallery Document.labelledGallery).store.volatile? "a" = some b' ∧
    b'.code = b.code := by
  have tree : Document.labelledGallery.TreeShaped :=
    Document.treeShaped_of_rank (by decide +kernel) (by decide +kernel)
      (["i", "h", "t", "f", "a", "b", "p"].idxOf ·) (by decide +kernel)
  have compiles : (Document.labelledGallery.compile {} "a").2.toOption.isSome = true := by
    decide +kernel
  cases built : (Document.labelledGallery.compile {} "a").2 with
  | error e =>
    rw [built] at compiles
    cases compiles
  | ok b =>
    have carried := (reload_incremental Document.treeShaped_gallery tree (by decide +kernel) built).2.2
      Document.changesWithin_labelledGallery
    obtain ⟨b', table, code⟩ := carried (by
      intro n h c hc hid named
      have empty : ∀ n ∈ [Document.galleryCard .empty, Document.galleryBody, Document.galleryUse,
          Document.galleryHint], n.pluginData.isEmpty = true := by decide +kernel
      have unnamed := pluginData_not_mem_properties tree.linked (tree.node?_of_inspected h)
        (empty n (Document.inspected_labelledGallery h)) hc hid
      exact absurd named unnamed)
    exact ⟨b, b', rfl, table, code⟩

/-- Where a component refers to another one by name, a reload can leave it with the old name: the module
of the card goes on importing a button that has another name in the new snapshot. -/
theorem reload_misses_renamed_button :
    ¬ ∀ (settings : Settings) (old new : Document), old.TreeShaped → new.TreeShaped →
      ∀ id ∈ new.discover.elems, ∀ b, (new.compile settings id).2 = .ok b →
        ∃ b', (reloaded settings old new).store.volatile? id = some b' ∧ b'.code = b.code := by
  intro h
  have tree : Document.renamedGallery.TreeShaped :=
    Document.treeShaped_of_rank (by decide +kernel) (by decide +kernel)
      (["i", "h", "t", "f", "a", "b", "p"].idxOf ·) (by decide +kernel)
  have differ : ((Document.gallery.compile {} "a").2.toOption.map (·.code)) ≠
      (Document.renamedGallery.compile {} "a").2.toOption.map (·.code) := by decide +kernel
  have compiles : (Document.gallery.compile {} "a").2.toOption.isSome = true ∧
      (Document.renamedGallery.compile {} "a").2.toOption.isSome = true := by decide +kernel
  have steady : ∀ n ∈ Document.renamedGallery.nodes,
      Document.renamedGallery.owningTarget? n.id = some "a" →
        Document.gallery.node? n.id = some n ∧ ∀ e ∈ n.members, e.2.same e.2 = true := by
    decide +kernel
  have unlisted : "a" ∉ (loaded {} Document.gallery).reloadTargets Document.renamedGallery := by
    apply not_mem_reloadTargets (bare_loaded {} Document.gallery)
    intro n hn owned
    obtain ⟨found, self⟩ := steady n hn owned
    exact ⟨n, found, fun field hf => absurd hf (not_mem_changedFields_self self field)⟩
  cases built : (Document.renamedGallery.compile {} "a").2 with
  | error e =>
    rw [built] at compiles
    cases compiles.2
  | ok b =>
    cases built₀ : (Document.gallery.compile {} "a").2 with
    | error e =>
      rw [built₀] at compiles
      cases compiles.1
    | ok b₀ =>
      have found : "a" ∈ Document.renamedGallery.discover.elems := by decide +kernel
      obtain ⟨b', table, code⟩ :=
        h {} Document.gallery Document.renamedGallery Document.treeShaped_gallery tree "a" found b built
      rw [volatile?_reloaded_of_not_mem found unlisted,
        volatile?_loaded (by decide +kernel) built₀] at table
      cases table
      rw [built, built₀] at differ
      exact differ (congrArg some code)

end Session
end Handoff
