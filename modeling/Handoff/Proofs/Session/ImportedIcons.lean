import Handoff.Proofs.Ordered.Map
import Handoff.Proofs.Ordered.Set
import Handoff.Proofs.Scene.IconsPage
import Handoff.Proofs.Session.Discovery
import Handoff.Proofs.Text.IconName

/-!
# Imported icons are no components to compile

Icons are components, too, but an import names them so that they count as sources of icons. In a tree, the
targets of components after an import are those from before without what is gone, in their order, and after
them the icons. So discovery loses what the import removes, and gains nothing.
-/

namespace Handoff.Document

variable {d e cleared : Document} {gone : List NodeId} {set : String} {icons : List (String × String)}
  {n : Node} {target : NodeId}

/-! ## Components that stay -/

section

variable {added : List Node} (exchanges : d.Exchanges e gone added) (before : d.Sound) (after : e.Sound)
include exchanges after

private theorem node?_of_stays (hn : n ∈ d.nodes) (stays : n.id ∉ gone) :
    e.node? n.id = some (n.losing gone) := by
  refine after.node?_of_mem (n := n.losing gone) ?_
  rw [exchanges.nodes]
  exact List.mem_append_left _ (List.mem_map_of_mem (List.mem_filter.2 ⟨hn, by simpa using stays⟩))

include before

/-- A component that stays has the target that it had. -/
theorem compileTarget?_of_stays (hn : n ∈ d.nodes) (component : n.kind = .component) (stays : n.id ∉ gone) :
    e.compileTarget? n.id = d.compileTarget? n.id := by
  rw [compileTarget?_of_component (before.node?_of_mem hn) component,
    compileTarget?_of_component (node?_of_stays exchanges after hn stays) component,
    exchanges.parents n hn stays]
  cases d.parent? n.id <;> rfl

/-- A node that stays is an icon if it was. -/
theorem isIcon_of_stays (hn : n ∈ d.nodes) (stays : n.id ∉ gone) : e.isIcon n.id = d.isIcon n.id := by
  rw [isIcon, isIcon, before.node?_of_mem hn, node?_of_stays exchanges after hn stays]
  rfl

end

/-! ## Components that go -/

/-- In a tree, the target of a component goes with an icons page exactly if the component does. -/
theorem TreeShaped.target_mem_iff (tree : d.TreeShaped)
    (below : ∀ x, x ∈ gone ↔
      ∃ old ∈ d.pages, old.name = iconsPageName ∧ Relation.ReflTransGen d.Lists old.id x)
    (hn : n ∈ d.nodes) (component : n.kind = .component) (h : d.compileTarget? n.id = some target) :
    target ∈ gone ↔ n.id ∈ gone := by
  have found := node?_of_mem tree.linked hn
  rw [compileTarget?_of_component found component] at h
  cases hp : d.parent? n.id with
  | none =>
    rw [hp] at h
    cases h
    rfl
  | some p =>
    rw [hp] at h
    obtain ⟨hpm, hpc⟩ := tree.parent?_eq_some_iff.1 hp
    dsimp only at h
    -- The target is the set of a member; what removes the one removes the other, since no component is a page.
    split at h
    · cases h
      rw [below, below]
      constructor
      · rintro ⟨old, hold, name, path⟩
        exact ⟨old, hold, name, path.tail ⟨p, node?_of_mem tree.linked hpm, hpc⟩⟩
      · rintro ⟨old, hold, name, path⟩
        refine ⟨old, hold, name, ?_⟩
        rcases Relation.ReflTransGen.cases_tail path with same | ⟨q, path, m, hm, lists⟩
        · -- The component is no page itself.
          have page := List.mem_filter.1 hold
          rw [same, node?_of_mem tree.linked page.1] at found
          cases found
          simp [component] at page
        · have own := tree.lister_unique (mem_nodes_of_node? hm) hpm lists hpc
          rw [← own, keyed_of_linked tree.linked q m hm]
          exact path
    · cases h
      rfl

/-- In a tree, the components that stay have the targets that there were, without what is gone. -/
theorem TreeShaped.targets_of_stays (tree : d.TreeShaped) (after : e.Sound) {added : List Node}
    (exchanges : d.Exchanges e gone added)
    (below : ∀ x, x ∈ gone ↔
      ∃ old ∈ d.pages, old.name = iconsPageName ∧ Relation.ReflTransGen d.Lists old.id x) :
    ((d.findAll .component).filter (!gone.contains ·)).filterMap e.compileTarget? =
      ((d.findAll .component).filterMap d.compileTarget?).filter (!gone.contains ·) := by
  rw [List.filterMap_filter, List.filter_filterMap]
  refine List.filterMap_congr fun id hid => ?_
  obtain ⟨n, hn, rfl⟩ := List.mem_map.1 hid
  obtain ⟨hn, component⟩ := List.mem_filter.1 hn
  have component : n.kind = .component := eq_of_beq component
  by_cases goes : n.id ∈ gone
  · rw [if_neg (by simpa using goes)]
    cases target : d.compileTarget? n.id with
    | none => rfl
    | some t =>
      have targetGoes : t ∈ gone := (tree.target_mem_iff below hn component target).2 goes
      exact (Option.filter_some_neg (by simpa using targetGoes)).symm
  · have same := compileTarget?_of_stays exchanges (sound_iff_linked.2 tree.linked) after hn component goes
    rw [if_pos (by simpa using goes), same]
    cases target : d.compileTarget? n.id with
    | none => rfl
    | some t =>
      have targetStays : t ∉ gone := mt (tree.target_mem_iff below hn component target).1 goes
      exact (Option.filter_some_pos (by simpa using targetStays)).symm

/-! ## Components that come -/

/-- The name and the id of a node that is the source of an icon. -/
private def iconSource? (d : Document) (id : NodeId) : Option (String × NodeId) :=
  (d.node? id).bind fun n => if Text.isIconName n.name then some (n.name, id) else none

private theorem iconSources_eq :
    d.iconSources = OrderedMap.ofList ((d.findAll .component).filterMap d.iconSource?) :=
  rfl

namespace Appends

variable (appends : Appends cleared set icons e) {icon : String × String}
include appends

/-- After an import the components are those from before and the roots of the icons. -/
theorem findAll_component : e.findAll .component =
    cleared.findAll .component ++ icons.map fun icon => (iconRoot set icon).id := by
  have roots (icons : List (String × String)) :
      (icons.flatMap fun icon => [iconRoot set icon, iconDrawing set icon]).filter (·.kind == .component) =
        icons.map (iconRoot set) := by
    induction icons with
    | nil => rfl
    | cons icon rest ih =>
      rw [List.flatMap_cons, List.filter_append, ih]
      rfl
  rw [findAll, findAll, appends.nodes, List.filter_append, List.map_append, iconNodes,
    List.filter_cons_of_neg (by simp [iconsPage]), roots, List.map_map]
  rfl

/-- The component of an icon is its own target: no set holds it. -/
theorem compileTarget?_iconRoot (before : cleared.Sound) (h : icon ∈ icons) :
    e.compileTarget? (iconRoot set icon).id = some (iconRoot set icon).id := by
  rw [compileTarget?_of_component (appends.node?_of_mem (iconRoot_mem h)) rfl]
  cases hp : e.parent? (iconRoot set icon).id with
  | none => rfl
  | some p =>
    obtain ⟨hpm, lists⟩ := mem_children_of_parent? (sound_iff_linked.1 appends.sound) hp
    have none : p.kind ≠ .componentSet := by
      rw [appends.nodes, List.mem_append] at hpm
      rcases hpm with old | new
      · -- What was there before lists only what was there before.
        obtain ⟨m, hm, same⟩ := before.closed p old _ lists
        exact absurd (same ▸ List.mem_map_of_mem (iconRoot_mem h)) (appends.not_mem_iconIds hm)
      · rcases mem_iconNodes_iff.1 new with rfl | ⟨other, -, rfl | rfl⟩ <;> exact nofun
    exact if_neg none

/-- The component of an icon is an icon if it is named like one. -/
theorem isIcon_iconRoot (h : icon ∈ icons) :
    e.isIcon (iconRoot set icon).id = Text.isIconName (set ++ ":" ++ icon.1) := by
  rw [isIcon, appends.node?_of_mem (iconRoot_mem h)]
  rfl

/-- The document offers every icon that is named like one, under the component that was added for it. -/
theorem get?_iconSources (named : ∀ icon ∈ icons, Text.isIconName (set ++ ":" ++ icon.1) = true)
    (h : icon ∈ icons) :
    e.iconSources.get? (set ++ ":" ++ icon.1) = some (iconRoot set icon).id := by
  have new : (icons.map fun icon => (iconRoot set icon).id).filterMap e.iconSource? =
      icons.map fun icon => (set ++ ":" ++ icon.1, (iconRoot set icon).id) := by
    rw [List.filterMap_map, ← List.filterMap_eq_map]
    refine List.filterMap_congr fun icon h => ?_
    show (e.node? (iconRoot set icon).id).bind _ = _
    rw [appends.node?_of_mem (iconRoot_mem h)]
    exact if_pos (named icon h)
  rw [iconSources_eq, appends.findAll_component, List.filterMap_append, new]
  refine OrderedMap.get?_ofList_append (List.mem_map.2 ⟨icon, h, rfl⟩) fun e he name => ?_
  obtain ⟨other, -, rfl⟩ := List.mem_map.1 he
  exact congrArg ("icon:" ++ ·) name

end Appends

/-! ## Discovery after an import -/

section

variable (tree : d.TreeShaped) (loses : d.Loses cleared gone) (emptied : cleared.Sound)
  (appends : Appends cleared set icons e)
  (below : ∀ x, x ∈ gone ↔
    ∃ old ∈ d.pages, old.name = iconsPageName ∧ Relation.ReflTransGen d.Lists old.id x)
include tree loses emptied appends below

/-- The targets of all components after an import are those from before without what is gone, and then the
icons. -/
theorem targets_of_import : (e.findAll .component).filterMap e.compileTarget? =
    ((d.findAll .component).filterMap d.compileTarget?).filter (!gone.contains ·) ++
      icons.map fun icon => (iconRoot set icon).id := by
  have before : d.Sound := sound_iff_linked.2 tree.linked
  have exchanges := appends.exchanges before loses (downward_of_below below)
  have old := tree.targets_of_stays appends.sound exchanges below
  have new : (icons.map fun icon => (iconRoot set icon).id).filterMap e.compileTarget? =
      icons.map fun icon => (iconRoot set icon).id := by
    rw [List.filterMap_map, ← List.filterMap_eq_map]
    exact List.filterMap_congr fun icon h => appends.compileTarget?_iconRoot emptied h
  rw [appends.findAll_component, loses.findAll_eq, List.filterMap_append, old, new]

/-- Discovery after an import whose icons are named like icons: what was discovered, in its order, without
what is gone. -/
theorem discover_of_import (named : ∀ icon ∈ icons, Text.isIconName (set ++ ":" ++ icon.1) = true) :
    e.discover.elems = d.discover.elems.filter (!gone.contains ·) := by
  have before : d.Sound := sound_iff_linked.2 tree.linked
  have exchanges := appends.exchanges before loses (downward_of_below below)
  have old : (((d.findAll .component).filterMap d.compileTarget?).filter (!gone.contains ·)).filter
      (!e.isIcon ·) =
      (((d.findAll .component).filterMap d.compileTarget?).filter (!d.isIcon ·)).filter
        (!gone.contains ·) := by
    rw [List.filter_filter, List.filter_filter]
    refine List.filter_congr fun t ht => ?_
    obtain ⟨id, -, target⟩ := List.mem_filterMap.1 ht
    obtain ⟨n, hn, -⟩ := standsAlone_of_compileTarget? (keyed_of_linked tree.linked) target
    obtain rfl := keyed_of_linked tree.linked _ _ hn
    cases stays : gone.contains n.id with
    | true => simp
    | false =>
      rw [isIcon_of_stays exchanges before appends.sound (mem_nodes_of_node? hn) (by simpa using stays)]
      simp
  have new : (icons.map fun icon => (iconRoot set icon).id).filter (!e.isIcon ·) = [] := by
    rw [List.filter_eq_nil_iff, List.forall_mem_map]
    intro icon h
    simp [appends.isIcon_iconRoot h, named icon h]
  rw [discover, targets_of_import tree loses emptied appends below, List.filter_append, old, new,
    List.append_nil, OrderedSet.elems_ofList_filter]
  rfl

end

/-- Icons that are imported from files never become components to compile. In a tree, under any set that
icons may have, and for any files whose names yield names of icons: if the import succeeds, the document
offers every icon under the component that was added for it, and this component is not discovered. What is
discovered is what was discovered, in its order, without what was at or below an icons page. -/
theorem imported_icons_hidden (tree : d.TreeShaped) (accepted : Command.isIconSet set = true)
    (files : List (String × String)) (named : ∀ file ∈ files, Command.iconName file.1 ≠ "") {count : Nat}
    (h : d.importIcons set (.ofList (files.map fun file => (Command.iconName file.1, file.2))) =
      (e, .ok count)) :
    (∀ file ∈ files, e.iconSources.get? (set ++ ":" ++ Command.iconName file.1) =
        some ("icon:" ++ (set ++ ":" ++ Command.iconName file.1)) ∧
      "icon:" ++ (set ++ ":" ++ Command.iconName file.1) ∉ e.discover.elems) ∧
    ∃ gone : List NodeId, (∀ x, x ∈ gone ↔
        ∃ page ∈ d.pages, page.name = iconsPageName ∧ Relation.ReflTransGen d.Lists page.id x) ∧
      e.discover.elems = d.discover.elems.filter (!gone.contains ·) := by
  obtain ⟨gone, cleared, below, loses, emptied, -, appends, -⟩ :=
    exists_of_importIcons ⟨sound_iff_linked.2 tree.linked, tree.acyclic⟩ h
  have wellNamed : ∀ icon ∈ (OrderedMap.ofList
      (files.map fun file => (Command.iconName file.1, file.2))).entries,
      Text.isIconName (set ++ ":" ++ icon.1) = true := by
    intro icon hicon
    obtain ⟨file, hfile, rfl⟩ := List.mem_map.1 (OrderedMap.mem_entries_ofList hicon)
    exact Command.isIconName_iconName accepted (named file hfile)
  have remaining := discover_of_import tree loses emptied.sound appends below wellNamed
  refine ⟨fun file hfile => ?_, gone, below, remaining⟩
  have key : Command.iconName file.1 ∈ (OrderedMap.ofList
      (files.map fun file => (Command.iconName file.1, file.2))).keys := by
    rw [OrderedMap.mem_keys_ofList, List.map_map]
    exact List.mem_map.2 ⟨file, hfile, rfl⟩
  obtain ⟨icon, hicon, same⟩ := List.mem_map.1 key
  have root : "icon:" ++ (set ++ ":" ++ icon.1) = (iconRoot set icon).id := rfl
  rw [← same, root]
  have offered := appends.get?_iconSources wellNamed hicon
  refine ⟨offered, fun listed => ?_⟩
  have hidden : e.isIcon (iconRoot set icon).id = true := by
    rw [appends.isIcon_iconRoot hicon, wellNamed icon hicon]
  exact Bool.false_ne_true ((isIcon_of_mem_discover listed).symm.trans hidden)

/-- A document with a set, a component beside it, and an icons page with an icon and with a component that
is no icon. -/
def mixedKit : Document :=
  .filed
    [{ id := "o", name := "Icons", kind := .page, children := ["x", "y"] },
      { id := "x", name := "ph:star", kind := .component },
      { id := "y", name := "Draft", kind := .component },
      { id := "p", name := "Page", kind := .page, children := ["c", "k"] },
      { id := "c", name := "Card", kind := .component },
      { id := "k", name := "Chips", kind := .componentSet, children := ["m"] },
      { id := "m", name := "State=Off", kind := .component }]

/-- Icon files with names that are spelled freely; two of them name one icon. -/
def drawings : List (String × String) :=
  [("Sun Rise!", "<svg>1</svg>"), ("--MOON_2", "<svg>2</svg>"), ("sun rise", "<svg>3</svg>")]

/-- The set and the component beside the icons page are discovered as before, and the component on that page
is gone. -/
theorem imported_icons_hidden_mixedKit : mixedKit.discover.elems = ["y", "c", "k"] ∧
    ∃ e, mixedKit.importIcons "ph" (.ofList (drawings.map fun file => (Command.iconName file.1, file.2))) =
        (e, .ok 2) ∧
      e.iconSources.get? "ph:sun-rise" = some "icon:ph:sun-rise" ∧
      e.iconSources.get? "ph:moon-2" = some "icon:ph:moon-2" ∧
      e.discover.elems = ["c", "k"] ∧ ∃ gone : List NodeId, "y" ∈ gone ∧
        e.discover.elems = mixedKit.discover.elems.filter (!gone.contains ·) := by
  have tree : mixedKit.TreeShaped := treeShaped_of_rank (by decide +kernel) (by decide +kernel)
    (["x", "y", "o", "c", "m", "k", "p"].idxOf ·) (by decide +kernel)
  have named : ∀ file ∈ drawings, Command.iconName file.1 ≠ "" := by decide +kernel
  have names : Command.iconName "Sun Rise!" = "sun-rise" ∧ Command.iconName "--MOON_2" = "moon-2" := by
    decide +kernel
  have before : mixedKit.discover.elems = ["y", "c", "k"] := by decide +kernel
  have computed :
      let done := mixedKit.importIcons "ph"
        (.ofList (drawings.map fun file => (Command.iconName file.1, file.2)))
      done.2 = .ok 2 ∧ done.1.discover.elems = ["c", "k"] := by decide +kernel
  have page : ∃ page ∈ mixedKit.pages, page.name = iconsPageName ∧ "y" ∈ page.children := by decide +kernel
  cases imported : mixedKit.importIcons "ph"
      (.ofList (drawings.map fun file => (Command.iconName file.1, file.2))) with
  | mk e result =>
    rw [imported] at computed
    obtain ⟨rfl, after⟩ := computed
    obtain ⟨offered, gone, below, remaining⟩ :=
      imported_icons_hidden tree (by decide +kernel) drawings named imported
    have star := (offered ("Sun Rise!", "<svg>1</svg>") (by decide)).1
    have moon := (offered ("--MOON_2", "<svg>2</svg>") (by decide)).1
    rw [names.1] at star
    rw [names.2] at moon
    obtain ⟨page, listed, name, child⟩ := page
    have goes : "y" ∈ gone := (below "y").2 ⟨page, listed, name,
      .single ⟨page, node?_of_mem tree.linked (List.mem_filter.1 listed).1, child⟩⟩
    exact ⟨before, e, rfl, star, moon, after, gone, goes, remaining⟩

end Handoff.Document
