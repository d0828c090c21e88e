import Handoff.Proofs.Scene.Removal

/-!
# The icons page

An import that succeeds leaves what was outside of the icons pages where it was, and ends the document with
one icons page: a component for each icon, in the order of the icons, and in each component the drawing. The
same import again takes just these nodes out and adds them anew. Icons are added one node at a time, until an id
is taken.
-/

namespace Handoff.Document

variable {d e f cleared : Document} {set : String} {icons done : List (String × String)}
  {icon : String × String} {added before after : List Node} {n node : Node} {parent : Option NodeId}

/-! ## Added nodes -/

private theorem adopt_of_ne {child : NodeId} (h : parent ≠ some n.id) : adopt parent child n = n :=
  if_neg h

private theorem nodes_addNode (sound : d.Sound) (h : d.addNode node parent = .ok e) :
    e.nodes = d.nodes.map (adopt parent node.id) ++ [node] := by
  obtain ⟨-, -, placements⟩ := placements_addNode sound h
  rw [nodes, placements, List.map_append, List.map_map, nodes, List.map_map]
  rfl

private theorem nodes_addNode_none (sound : d.Sound) (h : d.addNode node none = .ok e) :
    e.nodes = d.nodes ++ [node] := by
  have same : d.nodes.map (adopt none node.id) = d.nodes :=
    (List.map_congr_left fun n _ => adopt_of_ne (Option.some_ne_none n.id).symm).trans (List.map_id' _)
  rw [nodes_addNode sound h, same]

private theorem nodes_addNode_some (sound : d.Sound) (split : d.nodes = before ++ n :: after)
    (h : d.addNode node (some n.id) = .ok e) :
    e.nodes = before ++ { n with children := n.children ++ [node.id] } :: (after ++ [node]) := by
  have distinct := sound.distinct
  rw [split, List.map_append, List.map_cons, List.nodup_append, List.nodup_cons] at distinct
  obtain ⟨-, ⟨later, -⟩, earlier⟩ := distinct
  have stays {l : List Node} (apart : ∀ m ∈ l, m.id ≠ n.id) : l.map (adopt (some n.id) node.id) = l := by
    refine (List.map_congr_left fun m hm => adopt_of_ne fun same => ?_).trans (List.map_id' l)
    exact apart m hm (Option.some.inj same).symm
  have first : before.map (adopt (some n.id) node.id) = before :=
    stays fun m hm => earlier m.id (List.mem_map_of_mem hm) n.id List.mem_cons_self
  have last : after.map (adopt (some n.id) node.id) = after :=
    stays fun m hm same => later (same ▸ List.mem_map_of_mem hm)
  have adopts : adopt (some n.id) node.id n = { n with children := n.children ++ [node.id] } := if_pos rfl
  rw [nodes_addNode sound h, split, List.map_append, List.map_cons, first, last, adopts, List.append_assoc,
    List.cons_append]

private theorem eq_of_addNode (h : d.addNode node parent = .ok e) :
    e = { d with placements := e.placements } := by
  unfold addNode at h
  split at h
  · cases h
  · split at h
    · cases h
      rfl
    · split at h
      · cases h
        rfl
      · cases h

/-! ## Icons -/

/-- The drawing of an icon. -/
def iconDrawing (set : String) (icon : String × String) : Node :=
  iconVector (set ++ ":" ++ icon.1) icon.2

/-- The component of an icon, with the drawing in it. -/
def iconRoot (set : String) (icon : String × String) : Node :=
  { iconComponent (set ++ ":" ++ icon.1) with children := [(iconDrawing set icon).id] }

/-- The page of some icons. -/
def iconsPage (set : String) (icons : List (String × String)) : Node :=
  { id := "icons:" ++ set, name := iconsPageName, kind := .page
    children := icons.map fun icon => (iconRoot set icon).id }

/-- The page of some icons, with the icons. -/
def iconNodes (set : String) (icons : List (String × String)) : List Node :=
  iconsPage set icons :: icons.flatMap fun icon => [iconRoot set icon, iconDrawing set icon]

/-- The nodes of some icons, and of one more whose drawing is not there yet. -/
def pendingNodes (set : String) (icons : List (String × String)) (icon : String × String) : List Node :=
  iconsPage set (icons ++ [icon]) :: ((icons.flatMap fun icon => [iconRoot set icon, iconDrawing set icon]) ++
    [iconComponent (set ++ ":" ++ icon.1)])

/-! ## The nodes of icons -/

/-- The ids of the page of some icons, of their components and of their drawings. -/
def iconIds (set : String) (icons : List (String × String)) : List NodeId :=
  (iconNodes set icons).map (·.id)

/-- The component of an icon is among the nodes of the icons. -/
theorem iconRoot_mem (h : icon ∈ icons) : iconRoot set icon ∈ iconNodes set icons :=
  List.mem_cons_of_mem _ (List.mem_flatMap.2 ⟨icon, h, List.mem_cons_self⟩)

/-- The drawing of an icon is among the nodes of the icons. -/
theorem iconDrawing_mem (h : icon ∈ icons) :
    iconDrawing set icon ∈ iconNodes set icons :=
  List.mem_cons_of_mem _ (List.mem_flatMap.2 ⟨icon, h, List.mem_cons_of_mem _ List.mem_cons_self⟩)

/-- A node of the icons is the page, the component of an icon or its drawing. -/
theorem mem_iconNodes_iff : n ∈ iconNodes set icons ↔
    n = iconsPage set icons ∨ ∃ icon ∈ icons, n = iconRoot set icon ∨ n = iconDrawing set icon := by
  simp only [iconNodes, List.mem_cons, List.mem_flatMap, List.not_mem_nil, or_false]

/-- The nodes of icons list each other only. -/
theorem mem_iconIds_of_mem_children {c : NodeId} (h : n ∈ iconNodes set icons) (hc : c ∈ n.children) :
    c ∈ iconIds set icons := by
  rcases mem_iconNodes_iff.1 h with rfl | ⟨icon, hicon, rfl | rfl⟩
  · obtain ⟨icon, hicon, rfl⟩ := List.mem_map.1 hc
    exact List.mem_map_of_mem (iconRoot_mem hicon)
  · obtain rfl := List.mem_singleton.1 hc
    exact List.mem_map_of_mem (iconDrawing_mem hicon)
  · cases hc

/-! ## Documents with nodes added at the end -/

/-- Whether a document is another one with some nodes at its end. -/
structure Extends (cleared : Document) (added : List Node) (e : Document) : Prop where
  sound : e.Sound
  rest : e = { cleared with placements := e.placements }
  nodes : e.nodes = cleared.nodes ++ added

namespace Extends

/-- A childless node without a parent comes last. -/
theorem of_addNode (sound : cleared.Sound) (childless : node.children = [])
    (h : cleared.addNode node none = .ok e) : cleared.Extends [node] e :=
  ⟨sound.addNode childless h, eq_of_addNode h, nodes_addNode_none sound h⟩

/-- A childless node that is added below one of the nodes at the end comes last, and its parent lists it. -/
theorem addNode (before : List Node) (grown : cleared.Extends (before ++ n :: after) e) (childless : node.children = [])
    (h : e.addNode node (some n.id) = .ok f) :
    cleared.Extends (before ++ { n with children := n.children ++ [node.id] } :: (after ++ [node])) f where
  sound := grown.sound.addNode childless h
  rest := by rw [eq_of_addNode h, grown.rest]
  nodes := by
    have split : e.nodes = (cleared.nodes ++ before) ++ n :: after := by
      rw [grown.nodes, List.append_assoc]
    rw [nodes_addNode_some grown.sound split h, List.append_assoc]

/-- A node is refused below one of the nodes at the end just because its id is taken. -/
theorem taken_of_addNode (grown : cleared.Extends added e) (placed : n ∈ added) {err : CompileError}
    (h : e.addNode node (some n.id) = .error err) :
    e.contains node.id = true ∧ err = .duplicateNode node.id := by
  have mem : n ∈ e.nodes := by
    rw [grown.nodes]
    exact List.mem_append_right _ placed
  have found : e.contains n.id = true := grown.sound.contains_of_mem mem
  rcases addNode_eq_error_iff.1 h with refused | ⟨-, p, same, absent, -⟩
  · exact refused
  · cases same
    rw [found] at absent
    cases absent

/-- The other nodes have other ids. -/
theorem not_mem_ids (grown : cleared.Extends added e) (h : n ∈ cleared.nodes) :
    n.id ∉ added.map (·.id) := by
  have distinct := grown.sound.distinct
  rw [grown.nodes, List.map_append, List.nodup_append] at distinct
  exact fun new => distinct.2.2 n.id (List.mem_map_of_mem h) n.id new rfl

end Extends

/-- Whether a document is another one with the nodes of some icons at its end. -/
def Appends (cleared : Document) (set : String) (icons : List (String × String)) (e : Document) : Prop :=
  cleared.Extends (iconNodes set icons) e

/-- What becomes of a page to which icons are added: it gets them all, or those before the first one of whose two
nodes the id is taken. -/
inductive Filling (cleared : Document) (set : String) (icons : List (String × String)) (e : Document) :
    Except CompileError Unit → Prop where
  | complete : Appends cleared set icons e → Filling cleared set icons e (.ok ())
  | component {done later : List (String × String)} {icon : String × String} :
    icons = done ++ icon :: later → Appends cleared set done e →
    e.contains (iconRoot set icon).id = true →
    Filling cleared set icons e (.error (.duplicateNode (iconRoot set icon).id))
  | drawing {done later : List (String × String)} {icon : String × String} :
    icons = done ++ icon :: later → cleared.Extends (pendingNodes set done icon) e →
    e.contains (iconDrawing set icon).id = true →
    Filling cleared set icons e (.error (.duplicateNode (iconDrawing set icon).id))

namespace Appends

/-- Adding icons to a page with some fills it, or stops where an id is taken. -/
theorem filling {result : Except CompileError Unit} (appends : Appends cleared set done e)
    (h : addIcons set ("icons:" ++ set) e icons = (f, result)) : Filling cleared set (done ++ icons) f result := by
  -- Each icon takes two steps, and between them the component stands without its drawing.
  induction icons generalizing done e with
  | nil =>
    cases h
    rw [List.append_nil]
    exact .complete appends
  | cons icon rest ih =>
    rw [addIcons] at h
    split at h
    · next err failed =>
      cases h
      obtain ⟨taken, rfl⟩ := appends.taken_of_addNode List.mem_cons_self failed
      exact .component rfl appends taken
    · next d₁ h₁ =>
      have pending : cleared.Extends (pendingNodes set done icon) d₁ := by
        have more := Extends.addNode [] appends rfl h₁
        simpa [iconsPage, pendingNodes, iconRoot, iconComponent] using more
      split at h
      · next err failed =>
        cases h
        obtain ⟨taken, rfl⟩ := pending.taken_of_addNode (List.mem_cons_of_mem _ List.mem_concat_self) failed
        exact .drawing rfl pending taken
      · next d₂ h₂ =>
        have drawn : Appends cleared set (done ++ [icon]) d₂ := by
          have more := Extends.addNode (iconsPage set (done ++ [icon]) ::
            done.flatMap fun icon => [iconRoot set icon, iconDrawing set icon]) pending rfl h₂
          simpa [Appends, iconNodes, iconRoot, iconDrawing, iconComponent] using more
        have final := ih drawn h
        rwa [List.append_assoc] at final

variable (appends : Appends cleared set icons e)
include appends

/-- The nodes of the icons are found under their ids. -/
theorem node?_of_mem (h : n ∈ iconNodes set icons) : e.node? n.id = some n := by
  apply appends.sound.node?_of_mem
  rw [appends.nodes]
  exact List.mem_append_right _ h

/-- The other nodes have other ids. -/
theorem not_mem_iconIds (h : n ∈ cleared.nodes) : n.id ∉ iconIds set icons := Extends.not_mem_ids appends h

/-- The children of the page are the components of the icons, in the order of the icons. -/
theorem children_iconsPage : e.children (iconsPage set icons).id = icons.map (iconRoot set) := by
  have found : ∀ icon ∈ icons, e.node? (iconRoot set icon).id = some (iconRoot set icon) :=
    fun icon h => appends.node?_of_mem (iconRoot_mem h)
  rw [children, appends.node?_of_mem List.mem_cons_self]
  show (icons.map fun icon => (iconRoot set icon).id).filterMap e.node? = _
  rw [List.filterMap_map, ← List.filterMap_eq_map]
  exact List.filterMap_congr found

/-- The only child of the component of an icon is the drawing. -/
theorem children_iconRoot (h : icon ∈ icons) :
    e.children (iconRoot set icon).id = [iconDrawing set icon] := by
  rw [children, appends.node?_of_mem (iconRoot_mem h)]
  show [(iconDrawing set icon).id].filterMap e.node? = _
  rw [List.filterMap_cons, appends.node?_of_mem (iconDrawing_mem h), List.filterMap_nil]

/-- If no icons page is left before, then the page of the icons is the only one. -/
theorem icons_pages (none : ∀ n ∈ cleared.nodes, n.kind = .page → n.name ≠ iconsPageName) :
    e.pages.filter (·.name == iconsPageName) = [iconsPage set icons] := by
  have before : (cleared.nodes.filter (·.kind == .page)).filter (·.name == iconsPageName) = [] := by
    rw [List.filter_filter, List.filter_eq_nil_iff]
    intro n hn
    simpa using fun name kind => none n hn kind name
  have others : (icons.flatMap fun icon => [iconRoot set icon, iconDrawing set icon]).filter
      (·.kind == .page) = [] := by
    rw [List.filter_eq_nil_iff, List.forall_mem_flatMap]
    intro icon _
    simp [iconRoot, iconDrawing, iconComponent, iconVector]
  rw [pages, appends.nodes, List.filter_append, List.filter_append, before, iconNodes, List.filter_cons, others]
  rfl

/-- What is reached from the page are the nodes of the icons. -/
theorem reflTransGen_iconsPage_iff {x : NodeId} :
    Relation.ReflTransGen e.Lists (iconsPage set icons).id x ↔ x ∈ iconIds set icons := by
  constructor
  · intro path
    induction path with
    | refl => exact List.mem_cons_self
    | tail _ step ih =>
      obtain ⟨n, hn, same⟩ := List.mem_map.1 ih
      obtain ⟨m, hm, lists⟩ := step
      rw [← same, appends.node?_of_mem hn] at hm
      cases hm
      exact mem_iconIds_of_mem_children hn lists
  · intro h
    have component {icon : String × String} (h : icon ∈ icons) :
        e.Lists (iconsPage set icons).id (iconRoot set icon).id :=
      ⟨_, appends.node?_of_mem List.mem_cons_self, List.mem_map_of_mem h⟩
    obtain ⟨n, hn, rfl⟩ := List.mem_map.1 h
    rcases mem_iconNodes_iff.1 hn with rfl | ⟨icon, hicon, rfl | rfl⟩
    · exact .refl
    · exact .single (component hicon)
    · exact (Relation.ReflTransGen.single (component hicon)).tail
        ⟨_, appends.node?_of_mem (iconRoot_mem hicon), List.mem_cons_self⟩

end Appends

/-! ## Imports -/

/-- The ids of the icons pages of a document. -/
def iconsPageIds (d : Document) : List NodeId := (d.pages.filter (·.name == iconsPageName)).map (·.id)

/-- Whether adding a page with some icons to a document leads to another one. -/
def Fills (cleared : Document) (set : String) (icons : OrderedMap String) (e : Document) : Prop :=
  ∃ paged, cleared.addNode { id := "icons:" ++ set, name := iconsPageName, kind := .page } none = .ok paged ∧
    addIcons set ("icons:" ++ set) paged icons.entries = (e, .ok ())

section

variable {icons : OrderedMap String} {count : Nat}

/-- An import succeeds if all icons pages can be removed and the new page can be filled. -/
theorem importIcons_eq_ok_iff : d.importIcons set icons = (e, .ok count) ↔
    ∃ cleared, d.removeNodes d.iconsPageIds = (cleared, .ok ()) ∧ cleared.Fills set icons e ∧
      count = icons.size := by
  rw [importIcons, ← iconsPageIds]
  constructor
  · intro h
    split at h
    · cases h
    · next cleared removed =>
      refine ⟨cleared, removed, ?_⟩
      dsimp only at h
      split at h
      · cases h
      · next paged added =>
        split at h
        · next filled =>
          cases h
          exact ⟨⟨paged, added, filled⟩, rfl⟩
        · cases h
  · rintro ⟨cleared, removed, ⟨paged, added, filled⟩, rfl⟩
    simp only [removed, added, filled]

/-- Filling a page adds the nodes of the icons at the end. -/
theorem Fills.appends (fills : cleared.Fills set icons e) (sound : cleared.Sound) :
    Appends cleared set icons.entries e := by
  obtain ⟨paged, added, filled⟩ := fills
  have page : Appends cleared set [] paged := Extends.of_addNode sound rfl added
  cases page.filling filled with
  | complete appends => exact appends

/-- Sound documents with the same nodes that are the same otherwise are the same. -/
theorem eq_of_sound (before : d.Sound) (after : e.Sound) (nodes : e.nodes = d.nodes)
    (rest : e = { d with placements := e.placements }) : e = d := by
  rw [rest, before.placements_congr after nodes]

/-- What is listed by something at or below an icons page is below it, too. -/
theorem downward_of_below {gone : List NodeId} (below : ∀ x, x ∈ gone ↔
      ∃ page ∈ d.pages, page.name = iconsPageName ∧ Relation.ReflTransGen d.Lists page.id x) :
    ∀ a b, d.Lists a b → a ∈ gone → b ∈ gone := by
  intro a b step ha
  obtain ⟨page, hpage, name, path⟩ := (below a).1 ha
  exact (below b).2 ⟨page, hpage, name, path.tail step⟩

/-- An import that succeeds removes what is at or below the icons pages and appends the icons. -/
theorem exists_of_importIcons (nested : d.Nested) (h : d.importIcons set icons = (e, .ok count)) :
    ∃ gone cleared, (∀ x, x ∈ gone ↔
        ∃ page ∈ d.pages, page.name = iconsPageName ∧ Relation.ReflTransGen d.Lists page.id x) ∧
      d.Loses cleared gone ∧ cleared.Nested ∧ cleared.Fills set icons e ∧
      Appends cleared set icons.entries e ∧ count = icons.size := by
  obtain ⟨cleared, removed, fills, counted⟩ := importIcons_eq_ok_iff.1 h
  obtain ⟨gone, below, loses, after⟩ := removeNodes_loses nested removed
  refine ⟨gone, cleared, fun x => ?_, loses, after, fills, fills.appends after.sound, counted⟩
  simp only [below, iconsPageIds, List.mem_map, List.mem_filter, beq_iff_eq]
  constructor
  · rintro ⟨_, ⟨page, ⟨hpage, name⟩, rfl⟩, path⟩
    exact ⟨page, hpage, name, path⟩
  · rintro ⟨page, hpage, name, path⟩
    exact ⟨page.id, ⟨page, ⟨hpage, name⟩, rfl⟩, path⟩

/-- Importing the same icons again gives the same document, unless a node of the icons is selected. -/
theorem importIcons_again (nested : e.Nested) (before : cleared.Sound) (fills : cleared.Fills set icons e)
    (pages : e.pages.filter (·.name == iconsPageName) = [iconsPage set icons.entries])
    (unselected : ∀ x ∈ e.selection, x ∉ iconIds set icons.entries) :
    e.importIcons set icons = (e, .ok icons.size) := by
  have appends := fills.appends before
  have ids : e.iconsPageIds = [(iconsPage set icons.entries).id] := by
    rw [iconsPageIds, pages]
    rfl
  have found : e.contains (iconsPage set icons.entries).id = true := by
    obtain ⟨p, hp, -⟩ := node?_eq_some_iff.1 (appends.node?_of_mem List.mem_cons_self)
    rw [contains, hp]
    rfl
  obtain ⟨again, removed⟩ := (exists_removeNode_iff nested.sound).2 found
  obtain ⟨gone, below, loses⟩ := loses_of_removeNode nested.sound removed
  have after : again.Sound := by
    have := nested.removeNode (iconsPage set icons.entries).id
    rw [removed] at this
    exact this.sound
  have icon (x : NodeId) : x ∈ gone ↔ x ∈ iconIds set icons.entries := by
    rw [below, appends.reflTransGen_iconsPage_iff]
  -- What was there before lists nothing of what goes.
  have stays : ∀ n ∈ cleared.nodes, n.losing gone = n := by
    intro n hn
    have kept : n.children.filter (!gone.contains ·) = n.children := by
      rw [List.filter_eq_self]
      intro c hc
      obtain ⟨m, hm, rfl⟩ := before.closed n hn c hc
      simpa [icon] using appends.not_mem_iconIds hm
    rw [Node.losing, kept]
  have nodes : again.nodes = cleared.nodes := by
    have old : cleared.nodes.filter (!gone.contains ·.id) = cleared.nodes := by
      rw [List.filter_eq_self]
      intro n hn
      simpa [icon] using appends.not_mem_iconIds hn
    have new : (iconNodes set icons.entries).filter (!gone.contains ·.id) = [] := by
      rw [List.filter_eq_nil_iff]
      intro n hn
      have own : n.id ∈ iconIds set icons.entries := List.mem_map_of_mem hn
      simpa [icon] using own
    rw [loses.nodes_eq, appends.nodes, List.filter_append, old, new, List.append_nil,
      List.map_congr_left stays, List.map_id']
  have selection : again.selection = e.selection := by
    rw [loses.selection, List.filter_eq_self]
    intro x hx
    simpa [icon] using unselected x hx
  have rest : again = { cleared with placements := again.placements } := by
    have same : again = { e with placements := again.placements } := by
      rw [← selection, ← loses.name, ← loses.collections, ← loses.localVariables, ← loses.paintStyles]
    rw [same, appends.rest]
  rw [eq_of_sound before after nodes rest] at removed
  refine importIcons_eq_ok_iff.2 ⟨cleared, ?_, fills, rfl⟩
  rw [ids, removeNodes, removed]
  rfl

/-! ## What an import leaves -/

private theorem lastParent?_append {nodes added : List Node} {child : NodeId}
    (unlisted : ∀ n ∈ added, child ∉ n.children) :
    lastParent? (nodes ++ added) child = lastParent? nodes child := by
  have none : added.reverse.find? (fun n => n.children.contains child) = none := by
    rw [List.find?_eq_none]
    intro n hn
    simpa using unlisted n (List.mem_reverse.1 hn)
  rw [lastParent?, lastParent?, List.reverse_append, List.find?_append, none, Option.none_or]

/-- A document in which some nodes have given way to others at the end. The nodes that stay have their order,
their parents and their fields, but that child lists and selection have lost what is gone. -/
structure Exchanges (d e : Document) (gone : List NodeId) (added : List Node) : Prop where
  nodes : e.nodes = (d.nodes.filter (!gone.contains ·.id)).map (·.losing gone) ++ added
  parents : ∀ n ∈ d.nodes, n.id ∉ gone → e.parent? n.id = (d.parent? n.id).map (·.losing gone)
  selection : e.selection = d.selection.filter (!gone.contains ·)
  name : e.name = d.name
  collections : e.collections = d.collections
  localVariables : e.localVariables = d.localVariables
  paintStyles : e.paintStyles = d.paintStyles

/-- Removing subtrees and adding nodes that list each other only exchanges the ones for the others. -/
theorem Extends.exchanges {gone : List NodeId} (grown : cleared.Extends added e) (before : d.Sound)
    (loses : d.Loses cleared gone) (downward : ∀ a b, d.Lists a b → a ∈ gone → b ∈ gone)
    (own : ∀ n ∈ added, ∀ c ∈ n.children, c ∈ added.map (·.id)) : d.Exchanges e gone added where
  nodes := by rw [grown.nodes, loses.nodes_eq]
  parents := by
    intro n hn stays
    have kept : n.losing gone ∈ cleared.nodes := loses.mem_nodes_iff.2 ⟨n, hn, stays, rfl⟩
    have listed {m : Node} (hm : m ∈ d.nodes) (own : m.id ∈ gone) : ∀ c ∈ m.children, c ∈ gone :=
      fun c hc => downward m.id c (before.lists_iff.2 ⟨m, hm, rfl, hc⟩) own
    have unlisted : ∀ m ∈ added, n.id ∉ m.children := fun m hm hc =>
      grown.not_mem_ids kept (own m hm n.id hc)
    -- The parent of a node is the last one to list it; what goes or is added lists no node that stays.
    have same : lastParent? e.nodes n.id = lastParent? d.nodes n.id := by
      rw [grown.nodes, loses.nodes_eq, lastParent?_append unlisted,
        lastParent?_losing (fun m hm own => listed hm own) stays]
    have placed : n.losing gone ∈ e.nodes := by
      rw [grown.nodes]
      exact List.mem_append_left _ kept
    have parent : e.parent? n.id = (lastParent? e.nodes n.id).bind e.node? :=
      grown.sound.parent?_of_mem (n := n.losing gone) placed
    rw [parent, before.parent?_of_mem hn, same]
    cases last : lastParent? d.nodes n.id with
    | none => rfl
    | some id =>
      obtain ⟨_, m, _, split, rfl, lists, -⟩ := lastParent?_eq_some_iff.1 last
      have hm : m ∈ d.nodes := by rw [split]; simp
      have mStays : m.id ∉ gone := fun own => stays (listed hm own n.id lists)
      have found : m.losing gone ∈ e.nodes := by
        rw [grown.nodes]
        exact List.mem_append_left _ (loses.mem_nodes_iff.2 ⟨m, hm, mStays, rfl⟩)
      have after : e.node? m.id = some (m.losing gone) := grown.sound.node?_of_mem (n := m.losing gone) found
      rw [Option.bind_some, Option.bind_some, after, before.node?_of_mem hm]
      rfl
  selection := by rw [grown.rest, loses.selection]
  name := by rw [grown.rest, loses.name]
  collections := by rw [grown.rest, loses.collections]
  localVariables := by rw [grown.rest, loses.localVariables]
  paintStyles := by rw [grown.rest, loses.paintStyles]

/-- Removing subtrees and appending icons exchanges the ones for the others. -/
theorem Appends.exchanges {icons : List (String × String)} {gone : List NodeId}
    (appends : Appends cleared set icons e) (before : d.Sound) (loses : d.Loses cleared gone)
    (downward : ∀ a b, d.Lists a b → a ∈ gone → b ∈ gone) : d.Exchanges e gone (iconNodes set icons) :=
  Extends.exchanges appends before loses downward fun _ h _ => mem_iconIds_of_mem_children h

/-- Whether a page holds some icons: its children are a component for each icon, named after the set and the
icon, and the only child of a component is a vector that exports the icon. -/
def HoldsIcons (e : Document) (set : String) (icons : List (String × String)) (page : Node) : Prop :=
  List.Forall₂
    (fun icon component => component.kind = .component ∧ component.name = set ++ ":" ++ icon.1 ∧
      ∃ drawing, e.children component.id = [drawing] ∧ drawing.kind = .vector ∧
        drawing.exported = some ⟨.svg, icon.2⟩)
    icons (e.children page.id)

/-- The appended page holds the icons. -/
theorem Appends.holdsIcons {icons : List (String × String)} (appends : Appends cleared set icons e) :
    e.HoldsIcons set icons (iconsPage set icons) := by
  rw [HoldsIcons, appends.children_iconsPage, List.forall₂_map_right_iff, List.forall₂_same]
  exact fun icon h => ⟨rfl, rfl, iconDrawing set icon, appends.children_iconRoot h, rfl, rfl⟩

/-- An import that succeeds exchanges what is at or below the icons pages for one such page with the icons,
and repeating it changes nothing if neither the page nor an icon is selected. -/
theorem importIcons_exchanges (nested : d.Nested) (h : d.importIcons set icons = (e, .ok count)) :
    ∃ gone page, (∀ x, x ∈ gone ↔
        ∃ old ∈ d.pages, old.name = iconsPageName ∧ Relation.ReflTransGen d.Lists old.id x) ∧
      count = icons.size ∧ e.Nested ∧
      e.pages.filter (·.name == iconsPageName) = [page] ∧ e.HoldsIcons set icons.entries page ∧
      d.Exchanges e gone (iconNodes set icons.entries) ∧
      ((∀ x ∈ e.selection, x ∉ iconIds set icons.entries) →
        e.importIcons set icons = (e, .ok count)) := by
  obtain ⟨gone, cleared, below, loses, after, fills, appends, rfl⟩ := exists_of_importIcons nested h
  have final : e.Nested := by
    have imported := nested.importIcons set icons
    rwa [h] at imported
  have pages : e.pages.filter (·.name == iconsPageName) = [iconsPage set icons.entries] := by
    refine appends.icons_pages fun n hn kind name => ?_
    obtain ⟨m, hm, stays, rfl⟩ := loses.mem_nodes_iff.1 hn
    exact stays ((below m.id).2 ⟨m, List.mem_filter.2 ⟨hm, beq_iff_eq.2 kind⟩, name, .refl⟩)
  refine ⟨gone, _, below, rfl, final, pages, appends.holdsIcons,
    appends.exchanges nested.sound loses (downward_of_below below), importIcons_again final after.sound fills pages⟩

end

end Handoff.Document
