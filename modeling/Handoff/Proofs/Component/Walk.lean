import Handoff.Proofs.Component.Locality
import Handoff.Proofs.Ordered.Map
import Mathlib.Data.Fintype.Card
import Mathlib.Logic.Relation

/-!
# Walks as relations

Every walk captures in small steps: links, a tag, a style, an asset, a component that a node compiles to,
or an icon. So captures only grow, and every captured component is the target of a node, under its name.
What each addition keeps is kept by every walk, also by one that fails, and holds of the model. A walk that
comes to an end and succeeds is described without its bound: each node is a leaf, or a container whose
rendered children are walked before the nodes after it.
-/

namespace Handoff

/-! ## Steps of captures -/

namespace Capture

/-- What an instance adds to a capture: a component that some node compiles to, or an icon. -/
inductive UseStep (d : Document) (s : Capture) : Capture → Prop where
  | component {id target : NodeId} {name : String} : d.targetName? id = some (target, name) →
    UseStep d s { s with components := s.components.insert target name }
  | icon (name : String) : UseStep d s { s with icons := s.icons.insert name }

/-- What a walk adds to a capture at a time. -/
inductive Step (d : Document) (s : Capture) : Capture → Prop where
  | links (n : Node) : Step d s (s.addLinks n)
  | primitive (p : Primitive) : Step d s (s.addPrimitive p)
  | style (slug : String) (style : StyleMap) : Step d s (s.addStyle slug style)
  | asset (n : Node) : Step d s (s.addAsset d n)
  | use {s' : Capture} : UseStep d s s' → Step d s s'

/-- Whether one capture comes from another in steps of instances. -/
def Uses (d : Document) : Capture → Capture → Prop := Relation.ReflTransGen (UseStep d)

/-- Whether one capture comes from another in steps. -/
def Reaches (d : Document) : Capture → Capture → Prop := Relation.ReflTransGen (Step d)

variable {d : Document} {s s' : Capture}

theorem Uses.reaches (h : Uses d s s') : Reaches d s s' :=
  Relation.ReflTransGen.mono (fun _ _ => Step.use) _ _ h

/-- Instances capture nothing but components and icons. -/
theorem Uses.frame (h : Uses d s s') : s' = { s with components := s'.components, icons := s'.icons } := by
  induction h with
  | refl => rfl
  | tail _ step ih =>
    cases step with
    | component => rw [ih]
    | icon => rw [ih]

theorem Uses.primitives (h : Uses d s s') : s'.primitives = s.primitives := by
  rw [h.frame]

theorem Uses.styles (h : Uses d s s') : s'.styles = s.styles := by
  rw [h.frame]

/-- Whether a capture has all that another one has. -/
structure Grows (s s' : Capture) : Prop where
  styles : s.styles.keys ⊆ s'.styles.keys
  assets : s.assets.keys ⊆ s'.assets.keys
  primitives : s.primitives.elems ⊆ s'.primitives.elems
  components : s.components.keys ⊆ s'.components.keys
  icons : s.icons.elems ⊆ s'.icons.elems

namespace Grows

theorem refl (s : Capture) : s.Grows s := by
  constructor <;> exact List.Subset.refl _

theorem trans {s₁ s₂ s₃ : Capture} (h : s₁.Grows s₂) (h' : s₂.Grows s₃) : s₁.Grows s₃ where
  styles := List.Subset.trans h.styles h'.styles
  assets := List.Subset.trans h.assets h'.assets
  primitives := List.Subset.trans h.primitives h'.primitives
  components := List.Subset.trans h.components h'.components
  icons := List.Subset.trans h.icons h'.icons

end Grows

/-- A slug that is captured has a style. -/
theorem mem_keys_addStyle {slug : String} {style : StyleMap} (h : slug.isEmpty = false) :
    slug ∈ (s.addStyle slug style).styles.keys := by
  unfold addStyle
  rw [h]
  show slug ∈ (s.styles.insertIfNew slug style).keys
  unfold OrderedMap.insertIfNew
  split
  · next present => simpa [OrderedMap.contains] using present
  · exact OrderedMap.mem_keys_insert.2 (.inl rfl)

private theorem keys_subset_addStyle (slug : String) (style : StyleMap) :
    s.styles.keys ⊆ (s.addStyle slug style).styles.keys := by
  unfold addStyle
  split
  · exact List.Subset.refl _
  · intro k hk
    show k ∈ (s.styles.insertIfNew slug style).keys
    unfold OrderedMap.insertIfNew
    split
    · exact hk
    · exact OrderedMap.mem_keys_insert.2 (.inr hk)

/-- A step adds. -/
theorem Step.grows (h : Step d s s') : s.Grows s' := by
  cases h with
  | links => constructor <;> exact List.Subset.refl _
  | primitive =>
    refine { Grows.refl s with primitives := ?_ }
    exact fun _ hp => OrderedSet.mem_insert.2 (.inr hp)
  | style slug style =>
    have others : (s.addStyle slug style).assets = s.assets ∧
        (s.addStyle slug style).primitives = s.primitives ∧
        (s.addStyle slug style).components = s.components ∧
        (s.addStyle slug style).icons = s.icons := by
      unfold addStyle
      split <;> exact ⟨rfl, rfl, rfl, rfl⟩
    obtain ⟨assets, primitives, components, icons⟩ := others
    refine ⟨keys_subset_addStyle slug style, ?_, ?_, ?_, ?_⟩
    · rw [assets]; exact List.Subset.refl _
    · rw [primitives]; exact List.Subset.refl _
    · rw [components]; exact List.Subset.refl _
    · rw [icons]; exact List.Subset.refl _
  | asset n =>
    unfold addAsset
    split
    · refine { Grows.refl s with assets := ?_, primitives := ?_ }
      · exact fun _ hk => OrderedMap.mem_keys_insert.2 (.inr hk)
      · exact fun _ hp => OrderedSet.mem_insert.2 (.inr hp)
    · exact Grows.refl s
    · exact { Grows.refl s with }
  | use step =>
    cases step with
    | component =>
      refine { Grows.refl s with components := ?_ }
      exact fun _ hk => OrderedMap.mem_keys_insert.2 (.inr hk)
    | icon =>
      refine { Grows.refl s with icons := ?_ }
      exact fun _ hi => OrderedSet.mem_insert.2 (.inr hi)

/-- Captures grow step by step. -/
theorem Reaches.grows (h : Reaches d s s') : s.Grows s' := by
  induction h with
  | refl => exact Grows.refl s
  | tail _ step ih => exact ih.trans step.grows

/-- Whether every captured component is the target of some node, under its name. -/
def NamesTargets (d : Document) (s : Capture) : Prop :=
  ∀ e ∈ s.components.entries, ∃ id, d.targetName? id = some e

/-- A step captures components as targets of nodes. -/
theorem Step.namesTargets (h : Step d s s') (named : s.NamesTargets d) : s'.NamesTargets d := by
  have same (components : s'.components = s.components) : s'.NamesTargets d := by
    intro e he
    rw [components] at he
    exact named e he
  cases h with
  | links => exact same rfl
  | primitive => exact same rfl
  | style => exact same (by unfold addStyle; split <;> rfl)
  | asset => exact same (by unfold addAsset; split <;> rfl)
  | use step =>
    cases step with
    | component target =>
      intro e he
      rcases OrderedMap.mem_entries_insert he with rfl | he
      · exact ⟨_, target⟩
      · exact named e he
    | icon => exact same rfl

end Capture

namespace Document

variable {d : Document} {s s' : Capture} {n : Node}

/-- The target of a node and its name. -/
theorem targetName?_eq_some_iff {id target : NodeId} {name : String} :
    d.targetName? id = some (target, name) ↔
      d.compileTarget? id = some target ∧
        ∃ t, d.node? target = some t ∧ Text.pascalIdentifier t.name = name := by
  unfold targetName?
  cases d.compileTarget? id with
  | none => simp
  | some found =>
    constructor
    · intro h
      obtain ⟨t, ht, he⟩ := Option.map_eq_some_iff.1 h
      cases he
      exact ⟨rfl, t, ht, rfl⟩
    · rintro ⟨same, t, ht, rfl⟩
      cases same
      simp [ht]

/-- A target has one name. -/
theorem name_unique_of_targetName? {a b target : NodeId} {x y : String}
    (ha : d.targetName? a = some (target, x)) (hb : d.targetName? b = some (target, y)) : x = y := by
  obtain ⟨-, t, ht, rfl⟩ := targetName?_eq_some_iff.1 ha
  obtain ⟨-, u, hu, rfl⟩ := targetName?_eq_some_iff.1 hb
  rw [ht] at hu
  cases hu
  rfl

/-- Whether a capture has a component of a name, under the target of a node. -/
def Offers (d : Document) (s : Capture) (name : String) : Prop :=
  ∃ id target, d.targetName? id = some (target, name) ∧ target ∈ s.components.keys

/-- What is offered stays offered. -/
theorem Offers.mono {name : String} (h : d.Offers s name) (grows : s.Grows s') : d.Offers s' name := by
  obtain ⟨id, target, named, mem⟩ := h
  exact ⟨id, target, named, grows.components mem⟩

/-- An offered component is captured under its name. -/
theorem Offers.mem_entries {name : String} (h : d.Offers s name) (named : s.NamesTargets d) :
    ∃ target, (target, name) ∈ s.components.entries := by
  obtain ⟨id, target, found, mem⟩ := h
  obtain ⟨x, hx⟩ := OrderedMap.exists_of_mem_keys mem
  have entry := OrderedMap.mem_of_get? hx
  obtain ⟨id', found'⟩ := named _ entry
  rw [name_unique_of_targetName? found' found] at entry
  exact ⟨target, entry⟩

/-! ## Instances -/

private theorem uses_attributeOf (s : Capture) (e : String × InstanceProperty) :
    s.Uses d (d.attributeOf s e).1 := by
  unfold attributeOf
  split
  · exact .refl
  · split
    · exact .refl
    · split
      · next target component found =>
        obtain ⟨id, -, target⟩ := Option.bind_eq_some_iff.1 found
        exact .single (.component target)
      · exact .refl
    · exact .refl

private theorem uses_attributes (s : Capture) (l : List (String × InstanceProperty)) :
    s.Uses d (d.attributes s l).1 := by
  induction l generalizing s with
  | nil => exact .refl
  | cons e rest ih => exact (uses_attributeOf s e).trans (ih _)

private theorem uses_mainUse (s : Capture) (n main : Node) (id : NodeId) :
    s.Uses d (d.mainUse s n main id).1 := by
  unfold mainUse
  split
  · exact .single (.icon main.name)
  · split
    · next target => exact .single (.component target)
    · exact .refl

/-- Instances capture components and icons. -/
theorem uses_instanceUse (s : Capture) (n : Node) : s.Uses d (d.instanceUse s n).1 := by
  unfold instanceUse
  split
  · exact .refl
  · split
    · exact .refl
    · next id _ _ main _ =>
      have used := uses_mainUse (d := d) s n main id
      split
      · next h =>
        rw [h] at used
        exact used
      · next h =>
        rw [h] at used
        exact used.trans (uses_attributes _ _)

private theorem offers_attributeOf {e : String × InstanceProperty} {key name : String}
    (h : (d.attributeOf s e).2 = some (key, .element name)) : d.Offers (d.attributeOf s e).1 name := by
  cases hb : e.2.boundTo with
  | some bound => simp [attributeOf, hb] at h
  | none =>
    cases hk : e.2.kind with
    | instanceSwap =>
      cases found : e.2.value.text?.bind d.targetName? with
      | none => simp [attributeOf, hb, hk, found] at h
      | some target =>
        simp only [attributeOf, hb, hk, found, Option.some.injEq, Prod.mk.injEq,
          AttributeValue.element.injEq] at h ⊢
        obtain ⟨-, rfl⟩ := h
        obtain ⟨id, -, named⟩ := Option.bind_eq_some_iff.1 found
        exact ⟨id, target.1, named, OrderedMap.mem_keys_insert.2 (.inl rfl)⟩
    | _ => simp [attributeOf, hb, hk] at h

private theorem offers_attributes {l : List (String × InstanceProperty)} {key name : String}
    (h : (key, AttributeValue.element name) ∈ (d.attributes s l).2) :
    d.Offers (d.attributes s l).1 name := by
  induction l generalizing s with
  | nil => cases h
  | cons e rest ih =>
    rcases List.mem_append.1 h with h | h
    · exact (offers_attributeOf (Option.mem_toList.1 h)).mono (uses_attributes _ rest).reaches.grows
    · exact ih h

/-- Whether a capture has what an instance renders: the icon or the component, and the components of its
attributes. -/
structure Captures (d : Document) (s : Capture) (u : InstanceUse) : Prop where
  icon : ∀ name, u.icon = some name → name ∈ s.icons.elems
  component : u.icon = none → d.Offers s u.component
  elements : ∀ key name, (key, AttributeValue.element name) ∈ u.attributes → d.Offers s name

/-- What an instance renders stays captured. -/
theorem Captures.mono {u : InstanceUse} (h : d.Captures s u) (grows : s.Grows s') : d.Captures s' u where
  icon name hi := grows.icons (h.icon name hi)
  component hi := (h.component hi).mono grows
  elements key name ha := (h.elements key name ha).mono grows

private theorem mainUse_captures {main : Node} {id : NodeId} {component : String} {icon : Option String}
    (h : d.mainUse s n main id = (s', .ok (component, icon))) :
    (∀ name, icon = some name → name ∈ s'.icons.elems) ∧ (icon = none → d.Offers s' component) := by
  unfold mainUse at h
  split at h
  · cases h
    refine ⟨fun name hi => ?_, fun hi => by cases hi⟩
    cases hi
    exact OrderedSet.mem_insert.2 (.inl rfl)
  · split at h
    · next target component named =>
      cases h
      exact ⟨fun name hi => (by cases hi), fun _ =>
        ⟨id, target, named, OrderedMap.mem_keys_insert.2 (.inl rfl)⟩⟩
    · cases h

/-- An instance captures what it renders. -/
theorem captures_of_instanceUse {u : InstanceUse} (h : d.instanceUse s n = (s', .ok u)) :
    d.Captures s' u := by
  unfold instanceUse at h
  split at h
  · cases h
  · split at h
    · cases h
    · split at h
      · cases h
      · next used _ _ hmain =>
        obtain ⟨icon, component⟩ := mainUse_captures hmain
        cases h
        -- Attributes come after the component, and only add to what is captured.
        have grows := (uses_attributes (d := d) used (PropertyOrder.sortBy PropertyOrder.display
          (fun e => (e.1, e.2.kind)) n.componentProperties.entries)).reaches.grows
        exact ⟨fun name hi => grows.icons (icon name hi), fun hi => (component hi).mono grows,
          fun _ _ => offers_attributes⟩

/-! ## What every walk keeps -/

/-- Every entry of a list of visits is that of a node of the list. -/
theorem exists_visit_of_mem {visit : Node → Capture → Capture × Except CompileError Entry}
    {nodes : List Node} {entries : List Entry} (h : visitEach visit nodes s = (s', .ok entries))
    {entry : Entry} (he : entry ∈ entries) : ∃ n ∈ nodes, ∃ s₁ s₂, visit n s₁ = (s₂, .ok entry) := by
  induction nodes generalizing s entries with
  | nil =>
    cases h
    cases he
  | cons n rest ih =>
    rw [visitEach] at h
    split at h
    · cases h
    · next first =>
      split at h
      · cases h
      · next others =>
        cases h
        rcases List.mem_cons.1 he with rfl | he
        · exact ⟨n, List.mem_cons_self, _, _, first⟩
        · obtain ⟨m, hm, visited⟩ := ih others he
          exact ⟨m, List.mem_cons_of_mem _ hm, visited⟩

/-- What the walk captures at a node that is a text or a container. -/
def enter (d : Document) (s : Capture) (n : Node) : Capture :=
  ((s.addLinks n).addPrimitive (modelNode n).tag).addStyle (modelNode n).slug (Style.resolve d n)

/-- Whether what holds of a capture still holds after each thing that a walk may add. -/
structure Keeps (d : Document) (P : Capture → Prop) : Prop where
  links : ∀ s n, P s → P (s.addLinks n)
  primitive : ∀ s p, P s → P (s.addPrimitive p)
  style : ∀ s slug style, P s → P (s.addStyle slug style)
  asset : ∀ s, ∀ n ∈ d.nodes, n.kind.isAsset = true → P s → P (s.addAsset d n)
  use : ∀ {s s'}, s.UseStep d s' → P s → P s'

namespace Keeps

variable {P : Capture → Prop}

/-- What each step keeps is kept. -/
theorem of_step (h : ∀ {s s'}, s.Step d s' → P s → P s') : d.Keeps P where
  links _ n := h (.links n)
  primitive _ p := h (.primitive p)
  style _ slug style := h (.style slug style)
  asset _ n _ _ := h (.asset n)
  use step := h (.use step)

variable (keeps : d.Keeps P)
include keeps

theorem uses (h : s.Uses d s') (hs : P s) : P s' := by
  induction h with
  | refl => exact hs
  | tail _ step ih => exact keeps.use step ih

omit keeps in
private theorem visitEach (visit : Node → Capture → Capture × Except CompileError Entry) {nodes : List Node}
    (step : ∀ n ∈ nodes, ∀ s, P s → P (visit n s).1) (hs : P s) :
    P (Document.visitEach visit nodes s).1 := by
  induction nodes generalizing s with
  | nil => exact hs
  | cons n rest ih =>
    have first := step n List.mem_cons_self s hs
    unfold Document.visitEach
    split
    · next h =>
      rw [h] at first
      exact first
    · next h =>
      rw [h] at first
      have others := ih (fun m hm => step m (List.mem_cons_of_mem _ hm)) first
      split
      · next h =>
        rw [h] at others
        exact others
      · next h =>
        rw [h] at others
        exact others

/-- A visit keeps what each addition keeps, also if it fails. -/
theorem visit (fuel : Nat) {n : Node} (hn : n ∈ d.nodes) (hs : P s) : P (d.visit fuel n s).1 := by
  -- Only assets of the document are captured, so each visited node has to be one of its nodes.
  induction fuel generalizing n s with
  | zero => exact hs
  | succ fuel ih =>
    have links : P (s.addLinks n) := keeps.links s n hs
    simp only [Document.visit]
    split
    · exact links
    · split
      · next asset => exact keeps.asset _ n hn asset links
      · split
        · have used := keeps.uses (uses_instanceUse (s.addLinks n) n) links
          split
          · next h =>
            rw [h] at used
            exact used
          · next h =>
            rw [h] at used
            exact used
        · have entered : P (d.enter s n) := keeps.style _ _ _ (keeps.primitive _ _ links)
          unfold enter at entered
          split
          · exact entered
          · have below := visitEach (d.visit fuel) (fun m (hm : m ∈ d.renderedChildren n.id) s hs =>
              ih (mem_nodes_of_mem_renderedChildren hm) hs) entered
            split
            · next h =>
              rw [h] at below
              exact below
            · next h =>
              rw [h] at below
              exact below

end Keeps

end Document

/-- Whether a model holds what a walk has captured. -/
structure Model.Holds (m : Model) (s : Capture) : Prop where
  styles : m.styles = s.styles
  assets : m.assets = s.assets
  primitives : m.primitives = s.primitives
  components : m.components = s.components
  icons : m.icons = s.icons

namespace Document

variable {d : Document} {s s' : Capture} {n : Node} {descriptor : Descriptor} {log : List LogRecord}
  {m : Model}

/-- A model comes from the root that is shown and a walk over the rendered children of this root. -/
theorem exists_walk_of_extract (h : d.extract descriptor = (log, .ok m)) :
    ∃ root s, d.node? descriptor.rootNode = some root ∧
      visitEach (d.visit d.walkBound) (d.renderedChildren root.id) (d.startCapture root) = (s, .ok m.tree) ∧
      m.root = { id := root.id, name := root.name, kind := root.kind, tag := .container, slug := rootSlug } ∧
      m.Holds s ∧ m.variants =
        if descriptor.isVariant then d.variantStyles descriptor s.styles else .empty := by
  unfold extract at h
  split at h
  · cases h
  · next root found =>
    split at h
    · cases h
    · next s tree walked =>
      cases h
      exact ⟨root, s, found, walked, rfl, ⟨rfl, rfl, rfl, rfl, rfl⟩, rfl⟩

/-- A model holds a capture of which all is true that walks keep. -/
theorem Keeps.extract {P : Capture → Prop} (keeps : d.Keeps P) (start : ∀ root, P (d.startCapture root))
    (h : d.extract descriptor = (log, .ok m)) : ∃ s, m.Holds s ∧ P s := by
  obtain ⟨root, s, -, walked, -, holds, -⟩ := exists_walk_of_extract h
  have walk := visitEach (d.visit d.walkBound) (fun n (hn : n ∈ d.renderedChildren root.id) s hs =>
    keeps.visit d.walkBound (mem_nodes_of_mem_renderedChildren hn) hs) (start root)
  rw [walked] at walk
  exact ⟨s, holds, walk⟩

/-- Every component of a model is the target of some node, under its name. -/
theorem exists_targetName?_of_extract (h : d.extract descriptor = (log, .ok m)) :
    ∀ e ∈ m.components.entries, ∃ id, d.targetName? id = some e := by
  have keeps : d.Keeps (·.NamesTargets d) := .of_step Capture.Step.namesTargets
  obtain ⟨s, holds, named⟩ := keeps.extract (fun _ => by rintro _ ⟨⟩) h
  rw [holds.components]
  exact named

/-! ## Walks that end -/

/-- Whether the walk below an id comes to an end. -/
inductive WalkEnds (d : Document) : NodeId → Prop where
  | intro {id : NodeId} : (∀ n ∈ d.renderedChildren id, n.endsWalk = false → WalkEnds d n.id) →
    WalkEnds d id

/-- In a tree every walk ends. -/
theorem TreeShaped.walkEnds (tree : d.TreeShaped) (id : NodeId) : d.WalkEnds id := by
  obtain ⟨rank, lower, -⟩ := tree.exists_rank
  induction hrank : rank id using Nat.strongRecOn generalizing id with
  | ind k ih =>
    subst hrank
    exact .intro fun n hn _ =>
      ih (rank n.id) (lower id n.id (tree.mem_renderedChildren_iff.1 hn).2.1) n.id rfl

/-- Whether a walk below one id goes on below another. -/
def GoesOn (d : Document) (a b : NodeId) : Prop :=
  ∃ n ∈ d.renderedChildren a, n.endsWalk = false ∧ n.id = b

private theorem WalkEnds.not_transGen {id : NodeId} (h : d.WalkEnds id) :
    ¬ Relation.TransGen d.GoesOn id id := by
  induction h with
  | @intro id _ ih =>
    intro loop
    obtain ⟨b, ⟨n, hn, ends, rfl⟩, back⟩ := Relation.TransGen.head'_iff.1 loop
    exact ih n hn ends (Relation.TransGen.tail'_iff.2 ⟨id, back, n, hn, ends, rfl⟩)

private theorem exists_height (d : Document) : ∃ height : NodeId → Nat,
    (∀ a b, d.WalkEnds b → d.GoesOn a b → height b < height a) ∧
      ∀ id, height id ≤ d.placements.length := by
  let step : NodeId → NodeId → Prop := fun a b => d.WalkEnds b ∧ d.GoesOn a b
  have acyclic (id : NodeId) : ¬ Relation.TransGen step id id := by
    intro loop
    obtain ⟨-, -, ends, -⟩ := Relation.TransGen.tail'_iff.1 loop
    exact ends.not_transGen (Relation.TransGen.mono (fun _ _ => And.right) _ _ loop)
  obtain ⟨height, down, bound, -⟩ := exists_height_of_acyclic acyclic (d.nodes.map (·.id)).toFinset
    fun a b ⟨_, n, hn, _, same⟩ =>
      List.mem_toFinset.2 (same ▸ List.mem_map_of_mem (mem_nodes_of_mem_renderedChildren hn))
  exact ⟨height, fun a b ends goes => down a b ⟨ends, goes⟩, fun id => (bound id).trans d.card_ids_le⟩

/-- The entry of a node at which the walk goes no deeper, and what has been captured after it. -/
inductive Leaf (d : Document) (s : Capture) (n : Node) : Entry → Capture → Prop where
  | slot : n.propertyReferences.mainComponent.isSome = true →
    Leaf d s n (.leaf (modelNode n)) (s.addLinks n)
  | asset : n.propertyReferences.mainComponent = none → n.kind.isAsset = true →
    Leaf d s n (.mk (modelNode n) none true) ((s.addLinks n).addAsset d n)
  | use {s' : Capture} {u : InstanceUse} : n.propertyReferences.mainComponent = none →
    d.instanceUse (s.addLinks n) n = (s', .ok u) →
    Leaf d s n (.leaf { modelNode n with use := some u }) s'
  | text (characters : String) : n.propertyReferences.mainComponent = none → n.kind = .text →
    Leaf d s n (.leaf { modelNode n with characters := some characters }) (d.enter s n)

/-- The walk over a list of nodes: the capture before, the entries, and the capture after. -/
inductive Walked (d : Document) : List Node → Capture → List Entry → Capture → Prop where
  | done {s : Capture} : Walked d [] s [] s
  | leaf {n : Node} {rest : List Node} {s s₁ s' : Capture} {entry : Entry} {entries : List Entry} :
    d.Leaf s n entry s₁ → Walked d rest s₁ entries s' → Walked d (n :: rest) s (entry :: entries) s'
  | container {n : Node} {rest : List Node} {s s₁ s' : Capture} {below entries : List Entry} :
    n.endsWalk = false → Walked d (d.renderedChildren n.id) (d.enter s n) below s₁ →
    Walked d rest s₁ entries s' →
    Walked d (n :: rest) s (.mk (modelNode n) (someEntries below) false :: entries) s'

theorem Leaf.reaches {entry : Entry} (h : d.Leaf s n entry s') : s.Reaches d s' := by
  have links : s.Reaches d (s.addLinks n) := .single (.links n)
  cases h with
  | slot => exact links
  | asset => exact links.tail (.asset n)
  | use _ used =>
    have steps := (uses_instanceUse (d := d) (s.addLinks n) n).reaches
    rw [used] at steps
    exact links.trans steps
  | text => exact (links.tail (.primitive _)).tail (.style _ _)

theorem Walked.reaches {nodes : List Node} {entries : List Entry}
    (h : d.Walked nodes s entries s') : s.Reaches d s' := by
  induction h with
  | done => exact .refl
  | leaf first _ ih => exact first.reaches.trans ih
  | @container n _ s _ _ _ _ _ _ _ ihBelow ih =>
    have entered : s.Reaches d (d.enter s n) :=
      ((Relation.ReflTransGen.single (.links n)).tail (.primitive _)).tail (.style _ _)
    exact (entered.trans ihBelow).trans ih

/-- A visit that succeeds finds a leaf, which renders something only for an instance, or a container below which
it succeeds. -/
theorem visit_cases {fuel : Nat} {entry : Entry} (h : d.visit (fuel + 1) n s = (s', .ok entry)) :
    (d.Leaf s n entry s' ∧ (entry.node.use.isSome = true → n.kind = .componentInstance)) ∨
      n.endsWalk = false ∧ ∃ below, entry = .mk (modelNode n) (someEntries below) false ∧
        visitEach (d.visit fuel) (d.renderedChildren n.id) (d.enter s n) = (s', .ok below) := by
  simp only [visit, modelNode, Option.isSome_map] at h
  split at h
  · next hswap =>
    cases h
    exact .inl ⟨.slot hswap, fun used => by cases used⟩
  · next hswap =>
    have fixed : n.propertyReferences.mainComponent = none := by simpa using hswap
    split at h
    · next hasset =>
      cases h
      exact .inl ⟨.asset fixed hasset, fun used => by cases used⟩
    · next hasset =>
      split at h
      · next huse =>
        split at h
        · cases h
        · next used =>
          cases h
          exact .inl ⟨.use fixed used, fun _ => huse⟩
      · next huse =>
        split at h
        · next htext =>
          cases h
          exact .inl ⟨.text _ fixed htext, fun used => by cases used⟩
        · next htext =>
          split at h
          · cases h
          · next walked =>
            cases h
            refine .inr ⟨?_, _, rfl, walked⟩
            simp [Node.endsWalk, fixed, hasset, huse, htext]

/-- A walk that ends within its bound and succeeds. -/
private theorem walked_of_visitEach {height : NodeId → Nat}
    (down : ∀ a b, d.WalkEnds b → d.GoesOn a b → height b < height a) {fuel : Nat} {id : NodeId}
    {entries : List Entry} (ends : d.WalkEnds id) (deep : height id < fuel)
    (h : visitEach (d.visit fuel) (d.renderedChildren id) s = (s', .ok entries)) :
    d.Walked (d.renderedChildren id) s entries s' := by
  -- The fuel goes down from level to level, while all nodes of a level are walked with the same fuel.
  induction fuel generalizing id s s' entries with
  | zero => cases deep
  | succ fuel ih =>
    have fits : ∀ n ∈ d.renderedChildren id, n.endsWalk = false →
        d.WalkEnds n.id ∧ height n.id < fuel := by
      intro n hn goes
      obtain ⟨below⟩ := ends
      have lower := down id n.id (below n hn goes) ⟨n, hn, goes, rfl⟩
      exact ⟨below n hn goes, by omega⟩
    generalize d.renderedChildren id = nodes at h fits
    induction nodes generalizing s entries with
    | nil =>
      cases h
      exact .done
    | cons n rest ihRest =>
      rw [visitEach] at h
      split at h
      · cases h
      · next first =>
        split at h
        · cases h
        · next others =>
          cases h
          have walked := ihRest others fun m hm => fits m (List.mem_cons_of_mem _ hm)
          rcases visit_cases first with ⟨leaf, -⟩ | ⟨goes, below, rfl, inside⟩
          · exact .leaf leaf walked
          · obtain ⟨endsBelow, lower⟩ := fits n List.mem_cons_self goes
            exact .container goes (ih endsBelow lower inside) walked

/-- A model comes from a walk below its root, if this walk ends. -/
theorem walked_of_extract (h : d.extract descriptor = (log, .ok m)) (ends : d.WalkEnds m.root.id) :
    ∃ root s, d.node? descriptor.rootNode = some root ∧ m.Holds s ∧
      d.Walked (d.renderedChildren root.id) (d.startCapture root) m.tree s := by
  obtain ⟨root, s, found, walked, shown, holds, -⟩ := exists_walk_of_extract h
  obtain ⟨height, down, bound⟩ := d.exists_height
  rw [shown] at ends
  exact ⟨root, s, found, holds, walked_of_visitEach down ends (Nat.lt_succ_of_le (bound root.id)) walked⟩

end Document
end Handoff
