import Handoff.Proofs.Component.Walk
import Handoff.Proofs.Style.Patch

/-!
# The styles of variants

The walk that builds a model gives slugs the styles that the style walk gives them, so the base styles are
those of the shown member. For every other member and every slug that it shares with the base, a patch is
recorded under the key of the member, unless the patch is empty; nothing else is recorded.
-/

namespace Handoff.Document

variable {d : Document} {s s' : Capture} {n : Node} {fuel : Nat}

/-! ## Base styles -/

private theorem styles_addAsset (s : Capture) (n : Node) : (s.addAsset d n).styles = s.styles := by
  unfold Capture.addAsset
  split <;> rfl

private theorem styles_enter (s : Capture) (n : Node) : (d.enter s n).styles =
    if (Text.camelIdentifier n.name).isEmpty then s.styles
    else s.styles.insertIfNew (Text.camelIdentifier n.name) (Style.resolve d n) := by
  rw [enter, Capture.addStyle, apply_ite Capture.styles]
  rfl

/-- A rendered node adds to the styles what the style walk adds for it. -/
private theorem styles_visit
    (below : ∀ {id : NodeId} {s s' : Capture} {entries : List Entry},
      visitEach (d.visit fuel) (d.renderedChildren id) s = (s', .ok entries) →
        s'.styles = d.collectStyles fuel id s.styles)
    (rendered : n.isRendered = true) {entry : Entry}
    (h : d.visit (fuel + 1) n s = (s', .ok entry)) : s'.styles = d.collectChild fuel s.styles n := by
  have skip (skipped : isSkipped n = true) : d.collectChild fuel s.styles n = s.styles := by
    rw [collectChild, if_pos skipped]
  rcases visit_cases h with ⟨leaf, use⟩ | ⟨goes, entries, rfl, walked⟩
  · cases leaf with
    | slot swap => exact (skip (by simp [isSkipped, swap])).symm
    | asset _ asset => exact (styles_addAsset _ _).trans (skip (by simp [isSkipped, asset])).symm
    | use _ used =>
      have kept := (uses_instanceUse (d := d) (s.addLinks n) n).styles
      rw [used] at kept
      exact kept.trans (skip (by simp [isSkipped, use rfl])).symm
    | text _ fixed text =>
      have shown : isSkipped n = false := by simp [isSkipped, rendered, fixed, text, NodeKind.isAsset]
      rw [collectChild, if_neg (by simp [shown]), if_pos text, styles_enter]
  · have shown : isSkipped n = false ∧ n.kind ≠ .text := by
      simp only [Node.endsWalk, Bool.or_eq_false_iff, beq_eq_false_iff_ne] at goes
      simp [isSkipped, rendered, goes]
    rw [collectChild, if_neg (by simp [shown.1]), if_neg shown.2, below walked, styles_enter]

/-- A walk over rendered children that succeeds leaves the styles that the style walk collects. -/
theorem styles_visitEach (fuel : Nat) {id : NodeId} {entries : List Entry}
    (h : visitEach (d.visit fuel) (d.renderedChildren id) s = (s', .ok entries)) :
    s'.styles = d.collectStyles fuel id s.styles := by
  induction fuel generalizing id s s' entries with
  | zero =>
    -- Without depth the nodes are leaves.
    rw [collectStyles]
    generalize d.renderedChildren id = nodes at h
    induction nodes generalizing entries with
    | nil =>
      cases h
      rfl
    | cons n rest ihRest =>
      simp only [visitEach, visit] at h
      split at h
      · cases h
      · next walked =>
        cases h
        exact ihRest walked
  | succ fuel ih =>
    rw [collectStyles_succ]
    have rendered : ∀ n ∈ d.renderedChildren id, n.isRendered = true :=
      fun n hn => (List.mem_filter.1 hn).2
    -- The nodes of a level share the depth: the outer induction is on it, the inner one on the nodes.
    generalize d.renderedChildren id = nodes at h rendered
    induction nodes generalizing s entries with
    | nil =>
      cases h
      rfl
    | cons n rest ihRest =>
      rw [visitEach] at h
      split at h
      · cases h
      · next first =>
        split at h
        · cases h
        · next walked =>
          cases h
          rw [ihRest walked fun m hm => rendered m (List.mem_cons_of_mem _ hm), List.foldl_cons,
            styles_visit ih (rendered n List.mem_cons_self) first]

/-- The base styles of a model are those of the subtree that is shown. -/
theorem styles_extract {descriptor : Descriptor} {log : List LogRecord} {model : Model}
    (h : d.extract descriptor = (log, .ok model)) :
    ∃ root, d.node? descriptor.rootNode = some root ∧ model.styles = d.subtreeStyles root ∧
      model.variants =
        if descriptor.isVariant then d.variantStyles descriptor model.styles else .empty := by
  obtain ⟨root, s, hroot, walked, -, holds, variants⟩ := exists_walk_of_extract h
  rw [holds.styles]
  exact ⟨root, hroot, styles_visitEach _ walked, variants⟩

/-- The style walk adds only styles of nodes. -/
private theorem exists_of_collectStyles {P : StyleMap → Prop}
    (hP : ∀ n ∈ d.nodes, P (Style.resolve d n)) (id : NodeId) {styles : OrderedMap StyleMap}
    (h : ∀ slug style, styles.get? slug = some style → P style) :
    ∀ slug style, (d.collectStyles fuel id styles).get? slug = some style → P style := by
  induction fuel generalizing id styles with
  | zero => exact h
  | succ fuel ih =>
    rw [collectStyles_succ]
    have listed : ∀ n ∈ d.renderedChildren id, n ∈ d.nodes :=
      fun n hn => mem_nodes_of_mem_renderedChildren hn
    generalize d.renderedChildren id = nodes at listed
    induction nodes generalizing styles with
    | nil => exact h
    | cons n rest ihRest =>
      refine ihRest ?_ fun m hm => listed m (List.mem_cons_of_mem _ hm)
      have added : ∀ slug style,
          (if (Text.camelIdentifier n.name).isEmpty then styles
            else styles.insertIfNew (Text.camelIdentifier n.name) (Style.resolve d n)).get? slug =
              some style → P style := by
        split
        · exact h
        · intro slug style found
          unfold OrderedMap.insertIfNew at found
          split at found
          · exact h slug style found
          · rw [OrderedMap.get?_insert] at found
            split at found
            · cases found
              exact hP n (listed n List.mem_cons_self)
            · exact h slug style found
      unfold collectChild
      simp only
      split
      · exact h
      · split
        · exact added
        · exact ih n.id added

/-- Every style of a subtree is the style of its root or of a node of the document. -/
theorem exists_node_of_subtreeStyles {root : Node} {slug : String} {style : StyleMap}
    (h : (d.subtreeStyles root).get? slug = some style) :
    ∃ n, (n = root ∨ n ∈ d.nodes) ∧ style = Style.resolve d n := by
  refine exists_of_collectStyles
    (P := fun style => ∃ n, (n = root ∨ n ∈ d.nodes) ∧ style = Style.resolve d n)
    (fun n hn => ⟨n, .inr hn, rfl⟩) root.id ?_ slug style h
  intro slug style found
  rw [OrderedMap.get?_insert] at found
  split at found
  · cases found
    exact ⟨root, .inl rfl, rfl⟩
  · cases found

/-- Every style of a subtree is the style of a node. -/
theorem exists_of_subtreeStyles {root : Node} {slug : String} {style : StyleMap}
    (h : (d.subtreeStyles root).get? slug = some style) : ∃ n, style = Style.resolve d n := by
  obtain ⟨n, -, he⟩ := exists_node_of_subtreeStyles h
  exact ⟨n, he⟩

/-! ## Patches of members -/

/-- The patch between two styles of a slug, if it says anything. -/
def effectivePatch? (style own : StyleMap) : Option StyleMap :=
  if (style.patch own).isEmpty then none else some (style.patch own)

/-- A patch that says nothing is the empty patch. -/
theorem getD_effectivePatch? (style own : StyleMap) :
    (effectivePatch? style own).getD .empty = style.patch own := by
  unfold effectivePatch?
  split
  · next h => exact (OrderedMap.ext (List.isEmpty_iff.1 h)).symm
  · rfl

/-- The patch that a member needs for a slug of the base, if it needs one. -/
def memberPatch? (d : Document) (base : OrderedMap StyleMap) (member : Node) (slug : String) :
    Option StyleMap :=
  (base.get? slug).bind fun style => ((d.subtreeStyles member).get? slug).bind (effectivePatch? style)

end Handoff.Document

namespace Handoff

/-- The modifiers that are recorded for a slug. -/
def modifiersOf (variants : OrderedMap Modifiers) (slug : String) : Modifiers :=
  (variants.get? slug).getD .empty

/-- The patch that is recorded for a slug under the key of a member. -/
def recorded? (variants : OrderedMap Modifiers) (slug key : String) : Option StyleMap :=
  (variants.get? slug).bind (·.get? key)

/-- What is recorded for a slug is found among its modifiers. -/
theorem recorded?_eq (variants : OrderedMap Modifiers) (slug key : String) :
    recorded? variants slug key = (modifiersOf variants slug).get? key := by
  rw [recorded?, modifiersOf]
  cases variants.get? slug <;> rfl

namespace Document

variable {d : Document} {base : OrderedMap StyleMap} {variants : OrderedMap Modifiers}
  {slug key : String}

private theorem modifiersOf_addModifier (k : String) (styles : OrderedMap StyleMap)
    (e : String × StyleMap) :
    modifiersOf (addModifier k styles variants e) slug =
      if slug = e.1 then
        ((styles.get? slug).bind (effectivePatch? e.2)).elim (modifiersOf variants slug)
          ((modifiersOf variants slug).insert k)
      else modifiersOf variants slug := by
  unfold addModifier
  by_cases hslug : slug = e.1
  · subst hslug
    rw [if_pos rfl]
    cases hs : styles.get? e.1 with
    | none => rfl
    | some own =>
      simp only [Option.bind_some, effectivePatch?]
      by_cases hp : (StyleMap.patch e.2 own).isEmpty = true
      · simp [hp]
      · simp [hp, modifiersOf, OrderedMap.get?_insert]
  · rw [if_neg hslug]
    split
    · rfl
    · dsimp only
      split
      · rfl
      · rw [modifiersOf, OrderedMap.get?_insert, if_neg hslug, modifiersOf]

/-- A member adds its patch for a slug under its key, if it needs one. -/
theorem modifiersOf_addMember (member : Node) :
    modifiersOf (d.addMember base variants member) slug =
      (d.memberPatch? base member slug).elim (modifiersOf variants slug)
        ((modifiersOf variants slug).insert member.variantKey) := by
  have walked := OrderedMap.observe_foldl (modifiersOf · slug)
    (addModifier member.variantKey (d.subtreeStyles member)) slug
    (fun style old => (((d.subtreeStyles member).get? slug).bind (effectivePatch? style)).elim old
      (old.insert member.variantKey))
    (fun variants e _ => modifiersOf_addModifier _ _ _) base.nodup variants
  rw [addMember, walked, memberPatch?, ← OrderedMap.get?]
  cases base.get? slug <;> rfl

/-- Recording the patches of a member leaves what is recorded under other keys. -/
theorem recorded?_addMember (member : Node) :
    recorded? (d.addMember base variants member) slug key =
      if key = member.variantKey then
        (d.memberPatch? base member slug).or (recorded? variants slug key)
      else recorded? variants slug key := by
  rw [recorded?_eq, recorded?_eq, modifiersOf_addMember]
  cases d.memberPatch? base member slug with
  | none => simp
  | some patch => simp [OrderedMap.get?_insert]

/-- What is recorded under a key is the patch of the last member with this key that needs one. -/
theorem recorded?_foldl_addMember (members : List Node) (variants : OrderedMap Modifiers) :
    recorded? (members.foldl (d.addMember base) variants) slug key =
      ((members.reverse.filter (·.variantKey == key)).findSome? (d.memberPatch? base · slug)).or
        (recorded? variants slug key) := by
  induction members generalizing variants with
  | nil => rfl
  | cons m rest ih =>
    rw [List.foldl_cons, ih, recorded?_addMember, List.reverse_cons, List.filter_append,
      List.findSome?_append, Option.or_assoc]
    congr 1
    by_cases hkey : key = m.variantKey
    · simp [hkey]
    · have hb : (m.variantKey == key) = false := by simpa using Ne.symm hkey
      simp [hkey, hb]

/-- Where other members have other keys, the patch of a member is recorded under its key. -/
theorem recorded?_variantStyles_of_mem {descriptor : Descriptor} {m : Node}
    (mem : m ∈ d.otherMembers descriptor)
    (alone : ∀ m' ∈ d.otherMembers descriptor, m'.variantKey = m.variantKey → m' = m) :
    recorded? (d.variantStyles descriptor base) slug m.variantKey = d.memberPatch? base m slug := by
  rw [variantStyles, recorded?_foldl_addMember]
  have same : ∀ m' ∈ (d.otherMembers descriptor).reverse.filter (·.variantKey == m.variantKey),
      m' = m := by
    intro m' hm'
    obtain ⟨listed, key⟩ := List.mem_filter.1 hm'
    exact alone m' (List.mem_reverse.1 listed) (by simpa using key)
  have found : m ∈ (d.otherMembers descriptor).reverse.filter (·.variantKey == m.variantKey) :=
    List.mem_filter.2 ⟨List.mem_reverse.2 mem, by simp⟩
  cases hp : d.memberPatch? base m slug with
  | none =>
    rw [List.findSome?_eq_none_iff.2 fun m' hm' => by rw [same m' hm', hp]]
    rfl
  | some patch =>
    cases hl : (d.otherMembers descriptor).reverse.filter (·.variantKey == m.variantKey) with
    | nil =>
      rw [hl] at found
      cases found
    | cons first rest =>
      rw [hl] at same
      rw [List.findSome?_cons, same first List.mem_cons_self, hp]
      rfl

/-- Under a key that no other member has nothing is recorded. -/
theorem recorded?_variantStyles_of_not_mem {descriptor : Descriptor}
    (absent : ∀ m ∈ d.otherMembers descriptor, m.variantKey ≠ key) :
    recorded? (d.variantStyles descriptor base) slug key = none := by
  rw [variantStyles, recorded?_foldl_addMember]
  have none : (d.otherMembers descriptor).reverse.filter (·.variantKey == key) = [] := by
    rw [List.filter_eq_nil_iff]
    intro m hm
    simpa using absent m (List.mem_reverse.1 hm)
  rw [none]
  rfl

/-- A recorded patch leads from the style that the base has for the slug to the style that another member
has for it. -/
theorem exists_member_of_recorded {descriptor : Descriptor} {patch : StyleMap}
    (recorded : recorded? (d.variantStyles descriptor base) slug key = some patch) :
    ∃ member ∈ d.otherMembers descriptor, ∃ style own, base.get? slug = some style ∧
      (d.subtreeStyles member).get? slug = some own ∧ patch = style.patch own := by
  rw [variantStyles, recorded?_foldl_addMember, Option.or_eq_some_iff] at recorded
  rcases recorded with recorded | ⟨-, nothing⟩
  · obtain ⟨member, listed, needs⟩ := List.exists_of_findSome?_eq_some recorded
    obtain ⟨style, hstyle, needs⟩ := Option.bind_eq_some_iff.1 needs
    obtain ⟨own, hown, effective⟩ := Option.bind_eq_some_iff.1 needs
    refine ⟨member, List.mem_reverse.1 (List.mem_of_mem_filter listed), style, own, hstyle, hown, ?_⟩
    unfold effectivePatch? at effective
    split at effective
    · cases effective
    · exact (Option.some.inj effective).symm
  · cases nothing

/-- Patches are recorded for slugs of the base. -/
theorem mem_keys_of_recorded {descriptor : Descriptor}
    (recorded : (recorded? (d.variantStyles descriptor base) slug key).isSome = true) :
    slug ∈ base.keys := by
  obtain ⟨patch, found⟩ := Option.isSome_iff_exists.1 recorded
  obtain ⟨_, -, style, _, hstyle, -, -⟩ := exists_member_of_recorded found
  exact OrderedMap.mem_keys_of_get? hstyle

end Document
end Handoff
