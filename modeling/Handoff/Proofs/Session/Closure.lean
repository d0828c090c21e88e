import Handoff.Proofs.Bundle.Code
import Handoff.Proofs.Module.Imports
import Handoff.Proofs.Module.Lines
import Handoff.Proofs.Session.Accounting
import Handoff.Proofs.Session.Reload

/-!
# Closed projects

The index of a compiled document and the modules of its components refer to other modules of the project.
Where all components compile, the index exports what is written. A module imports the targets of nodes
under their names, and these are written, too, unless they are never discovered: icons are left out, and
a set is found through its members only.
-/

namespace Handoff

/-! ## Relative imports -/

namespace Import

/-- The import of the icon component. -/
def icons (settings : Settings) : Import :=
  .named [settings.icons.component] settings.icons.importPath

private theorem ne_relative {source name : String} (h : source.toList.head? ≠ some '.') :
    source ≠ "./" ++ name := by
  rintro rfl
  exact h (by simp)

end Import

/-- A module imports libraries, icons, the theme, and the components that its model has captured. -/
theorem Model.mem_imports {m : Model} {settings : Settings} {owner : NodeId} {i : Import}
    (h : i ∈ m.imports settings owner) :
    i ∈ [Import.framework, Import.localText, Import.primitives m.primitives, Import.icons settings,
        Import.theme] ∨
      ∃ e ∈ m.components.entries, i = Import.component e.2 := by
  have optional {i : Import} {c : Prop} [Decidable c] {l l' : List Import}
      (h : i ∈ if c then l else l') : i ∈ l ∨ i ∈ l' := by
    split at h
    · exact .inl h
    · exact .inr h
  unfold imports at h
  simp only [List.mem_append] at h
  rcases h with ((((h | h) | h) | h) | h) | h
  · rcases optional h with h | h
    · exact .inl (by simp [List.mem_singleton.1 h])
    · cases h
  · rcases optional h with h | h
    · exact .inl (by simp [List.mem_singleton.1 h])
    · cases h
  · exact .inl (by simp [List.mem_singleton.1 h])
  · rcases optional h with h | h
    · cases h
    · exact .inl (by simp [List.mem_singleton.1 h, Import.icons])
  · obtain ⟨e, he, rfl⟩ := List.mem_map.1 h
    exact .inr ⟨e, List.mem_of_mem_filter he, rfl⟩
  · exact .inl (by simp [List.mem_singleton.1 h])

namespace Document

variable {d : Document} {settings : Settings} {skipCache : Bool}

/-- A relative import of a module other than the theme is that of icons, or it is of the target of a node,
under its name. -/
theorem targetName?_of_relative {descriptor : Descriptor} {log : List LogRecord} {m : Model}
    {written : ComponentModule} (extracted : d.extract descriptor = (log, .ok m))
    (emitted : ComponentModule.ofModel settings descriptor m = .ok written) {i : Import}
    (hi : i ∈ written.imports) {name : String} (relative : i.source = "./" ++ name)
    (other : name ≠ "theme") :
    i = Import.icons settings ∨ ∃ id target, d.targetName? id = some (target, name) := by
  obtain ⟨_, -, rfl⟩ := ComponentModule.exists_of_ofModel emitted
  have cancel {a : String} (h : "./" ++ a = "./" ++ name) : a = name := by
    simpa using h
  rcases Model.mem_imports hi with known | ⟨e, he, rfl⟩
  · -- Of the imports that do not name a component, only those of icons and of the theme can be relative.
    simp only [List.mem_cons, List.not_mem_nil, or_false] at known
    rcases known with rfl | rfl | rfl | rfl | rfl
    · exact absurd relative (Import.ne_relative (by decide))
    · exact absurd relative (Import.ne_relative (by decide))
    · exact absurd relative (Import.ne_relative (by simp [Import.primitives, Import.source]))
    · exact .inl rfl
    · exact absurd (cancel relative).symm other
  · rw [← cancel relative]
    obtain ⟨id, named⟩ := exists_targetName?_of_extract extracted e he
    exact .inr ⟨id, e.1, named⟩

/-! ## Discovered targets -/

/-- Whether an id is that of a set to which no component node compiles. -/
def Memberless (d : Document) (id : NodeId) : Prop :=
  (∃ n, d.node? id = some n ∧ n.kind = .componentSet) ∧
    ∀ c ∈ d.nodes, c.kind = .component → d.compileTarget? c.id ≠ some id

/-- A target is discovered, unless it is an icon or a set without members. -/
theorem mem_discover_of_target (keyed : d.Keyed) {id target : NodeId}
    (h : d.compileTarget? id = some target) :
    target ∈ d.discover.elems ∨ d.isIcon target = true ∨ d.Memberless target := by
  cases hicon : d.isIcon target with
  | true => exact .inr (.inl rfl)
  | false =>
    obtain ⟨n, hn, set | ⟨component, single⟩⟩ := standsAlone_of_compileTarget? keyed h
    · by_cases member : ∃ c ∈ d.nodes, c.kind = .component ∧ d.compileTarget? c.id = some target
      · exact .inl (mem_discover_iff.2 ⟨hicon, member⟩)
      · refine .inr (.inr ⟨⟨n, hn, set⟩, fun c hc component targets => ?_⟩)
        exact member ⟨c, hc, component, targets⟩
    · have own := compileTarget?_of_standsAlone keyed hn (.inr ⟨component, single⟩)
      have hid := keyed _ _ hn
      exact .inl (mem_discover_iff.2 ⟨hicon, n, mem_nodes_of_node? hn, component, by rw [hid, own]⟩)

/-- What a discovered target compiles to has the name under which it is imported. -/
theorem name_of_compile (keyed : d.Keyed) {id target : NodeId} {name : String}
    (named : d.targetName? id = some (target, name)) {b : Bundle}
    (built : (d.compile settings target).2 = .ok b) : b.name = name := by
  obtain ⟨targets, t, ht, rfl⟩ := targetName?_eq_some_iff.1 named
  obtain ⟨descriptor, described, -, hname⟩ := describe_of_compile built
  obtain ⟨target', t', htarget, ht', -, hdescribed⟩ := target_of_describe described
  rw [compileTarget?_of_compileTarget? keyed targets] at htarget
  cases htarget
  rw [ht] at ht'
  cases ht'
  rw [hname, hdescribed]

end Document

/-! ## Compiled documents -/

/-- The module of a built component, whose text is its code. -/
theorem Document.module?_of_compile {d : Document} {settings : Settings} {id : NodeId} {b : Bundle}
    (built : (d.compile settings id).2 = .ok b) : ∃ descriptor written,
      d.module? settings id (d.selectedChild? id) = some (descriptor, written) ∧
        b.code = written.text settings := by
  obtain ⟨descriptor, m, written, described, extracted, emitted, code⟩ := code_of_compile built
  exact ⟨descriptor, written, module?_eq_some_iff.2
    ⟨described, _, m, Prod.ext rfl extracted, emitted⟩, code⟩

/-- Whether the last pass over a document counts no failure. -/
def Finishes (settings : Settings) (d : Document) (skipCache : Bool) : Prop :=
  ∀ summary ∈ (compileDocument settings d skipCache).2.result.summaries.getLast?, summary.failed = 0

instance (settings : Settings) (d : Document) (skipCache : Bool) :
    Decidable (Finishes settings d skipCache) :=
  inferInstanceAs (Decidable (∀ summary ∈ _, _))

/-- The bundle that is returned for a target has its name, unless the target is never discovered. -/
theorem get?_bundles_of_targetName? {settings : Settings} {d : Document} {skipCache : Bool}
    (keyed : d.Keyed) (finishes : Finishes settings d skipCache) {user target : NodeId} {name : String}
    (named : d.targetName? user = some (target, name)) :
    (∃ b, (compileDocument settings d skipCache).2.result.bundles.get? target = some b ∧ b.name = name) ∨
      d.isIcon target = true ∨ d.Memberless target := by
  have targets := (Document.targetName?_eq_some_iff.1 named).1
  refine (Document.mem_discover_of_target keyed targets).imp_left fun discovered => ?_
  obtain ⟨b, built⟩ := complete_of_compileDocument finishes target discovered
  exact ⟨b, get?_bundles_of_keyed keyed discovered built skipCache,
    Document.name_of_compile keyed named built⟩

/-- A returned bundle is what the component under its id compiles to, or it was kept on a component's node
under an id that is no component's. -/
theorem compile_or_kept_of_get?_bundles {settings : Settings} {d : Document} {skipCache : Bool}
    (keyed : d.Keyed) (finishes : Finishes settings d skipCache) {id : NodeId} {b : Bundle}
    (found : (compileDocument settings d skipCache).2.result.bundles.get? id = some b) :
    id ∈ d.discover.elems ∧ (d.compile settings id).2 = .ok b ∨
      id ∉ d.discover.elems ∧ skipCache = false ∧ ∃ k ∈ d.discover.elems,
        d.kept settings.cache.namespaceName settings.cache.key k = .ok (some b) := by
  by_cases discovered : id ∈ d.discover.elems
  · obtain ⟨b', built⟩ := complete_of_compileDocument finishes id discovered
    rw [get?_bundles_of_keyed keyed discovered built skipCache] at found
    cases found
    exact .inl ⟨discovered, built⟩
  · obtain ⟨hid, fresh | ⟨cached, kept⟩⟩ := origin_of_bundle found
    · obtain ⟨id', hid', built⟩ := Document.mem_freshBundles_iff.1 fresh
      rw [← hid, Document.id_of_compile_of_keyed keyed hid' built] at discovered
      exact absurd hid' discovered
    · exact .inr ⟨discovered, cached, kept⟩

/-- Where every node is found under its own id and the last pass counts no failure, a compiled document is
closed as far as components are discovered. The index exports the bundles of all components, and these are
returned. A returned bundle has the module of the component under its id, or it was kept on a component's
node under an id that is no component's. A relative import in the module of a component is the theme, or the
icon component where settings have a relative path for it, or a target under its name: this is the name of
the bundle that is returned for the target, unless the target is an icon or a set without members. -/
theorem compileDocument_closed (settings : Settings) {d : Document} (keyed : d.Keyed) (skipCache : Bool)
    (finishes : Finishes settings d skipCache) :
    let out := (compileDocument settings d skipCache).2.result
    out.state.index = indexText settings ((d.freshBundles settings).map (·.name)) ∧
      (∀ b ∈ d.freshBundles settings, out.bundles.get? b.id = some b) ∧
      ∀ id b, out.bundles.get? id = some b →
        (id ∉ d.discover.elems ∧ skipCache = false ∧ ∃ k ∈ d.discover.elems,
          d.kept settings.cache.namespaceName settings.cache.key k = .ok (some b)) ∨
        b ∈ d.freshBundles settings ∧ ∃ descriptor written,
          d.module? settings id (d.selectedChild? id) = some (descriptor, written) ∧
          b.code = written.text settings ∧
          ∀ i ∈ written.imports, ∀ name, i.source = "./" ++ name → name ≠ "theme" →
            i = Import.icons settings ∨ ∃ user target, d.targetName? user = some (target, name) ∧
              ((∃ b', out.bundles.get? target = some b' ∧ b'.name = name) ∨
                d.isIcon target = true ∨ d.Memberless target) := by
  intro out
  refine ⟨index_compileDocument (complete_of_compileDocument finishes), fun b hb => ?_,
    fun id b found => ?_⟩
  · obtain ⟨id, discovered, built⟩ := Document.mem_freshBundles_iff.1 hb
    rw [Document.id_of_compile_of_keyed keyed discovered built]
    exact get?_bundles_of_keyed keyed discovered built skipCache
  · rcases compile_or_kept_of_get?_bundles keyed finishes found with ⟨discovered, built⟩ | kept
    · obtain ⟨descriptor, written, hmodule, code⟩ := Document.module?_of_compile built
      obtain ⟨-, log, m, extracted, emitted⟩ := Document.module?_eq_some_iff.1 hmodule
      refine .inr ⟨Document.mem_freshBundles discovered built, descriptor, written, hmodule, code, ?_⟩
      intro i hi name relative other
      refine (Document.targetName?_of_relative extracted emitted hi relative other).imp_right ?_
      rintro ⟨user, target, named⟩
      exact ⟨user, target, named, get?_bundles_of_targetName? keyed finishes named⟩
    · exact .inl kept

/-- A card that holds an instance of another node, with nothing but the card and that node on its page. -/
def cardWith (use : Node) (others : List Node) : Document :=
  .filed <|
    [{ id := "p", name := "Page", kind := .page, children := "a" :: others.map (·.id) },
      { id := "a", name := "Card", kind := .component, children := [use.id] }, use] ++ others

/-- A card with a button. -/
def buttonCard : Document :=
  cardWith { id := "i", name := "Action", kind := .componentInstance, mainComponent := some "b" }
    [{ id := "b", name := "Button", kind := .component }]

/-- The project of the card with a button is closed: the index exports both, the module of the card imports
that of the button, and this is returned. -/
theorem compileDocument_closed_buttonCard :
    buttonCard.Keyed ∧ Finishes {} buttonCard true ∧
      let out := (compileDocument {} buttonCard true).2.result
      out.state.index = indexText {} ["Card", "Button"] ∧
        ∃ card descriptor written, out.bundles.get? "a" = some card ∧
          buttonCard.module? {} "a" (buttonCard.selectedChild? "a") = some (descriptor, written) ∧
          card.code = written.text {} ∧ Import.component "Button" ∈ written.imports ∧
          ∃ button, out.bundles.get? "b" = some button ∧ button.name = "Button" := by
  have keyed : buttonCard.Keyed := Document.keyed_filed _
  have finishes : Finishes {} buttonCard true := by decide +kernel
  obtain ⟨index, fresh, closed⟩ := compileDocument_closed {} keyed true finishes
  have names : (buttonCard.freshBundles {}).map (·.name) = ["Card", "Button"] := by decide +kernel
  have imports : (buttonCard.module? {} "a" (buttonCard.selectedChild? "a")).map (·.2.imports) =
      some [.named ["StyleSheet", "View"] "react-native", Import.component "Button", Import.theme] := by
    decide +kernel
  have discovered : "a" ∈ buttonCard.discover.elems := by decide +kernel
  refine ⟨keyed, finishes, names ▸ index, ?_⟩
  obtain ⟨card, built⟩ := complete_of_compileDocument finishes "a" discovered
  have returned := fresh card (Document.mem_freshBundles discovered built)
  rw [Document.id_of_compile_of_keyed keyed discovered built] at returned
  rcases closed "a" card returned with ⟨foreign, -⟩ | ⟨-, descriptor, written, hmodule, code, relative⟩
  · exact absurd discovered foreign
  · rw [hmodule] at imports
    have imported : Import.component "Button" ∈ written.imports := by
      have listed : written.imports = _ := Option.some.inj imports
      rw [listed]
      decide
    refine ⟨card, descriptor, written, returned, hmodule, code, imported, ?_⟩
    rcases relative _ imported "Button" rfl (by decide) with icons | ⟨_, target, named, target_returned⟩
    · exact absurd icons (by decide)
    · -- Only the button has the name that is imported, and it is neither an icon nor a set.
      obtain ⟨-, t, found, hname⟩ := Document.targetName?_eq_some_iff.1 named
      have only : ∀ n ∈ buttonCard.nodes, Text.pascalIdentifier n.name = "Button" → n.id = "b" := by
        decide +kernel
      obtain rfl : target = "b" :=
        (keyed _ _ found).symm.trans (only t (Document.mem_nodes_of_node? found) hname)
      rcases target_returned with ⟨button, hbutton⟩ | icon | ⟨⟨n, hn, set⟩, -⟩
      · exact ⟨button, hbutton⟩
      · exact absurd icon (by decide +kernel)
      · have component : (buttonCard.node? "b").map (·.kind) = some .component := by decide +kernel
        rw [hn, Option.map_some, set] at component
        cases component

/-! ## Projects that are not closed -/

/-- Whether a module has a line that imports a module of the project. -/
def ImportsModule (settings : Settings) (code name : String) : Prop :=
  ∃ i : Import, i.source = "./" ++ name ∧ HasLine code (i.text settings)

/-- Whether every module of the project, the theme apart, that returned modules import or that the index
exports has the name of a returned bundle. -/
structure ProjectOutput.Closed (o : ProjectOutput) (settings : Settings) : Prop where
  imports : ∀ b ∈ o.bundles.values, ∀ name, name ≠ "theme" → ImportsModule settings b.code name →
    name ∈ o.bundles.values.map (·.name)
  exports : ∀ name, HasLine o.state.index (indexLine settings name) →
    name ∈ o.bundles.values.map (·.name)

/-- Whether compiling a document counts no failure in the last pass and leaves the project open. -/
def LeavesOpen (settings : Settings) (d : Document) (skipCache : Bool) : Prop :=
  Finishes settings d skipCache ∧ ¬ (compileDocument settings d skipCache).2.result.Closed settings

section

variable {settings : Settings} {d : Document} {skipCache : Bool}

/-- An import of a module that is not returned leaves a project open. -/
private theorem leavesOpen_of_imports (id : NodeId) (imports : List Import) (name : String)
    (keyed : d.Keyed) (finishes : Finishes settings d skipCache) (found : id ∈ d.discover.elems)
    (written : (d.module? settings id (d.selectedChild? id)).map (·.2.imports) = some imports)
    (flat : ∀ i ∈ imports, '\n' ∉ (i.text settings).toList)
    (imported : ∃ i ∈ imports, i.source = "./" ++ name) (other : name ≠ "theme")
    (missing : name ∉ (compileDocument settings d skipCache).2.result.bundles.values.map (·.name)) :
    LeavesOpen settings d skipCache := by
  refine ⟨finishes, fun closed => missing ?_⟩
  obtain ⟨b, built⟩ := complete_of_compileDocument finishes id found
  have returned := get?_bundles_of_keyed keyed found built skipCache
  obtain ⟨descriptor, m, hmodule, code⟩ := Document.module?_of_compile built
  rw [hmodule] at written
  obtain rfl : m.imports = imports := Option.some.inj written
  obtain ⟨i, hi, source⟩ := imported
  refine closed.imports b (List.mem_map_of_mem (OrderedMap.mem_of_get? returned)) name other ?_
  exact ⟨i, source, code ▸ ComponentModule.hasLine_text flat hi⟩

/-- An export of a module that is not returned leaves a project open. -/
private theorem leavesOpen_of_exports (names : List String) (name : String)
    (finishes : Finishes settings d skipCache)
    (fresh : (d.freshBundles settings).map (·.name) = names)
    (flat : ∀ name ∈ names, '\n' ∉ (indexLine settings name).toList) (exported : name ∈ names)
    (missing : name ∉ (compileDocument settings d skipCache).2.result.bundles.values.map (·.name)) :
    LeavesOpen settings d skipCache := by
  refine ⟨finishes, fun closed => missing (closed.exports name ?_)⟩
  rw [index_compileDocument (complete_of_compileDocument finishes), fresh]
  exact hasLine_indexText flat exported

end

/-- A card with a button whose icon property holds a star. -/
def starredCard : Document :=
  cardWith
    { id := "i", name := "Action", kind := .componentInstance, mainComponent := some "b"
      componentProperties := .ofList [("Icon", ⟨.instanceSwap, .text "s", none⟩)] }
    [{ id := "b", name := "Button", kind := .component },
      { id := "s", name := "ph:star", kind := .component }]

/-- A card with an instance of a set that has no members. -/
def chiplessCard : Document :=
  cardWith { id := "i", name := "Filter", kind := .componentInstance, mainComponent := some "k" }
    [{ id := "k", name := "Chips", kind := .componentSet }]

/-- A card with a star. -/
def starCard : Document :=
  cardWith { id := "i", name := "Star", kind := .componentInstance, mainComponent := some "s" }
    [{ id := "s", name := "ph:star", kind := .component }]

/-- Settings under which the icon component comes from a module of the project. -/
def ownIcons : Settings := { icons := { importPath := "./icons" } }

/-- An old bundle, whose module imports a component. -/
def oldBundle : Bundle :=
  { strayBundle "x" with code := (Import.component "Gone").text {} ++ "\n" }

/-- A card on which the old bundle has been kept. -/
def hauntedCard : Document :=
  .filed [{ id := "a", name := "Card", kind := .component, pluginData := holding oldBundle }]

/-- Components whose nodes were overwritten by nodes with other ids: two of them have the same id now. -/
def overwrittenComponents : Document :=
  { name := ""
    placements :=
      [⟨{ id := "q", name := "First", kind := .component }, some "p", none⟩,
        ⟨{ id := "x", name := "Second", kind := .component }, some "q", none⟩,
        ⟨{ id := "y", name := "Third", kind := .component }, some "x", none⟩,
        ⟨{ id := "z", name := "Lost", kind := .component }, some "y", none⟩,
        ⟨{ id := "z", name := "Kept", kind := .component }, some "z", none⟩] }

/-- Projects are left open by a swap value that is an icon, by a main component that is a set without members,
by icons that are imported from the project, by the module of a kept bundle, and by a component whose id
another one has, too. -/
theorem projects_left_open :
    LeavesOpen {} starredCard true ∧ LeavesOpen {} chiplessCard true ∧
      LeavesOpen ownIcons starCard true ∧ LeavesOpen {} hauntedCard false ∧
      LeavesOpen {} overwrittenComponents true := by
  refine ⟨?swap, ?memberless, ?icons, ?kept, ?overwritten⟩
  case swap =>
    exact leavesOpen_of_imports "a"
      [.named ["StyleSheet", "View"] "react-native", .component "Button", .component "PhStar", .theme]
      "PhStar" (Document.keyed_filed _) (by decide +kernel) (by decide +kernel) (by decide +kernel)
      (by decide +kernel) (by decide) (by decide) (by decide +kernel)
  case memberless =>
    exact leavesOpen_of_imports "a"
      [.named ["StyleSheet", "View"] "react-native", .component "Chips", .theme]
      "Chips" (Document.keyed_filed _) (by decide +kernel) (by decide +kernel) (by decide +kernel)
      (by decide +kernel) (by decide) (by decide) (by decide +kernel)
  case icons =>
    exact leavesOpen_of_imports "a"
      [.named ["StyleSheet", "View"] "react-native", .icons ownIcons, .theme]
      "icons" (Document.keyed_filed _) (by decide +kernel) (by decide +kernel) (by decide +kernel)
      (by decide +kernel) (by decide) (by decide) (by decide +kernel)
  case kept =>
    have output : (fun o : ProjectOutput => (o.summaries.getLast?.map (·.failed),
        o.bundles.values.map (·.name), (o.bundles.get? "x").map (·.code)))
          (compileDocument {} hauntedCard false).2.result =
        (some 0, ["", "Card"], some ((Import.component "Gone").text {} ++ "\n")) := by decide +kernel
    obtain ⟨failed, names, code⟩ : _ ∧ _ ∧ _ := by simpa only [Prod.mk.injEq] using output
    refine ⟨fun summary last => ?_, fun closed => ?_⟩
    · rw [Option.mem_def.1 last] at failed
      exact Option.some.inj failed
    · obtain ⟨b, found, hcode⟩ := Option.map_eq_some_iff.1 code
      have gone := closed.imports b (List.mem_map_of_mem (OrderedMap.mem_of_get? found)) "Gone"
        (by decide) ⟨.component "Gone", rfl, [], "", by simp [hcode]⟩
      rw [names] at gone
      exact absurd gone (by decide)
  case overwritten =>
    exact leavesOpen_of_exports ["Lost", "Kept", "Kept"] "Lost" (by decide +kernel) (by decide +kernel)
      (by decide +kernel) (by decide) (by decide +kernel)

end Handoff
