import Handoff.Proofs.Scene.Tree
import Handoff.Proofs.Session.Pass

/-!
# Loading cannot be misled by caches

Whatever a table and the nodes of a document hold, loading leaves in both tiers, for every component
that compiles, what compiling it yields: either the first pass found nothing in the caches, or the second
pass compiles everything anew. So the bundles of a compiled document do not depend on its plugin data.
-/

namespace Handoff

variable {settings : Settings} {namespaceName key : String} {m : OrderedMap Bundle} {d : Document}

/-! ## The bundles of a compiled document -/

/-- The bundles that are kept of events are the last ones under their ids. -/
theorem bundles_foldl_collect (events : List Event) (o : ProjectOutput) :
    (events.foldl ProjectOutput.collect o).bundles =
      o.bundles.insertAll ((events.filterMap Event.bundle?).map fun b => (b.id, b)) := by
  induction events generalizing o with
  | nil => rfl
  | cons e rest ih =>
    rw [List.foldl_cons, ih]
    cases e <;> rfl

/-- No component is an icon. -/
theorem Document.filter_discover (d : Document) :
    d.discover.elems.filter (!d.isIcon ·) = d.discover.elems :=
  List.filter_eq_self.2 fun _ found => by rw [isIcon_of_mem_discover found]; rfl

/-- The bundles of the components of a document, in the order of discovery. -/
def Document.freshBundles (d : Document) (settings : Settings) : List Bundle :=
  (d.discover.elems.filter (!d.isIcon ·)).filterMap fun id => (d.compile settings id).2.toOption

/-- The bundle of a component that compiles is among the bundles of the document. -/
theorem Document.mem_freshBundles {id : NodeId} {b : Bundle} (found : id ∈ d.discover.elems)
    (built : (d.compile settings id).2 = .ok b) : b ∈ d.freshBundles settings := by
  have hicon := Document.isIcon_of_mem_discover found
  refine List.mem_filterMap.2 ⟨id, ?_, by rw [built]; rfl⟩
  exact List.mem_filter.2 ⟨found, by rw [hicon]; rfl⟩

namespace Session

/-- Without components nothing is loaded. -/
theorem load_of_empty {s : Session} (h : s.document.discover.elems = []) :
    s.load = (s, { result := [] }) := by
  unfold load
  rw [h]
  rfl

/-- Without components nothing is compiled. -/
theorem recompile_of_empty {s : Session} (h : s.document.discover.elems = []) :
    s.recompile = (s, { result := [] }) := by
  unfold recompile
  rw [h]
  rfl

/-- Where there are components, they are compiled in one pass. -/
theorem recompile_of_nonempty {s : Session} (h : s.document.discover.elems ≠ []) :
    s.recompile.2.result =
        [(s.compile s.document.discover.elems s.document.discover.elems true).2.result] ∧
      s.recompile.2.events =
        (s.compile s.document.discover.elems s.document.discover.elems true).2.events := by
  have hne : s.document.discover.elems.isEmpty = false := by simpa using h
  simp only [recompile, hne, Bool.false_eq_true, if_false, and_self]

/-- Loading leaves the tiers as a run without the cache over all components leaves them, and the last
bundles that its events report are those of such a run. -/
theorem load_run {s : Session} (h : s.store.Over namespaceName key m d)
    (nonempty : d.discover.elems ≠ []) :
    ∃ skipCache m₁ d₁ results m' d', d₁.bare = d.bare ∧
      Run s.settings namespaceName key skipCache d.discover.elems m₁ d₁ results m' d' ∧
      (∀ result ∈ results, fromCache result = false) ∧
      s.load.1.store.Over namespaceName key m' d' ∧
      ∃ earlier, s.load.2.events.filterMap Event.bundle? =
        earlier ++ results.filterMap servedBundle? := by
  have doc : s.document = d := h.document
  obtain ⟨results, m₁, d₁, run, hover, hcached, hevents⟩ :=
    compile_run h d.discover.elems d.discover.elems false
  have hne : d.discover.elems.isEmpty = false := by simpa using nonempty
  unfold load
  rw [doc]
  simp only [hne, Bool.false_eq_true, if_false]
  split
  · next hzero =>
    rw [hcached, List.countP_eq_zero] at hzero
    refine ⟨false, _, d, results, m₁, d₁, rfl, run, ?_, hover, [], hevents⟩
    intro result hr
    simpa using hzero result hr
  · have same : (s.compile d.discover.elems d.discover.elems false).1.settings = s.settings := rfl
    obtain ⟨results₂, m₂, d₂, run₂, hover₂, -, hevents₂⟩ :=
      compile_run hover d.discover.elems d.discover.elems true
    rw [same] at run₂
    refine ⟨true, _, d₁, results₂, m₂, d₂, run.bare_eq, run₂, run₂.fresh_of_skip, hover₂,
      results.filterMap servedBundle?, ?_⟩
    show List.filterMap Event.bundle? (_ ++ _) = _
    rw [List.filterMap_append, hevents, hevents₂]

/-- After loading, the table has what every component compiles to, and its node has it, too, if the sizes
of asset nodes read back. -/
theorem load_serves {s : Session} (h : s.store.Over namespaceName key m d) :
    ∃ m' d', s.load.1.store.Over namespaceName key m' d' ∧ d'.bare = d.bare ∧
      ∀ id ∈ d.discover.elems, ∀ b, (d.compile s.settings id).2 = .ok b →
        m'.get? id = some b ∧ (d.SizesReadBack → d'.kept namespaceName key id = .ok (some b)) := by
  by_cases hne : d.discover.elems = []
  · rw [load_of_empty (by rw [Session.document, h.document]; exact hne), hne]
    exact ⟨m, d, h, rfl, by simp⟩
  · obtain ⟨skipCache, m₁, d₁, results, m', d', same, run, fresh, hover, -⟩ := load_run h hne
    refine ⟨m', d', hover, run.bare_eq.trans same, ?_⟩
    intro id found b built
    have hicon := Document.isIcon_of_mem_discover found
    rw [← Document.isIcon_of_bare_eq same] at hicon
    rw [← Document.compile_of_bare_eq same] at built
    obtain ⟨table, node⟩ := run.bundle_of_fresh fresh found hicon built
    exact ⟨table, fun sizes => node (Document.sizesReadBack_of_bare_eq same.symm sizes)⟩

end Session

/-- The bundles of a compiled document end with those of its components. -/
theorem bundles_compileDocument (settings : Settings) (d : Document) (skipCache : Bool) :
    ∃ earlier, (compileDocument settings d skipCache).2.result.bundles =
      OrderedMap.ofList ((earlier ++ d.freshBundles settings).map fun b => (b.id, b)) := by
  have hstart := Session.start_over settings d
  have reported (s : Session) (loaded : Report (List PassSummary)) {earlier : List Bundle}
      (h : loaded.events.filterMap Event.bundle? = earlier ++ d.freshBundles settings) :
      ((loaded.events ++ s.refreshTheme.events).foldl ProjectOutput.collect {}).bundles =
        OrderedMap.ofList ((earlier ++ d.freshBundles settings).map fun b => (b.id, b)) := by
    rw [bundles_foldl_collect, List.filterMap_append, h]
    show OrderedMap.insertAll .empty (((_ ++ _) ++ []).map _) = _
    rw [List.append_nil]
    rfl
  let start := Session.start settings d
  have doc : start.document = d := rfl
  -- Without components there is no pass, and only the theme is reported.
  by_cases hne : d.discover.elems = []
  · have none : d.freshBundles settings = [] := by rw [Document.freshBundles, hne]; rfl
    cases skipCache with
    | true =>
      refine ⟨[], reported start.recompile.1 start.recompile.2 ?_⟩
      rw [Session.recompile_of_empty (by rw [doc]; exact hne), none]
      rfl
    | false =>
      refine ⟨[], reported start.load.1 start.load.2 ?_⟩
      rw [Session.load_of_empty (by rw [doc]; exact hne), none]
      rfl
  · cases skipCache with
    | true =>
      obtain ⟨results, m', d', run, -, -, hevents⟩ :=
        Session.compile_run hstart d.discover.elems d.discover.elems true
      refine ⟨[], reported start.recompile.1 start.recompile.2 ?_⟩
      rw [(Session.recompile_of_nonempty (by rw [doc]; exact hne)).2]
      exact hevents.trans (run.bundles_of_fresh run.fresh_of_skip)
    | false =>
      obtain ⟨skipCache, m₁, d₁, results, m', d', same, run, fresh, -, earlier, hevents⟩ :=
        Session.load_run hstart hne
      refine ⟨earlier, reported start.load.1 start.load.2 (hevents.trans ?_)⟩
      rw [run.bundles_of_fresh fresh, Document.not_isIcon_of_bare_eq same]
      simp only [Document.compile_of_bare_eq same]
      rfl

/-! ## Bundles and their ids -/

namespace Document

/-- A bundle carries the id and the name of the description. -/
theorem describe_of_compile {id : NodeId} {b : Bundle} (built : (d.compile settings id).2 = .ok b) :
    ∃ descriptor, d.describe id (d.selectedChild? id) = .ok descriptor ∧ b.id = descriptor.id ∧
      b.name = descriptor.name := by
  obtain ⟨descriptor, _, _, described, -, -, rfl⟩ := compile_eq_ok_iff.1 built
  exact ⟨descriptor, described, rfl, rfl⟩

/-- A bundle carries the id of the target's node. -/
theorem id_of_compile {id : NodeId} {b : Bundle} (built : (d.compile settings id).2 = .ok b) :
    ∃ target t, d.compileTarget? id = some target ∧ d.node? target = some t ∧ b.id = t.id := by
  obtain ⟨descriptor, described, hid, -⟩ := describe_of_compile built
  obtain ⟨target, t, htarget, ht, carried, -⟩ := target_of_describe described
  exact ⟨target, t, htarget, ht, hid.trans carried⟩

/-- Where every node is found under its own id, a discovered component is described under the id under
which it was discovered. -/
theorem id_of_describe_of_keyed (keyed : d.Keyed) {id : NodeId} (discovered : id ∈ d.discover.elems)
    {selected : Option NodeId} {found : Descriptor} (described : d.describe id selected = .ok found) :
    found.id = id := by
  obtain ⟨target, t, htarget, ht, carried, -⟩ := target_of_describe described
  have candidate := List.mem_of_mem_filter (OrderedSet.mem_ofList.1 discovered)
  obtain ⟨c, -, hc⟩ := List.mem_filterMap.1 candidate
  rw [compileTarget?_of_compileTarget? keyed hc] at htarget
  cases htarget
  rw [carried, keyed _ _ ht]

/-- Where every node is found under its own id, a discovered component carries the id under which it
was discovered. -/
theorem id_of_compile_of_keyed (keyed : d.Keyed) {id : NodeId} {b : Bundle}
    (found : id ∈ d.discover.elems) (built : (d.compile settings id).2 = .ok b) : b.id = id := by
  obtain ⟨descriptor, described, carried, -⟩ := describe_of_compile built
  exact carried.trans (id_of_describe_of_keyed keyed found described)

end Document

private theorem get?_ofList_of_mem {l : List Bundle} (earlier : List Bundle) {b : Bundle}
    (h : b ∈ l) : (OrderedMap.ofList ((earlier ++ l).map fun b => (b.id, b))).get? b.id =
      ((l.map fun b => (b.id, b)).reverse).lookup b.id := by
  have present : (((l.map fun b => (b.id, b)).reverse).lookup b.id).isSome = true := by
    rw [List.lookup_isSome_iff]
    exact ⟨(b.id, b), by simpa using h, by simp⟩
  obtain ⟨value, hv⟩ := Option.isSome_iff_exists.1 present
  rw [OrderedMap.ofList, OrderedMap.get?_insertAll, List.map_append, List.reverse_append,
    List.lookup_append, hv]
  rfl

/-- The bundle of a compiled document under the id that the bundle of a component carries does not
depend on the caches. -/
theorem get?_bundles_compileDocument (settings : Settings) {d : Document} {id : NodeId} {b : Bundle}
    (found : id ∈ d.discover.elems) (built : (d.compile settings id).2 = .ok b) (skipCache : Bool) :
    (compileDocument settings d skipCache).2.result.bundles.get? b.id =
      (((d.freshBundles settings).map fun b => (b.id, b)).reverse).lookup b.id := by
  obtain ⟨earlier, h⟩ := bundles_compileDocument settings d skipCache
  rw [h]
  exact get?_ofList_of_mem earlier (Document.mem_freshBundles found built)

/-- Where every node is found under its own id, a compiled document has every component's bundle under
the component's id. -/
theorem get?_bundles_of_keyed (keyed : d.Keyed) {id : NodeId} {b : Bundle}
    (found : id ∈ d.discover.elems) (built : (d.compile settings id).2 = .ok b) (skipCache : Bool) :
    (compileDocument settings d skipCache).2.result.bundles.get? id = some b := by
  have carried := Document.id_of_compile_of_keyed keyed found built
  have present := get?_bundles_compileDocument settings found built skipCache
  have only : ∀ e ∈ ((d.freshBundles settings).map fun b => (b.id, b)).reverse, e.1 = id → e.2 = b := by
    intro e he hid
    obtain ⟨b', hb', rfl⟩ := List.mem_map.1 (List.mem_reverse.1 he)
    obtain ⟨id', hid', hbuilt⟩ := List.mem_filterMap.1 hb'
    have built' : (d.compile settings id').2 = .ok b' := by
      cases hc : (d.compile settings id').2 with
      | error e => rw [hc] at hbuilt; cases hbuilt
      | ok b'' => rw [hc] at hbuilt; cases hbuilt; rfl
    have same := Document.id_of_compile_of_keyed keyed (List.mem_of_mem_filter hid') built'
    have : id' = id := same.symm.trans hid
    rw [this, built] at built'
    cases built'
    rfl
  rw [carried] at present
  rw [present]
  have mem : (id, b) ∈ ((d.freshBundles settings).map fun b => (b.id, b)).reverse := by
    rw [List.mem_reverse]
    exact List.mem_map.2 ⟨b, Document.mem_freshBundles found built, by rw [carried]⟩
  cases hl : (((d.freshBundles settings).map fun b => (b.id, b)).reverse).lookup id with
  | none =>
    have := List.lookup_eq_none_iff.1 hl (id, b) mem
    simp at this
  | some b' =>
    obtain ⟨before, after, he, -⟩ := List.lookup_eq_some_iff.1 hl
    have same : b' = b := only (id, b') (by rw [he]; simp) rfl
    rw [same]

/-! ## Loading -/

/-- Loading is immune to what the caches hold. Over any table and any plugin data, for every discovered
component that compiles, both tiers read on their own have its bundle afterwards. A compiled document
has the same bundle with and without the cache under the id that this bundle carries, which is the
component's id where every node is found under its own id. The sizes of asset nodes have to be numbers
that the reader finds again in what the printer writes. -/
theorem loading_ignores_caches (s : Session) {entries : OrderedMap Bundle}
    {namespaceName key : String} (volatile : s.store.volatile = .memory entries)
    (durable : s.store.durable = .nodeData namespaceName key) (sizes : s.document.SizesReadBack)
    {id : NodeId} {b : Bundle} (found : id ∈ s.document.discover.elems)
    (built : (s.document.compile s.settings id).2 = .ok b) :
    s.load.1.store.volatile.read s.load.1.document id = .ok (some b) ∧
      s.load.1.store.readDurable id = .ok (some b) ∧
      (compileDocument s.settings s.document false).2.result.bundles.get? b.id =
        (compileDocument s.settings s.document true).2.result.bundles.get? b.id ∧
      (s.document.Keyed → ∀ skipCache,
        (compileDocument s.settings s.document skipCache).2.result.bundles.get? id = some b) := by
  have hstart : s.store.Over namespaceName key entries s.document := ⟨volatile, durable, rfl⟩
  obtain ⟨m', d', hover, -, served⟩ := Session.load_serves hstart
  obtain ⟨table, node⟩ := served id found b built
  have document : s.load.1.store.document = d' := hover.document
  refine ⟨?_, ?_, ?_, ?_⟩
  · rw [hover.volatile, Tier.read_memory, table]
  · rw [Store.readDurable, hover.durable, document]
    exact node sizes
  · rw [get?_bundles_compileDocument s.settings found built,
      get?_bundles_compileDocument s.settings found built]
  · intro keyed skipCache
    exact get?_bundles_of_keyed keyed found built skipCache

/-- A bundle of no component, as some tool may have left it on a node. -/
def strayBundle (id : NodeId) : Bundle :=
  { id, name := "", page := "", path := "", code := "", theme := "", preview := "", links := .empty
    icons := {}, assets := .empty }

/-- Plugin data with a bundle where the default settings keep bundles. -/
def holding (b : Bundle) : PluginData :=
  SortedMap.empty.insert "scenec" (SortedMap.empty.insert "data" b.print)

/-- A component with an asset, and with a bundle of another component on it. -/
def strayDocument : Document :=
  { name := ""
    placements :=
      [⟨{ id := "c", name := "Card", kind := .component, children := ["v"],
          pluginData := holding (strayBundle "x") }, some "c", none⟩,
        ⟨{ id := "v", name := "Mark", kind := .vector, exported := some ⟨.svg, "<svg/>"⟩ },
          some "v", some "c"⟩] }

/-- A session over that document, with nothing in its table. -/
def straySession : Session := .start {} strayDocument

/-- A bundle of another component on the node of a component is replaced. -/
theorem loading_replaces_stray_bundle : ∃ b,
    (straySession.document.compile straySession.settings "c").2 = .ok b ∧
    straySession.load.1.store.readDurable "c" = .ok (some b) ∧
    (compileDocument straySession.settings straySession.document false).2.result.bundles.get? "c" =
      some b := by
  have compiles : (straySession.document.compile straySession.settings "c").2.toOption.isSome =
    true := by decide +kernel
  have linked : straySession.document.ofNodes? straySession.document.nodes =
    .ok straySession.document := by decide +kernel
  cases hb : (straySession.document.compile straySession.settings "c").2 with
  | error e =>
    rw [hb] at compiles
    cases compiles
  | ok b =>
    obtain ⟨-, durable, -, output⟩ := loading_ignores_caches straySession rfl rfl
      (show straySession.document.SizesReadBack by decide +kernel)
      (show "c" ∈ straySession.document.discover.elems by decide +kernel) hb
    exact ⟨b, rfl, durable, output (Document.keyed_of_linked linked) false⟩

/-- Components whose nodes were overwritten by nodes with other ids: each is found under the id before
its own, and `c` holds a bundle that carries the id `c`. -/
def misfiledDocument : Document :=
  { name := ""
    placements :=
      [⟨{ id := "b", name := "B", kind := .component }, some "a", none⟩,
        ⟨{ id := "c", name := "C", kind := .component }, some "b", none⟩,
        ⟨{ id := "d", name := "D", kind := .component, pluginData := holding (strayBundle "c") },
          some "c", none⟩,
        ⟨{ id := "d", name := "D", kind := .component }, some "d", none⟩] }

/-- Where nodes are found under other ids than their own, a compiled document can have another bundle
under the id of a component with the cache than without it. -/
theorem bundles_of_misfiled_document :
    ¬ ∀ (settings : Settings) (d : Document) (id : NodeId) (b : Bundle), d.SizesReadBack →
      id ∈ d.discover.elems → (d.compile settings id).2 = .ok b →
      (compileDocument settings d false).2.result.bundles.get? id =
        (compileDocument settings d true).2.result.bundles.get? id := by
  intro h
  have compiles : (misfiledDocument.compile {} "c").2.toOption.isSome = true := by decide +kernel
  have cached : ((compileDocument {} misfiledDocument false).2.result.bundles.get? "c").isSome = true := by
    decide +kernel
  have fresh : ((compileDocument {} misfiledDocument true).2.result.bundles.get? "c").isSome = false := by
    decide +kernel
  cases hb : (misfiledDocument.compile {} "c").2 with
  | error e =>
    rw [hb] at compiles
    cases compiles
  | ok b =>
    have same := h {} misfiledDocument "c" b (by decide +kernel) (by decide +kernel) hb
    rw [same, fresh] at cached
    cases cached

end Handoff
