import Handoff.Proofs.Files.Writing
import Handoff.Proofs.Module.Index
import Handoff.Proofs.Session.Accounting
import Handoff.Proofs.Session.Provenance

/-!
# Where compiled documents are written

A compiled component has an identifier as its name and is filed under its own id, so its module is written
directly into the folder of the project. A bundle that was kept on a node is reported as it was read: it is
filed under the id that it carries, and its module is written where its name leads.
-/

namespace Handoff

variable {settings : Settings} {namespaceName key : String} {m : OrderedMap Bundle} {d : Document}

/-! ## The last bundle under an id -/

/-- The last of some bundles that carries an id. -/
def lastUnder (bundles : List Bundle) (id : NodeId) : Option Bundle :=
  bundles.reverse.find? (·.id == id)

/-- The last of bundles that come one list after the other. -/
theorem lastUnder_append (l₁ l₂ : List Bundle) (id : NodeId) :
    lastUnder (l₁ ++ l₂) id = (lastUnder l₂ id).or (lastUnder l₁ id) := by
  rw [lastUnder, List.reverse_append, List.find?_append]
  rfl

/-- The last bundle under an id is one of the bundles and carries the id. -/
theorem mem_of_lastUnder {bundles : List Bundle} {id : NodeId} {b : Bundle}
    (h : lastUnder bundles id = some b) : b ∈ bundles ∧ b.id = id :=
  ⟨List.mem_reverse.1 (List.mem_of_find?_eq_some h), by simpa using List.find?_some h⟩

/-- What is last under an id in one list, or else in another one, is a bundle of the first list with this id
unless it is the last one in the second list. -/
theorem lastUnder_or_cases {l₁ l₂ : List Bundle} {id : NodeId} {b : Bundle}
    (h : (lastUnder l₁ id).or (lastUnder l₂ id) = some b) :
    b ∈ l₁ ∧ b.id = id ∨ lastUnder l₁ id = none ∧ lastUnder l₂ id = some b := by
  cases first : lastUnder l₁ id with
  | some b' =>
    rw [first] at h
    cases h
    exact .inl (mem_of_lastUnder first)
  | none =>
    rw [first] at h
    exact .inr ⟨rfl, h⟩

/-- There is no last bundle under an id that none of the bundles carries. -/
theorem lastUnder_eq_none_iff {bundles : List Bundle} {id : NodeId} :
    lastUnder bundles id = none ↔ ∀ b ∈ bundles, b.id ≠ id := by
  simp [lastUnder]

/-- Bundles that are collected by their ids. -/
theorem get?_insertAll_bundles (bundles : List Bundle) (id : NodeId) :
    (OrderedMap.empty.insertAll (bundles.map fun b => (b.id, b))).get? id = lastUnder bundles id := by
  rw [OrderedMap.get?_insertAll, OrderedMap.get?_empty, Option.or_none, ← List.map_reverse, lastUnder]
  induction bundles.reverse with
  | nil => rfl
  | cons b rest ih =>
    rw [List.map_cons, List.lookup_cons, List.find?_cons, ih, Bool.beq_comm (a := id)]

private theorem find?_filterMap_congr {ids : List NodeId} {f g : NodeId → Option Bundle} {p : Bundle → Bool}
    (h : ∀ id ∈ ids, (f id).filter p = (g id).filter p) :
    (ids.filterMap f).find? p = (ids.filterMap g).find? p := by
  have first (f : NodeId → Option Bundle) (id : NodeId) (rest : List NodeId) :
      ((id :: rest).filterMap f).find? p = ((f id).filter p).or ((rest.filterMap f).find? p) := by
    rw [List.filterMap_cons]
    cases f id with
    | none => rfl
    | some b =>
      rw [List.find?_cons, Option.filter_some]
      cases p b <;> rfl
  induction ids with
  | nil => rfl
  | cons id rest ih =>
    rw [first, first, h id List.mem_cons_self, ih fun k hk => h k (List.mem_cons_of_mem _ hk)]

/-! ## What is reported first -/

namespace Document

/-- The bundle that can be read from the node of a component. -/
def keptBundle? (d : Document) (namespaceName key : String) (id : NodeId) : Option Bundle :=
  (d.kept namespaceName key id).toOption.join

/-- The bundles that can be read from the nodes of components, in the order of discovery. -/
def keptBundles (d : Document) (namespaceName key : String) : List Bundle :=
  d.discover.elems.filterMap (d.keptBundle? namespaceName key)

/-- The bundle with which a component is served where no table knows it: what its node has, else what it
compiles to. -/
def firstBundle? (d : Document) (settings : Settings) (namespaceName key : String) (id : NodeId) :
    Option Bundle :=
  (d.keptBundle? namespaceName key id).or (d.compile settings id).2.toOption

end Document

/-- Over a table that knows no target, different targets that are no icons are served with their first
bundles. -/
theorem PassState.bundles_of_unknown {p : PassState} (h : p.store.Over namespaceName key m d)
    {targets : List NodeId} (distinct : targets.Nodup) (unknown : ∀ id ∈ targets, m.get? id = none)
    (components : ∀ id ∈ targets, d.isIcon id = false) :
    (p.outcomes settings false targets).filterMap (servedBundle? ·.2) =
      targets.filterMap (d.firstBundle? settings namespaceName key) := by
  induction targets generalizing p m d with
  | nil => rfl
  | cons id rest ih =>
    obtain ⟨fresh, distinct⟩ := List.nodup_cons.1 distinct
    have hicon : ¬ d.isIcon id = true := by simp [components id List.mem_cons_self]
    obtain ⟨m₁, d₁, served, tiers⟩ := step_served settings false h hicon
    have differs {k : NodeId} (hk : k ∈ rest) : k ≠ id := fun same => fresh (same ▸ hk)
    -- Serving one target changes neither what compiles nor what there is for the others.
    have others := ih tiers distinct
      (fun k hk => (served.get?_of_ne (differs hk)).trans (unknown k (List.mem_cons_of_mem _ hk)))
      (fun k hk => by
        rw [Document.isIcon_of_bare_eq served.bare_eq]
        exact components k (List.mem_cons_of_mem _ hk))
    have same : rest.filterMap (d₁.firstBundle? settings namespaceName key) =
        rest.filterMap (d.firstBundle? settings namespaceName key) := by
      refine List.filterMap_congr fun k hk => ?_
      rw [Document.firstBundle?, Document.keptBundle?, served.kept_of_ne (differs hk),
        Document.compile_of_bare_eq served.bare_eq]
      rfl
    have first : servedBundle? (p.store.serve settings false id).2.2 =
        d.firstBundle? settings namespaceName key id := by
      rw [Store.result_serve h, unknown id List.mem_cons_self, Document.firstBundle?, Document.keptBundle?]
      cases d.kept namespaceName key id with
      | error e => cases (d.compile settings id).2 <;> rfl
      | ok found =>
        cases found with
        | none => cases (d.compile settings id).2 <;> rfl
        | some b => rfl
    rw [outcomes, h.document, if_neg hicon, List.filterMap_cons, List.filterMap_cons, others, same, first]

namespace Session

/-- The first pass of a session that starts over a document reports the first bundles of its components. -/
theorem reported_first (settings : Settings) (d : Document) :
    ((start settings d).compile d.discover.elems d.discover.elems false).2.events.filterMap Event.bundle? =
      d.discover.elems.filterMap
        (d.firstBundle? settings settings.cache.namespaceName settings.cache.key) := by
  have h := start_over settings d
  rw [reported_compile]
  exact PassState.bundles_of_unknown (startPass_over h _ _) d.discover.nodup
    (fun id _ => by rw [OrderedMap.get?_filterKeys]; split <;> rfl)
    fun id found => Document.isIcon_of_mem_discover found

/-- Loading reports last what the components compile to, and first, if anything was kept, their first
bundles. -/
theorem reported_load (settings : Settings) (d : Document) :
    let firsts := d.discover.elems.filterMap
      (d.firstBundle? settings settings.cache.namespaceName settings.cache.key)
    let reported := (start settings d).load.2.events.filterMap Event.bundle?
    reported = firsts ∧ firsts = d.freshBundles settings ∨
      reported = firsts ++ d.freshBundles settings := by
  intro firsts reported
  have h := start_over settings d
  have first := reported_first settings d
  have doc : (start settings d).document = d := rfl
  by_cases empty : d.discover.elems = []
  · refine .inl ⟨?_, ?_⟩
    · show ((start settings d).load.2.events.filterMap Event.bundle?) = _
      rw [load_of_empty (by rw [doc]; exact empty)]
      show [] = d.discover.elems.filterMap _
      rw [empty]
      rfl
    · show d.discover.elems.filterMap _ = _
      rw [Document.freshBundles, empty]
      rfl
  · rcases load_of_nonempty (s := start settings d) empty with ⟨zero, -, events⟩ | ⟨-, events⟩
    · have fresh := bundles_of_fresh_pass h rfl (.inr zero)
      have same : reported = firsts := (congrArg (List.filterMap Event.bundle?) events).trans first
      exact .inl ⟨same, first.symm.trans fresh⟩
    · obtain ⟨_, m₁, d₁, run, stored, -, -⟩ := compile_run h d.discover.elems d.discover.elems false
      have fresh := bundles_of_fresh_pass stored run.bare_eq (.inl (rfl : true = true))
      refine .inr ((congrArg (List.filterMap Event.bundle?) events).trans ?_)
      rw [List.filterMap_append]
      exact congrArg₂ (· ++ ·) first fresh

end Session

/-! ## What is returned -/

/-- The events of a compiled document report what loading it reports, or what its components compile to. -/
theorem reported_compileDocument (settings : Settings) (d : Document) (skipCache : Bool) :
    (compileDocument settings d skipCache).2.events.filterMap Event.bundle? =
      if skipCache then d.freshBundles settings
      else (Session.start settings d).load.2.events.filterMap Event.bundle? := by
  have before (loaded : Report (List PassSummary)) (s : Session) :
      (loaded.events ++ s.refreshTheme.events).filterMap Event.bundle? =
        loaded.events.filterMap Event.bundle? := by
    rw [List.filterMap_append]
    exact List.append_nil _
  cases skipCache with
  | false => exact before (Session.start settings d).load.2 _
  | true =>
    refine (before (Session.start settings d).recompile.2 _).trans ?_
    by_cases empty : d.discover.elems = []
    · have none : d.freshBundles settings = [] := by
        rw [Document.freshBundles, empty]
        rfl
      rw [Session.recompile_of_empty (s := Session.start settings d) empty, if_pos rfl, none]
      rfl
    · rw [(Session.recompile_of_nonempty (s := Session.start settings d) empty).2, if_pos rfl]
      exact Session.bundles_of_fresh_pass (Session.start_over settings d) rfl (.inl rfl)

private theorem bundles_eq (settings : Settings) (d : Document) (skipCache : Bool) (id : NodeId) :
    (compileDocument settings d skipCache).2.result.bundles.get? id =
      lastUnder (if skipCache then d.freshBundles settings
        else (Session.start settings d).load.2.events.filterMap Event.bundle?) id := by
  have collected : (compileDocument settings d skipCache).2.result.bundles =
      OrderedMap.empty.insertAll (((compileDocument settings d skipCache).2.events.filterMap
        Event.bundle?).map fun b => (b.id, b)) := bundles_foldl_collect _ {}
  rw [collected, get?_insertAll_bundles, reported_compileDocument]

/-- Where no component compiles to a bundle with some id, a first bundle with it was kept. -/
private theorem filter_firstBundle? {id k : NodeId} (none : lastUnder (d.freshBundles settings) id = none)
    (found : k ∈ d.discover.elems) :
    (d.firstBundle? settings namespaceName key k).filter (·.id == id) =
      (d.keptBundle? namespaceName key k).filter (·.id == id) := by
  rw [Document.firstBundle?]
  cases d.keptBundle? namespaceName key k with
  | some b => rfl
  | none =>
    cases built : (d.compile settings k).2 with
    | error e => rfl
    | ok b =>
      have other : b.id ≠ id := lastUnder_eq_none_iff.1 none b (Document.mem_freshBundles found built)
      show (some b).filter _ = _
      rw [Option.filter_some, beq_eq_false_iff_ne.2 other]
      rfl

/-- Under an id a compiled document has the last bundle that a component compiles to, else, unless the cache
is skipped, the last one that can be read from the node of a component. -/
theorem get?_bundles_eq (settings : Settings) (d : Document) (skipCache : Bool) (id : NodeId) :
    (compileDocument settings d skipCache).2.result.bundles.get? id =
      (lastUnder (d.freshBundles settings) id).or
        (if skipCache then none
        else lastUnder (d.keptBundles settings.cache.namespaceName settings.cache.key) id) := by
  rw [bundles_eq]
  cases skipCache with
  | true => simp
  | false =>
    let firsts := d.discover.elems.filterMap
      (d.firstBundle? settings settings.cache.namespaceName settings.cache.key)
    have reported : lastUnder ((Session.start settings d).load.2.events.filterMap Event.bundle?) id =
        (lastUnder (d.freshBundles settings) id).or (lastUnder firsts id) := by
      rcases Session.reported_load settings d with ⟨first, fresh⟩ | both
      · have same : firsts = d.freshBundles settings := fresh
        rw [first, fresh, same, Option.or_self]
      · rw [both, lastUnder_append]
    rw [if_neg Bool.false_ne_true, if_neg Bool.false_ne_true, reported]
    cases fresh : lastUnder (d.freshBundles settings) id with
    | some b => rfl
    | none =>
      rw [Option.none_or, Option.none_or, lastUnder, lastUnder, Document.keptBundles, ← List.filterMap_reverse,
        ← List.filterMap_reverse]
      exact find?_filterMap_congr fun k found => filter_firstBundle? fresh (List.mem_reverse.1 found)

/-- A bundle that a component compiles to has an identifier as its name, and carries the id of a component
where every node is found under its own id. -/
theorem Document.contained_freshBundles {b : Bundle} (h : b ∈ d.freshBundles settings) :
    Text.IsPlain b.name ∧ (d.Keyed → b.id ∈ d.discover.elems) := by
  obtain ⟨id, found, built⟩ := mem_freshBundles_iff.1 h
  obtain ⟨descriptor, described, -, name⟩ := describe_of_compile built
  refine ⟨by rw [name]; exact isPlain_of_describe described, fun keyed => ?_⟩
  rw [id_of_compile_of_keyed keyed found built]
  exact found

/-- The name of a bundle that a component compiles to has no slash. -/
theorem Document.flat_of_mem_freshBundles {b : Bundle} (h : b ∈ d.freshBundles settings) :
    '/' ∉ b.name.toList :=
  (contained_freshBundles h).1.not_mem (by decide)

/-- Whether every bundle of an output is filed under the id of a component, and no name leads out of the
folder that the output is written to. -/
structure ProjectOutput.Contained (o : ProjectOutput) (d : Document) : Prop where
  ids : ∀ id b, o.bundles.get? id = some b → id ∈ d.discover.elems
  names : ∀ id b, o.bundles.get? id = some b → '/' ∉ b.name.toList ∧ Path.isAbsolute b.name = false

/-- Where every node is found under its own id, an output that has under each id the last bundle that a
component compiles to, or else the last one that was kept, is contained just if the kept ones in it are. -/
private theorem contained_iff {o : ProjectOutput} {kept : List Bundle}
    (bundles : ∀ id, o.bundles.get? id = (lastUnder (d.freshBundles settings) id).or (lastUnder kept id))
    (keyed : d.Keyed) :
    o.Contained d ↔ ∀ id b, lastUnder (d.freshBundles settings) id = none →
      lastUnder kept id = some b → id ∈ d.discover.elems ∧ '/' ∉ b.name.toList := by
  constructor
  · intro contained id b none found
    have present : o.bundles.get? id = some b := by rw [bundles, none, found]; rfl
    exact ⟨contained.ids id b present, (contained.names id b present).1⟩
  · intro inside
    have each (id : NodeId) (b : Bundle) (h : o.bundles.get? id = some b) :
        id ∈ d.discover.elems ∧ '/' ∉ b.name.toList := by
      rw [bundles] at h
      rcases lastUnder_or_cases h with ⟨fresh, rfl⟩ | ⟨none, stray⟩
      · exact ⟨(Document.contained_freshBundles fresh).2 keyed, Document.flat_of_mem_freshBundles fresh⟩
      · exact inside id b none stray
    exact ⟨fun id b h => (each id b h).1, fun id b h =>
      ⟨(each id b h).2, Path.isAbsolute_of_not_mem (each id b h).2⟩⟩

/-- Where a compiled document is written, whatever its nodes keep. Its bundles are what its components
compile to and, unless the cache is skipped, what can be read from their nodes under other ids. The former
have identifiers as names, and the ids of components where every node is found under its own id. So the
output is contained just if what comes from nodes is. Writing it into a folder changes files directly in the
folder only, but for where the modules lead that come from nodes and have slashes in their names. -/
theorem compileDocument_contained (settings : Settings) (d : Document) (skipCache : Bool) :
    let out := (compileDocument settings d skipCache).2.result
    let kept := if skipCache then []
      else d.keptBundles settings.cache.namespaceName settings.cache.key
    (∀ id, out.bundles.get? id = (lastUnder (d.freshBundles settings) id).or (lastUnder kept id)) ∧
      (∀ b ∈ d.freshBundles settings, Text.IsPlain b.name ∧ (d.Keyed → b.id ∈ d.discover.elems)) ∧
      (d.Keyed → (out.Contained d ↔ ∀ id b, lastUnder (d.freshBundles settings) id = none →
        lastUnder kept id = some b → id ∈ d.discover.elems ∧ '/' ∉ b.name.toList)) ∧
      ∀ folder desk p,
        ((Desk.host.writeProject folder out).run desk).2.tree.file? p ≠ desk.tree.file? p →
          ∃ tree, desk.tree.makeFolders folder = .ok tree ∧
            (tree.DirectlyIn folder p ∨ ∃ b ∈ kept, '/' ∈ b.name.toList ∧
              tree.locate (Path.join folder (b.name ++ ".tsx")) = .ok p) := by
  intro out kept
  have bundles (id : NodeId) :
      out.bundles.get? id = (lastUnder (d.freshBundles settings) id).or (lastUnder kept id) := by
    rw [get?_bundles_eq]
    show _ = Option.or _ (lastUnder (if skipCache then _ else _) id)
    cases skipCache <;> rfl
  refine ⟨bundles, fun b => Document.contained_freshBundles, fun keyed => contained_iff bundles keyed, ?_⟩
  intro folder desk p changed
  obtain ⟨tree, made, place⟩ := Host.directlyIn_of_changed changed
  refine ⟨tree, made, place.imp_right ?_⟩
  rintro ⟨b, listed, slash, led⟩
  obtain ⟨⟨id, _⟩, entry, rfl⟩ := List.mem_map.1 listed
  have found := bundles id
  rw [OrderedMap.get?_of_mem entry] at found
  rcases lastUnder_or_cases found.symm with ⟨fresh, -⟩ | ⟨-, stray⟩
  · exact absurd slash (Document.flat_of_mem_freshBundles fresh)
  · exact ⟨_, (mem_of_lastUnder stray).1, slash, led⟩

/-- A card on which a bundle has been kept that carries another id, and a name that leads out of the
folder. -/
def escapingCard : Document :=
  .filed [{ id := "a", name := "Card", kind := .component,
            pluginData := holding { strayBundle "x" with name := "../Card" } }]

/-- The kept bundle is in the output, and its module is written outside the folder. -/
theorem compileDocument_escapes :
    ¬ (compileDocument {} escapingCard false).2.result.Contained escapingCard ∧
      (((Desk.host.writeProject "out" (compileDocument {} escapingCard false).2.result).run
        { tree := {} }).2.tree.file? ["Card.tsx"]).isSome = true := by
  -- Both facts are evaluated at once, since each takes the whole compilation.
  have shown : ((compileDocument {} escapingCard false).2.result.bundles.get? "x").isSome = true ∧
      (((Desk.host.writeProject "out" (compileDocument {} escapingCard false).2.result).run
        { tree := {} }).2.tree.file? ["Card.tsx"]).isSome = true := by decide +kernel
  refine ⟨fun contained => ?_, shown.2⟩
  obtain ⟨b, found⟩ := Option.isSome_iff_exists.1 shown.1
  exact absurd (contained.ids "x" b found) (by decide +kernel)

end Handoff
