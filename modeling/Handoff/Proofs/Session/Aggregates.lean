import Handoff.Proofs.Session.Gathering
import Handoff.Proofs.Text.IconName

/-!
# What every report adds up

At every report of a pass, and not only at the last one, the project shows the links, the assets and the
icons of three kinds of bundles and of no others: those of the components that are no targets, those of the
targets served so far, and those known of the targets that have failed so far. The sets of icons are what
precedes the colons in the icons it lists, and the hashes it lists for a component are among its assets.
-/

namespace Handoff

/-! ## Sums -/

/-- Whether a project shows all that certain bundles hold, and nothing else. -/
structure ProjectState.AddsUp (p : ProjectState) (counts : Bundle → Prop) : Prop where
  assets : ∀ hash, hash ∈ p.assets.keys ↔ ∃ b, counts b ∧ hash ∈ b.assets.keys
  links : ∀ name, name ∈ p.links.keys ↔ ∃ b, counts b ∧ name ∈ b.links.keys
  icons : ∀ icon, icon ∈ p.icons.list.elems ↔ ∃ b, counts b ∧ icon ∈ b.icons.list
  used : ∀ icon, icon ∈ p.icons.used.elems ↔ ∃ b, counts b ∧ icon ∈ b.icons.used
  sources : ∀ icon, icon ∈ p.icons.map.keys ↔ ∃ b, counts b ∧ icon ∈ b.icons.map.keys
  /-- The source that is shown for an icon is one that some bundle has for it. -/
  source : ∀ e ∈ p.icons.map.entries, ∃ b, counts b ∧ e ∈ b.icons.map.entries
  sets : ∀ set, set ∈ p.icons.sets.elems ↔ ∃ icon ∈ p.icons.list.elems, Text.IsSetOf set icon
  assetMap : ∀ e ∈ p.assetMap.entries, e.2 ⊆ p.assets.keys

namespace ProjectState.Gathers

variable {p : ProjectState} {bundles : List Bundle} (h : p.Gathers bundles)
include h

/-- The links are those of the bundles. -/
theorem mem_links {name : String} : name ∈ p.links.keys ↔ ∃ b ∈ bundles, name ∈ b.links.keys :=
  h.mem_iff_of_adds (·.links.keys) (·.links.keys) rfl fun _ _ _ => OrderedMap.mem_keys_insertAll

/-- The icons are those of the bundles. -/
theorem mem_list {icon : String} : icon ∈ p.icons.list.elems ↔ ∃ b ∈ bundles, icon ∈ b.icons.list :=
  h.mem_iff_of_adds (·.icons.list.elems) (·.icons.list) rfl fun _ _ _ => OrderedSet.mem_insertAll

/-- The icons with a source are those of the bundles. -/
theorem mem_sources {icon : String} :
    icon ∈ p.icons.map.keys ↔ ∃ b ∈ bundles, icon ∈ b.icons.map.keys :=
  h.mem_iff_of_adds (·.icons.map.keys) (·.icons.map.keys) rfl fun _ _ _ => OrderedMap.mem_keys_insertAll

/-- The sets are those of the icons. -/
theorem mem_sets {set : String} :
    set ∈ p.icons.sets.elems ↔ ∃ icon ∈ p.icons.list.elems, Text.IsSetOf set icon := by
  have parts : set ∈ p.icons.sets.elems ↔ ∃ b ∈ bundles, set ∈ b.icons.list.map Text.iconSet :=
    h.mem_iff_of_adds (·.icons.sets.elems) (·.icons.list.map Text.iconSet) rfl
      fun _ _ _ => OrderedSet.mem_insertAll
  rw [parts]
  constructor
  · rintro ⟨b, hb, hset⟩
    obtain ⟨icon, hicon, own⟩ := List.mem_map.1 hset
    exact ⟨icon, h.mem_list.2 ⟨b, hb, hicon⟩, Text.iconSet_eq_iff.1 own⟩
  · rintro ⟨icon, hicon, own⟩
    obtain ⟨b, hb, hicon⟩ := h.mem_list.1 hicon
    exact ⟨b, hb, List.mem_map.2 ⟨icon, hicon, Text.iconSet_eq_iff.2 own⟩⟩

/-- The source shown for an icon is that of some bundle. -/
theorem exists_source {e : String × NodeId} (he : e ∈ p.icons.map.entries) :
    ∃ b ∈ bundles, e ∈ b.icons.map.entries :=
  h.induct (P := fun g seen => ∀ e ∈ g.icons.map.entries, ∃ b ∈ seen, e ∈ b.icons.map.entries)
    (fun _ none => absurd none List.not_mem_nil)
    (fun q seen b known e he => by
      rcases OrderedMap.mem_entries_insertAll he with own | old
      · exact ⟨b, List.mem_append_right _ (List.mem_singleton_self b), own⟩
      · obtain ⟨b', hb', held⟩ := known e old
        exact ⟨b', List.mem_append_left _ hb', held⟩)
    e he

/-- The hashes listed for components are among the assets. -/
theorem assetMap_subset : ∀ e ∈ p.assetMap.entries, e.2 ⊆ p.assets.keys :=
  h.induct (P := fun g _ => ∀ e ∈ g.assetMap.entries, e.2 ⊆ g.assets.keys)
    (fun _ none => absurd none List.not_mem_nil)
    (fun q seen b known e he hash hhash => OrderedMap.mem_keys_insertAll.2 <| by
      rcases OrderedMap.mem_entries_insert he with rfl | old
      · exact .inl hhash
      · exact .inr (known e old hhash))

/-- A project that has added up certain bundles shows what they hold. -/
theorem addsUp {counts : Bundle → Prop} (all : ∀ b, b ∈ bundles ↔ counts b) : p.AddsUp counts where
  assets _ := by simpa only [all] using h.mem_assets
  links _ := by simpa only [all] using h.mem_links
  icons _ := by simpa only [all] using h.mem_list
  used _ := by simpa only [all] using h.mem_used
  sources _ := by simpa only [all] using h.mem_sources
  source _ he := by simpa only [all] using h.exists_source he
  sets _ := h.mem_sets
  assetMap := h.assetMap_subset

end ProjectState.Gathers

/-! ## Bundles that count -/

namespace Pass

/-- The bundles that count in a pass after some of its targets, each with its component. -/
inductive Counts (r : Pass) (done : List NodeId) : NodeId → Bundle → Prop where
  /-- What the volatile tier has for a component that is no target, once it is pruned. -/
  | untouched {id : NodeId} {b : Bundle} :
    id ∈ r.components → id ∉ r.targets → r.known? id = some b → Counts r done id b
  /-- What a target was served with. -/
  | served {id : NodeId} {o : Outcome} :
    id ∈ done → (id, .ok o) ∈ r.outcomes → Counts r done id o.bundle
  /-- What the volatile tier had for a target that has failed. -/
  | failed {id : NodeId} {e : CompileError} {b : Bundle} :
    id ∈ done → (id, .error e) ∈ r.outcomes → r.known? id = some b → Counts r done id b

variable {r : Pass} {done rest : List NodeId}

/-- The outcomes of the targets that a pass begins with are those that they have in the whole pass. -/
theorem filter_outcomes (distinct : r.targets.Nodup) (targets : r.targets = done ++ rest) :
    r.outcomes.filter (·.1 ∈ done) = r.outcomesOf done := by
  have first : (r.outcomesOf done).filter (·.1 ∈ done) = r.outcomesOf done :=
    List.filter_eq_self.2 fun x hx => decide_eq_true (PassState.mem_of_mem_outcomes hx)
  have second : ((r.after done).outcomes r.session.settings r.skipCache rest).filter (·.1 ∈ done) = [] := by
    rw [targets, List.nodup_append] at distinct
    rw [List.filter_eq_nil_iff]
    exact fun x hx listed =>
      distinct.2.2 x.1 (of_decide_eq_true listed) x.1 (PassState.mem_of_mem_outcomes hx) rfl
  rw [outcomes_eq, targets, outcomesOf_append, List.filter_append, first, second, List.append_nil]

/-- The bundles that a project has added up after some of different targets are those that count. -/
theorem mem_gathered_iff (distinct : r.targets.Nodup) (targets : r.targets = done ++ rest) (b : Bundle) :
    b ∈ r.untouched.filterMap r.known? ++ (r.outcomesOf done).filterMap (heard? r.known?) ↔
      ∃ id, r.Counts done id b := by
  have mem_outcomesOf {x : NodeId × Except CompileError Outcome} :
      x ∈ r.outcomesOf done ↔ x ∈ r.outcomes ∧ x.1 ∈ done := by
    rw [← filter_outcomes distinct targets, List.mem_filter, decide_eq_true_iff]
  rw [List.mem_append, List.mem_filterMap, List.mem_filterMap]
  constructor
  · rintro (⟨id, hid, found⟩ | ⟨⟨id, result⟩, hx, counts⟩)
    · obtain ⟨listed, other⟩ := List.mem_filter.1 hid
      exact ⟨id, .untouched listed (by simpa using other) found⟩
    · obtain ⟨hx, hid⟩ := mem_outcomesOf.1 hx
      cases result with
      | ok o =>
        cases counts
        exact ⟨id, .served hid hx⟩
      | error e => exact ⟨id, .failed hid hx counts⟩
  · rintro ⟨id, ⟨listed, other, found⟩ | ⟨hid, hx⟩ | ⟨hid, hx, found⟩⟩
    · exact .inl ⟨_, List.mem_filter.2 ⟨listed, by simpa using other⟩, found⟩
    · exact .inr ⟨_, mem_outcomesOf.2 ⟨hx, hid⟩, rfl⟩
    · exact .inr ⟨_, mem_outcomesOf.2 ⟨hx, hid⟩, found⟩

/-- A report of a pass with different targets is made right after one of them was served. What is reported
by then is what the targets so far were served with, and the project shows the bundles that count. -/
theorem addsUp_report (distinct : r.targets.Nodup) {before later : List Event} {n : Nat}
    {state : ProjectState} {b : Bundle} (h : r.events = before ++ .build n state b :: later) :
    ∃ done id rest o, r.targets = done ++ id :: rest ∧ r.MadeAt before (.build n state b) done id o ∧
      reported (before ++ [.build n state b]) =
        (r.outcomes.filter (·.1 ∈ done ++ [id])).filterMap (servedBundle? ·.2) ∧
      state.AddsUp fun b => ∃ k, r.Counts (done ++ [id]) k b := by
  obtain ⟨done, id, rest, o, split, made⟩ := exists_madeAt h
  have upto : r.targets = (done ++ [id]) ++ rest := by rw [split, List.append_cons]
  obtain ⟨-, shown, -⟩ := Event.build.inj made.event
  refine ⟨done, id, rest, o, split, made, ?_, ?_⟩
  · rw [filter_outcomes distinct upto, ← reported_after, made.upto]
  · rw [shown]
    exact (gathers_after distinct upto).addsUp (mem_gathered_iff distinct upto)

end Pass

/-- What the reports of a pass add up, for any session over any tiers, any components and any different
targets, with the cache or without. Every report is made right after some target was served. What has been
reported by then is what the targets so far were served with, in order, and the project shows exactly the
bundles that count after these targets: those of the components that are no targets, those that targets were
served with, and those known of targets that failed. -/
theorem Session.reports_add_up (s : Session) (components : List NodeId) {targets : List NodeId}
    (distinct : targets.Nodup) (skipCache : Bool) {before later : List Event} {n : Nat}
    {state : ProjectState} {b : Bundle}
    (h : (s.compile components targets skipCache).2.events = before ++ .build n state b :: later) :
    let r : Pass := ⟨s, components, targets, skipCache⟩
    ∃ done id rest o, targets = done ++ id :: rest ∧ r.MadeAt before (.build n state b) done id o ∧
      Pass.reported (before ++ [.build n state b]) =
        (r.outcomes.filter (·.1 ∈ done ++ [id])).filterMap (servedBundle? ·.2) ∧
      state.AddsUp fun b => ∃ k, r.Counts (done ++ [id]) k b :=
  Pass.addsUp_report (r := ⟨s, components, targets, skipCache⟩) distinct h

/-- A session that has loaded an icon and two components, the second of which then got an instance of nothing. -/
def starredSession : Session :=
  let starred (d : Document) : Document := .filed ({ id := "s", name := "ph:star", kind := .component } :: d.nodes)
  (Session.start {} (starred (markedPair []))).load.1.withDocument <| starred <|
    markedPair [{ id := "i", name := "Broken", kind := .componentInstance, mainComponent := some "gone" }]

/-- Compiling both anew, the second component fails first: the report of the first one adds up the asset that the
second one keeps, and the icon with its set. -/
theorem reports_add_up_starredSession :
    let r : Pass := ⟨starredSession, ["a", "b"], ["b", "a"], true⟩
    ∃ n state b done id, (starredSession.compile ["a", "b"] ["b", "a"] true).2.events = [.build n state b] ∧
      (state.AddsUp fun b => ∃ k, r.Counts (done ++ [id]) k b) ∧
      (∃ k b', r.Counts (done ++ [id]) k b' ∧ ∃ hash ∈ b'.assets.keys, hash ∈ state.assets.keys) ∧
      (∃ k b', r.Counts (done ++ [id]) k b' ∧ "ph:star" ∈ b'.icons.list) ∧ "ph" ∈ state.icons.sets.elems := by
  intro r
  have reports : (starredSession.compile ["a", "b"] ["b", "a"] true).2.events.length = 1 := by
    decide +kernel
  have shows : (starredSession.compile ["a", "b"] ["b", "a"] true).2.events.filterMap
      (fun e => e.state?.map fun p => (p.assets.keys.isEmpty, p.icons.list.elems)) = [(false, ["ph:star"])] := by
    decide +kernel
  obtain ⟨e, events⟩ := List.length_eq_one_iff.1 reports
  obtain ⟨state, b, rfl⟩ := Session.mem_events_compile (by rw [events]; exact List.mem_singleton_self e)
  have distinct : ["b", "a"].Nodup := by decide
  obtain ⟨done, id, -, -, -, -, -, adds⟩ := Session.reports_add_up starredSession ["a", "b"] distinct true
    (events.trans (List.nil_append _).symm)
  rw [events] at shows
  obtain ⟨some, list⟩ := Prod.mk.inj (List.head_eq_of_cons_eq shows)
  have listed : "ph:star" ∈ state.icons.list.elems := by
    rw [list]
    exact List.mem_singleton_self _
  obtain ⟨hash, hmem⟩ := List.exists_mem_of_ne_nil _ (List.isEmpty_eq_false_iff.1 some)
  obtain ⟨b', ⟨k, counts⟩, held⟩ := (adds.assets hash).1 hmem
  obtain ⟨b'', ⟨k', counts'⟩, lists⟩ := (adds.icons "ph:star").1 listed
  have set : Text.IsSetOf "ph" "ph:star" :=
    (Text.isSetOf_iff_of_isIconName (by decide)).2 ⟨"star", by decide⟩
  exact ⟨_, state, b, done, id, events, adds, ⟨k, b', counts, hash, held, hmem⟩, ⟨k', b'', counts', lists⟩,
    (adds.sets "ph").2 ⟨_, listed, set⟩⟩

end Handoff
