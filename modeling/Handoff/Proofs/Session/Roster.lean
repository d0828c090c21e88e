import Handoff.Proofs.Module.Index
import Handoff.Proofs.Ordered.Sorted
import Handoff.Proofs.Session.Accounting
import Handoff.Proofs.Session.Reports

/-!
# What the roster lists

The roster begins with the components that can be described, each under its name, and every bundle that is
reported enters under the name that it carries. So a name stands for the component that was listed or
reported last under it, and of two components of one name the roster lists one. The index lists every
component as often as it is described, and nothing that a bundle brings.
-/

namespace Handoff

/-- The names and ids that bundles carry. -/
def signatures (bundles : List Bundle) : List (String × NodeId) := bundles.map fun b => (b.name, b.id)

/-! ## Projects -/

namespace ProjectState

/-- Adding bundles leaves the roster alone. -/
theorem roster_foldl_add (bundles : List Bundle) (p : ProjectState) :
    (bundles.foldl add p).roster = p.roster := by
  induction bundles generalizing p with
  | nil => rfl
  | cons b rest ih => exact (ih (p.add b)).trans rfl

/-- Adding bundles leaves the number of components alone. -/
theorem total_foldl_add (bundles : List Bundle) (p : ProjectState) :
    (bundles.foldl add p).total = p.total := by
  induction bundles generalizing p with
  | nil => rfl
  | cons b rest ih => exact (ih (p.add b)).trans rfl

/-- The component that the roster has under a name. -/
def listed? (p : ProjectState) (name : String) : Option NodeId := (p.roster.get? name).map (·.id)

/-- A bundle enters under its name. -/
theorem listed?_enter (p : ProjectState) (b : Bundle) (name : String) :
    (p.enter b).listed? name = if name = b.name then some b.id else p.listed? name := by
  have roster : ∃ entry : RosterEntry, entry.id = b.id ∧ (p.enter b).roster = p.roster.insert b.name entry :=
    ⟨_, rfl, rfl⟩
  obtain ⟨entry, same, roster⟩ := roster
  rw [listed?, roster, SortedMap.get?_insert]
  split
  · rw [Option.map_some, same]
  · rfl

/-- Whether every one of some components is in the roster. -/
def ListsAll (p : ProjectState) (components : List NodeId) : Prop :=
  ∀ id ∈ components, ∃ entry ∈ p.roster.values, entry.id = id

/-- Whether the index exports every name in the roster once. -/
def ExportsOnce (p : ProjectState) (settings : Settings) : Prop :=
  ∀ name ∈ p.roster.keys, exportsOf settings p.index name = 1

/-- A component is in the roster if the roster has it under some name. -/
theorem exists_entry_iff {p : ProjectState} {id : NodeId} :
    (∃ entry ∈ p.roster.values, entry.id = id) ↔ ∃ name, p.listed? name = some id := by
  constructor
  · rintro ⟨entry, h, rfl⟩
    obtain ⟨⟨name, _⟩, he, rfl⟩ := List.mem_map.1 h
    exact ⟨name, by rw [listed?, SortedMap.mem_entries_iff.1 he]; rfl⟩
  · rintro ⟨name, h⟩
    obtain ⟨entry, he, rfl⟩ := Option.map_eq_some_iff.1 h
    exact ⟨entry, List.mem_map.2 ⟨_, SortedMap.mem_entries_iff.2 he, rfl⟩, rfl⟩

/-- The names in the roster. -/
theorem mem_keys_roster {p : ProjectState} {name : String} :
    name ∈ p.roster.keys ↔ (p.listed? name).isSome = true := by
  rw [SortedMap.mem_keys_iff, listed?, Option.isSome_map]

end ProjectState

/-! ## Lookups from the end -/

private theorem lookup_reverse_concat (l : List (String × NodeId)) (e : String × NodeId) (name : String) :
    (l ++ [e]).reverse.lookup name = if name = e.1 then some e.2 else l.reverse.lookup name := by
  rw [List.reverse_append, List.reverse_singleton, List.singleton_append, List.lookup_cons]
  by_cases h : name = e.1
  · rw [if_pos h, beq_iff_eq.2 h]
  · rw [if_neg h, beq_eq_false_iff_ne.2 h]

/-- A name is found if it is listed. -/
theorem isSome_lookup_reverse {l : List (String × NodeId)} {name : String} :
    (l.reverse.lookup name).isSome = true ↔ name ∈ l.map Prod.fst := by
  rw [List.lookup_isSome_iff, List.mem_map]
  simp only [List.mem_reverse, beq_iff_eq]
  exact exists_congr fun e => and_congr_right fun _ => eq_comm

private theorem mem_of_lookup_reverse {l : List (String × NodeId)} {name : String} {id : NodeId}
    (h : l.reverse.lookup name = some id) : (name, id) ∈ l := by
  obtain ⟨before, after, split, -⟩ := List.lookup_eq_some_iff.1 h
  exact List.mem_reverse.1 (by rw [split]; simp)

private theorem found_iff_nodup {listed all : List (String × NodeId)} (part : ∀ e ∈ listed, e ∈ all)
    (within : ∀ e ∈ all, e ∈ listed) (distinct : (listed.map Prod.snd).Nodup) :
    (∀ e ∈ listed, ∃ name, all.reverse.lookup name = some e.2) ↔ (listed.map Prod.fst).Nodup := by
  have same {e e' : String × NodeId} (he : e ∈ listed) (he' : e' ∈ listed) (h : e.2 = e'.2) : e = e' :=
    List.inj_on_of_nodup_map distinct he he' h
  constructor
  · intro found
    -- Every id is found under its own name, so one name has one id.
    have own : ∀ e ∈ listed, all.reverse.lookup e.1 = some e.2 := by
      intro e he
      obtain ⟨name, h⟩ := found e he
      have mem := within _ (mem_of_lookup_reverse h)
      rw [← same mem he rfl]
      exact h
    refine List.Nodup.map_on (fun e he e' he' h => same he he' ?_) (List.Nodup.of_map Prod.snd distinct)
    have first := own e he
    rw [h, own e' he'] at first
    exact (Option.some.inj first).symm
  · intro names e he
    refine ⟨e.1, ?_⟩
    have present := isSome_lookup_reverse.2 (List.mem_map_of_mem (f := Prod.fst) (part e he))
    obtain ⟨id, hid⟩ := Option.isSome_iff_exists.1 present
    have mem := within _ (mem_of_lookup_reverse hid)
    have only : (e.1, id) = e := List.inj_on_of_nodup_map names mem he rfl
    rw [hid, ← only]

/-! ## Passes -/

namespace Pass

variable {r : Pass} {before later : List Event} {e : Event}

/-- The names and ids of the components that can be described when a pass begins. -/
def listed (r : Pass) : List (String × NodeId) := r.session.document.listed r.components

private theorem listed?_start (r : Pass) (name : String) :
    (r.after []).project.listed? name = r.listed.reverse.lookup name := by
  let store := r.session.store.prune r.components
  have entries : (store.roster r.components).2.map (fun e => (e.name, e.id)) = r.listed :=
    Store.listed_roster store r.components
  have roster : (r.after []).project.roster =
      SortedMap.ofList ((store.roster r.components).2.map fun e => (e.name, e)) :=
    ProjectState.roster_foldl_add _ _
  rw [ProjectState.listed?, roster, SortedMap.get?_ofList, ← entries, ← List.map_reverse, ← List.map_reverse]
  induction (store.roster r.components).2.reverse with
  | nil => rfl
  | cons first rest ih =>
    rw [List.map_cons, List.map_cons, List.lookup_cons, List.lookup_cons, ← ih]
    cases name == first.name <;> rfl

/-- The roster that a pass begins with has every name that is listed once. -/
theorem size_start (r : Pass) :
    (r.after []).project.roster.size = (r.listed.map Prod.fst).dedup.length := by
  have same : (r.after []).project.roster.keys.Perm (r.listed.map Prod.fst).dedup := by
    rw [List.perm_ext_iff_of_nodup (SortedMap.nodup_keys _) (List.nodup_dedup _)]
    intro name
    rw [ProjectState.mem_keys_roster, listed?_start, isSome_lookup_reverse, List.mem_dedup]
  rw [← same.length_eq, SortedMap.length_keys]

/-- The number of components stays what it was when the pass began. -/
theorem total_after (r : Pass) (done : List NodeId) :
    (r.after done).project.total = (r.after []).project.roster.size := by
  refine r.after_keeps (P := fun p => p.project.total = (r.after []).project.roster.size) ?_ ?_ done
  · -- The roster is counted before what is known of other components is added.
    show (List.foldl ProjectState.add _ _).total = (List.foldl ProjectState.add _ _).roster.size
    rw [ProjectState.total_foldl_add, ProjectState.roster_foldl_add]
  · intro p id p' same goes
    cases goes with
    | icon => exact same
    | served => exact same
    | @failed store log e =>
      rw [PassState.failed]
      cases store.volatile? id <;> exact same

/-- In a pass, a name stands for the component that was listed or reported last under it. -/
theorem listed?_after (r : Pass) (done : List NodeId) (name : String) :
    (r.after done).project.listed? name =
      (r.listed ++ signatures (reported (r.after done).events)).reverse.lookup name := by
  refine r.after_keeps (P := fun p => ∀ name, p.project.listed? name =
    (r.listed ++ signatures (reported p.events)).reverse.lookup name) ?_ ?_ done name
  · intro name
    rw [listed?_start]
    simp [after_nil, Session.startPass, reported, signatures]
  · intro p id p' h goes name
    cases goes with
    | icon => exact h name
    | @failed store log e =>
      rw [PassState.failed]
      cases store.volatile? id with
      | none => exact h name
      | some previous => exact h name
    | @served store log o =>
      have events : signatures (reported (p.served store o log).events) =
          signatures (reported p.events) ++ [(o.bundle.name, o.bundle.id)] := by
        simp [PassState.served, reported, signatures, Event.bundle?]
      show ((p.project.add o.bundle).enter o.bundle).listed? name = _
      rw [ProjectState.listed?_enter, events, ← List.append_assoc, lookup_reverse_concat, ← h name]
      rfl

/-- The names and ids that a report goes by: those of the components that can be described, and those of
the bundles reported so far. -/
def known (r : Pass) (before : List Event) (e : Event) : List (String × NodeId) :=
  r.listed ++ signatures (reported (before ++ [e]))

variable {n : Nat} {state : ProjectState} {b : Bundle}
  (h : r.events = before ++ .build n state b :: later)
include h

/-- In a report, a name stands for the component that was listed or reported last under it. -/
theorem listed?_report (name : String) :
    state.listed? name = (r.known before (.build n state b)).reverse.lookup name := by
  obtain ⟨done, id, rest, o, -, made⟩ := exists_madeAt h
  obtain ⟨-, rfl, -⟩ := Event.build.inj made.event
  rw [listed?_after, made.upto, known]

/-- The names in the roster of a report are those of the components that can be described and of the
bundles reported so far. -/
theorem mem_keys_roster_report {name : String} : name ∈ state.roster.keys ↔
    name ∈ r.listed.map Prod.fst ∨ ∃ b' ∈ reported before ++ [b], b'.name = name := by
  rw [ProjectState.mem_keys_roster, listed?_report h, isSome_lookup_reverse, known, List.map_append,
    List.mem_append]
  refine or_congr_right ?_
  rw [reported, List.filterMap_append, ← reported, signatures, List.map_map]
  exact List.mem_map

/-- The number of components in a report is that of the names that were listed when the pass began. -/
theorem total_report : state.total = (r.listed.map Prod.fst).dedup.length := by
  obtain ⟨done, id, rest, o, -, made⟩ := exists_madeAt h
  obtain ⟨-, shown, -⟩ := Event.build.inj made.event
  rw [shown, total_after, size_start]

/-- The index of a report. -/
theorem index_report : state.index = indexText r.session.settings (r.listed.map Prod.fst) := by
  have start : (r.after []).Indexed (indexText r.session.settings (r.listed.map Prod.fst)) := by
    refine ⟨?_, by rintro _ ⟨⟩⟩
    have names := Store.names_roster (r.session.store.prune r.components) r.components
    exact (Store.index_startProject _ _ _).trans (by rw [names]; rfl)
  have indexed : (r.after r.targets).Indexed (indexText r.session.settings (r.listed.map Prod.fst)) :=
    start.foldl_step r.targets
  exact indexed.2 (.build n state b) (by
    show _ ∈ r.events
    rw [h]
    simp) _ rfl

omit h in
private theorem isPlain_listed (r : Pass) : ∀ name ∈ r.listed.map Prod.fst, Text.IsPlain name := by
  intro name hname
  obtain ⟨e, he, rfl⟩ := List.mem_map.1 hname
  obtain ⟨id, -, listing⟩ := List.mem_filterMap.1 he
  obtain ⟨found, described, rfl⟩ := Option.map_eq_some_iff.1 listing
  have described : r.session.document.describe id none = .ok found := by
    cases hd : r.session.document.describe id none with
    | error =>
      rw [hd] at described
      cases described
    | ok =>
      rw [hd] at described
      cases described
      rfl
  exact Document.isPlain_of_describe described

/-- The index of a report exports a name as often as it is listed. -/
theorem exportsOf_report (name : String) :
    exportsOf r.session.settings state.index name = (r.listed.map Prod.fst).count name := by
  rw [index_report h, exportsOf_indexText (isPlain_listed r)]

/-- The index of a report exports every name in the roster once just if the names that are listed are
distinct and no bundle has brought another one. -/
theorem exportsOnce_iff : state.ExportsOnce r.session.settings ↔
    (r.listed.map Prod.fst).Nodup ∧
      ∀ b' ∈ reported before ++ [b], b'.name ∈ r.listed.map Prod.fst := by
  simp only [ProjectState.ExportsOnce, exportsOf_report h, mem_keys_roster_report h]
  constructor
  · intro once
    refine ⟨List.nodup_iff_count_le_one.2 fun name => ?_, fun b' hb' => ?_⟩
    · by_cases mem : name ∈ r.listed.map Prod.fst
      · exact (once name (.inl mem)).le
      · rw [List.count_eq_zero_of_not_mem mem]
        exact Nat.zero_le 1
    · exact List.count_pos_iff.1 (by rw [once _ (.inr ⟨b', hb', rfl⟩)]; exact Nat.one_pos)
  · rintro ⟨distinct, within⟩ name (mem | ⟨b', hb', rfl⟩)
    · exact List.count_eq_one_of_mem distinct mem
    · exact List.count_eq_one_of_mem distinct (within b' hb')

/-- Where all bundles reported so far carry names and ids that are listed, the roster of a report lists all
components just if their names are distinct. -/
theorem listsAll_iff (within : ∀ e ∈ signatures (reported before ++ [b]), e ∈ r.listed)
    (distinct : (r.listed.map Prod.snd).Nodup) :
    state.ListsAll (r.listed.map Prod.snd) ↔ (r.listed.map Prod.fst).Nodup := by
  have part : ∀ e ∈ r.listed, e ∈ r.known before (.build n state b) := fun e he =>
    List.mem_append_left _ he
  rw [← found_iff_nodup part ?_ distinct]
  · simp only [ProjectState.ListsAll, ProjectState.exists_entry_iff, List.forall_mem_map,
      listed?_report h]
  · intro e he
    rcases List.mem_append.1 he with he | he
    · exact he
    · rw [reported, List.filterMap_append] at he
      exact within e he

/-- A pass without the cache reports, of targets that are components, names and ids that are listed. -/
theorem signatures_listed (fresh : r.skipCache = true) (targets : ∀ id ∈ r.targets, id ∈ r.components) :
    ∀ e ∈ signatures (reported before ++ [b]), e ∈ r.listed := by
  intro e he
  obtain ⟨b', hb', rfl⟩ := List.mem_map.1 he
  have mem : b' ∈ reported r.events := by
    rw [h, reported, List.filterMap_append, ← reported, List.filterMap_cons]
    show b' ∈ reported before ++ b :: reported later
    rw [← List.singleton_append, ← List.append_assoc]
    exact List.mem_append_left _ hb'
  obtain ⟨id, hid, built⟩ := compile_of_reported fresh mem
  exact List.mem_filterMap.2 ⟨id, targets id hid, Document.listing_of_compile built⟩

end Pass

/-- The summary of a pass counts the names of the components that can be described, and the outcomes. -/
theorem Session.summary_compile (s : Session) (components targets : List NodeId) (skipCache : Bool) :
    let outcomes := s.outcomes components targets skipCache
    (s.compile components targets skipCache).2.result =
      { pass := s.pass + 1
        total := ((s.document.listed components).map Prod.fst).dedup.length
        compiled := outcomes.countP (compiledAnew ·.2)
        cached := outcomes.countP (fromCache ·.2)
        failed := outcomes.countP (hasFailed ·.2) } := by
  let r : Pass := ⟨s, components, targets, skipCache⟩
  have total : (s.startPass components targets).summary.total = (r.listed.map Prod.fst).dedup.length :=
    (r.total_after []).trans r.size_start
  rw [result_compile, PassSummary.count, total]
  simp only [startPass, Nat.zero_add]
  rfl

/-! ## Complete rosters -/

namespace Document

variable {d : Document}

/-- Where every node is found under its own id, the ids of the listed components are distinct. -/
theorem nodup_listed (keyed : d.Keyed) : ((d.listed d.discover.elems).map Prod.snd).Nodup := by
  have part (components : List NodeId) (discovered : ∀ id ∈ components, id ∈ d.discover.elems) :
      ((d.listed components).map Prod.snd).Sublist components := by
    induction components with
    | nil => exact List.Sublist.refl []
    | cons id rest ih =>
      have others := ih fun k hk => discovered k (List.mem_cons_of_mem _ hk)
      rw [listed, List.filterMap_cons]
      cases described : d.describe id none with
      | error e => exact others.cons id
      | ok found =>
        rw [← id_of_describe_of_keyed keyed (discovered id List.mem_cons_self) described]
        exact others.cons_cons found.id
  exact d.discover.nodup.sublist (part _ fun _ h => h)

end Document

/-- What the roster and the index of a report hold in a pass over all components, whatever the tiers are
and whichever targets are compiled. Under each name the roster has the component that was listed or
reported last; the index exports a name as often as it is listed. So the index exports every name in the
roster once just if the listed names are distinct and no bundle has brought another one. Where every node
is found under its own id and all reported bundles go by names and ids that are listed, the roster lists
all components that can be described just if their names are distinct; this is so in a pass without the
cache whose targets are components. -/
theorem Session.roster_and_index (s : Session) (targets : List NodeId) (skipCache : Bool)
    {before later : List Event} {n : Nat} {state : ProjectState} {b : Bundle}
    (h : (s.compile s.document.discover.elems targets skipCache).2.events =
      before ++ .build n state b :: later) :
    let listed := s.document.listed s.document.discover.elems
    let reported := Pass.reported before ++ [b]
    (∀ name, state.listed? name = (listed ++ signatures reported).reverse.lookup name) ∧
      (∀ name, exportsOf s.settings state.index name = (listed.map Prod.fst).count name) ∧
      (state.ExportsOnce s.settings ↔
        (listed.map Prod.fst).Nodup ∧ ∀ b' ∈ reported, b'.name ∈ listed.map Prod.fst) ∧
      (s.document.Keyed → (∀ e ∈ signatures reported, e ∈ listed) →
        (state.ListsAll (listed.map Prod.snd) ↔ (listed.map Prod.fst).Nodup)) ∧
      (skipCache = true → (∀ id ∈ targets, id ∈ s.document.discover.elems) →
        ∀ e ∈ signatures reported, e ∈ listed) ∧
      (s.document.Keyed → ∀ id ∈ s.document.discover.elems, ∀ found,
        s.document.describe id none = .ok found → id ∈ listed.map Prod.snd) := by
  let r : Pass := ⟨s, s.document.discover.elems, targets, skipCache⟩
  have report : r.events = before ++ .build n state b :: later := h
  refine ⟨fun name => ?_, Pass.exportsOf_report (r := r) report, Pass.exportsOnce_iff (r := r) report,
    fun keyed within => Pass.listsAll_iff (r := r) report within (Document.nodup_listed keyed),
    Pass.signatures_listed (r := r) report, fun keyed id discovered found described => ?_⟩
  · have known := Pass.listed?_report (r := r) report name
    rw [Pass.known, Pass.reported, List.filterMap_append] at known
    exact known
  · refine List.mem_map.2 ⟨(found.name, found.id), List.mem_filterMap.2 ⟨id, discovered, ?_⟩,
      Document.id_of_describe_of_keyed keyed discovered described⟩
    rw [described]
    rfl

/-- Two components whose names differ, while their identifiers do not. -/
def twinButtons : Document :=
  .filed [{ id := "a", name := "Button", kind := .component }, { id := "b", name := "button", kind := .component }]

/-- The first report of a pass over the two buttons: the roster does not list both, and the index exports
their name twice. -/
theorem roster_and_index_twinButtons :
    ∃ before later n state b,
      ((Session.start {} twinButtons).compile twinButtons.discover.elems ["a", "b"] true).2.events =
          before ++ .build n state b :: later ∧
        ¬ state.ListsAll ["a", "b"] ∧ exportsOf {} state.index "Button" = 2 := by
  have listed : twinButtons.listed twinButtons.discover.elems = [("Button", "a"), ("Button", "b")] := by
    decide +kernel
  have reports : ((Session.start {} twinButtons).compile twinButtons.discover.elems ["a", "b"]
      true).2.events.length = 2 := by decide +kernel
  obtain ⟨e, later, events⟩ := List.exists_cons_of_length_eq_add_one reports
  obtain ⟨state, b, rfl⟩ := Session.mem_events_compile (by rw [events]; exact List.mem_cons_self)
  obtain ⟨-, exported, -, complete, within, -⟩ := Session.roster_and_index (Session.start {} twinButtons)
    ["a", "b"] true (events.trans (List.nil_append _).symm)
  have keyed : twinButtons.Keyed := Document.keyed_filed _
  rw [show (Session.start {} twinButtons).document = twinButtons from rfl, listed] at exported complete within
  refine ⟨[], later, _, state, b, events, ?_, exported "Button"⟩
  have all := complete keyed (within rfl (by decide +kernel))
  exact fun lists => absurd (all.1 lists) (by decide)

/-- In a report of that pass a component that can be described is missing from the roster, and a name in
the roster is exported twice. -/
theorem roster_lacks_twin :
    "b" ∈ twinButtons.discover.elems ∧ (twinButtons.describe "b" none).toOption.isSome = true ∧
      ∃ state ∈ ((Session.start {} twinButtons).compile twinButtons.discover.elems
          twinButtons.discover.elems true).2.events.filterMap Event.state?,
        (∀ entry ∈ state.roster.values, entry.id ≠ "b") ∧
          "Button" ∈ state.roster.keys ∧ exportsOf {} state.index "Button" = 2 := by
  refine ⟨by decide +kernel, by decide +kernel, ?_⟩
  have shown : (((Session.start {} twinButtons).compile twinButtons.discover.elems
      twinButtons.discover.elems true).2.events.filterMap Event.state?).head?.map
        (fun p => (p.roster.values.map (·.id), p.roster.keys, exportsOf {} p.index "Button")) =
      some (["a"], ["Button"], 2) := by decide +kernel
  obtain ⟨state, first, same⟩ := Option.map_eq_some_iff.1 shown
  obtain ⟨ids, names, exported⟩ : _ ∧ _ ∧ _ := by simpa only [Prod.mk.injEq] using same
  refine ⟨state, List.mem_of_head? first, fun entry he twin => ?_, by rw [names]; decide, exported⟩
  have listed : entry.id ∈ state.roster.values.map (·.id) := List.mem_map_of_mem he
  rw [ids, twin] at listed
  exact absurd listed (by decide)

end Handoff
