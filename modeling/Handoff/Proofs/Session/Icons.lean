import Handoff.Proofs.Session.Aggregates

/-!
# Whose icons are shown

A compiled bundle lists all icons of the document that it was compiled from. So a project shows icons of the
current document as far as bundles have just been compiled; but it also adds up the bundles that are kept of
components outside the targets and of components that fail, and these list the icons of an older document.
Hence an icon that was removed is shown only as long as such a bundle lists it.
-/

namespace Handoff

/-! ## Icons of a document -/

namespace Document

variable {d : Document} {icon : String} {id : NodeId}

/-- Whether the node found under an id has the name of an icon, and a component carries the id. -/
def HasIcon (d : Document) (icon : String) (id : NodeId) : Prop :=
  ∃ n, d.node? id = some n ∧ n.name = icon ∧ ∃ c ∈ d.nodes, c.id = id ∧ c.kind = .component

/-- Where every node is found under its own id, an icon is the name of a component. -/
theorem HasIcon.component (h : d.HasIcon icon id) (found : ∀ n ∈ d.nodes, d.node? n.id = some n) :
    ∃ n, d.node? id = some n ∧ n.name = icon ∧ n.kind = .component := by
  obtain ⟨n, hn, named, c, hc, rfl, kind⟩ := h
  obtain rfl : n = c := Option.some.inj (hn.symm.trans (found c hc))
  exact ⟨n, hn, named, kind⟩

/-- A document has the icons that it offers. -/
theorem hasIcon_of_mem_iconSources {e : String × NodeId} (h : e ∈ d.iconSources.entries) :
    d.HasIcon e.1 e.2 := by
  obtain ⟨id, hid, source⟩ := List.mem_filterMap.1 (OrderedMap.mem_entries_ofList h)
  obtain ⟨c, hc, rfl⟩ := List.mem_map.1 hid
  obtain ⟨listed, kind⟩ := List.mem_filter.1 hc
  obtain ⟨n, hn, named⟩ := Option.bind_eq_some_iff.1 source
  split at named
  · cases named
    exact ⟨n, hn, rfl, c, listed, rfl, eq_of_beq kind⟩
  · cases named

/-- A compiled bundle has the icons that the document offers. -/
theorem icons_of_compile {s : Settings} {b : Bundle} (h : (d.compile s id).2 = .ok b) :
    b.icons.map = d.iconSources ∧ b.icons.list = d.iconSources.keys := by
  obtain ⟨_, _, _, -, -, -, rfl⟩ := compile_eq_ok_iff.1 h
  exact ⟨rfl, rfl⟩

end Document

/-! ## Bundles of a pass -/

namespace Pass

variable {r : Pass} {done : List NodeId} {id : NodeId} {b : Bundle}

/-- The outcomes are those of the targets that are no icons. -/
theorem map_fst_outcomes (r : Pass) :
    r.outcomes.map Prod.fst = r.targets.filter (!r.session.document.isIcon ·) :=
  PassState.map_fst_outcomes r.session.settings r.skipCache (r.after []) r.targets

/-- A target is compiled, or fails to compile, or comes from the cache. -/
theorem outcome_cases {result : Except CompileError Outcome} (h : (id, result) ∈ r.outcomes) :
    (∃ b, (r.session.document.compile r.session.settings id).2 = .ok b ∧ result = .ok ⟨b, false⟩) ∨
      (∃ e, (r.session.document.compile r.session.settings id).2 = .error e ∧ result = .error e) ∨
      r.skipCache = false ∧ ∃ b, result = .ok ⟨b, true⟩ := by
  have cases : result = (r.session.document.compile r.session.settings id).2.map (⟨·, false⟩) ∨ _ :=
    PassState.result_of_mem_outcomes h
  rcases cases with own | cached
  · cases hc : (r.session.document.compile r.session.settings id).2 with
    | ok b => exact .inl ⟨b, rfl, by rw [own, hc]; rfl⟩
    | error e => exact .inr (.inl ⟨e, rfl, by rw [own, hc]; rfl⟩)
  · exact .inr (.inr cached)

/-- A bundle that counts is what its component compiles to, or its component is no target or does not
compile, or it comes from the cache. -/
theorem Counts.origin (h : r.Counts done id b) :
    (r.session.document.compile r.session.settings id).2 = .ok b ∨ id ∉ r.targets ∨
      (∃ e, (r.session.document.compile r.session.settings id).2 = .error e) ∨
      (id, .ok ⟨b, true⟩) ∈ r.outcomes := by
  cases h with
  | untouched _ other _ => exact .inr (.inl other)
  | served _ hx =>
    rcases outcome_cases hx with ⟨b, compiles, same⟩ | ⟨e, -, same⟩ | ⟨-, b, same⟩
    · cases same
      exact .inl compiles
    · cases same
    · cases same
      exact .inr (.inr (.inr hx))
  | failed _ hx _ =>
    rcases outcome_cases hx with ⟨b, -, same⟩ | ⟨e, fails, -⟩ | ⟨-, b, same⟩
    · cases same
    · exact .inr (.inr (.inl ⟨e, fails⟩))
    · cases same

/-- In a pass without the cache that reports nothing, every target that is no icon fails. -/
theorem fails_of_silent (fresh : r.skipCache = true) (silent : r.events = []) (target : id ∈ r.targets)
    (hicon : r.session.document.isIcon id = false) :
    ∃ e, (r.session.document.compile r.session.settings id).2 = .error e := by
  have tried : id ∈ r.outcomes.map Prod.fst := by
    rw [map_fst_outcomes]
    exact List.mem_filter.2 ⟨target, by rw [hicon]; rfl⟩
  obtain ⟨⟨id, result⟩, hx, rfl⟩ := List.mem_map.1 tried
  have unserved : servedBundle? result = none := by
    have none : r.outcomes.filterMap (servedBundle? ·.2) = [] := by
      rw [outcomes_eq, ← reported_after, ← events_eq, silent]
      rfl
    exact List.filterMap_eq_nil_iff.1 none _ hx
  rcases outcome_cases hx with ⟨b, -, rfl⟩ | ⟨e, fails, -⟩ | ⟨skip, -⟩
  · cases unserved
  · exact ⟨e, fails⟩
  · rw [fresh] at skip
    cases skip

end Pass

/-! ## The icons after an activity -/

/-- Whether an activity compiles its targets anew. Loading does so for all that it takes from the cache. -/
def Activity.Renews : Activity → Prop
  | .compile _ targets skipCache => targets.Nodup ∧ skipCache = true
  | .load | .follow _ => True

namespace Session

variable {s : Session} {a : Activity}

/-- The components that an activity is to compile. -/
def targetsOf (s : Session) : Activity → List NodeId
  | .compile _ targets _ => targets
  | .load => s.document.discover.elems
  | .follow changes => s.asked changes

/-- Whether an activity leaves a component with the bundle that it has: the component is no target, or it
does not compile. -/
def Leaves (s : Session) (a : Activity) (id : NodeId) : Prop :=
  id ∉ s.targetsOf a ∨ ∃ e, (s.document.compile s.settings id).2 = .error e

/-- What the passes of a session have in common. -/
structure HasPass (s : Session) (a : Activity) (r : Pass) : Prop where
  settings : r.session.settings = s.settings
  document : r.session.document.bare = s.document.bare
  targets : r.targets = s.targetsOf a

/-- The passes of an activity have the settings and the targets of the session, and its document but for
plugin data. -/
theorem hasPass_of_mem {r : Pass} (h : r ∈ s.passesOf a) : s.HasPass a r := by
  cases a with
  | compile =>
    obtain rfl := List.mem_singleton.1 h
    exact ⟨rfl, rfl, rfl⟩
  | load =>
    simp only [passesOf] at h
    split at h
    · cases h
    · split at h
      · obtain rfl := List.mem_singleton.1 h
        exact ⟨rfl, rfl, rfl⟩
      · rcases List.mem_cons.1 h with rfl | h
        · exact ⟨rfl, rfl, rfl⟩
        · obtain rfl := List.mem_singleton.1 h
          exact ⟨rfl, Pass.bare_after ⟨s, _, _, false⟩ _, rfl⟩
  | follow =>
    simp only [passesOf] at h
    split at h
    · cases h
    · obtain rfl := List.mem_singleton.1 h
      exact ⟨rfl, rfl, rfl⟩

/-- The pass of loading that may take bundles from the cache. -/
def firstPass (s : Session) : Pass := ⟨s, s.document.discover.elems, s.document.discover.elems, false⟩

/-- The pass of loading that compiles everything anew. -/
def secondPass (s : Session) : Pass :=
  ⟨(s.compile s.document.discover.elems s.document.discover.elems false).1, s.document.discover.elems,
    s.document.discover.elems, true⟩

/-- Loading makes no pass, or one that takes nothing from the cache, or both passes. -/
theorem passesOf_load (s : Session) :
    s.passesOf .load = [] ∨
      s.passesOf .load = [s.firstPass] ∧ (∀ id b, (id, .ok ⟨b, true⟩) ∉ s.firstPass.outcomes) ∨
      s.passesOf .load = [s.firstPass, s.secondPass] := by
  by_cases none : s.document.discover.elems.isEmpty = true
  · exact .inl (by simp only [passesOf, if_pos none])
  · by_cases uncached :
        (s.compile s.document.discover.elems s.document.discover.elems false).2.result.cached = 0
    · refine .inr (.inl ⟨by simp only [passesOf, if_neg none, if_pos uncached]; rfl, fun id b hx => ?_⟩)
      have count : s.firstPass.outcomes.countP (fromCache ·.2) = 0 := by
        rw [result_compile] at uncached
        exact (Nat.zero_add _).symm.trans uncached
      exact List.countP_eq_zero.1 count _ hx rfl
    · exact .inr (.inr (by simp only [passesOf, if_neg none, if_neg uncached]; rfl))

/-- If the second pass of loading reports nothing, no component compiles. -/
theorem fails_of_silent_secondPass (mem : s.secondPass ∈ s.passesOf .load)
    (silent : s.secondPass.events = []) {id : NodeId} (listed : id ∈ s.document.discover.elems) :
    ∃ e, (s.document.compile s.settings id).2 = .error e := by
  have hicon := Document.isIcon_of_mem_discover listed
  have pass := hasPass_of_mem mem
  rw [← Document.isIcon_of_bare_eq pass.document] at hicon
  obtain ⟨e, fails⟩ := Pass.fails_of_silent rfl silent listed hicon
  rw [Document.compile_of_bare_eq pass.document, pass.settings] at fails
  exact ⟨e, fails⟩

/-- The last report of an activity that compiles its targets anew is the last one of a pass in which a
bundle comes from the cache only if its component does not compile. -/
theorem exists_last_pass (renews : a.Renews) {before : List Event} {e : Event}
    (h : s.eventsOf a = before ++ [e]) :
    ∃ r ∈ s.passesOf a, (∃ before, r.events = before ++ [e]) ∧
      ∀ id b, (id, .ok ⟨b, true⟩) ∈ r.outcomes →
        ∃ e, (s.document.compile s.settings id).2 = .error e := by
  -- A pass without the cache takes nothing from there.
  have fresh {r : Pass} (skip : r.skipCache = true) {id : NodeId} {b : Bundle} :
      (id, .ok ⟨b, true⟩) ∉ r.outcomes := by
    intro hx
    rcases Pass.outcome_cases hx with ⟨_, -, same⟩ | ⟨_, -, same⟩ | ⟨cached, -⟩
    · cases same
    · cases same
    · rw [skip] at cached
      cases cached
  rw [eventsOf_eq] at h
  cases a with
  | compile components targets skipCache =>
    refine ⟨_, List.mem_singleton_self _, ⟨before, ?_⟩, fun id b hx => absurd hx (fresh renews.2)⟩
    rw [← h]
    exact (List.flatMap_singleton ..).symm
  | follow changes =>
    by_cases idle : (s.document.discover.elems.isEmpty || (s.asked changes).isEmpty) = true
    · simp [passesOf, idle] at h
    · have passes : s.passesOf (.follow changes) =
          [⟨s, s.document.discover.elems, s.asked changes, true⟩] := by simp only [passesOf, if_neg idle]
      rw [passes] at h ⊢
      rw [List.flatMap_singleton] at h
      exact ⟨_, List.mem_singleton_self _, ⟨before, h⟩, fun id b hx => absurd hx (fresh rfl)⟩
  | load =>
    rcases s.passesOf_load with none | ⟨one, uncached⟩ | both
    · rw [none] at h
      simp at h
    · rw [one] at h ⊢
      rw [List.flatMap_singleton] at h
      exact ⟨_, List.mem_singleton_self _, ⟨before, h⟩, fun id b hx => absurd hx (uncached id b)⟩
    · have second : s.secondPass ∈ s.passesOf .load := by rw [both]; simp
      rw [both] at h ⊢
      rw [List.flatMap_cons, List.flatMap_singleton] at h
      rcases List.eq_nil_or_concat s.secondPass.events with silent | ⟨later, last, reports⟩
      · -- The last report is one of the first pass, and none of its components compiles.
        rw [silent, List.append_nil] at h
        refine ⟨s.firstPass, by simp, ⟨before, h⟩, fun id b hx => ?_⟩
        have tried := List.mem_map_of_mem (f := Prod.fst) hx
        rw [Pass.map_fst_outcomes] at tried
        exact fails_of_silent_secondPass second silent (List.mem_filter.1 tried).1
      · rw [List.concat_eq_append] at reports
        rw [reports, ← List.append_assoc] at h
        obtain rfl : last = e := List.head_eq_of_cons_eq (List.append_inj' h rfl).2
        exact ⟨s.secondPass, by simp, ⟨later, reports⟩, fun id b hx => absurd hx (fresh rfl)⟩

/-- The icons of the last report. Let an activity follow changes, load all components, or compile different
targets without the cache, in any session over any tiers. In its last report, every icon is listed by the
document as it is now, under the name of a node found under the id of a component, which is that component
where every node is found under its own id; or else it is listed by a bundle that counts for a component
that the activity leaves as it is, because that component is no target or does not compile. The same holds
for every icon with the id that is shown for it. -/
theorem icons_of_last_report (s : Session) {a : Activity} (renews : a.Renews) {before : List Event}
    {n : Nat} {state : ProjectState} {b : Bundle} (h : s.eventsOf a = before ++ [.build n state b]) :
    ∃ r ∈ s.passesOf a, ∃ done,
      (∀ icon ∈ state.icons.list.elems, (∃ id, s.document.HasIcon icon id) ∨
        ∃ k old, r.Counts done k old ∧ s.Leaves a k ∧ icon ∈ old.icons.list) ∧
      (∀ e ∈ state.icons.map.entries, s.document.HasIcon e.1 e.2 ∨
        ∃ k old, r.Counts done k old ∧ s.Leaves a k ∧ e ∈ old.icons.map.entries) ∧
      ((∀ m ∈ s.document.nodes, s.document.node? m.id = some m) → ∀ icon id,
        s.document.HasIcon icon id →
          ∃ m, s.document.node? id = some m ∧ m.name = icon ∧ m.kind = .component) := by
  obtain ⟨r, mem, ⟨before, reports⟩, cached⟩ := exists_last_pass renews h
  have pass := hasPass_of_mem mem
  have distinct : r.targets.Nodup := by
    rw [pass.targets]
    cases a with
    | compile => exact renews.1
    | load => exact s.document.discover.nodup
    | follow changes => exact (s.document.updatedTargets changes).nodup
  obtain ⟨done, id, -, -, -, -, -, adds⟩ := Pass.addsUp_report distinct reports
  -- A bundle that counts lists what the document has, or it is an old one.
  have origin {k : NodeId} {b : Bundle} (counts : r.Counts (done ++ [id]) k b) :
      (b.icons.map = s.document.iconSources ∧ b.icons.list = s.document.iconSources.keys) ∨
        s.Leaves a k := by
    have origin := counts.origin
    rw [pass.settings, Document.compile_of_bare_eq pass.document, pass.targets] at origin
    rcases origin with compiles | other | fails | kept
    · exact .inl (Document.icons_of_compile compiles)
    · exact .inr (.inl other)
    · exact .inr (.inr fails)
    · exact .inr (.inr (cached k b kept))
  refine ⟨r, mem, done ++ [id], fun icon hicon => ?_, fun e he => ?_, fun found icon id has =>
    has.component found⟩
  · obtain ⟨b, ⟨k, counts⟩, held⟩ := (adds.icons icon).1 hicon
    rcases origin counts with ⟨-, list⟩ | old
    · rw [list] at held
      obtain ⟨id, found⟩ := OrderedMap.exists_of_mem_keys held
      exact .inl ⟨id, Document.hasIcon_of_mem_iconSources (OrderedMap.mem_of_get? found)⟩
    · exact .inr ⟨k, b, counts, old, held⟩
  · obtain ⟨b, ⟨k, counts⟩, held⟩ := adds.source e he
    rcases origin counts with ⟨map, -⟩ | old
    · rw [map] at held
      exact .inl (Document.hasIcon_of_mem_iconSources held)
    · exact .inr ⟨k, b, counts, old, held⟩

end Session

/-! ## A removed icon -/

/-- Two components and other nodes. -/
def starredPair (others : List Node) : Document :=
  .filed <|
    [{ id := "a", name := "One", kind := .component }, { id := "b", name := "Two", kind := .component }] ++
      others

/-- A session that has loaded two components and an icon, which was then removed. -/
def starlessSession : Session :=
  (Session.start {} (starredPair [{ id := "s", name := "ph:star", kind := .component }])).load.1.withDocument
    (starredPair [])

/-- A change of the first component. -/
def changeOfOne : Change := ⟨.propertyChange, "a", ["name"], false⟩

/-- A single report that shows certain icons. -/
private theorem exists_report (events : List Event) (list : List String) (map : List (String × NodeId))
    (h : events.map (fun e => e.state?.map fun p => (p.icons.list.elems, p.icons.map.entries)) =
      [some (list, map)]) :
    ∃ n state b, events = [.build n state b] ∧ state.icons.list.elems = list ∧
      state.icons.map.entries = map := by
  obtain ⟨e, rfl, shown⟩ := List.map_eq_singleton_iff.1 h
  cases e with
  | build n state b =>
    obtain ⟨list, map⟩ := Prod.mk.inj (Option.some.inj shown)
    exact ⟨n, state, b, rfl, list, map⟩
  | theme => cases shown
  | notice => cases shown

/-- The removed icon is shown, for a bundle lists it that was left as it was. -/
theorem icons_of_starlessSession :
    ∃ r ∈ starlessSession.passesOf (.follow [changeOfOne]), ∃ done k old,
      r.Counts done k old ∧ starlessSession.Leaves (.follow [changeOfOne]) k ∧
        "ph:star" ∈ old.icons.list := by
  obtain ⟨n, state, b, events, list, -⟩ := exists_report
    (starlessSession.eventsOf (.follow [changeOfOne])) ["ph:star"] [("ph:star", "s")] (by decide +kernel)
  obtain ⟨r, mem, done, listed, -, -⟩ := Session.icons_of_last_report starlessSession
    (a := .follow [changeOfOne]) trivial (events.trans (List.nil_append _).symm)
  rcases listed "ph:star" (by rw [list]; exact List.mem_singleton_self _) with ⟨id, n, hn, named, -⟩ | old
  · have removed : ∀ n ∈ starlessSession.document.nodes, n.name ≠ "ph:star" := by decide +kernel
    exact absurd named (removed n (Document.mem_nodes_of_node? hn))
  · obtain ⟨k, old, counts, leaves, listed⟩ := old
    exact ⟨r, mem, done, k, old, counts, leaves, listed⟩

/-- A component that was overwritten in place by one with the id of a frame, whose name is that of an
icon. -/
def overwrittenIcon : Document :=
  { name := ""
    placements :=
      [⟨{ id := "a", name := "One", kind := .component }, some "a", none⟩,
        ⟨{ id := "y", name := "Old", kind := .component }, some "x", none⟩,
        ⟨{ id := "y", name := "ph:star", kind := .frame }, some "y", none⟩] }

/-- A removed icon may be shown in the last report. So may the name of a frame, if a component was
overwritten. -/
theorem last_report_shows_removed_icon :
    (∃ n state b, (starlessSession.handleChanges [changeOfOne]).2.events = [.build n state b] ∧
      "ph:star" ∈ state.icons.list.elems ∧ ("ph:star", "s") ∈ state.icons.map.entries ∧
      ∀ n ∈ starlessSession.document.nodes, n.name ≠ "ph:star") ∧
    ∃ n state b, (Session.start {} overwrittenIcon).load.2.events = [.build n state b] ∧
      "ph:star" ∈ state.icons.list.elems ∧
      ∀ n ∈ overwrittenIcon.nodes, n.kind = .component → n.name ≠ "ph:star" := by
  constructor
  · obtain ⟨n, state, b, events, list, map⟩ := exists_report
      (starlessSession.handleChanges [changeOfOne]).2.events ["ph:star"] [("ph:star", "s")]
      (by decide +kernel)
    exact ⟨n, state, b, events, by rw [list]; decide, by rw [map]; decide, by decide +kernel⟩
  · obtain ⟨n, state, b, events, list, -⟩ := exists_report
      (Session.start {} overwrittenIcon).load.2.events ["ph:star"] [("ph:star", "y")] (by decide +kernel)
    exact ⟨n, state, b, events, by rw [list]; decide, by decide +kernel⟩

end Handoff
