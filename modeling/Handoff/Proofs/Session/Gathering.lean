import Handoff.Proofs.Ordered.Map
import Handoff.Proofs.Session.Reports

/-!
# What reports gather

The state of a project adds up links, icons and assets: first of the bundles that components outside the
targets have, then of every target that is served, and of every target that fails with a bundle from
before. Where the volatile tier reads back what it is given, these are the bundles that it has when the pass
ends. But a target that fails makes no report, so what fails after the last target that is served is in
none.
-/

namespace Handoff

/-! ## Adding up bundles -/

/-- What a project adds up. -/
structure Gathered where
  links : OrderedMap String
  icons : IconRegistry
  assets : OrderedMap Asset
  assetMap : OrderedMap (List String)

namespace ProjectState

/-- What a project has added up. -/
def gathered (p : ProjectState) : Gathered := ⟨p.links, p.icons, p.assets, p.assetMap⟩

/-- Whether a project has added up some bundles, in order, and nothing else. -/
def Gathers (p : ProjectState) (bundles : List Bundle) : Prop :=
  p.gathered = (bundles.foldl add {}).gathered

variable {p q : ProjectState} {bundles : List Bundle}

private theorem gathered_add (same : p.gathered = q.gathered) (b : Bundle) :
    (p.add b).gathered = (q.add b).gathered := by
  obtain ⟨links, icons, assets, assetMap⟩ := Gathered.mk.inj same
  simp only [gathered, add, links, icons, assets, assetMap]

private theorem gathered_foldl_add (same : p.gathered = q.gathered) (bundles : List Bundle) :
    (bundles.foldl add p).gathered = (bundles.foldl add q).gathered := by
  induction bundles generalizing p q with
  | nil => exact same
  | cons b rest ih => exact ih (gathered_add same b)

/-- Where nothing has been added up, adding bundles gathers them. -/
theorem gathers_foldl_add (none : p.Gathers []) (bundles : List Bundle) :
    (bundles.foldl add p).Gathers bundles :=
  gathered_foldl_add none bundles

namespace Gathers

variable (h : p.Gathers bundles)
include h

/-- Adding one more bundle. -/
theorem add (b : Bundle) : (p.add b).Gathers (bundles ++ [b]) := by
  rw [Gathers, List.foldl_append]
  exact gathered_add h b

/-- Entering a bundle in the roster adds nothing up. -/
theorem enter (b : Bundle) : (p.enter b).Gathers bundles := h

/-- What holds of nothing and is kept by adding a bundle holds of what a project has added up. -/
theorem induct {P : Gathered → List Bundle → Prop} (none : P (gathered {}) [])
    (adds : ∀ (q : ProjectState) (seen : List Bundle) (b : Bundle), P q.gathered seen →
      P (q.add b).gathered (seen ++ [b])) : P p.gathered bundles := by
  rw [show p.gathered = _ from h]
  clear h
  induction bundles using List.reverseRecOn with
  | nil => exact none
  | append_singleton seen b ih =>
    rw [List.foldl_append]
    exact adds _ seen b ih

/-- What a project shows of something is what its bundles hold, if every bundle adds what it holds. -/
theorem mem_iff_of_adds {α : Type} (view : Gathered → List α) (part : Bundle → List α)
    (none : view (gathered {}) = [])
    (adds : ∀ (q : ProjectState) (b : Bundle) (x : α),
      x ∈ view (q.add b).gathered ↔ x ∈ part b ∨ x ∈ view q.gathered) {x : α} :
    x ∈ view p.gathered ↔ ∃ b ∈ bundles, x ∈ part b := by
  refine h.induct (P := fun g seen => x ∈ view g ↔ ∃ b ∈ seen, x ∈ part b) (by simp [none]) ?_
  intro q seen b ih
  rw [adds, ih, or_comm]
  simp [or_and_right, exists_or]

/-- The assets are those of the bundles. -/
theorem mem_assets {hash : String} : hash ∈ p.assets.keys ↔ ∃ b ∈ bundles, hash ∈ b.assets.keys :=
  h.mem_iff_of_adds (·.assets.keys) (·.assets.keys) rfl fun _ _ _ => OrderedMap.mem_keys_insertAll

/-- The icons in use are those of the bundles. -/
theorem mem_used {icon : String} : icon ∈ p.icons.used.elems ↔ ∃ b ∈ bundles, icon ∈ b.icons.used :=
  h.mem_iff_of_adds (·.icons.used.elems) (·.icons.used) rfl fun _ _ _ => OrderedSet.mem_insertAll

end Gathers
end ProjectState

/-- A pass begins with the bundles of the components that are no targets. -/
theorem Store.gathers_startProject {settings : Settings} (s : Store) (entries : List RosterEntry)
    (untouched : List NodeId) :
    (s.startProject settings entries untouched).Gathers (untouched.filterMap s.volatile?) := by
  refine ProjectState.gathers_foldl_add (p := ⟨_, _, .empty, _, _, _, .empty, .empty, {}⟩) ?_ _
  rfl

/-! ## Steps -/

/-- The bundle of a target that counts: what was handed out or, if it failed, what was known of it. -/
def heard? (known : NodeId → Option Bundle) : NodeId × Except CompileError Outcome → Option Bundle
  | (_, .ok o) => some o.bundle
  | (id, .error _) => known id

namespace PassState.Goes

variable {settings : Settings} {skipCache : Bool} {p p' : PassState} {id : NodeId}
  {known : NodeId → Option Bundle} (goes : p.Goes settings skipCache id p')
include goes

/-- A step leaves what the volatile tier has for other components. -/
theorem volatile?_of_ne {k : NodeId} (hk : k ≠ id) : p'.store.volatile? k = p.store.volatile? k := by
  have recalls := Store.serve_recalls settings skipCache p.store id
  cases goes with
  | icon => rfl
  | served _ h | failed _ h =>
    rw [h] at recalls
    exact recalls.others k hk

/-- A step keeps the kind of the volatile tier. -/
theorem readsBack (back : p.store.volatile.ReadsBack) : p'.store.volatile.ReadsBack := by
  have recalls := Store.serve_recalls settings skipCache p.store id
  cases goes with
  | icon => exact back
  | served _ h | failed _ h =>
    rw [h] at recalls
    exact recalls.readsBack back

/-- A step adds up the bundle of its target that counts. -/
theorem gathers (same : p.store.volatile? id = known id) {bundles : List Bundle}
    (h : p.project.Gathers bundles) :
    p'.project.Gathers (bundles ++ (p.outcomes settings skipCache [id]).filterMap (heard? known)) := by
  have recalls := Store.serve_recalls settings skipCache p.store id
  cases goes with
  | icon hicon => simpa [PassState.outcomes, hicon] using h
  | @served store log o hicon hserve =>
    have own : p.outcomes settings skipCache [id] = [(id, .ok o)] := by
      simp [PassState.outcomes, hicon, hserve]
    rw [own]
    exact (h.add o.bundle).enter o.bundle
  | @failed store log e hicon hserve =>
    have own : p.outcomes settings skipCache [id] = [(id, .error e)] := by
      simp [PassState.outcomes, hicon, hserve]
    rw [hserve] at recalls
    have kept : store.volatile? id = known id := (recalls.nothing rfl).trans same
    have one : [(id, Except.error e)].filterMap (heard? known) = (store.volatile? id).toList := by
      rw [kept, List.filterMap_cons, heard?]
      cases known id <;> rfl
    rw [own, one, PassState.failed]
    cases store.volatile? id with
    | none => simpa using h
    | some previous => exact h.add previous

/-- What the volatile tier has for a target after its step is the bundle that counts. -/
theorem heard_of_volatile? (same : p.store.volatile? id = known id) (back : p.store.volatile.ReadsBack)
    (hicon : p.store.document.isIcon id = false) {b : Bundle} (found : p'.store.volatile? id = some b) :
    heard? known (id, (p.store.serve settings skipCache id).2.2) = some b := by
  have recalls := Store.serve_recalls settings skipCache p.store id
  cases goes with
  | icon h =>
    rw [h] at hicon
    cases hicon
  | served _ h =>
    rw [h] at recalls ⊢
    exact congrArg some (recalls.own back _ rfl b found).symm
  | failed _ h =>
    rw [h] at recalls ⊢
    exact (same.symm.trans (recalls.nothing rfl).symm).trans found

end PassState.Goes

/-! ## Passes -/

namespace Pass

variable {r : Pass}

/-- The components that are no targets. -/
def untouched (r : Pass) : List NodeId := r.components.filter (!r.targets.contains ·)

/-- What the volatile tier has for a component when a pass begins. -/
def known? (r : Pass) (id : NodeId) : Option Bundle := (r.after []).store.volatile? id

/-- How a pass serves its targets. -/
def outcomes (r : Pass) : List (NodeId × Except CompileError Outcome) :=
  r.session.outcomes r.components r.targets r.skipCache

/-- How a pass serves some targets, when it begins with these. -/
def outcomesOf (r : Pass) (done : List NodeId) : List (NodeId × Except CompileError Outcome) :=
  (r.after []).outcomes r.session.settings r.skipCache done

/-- The outcomes are those of all targets. -/
theorem outcomes_eq (r : Pass) : r.outcomes = r.outcomesOf r.targets := rfl

/-- More targets are served from where the first ones led. -/
theorem outcomesOf_append (r : Pass) (done rest : List NodeId) :
    r.outcomesOf (done ++ rest) =
      r.outcomesOf done ++ (r.after done).outcomes r.session.settings r.skipCache rest := by
  rw [outcomesOf, PassState.outcomes_append, ← r.after_append, List.nil_append]
  rfl

/-- What is reported after some targets is what they were served with. -/
theorem reported_after (r : Pass) (done : List NodeId) :
    reported (r.after done).events = (r.outcomesOf done).filterMap (servedBundle? ·.2) :=
  PassState.reported_foldl_step _ _ (r.after []) done

/-- The outcomes up to that of the last target that is served. -/
def early (r : Pass) : List (NodeId × Except CompileError Outcome) :=
  (r.outcomes.reverse.dropWhile fun x => (servedBundle? x.2).isNone).reverse

/-- The targets that fail after the last one that is served. -/
def lateFailures (r : Pass) : List NodeId :=
  (r.outcomes.reverse.takeWhile fun x => (servedBundle? x.2).isNone).map Prod.fst

/-- The bundles that count in the last report: those of the components that are no targets, and those of the
targets up to the last one that is served. -/
def heard (r : Pass) : List Bundle :=
  r.untouched.filterMap r.known? ++ r.early.filterMap (heard? r.known?)

/-- A pass leaves what the volatile tier has for other components than its targets. -/
theorem volatile?_after (r : Pass) (done rest : List NodeId) {k : NodeId} (hk : k ∉ rest) :
    (r.after (done ++ rest)).store.volatile? k = (r.after done).store.volatile? k := by
  induction rest using List.reverseRecOn with
  | nil => rw [List.append_nil]
  | append_singleton rest id ih =>
    rw [List.mem_append, not_or, List.mem_singleton] at hk
    have step := (r.after_goes (done ++ rest) id).volatile?_of_ne hk.2
    rw [← List.append_assoc, step, ih hk.1]

private theorem readsBack_after (back : r.session.store.volatile.ReadsBack) (done : List NodeId) :
    (r.after done).store.volatile.ReadsBack :=
  r.after_keeps (P := fun p => p.store.volatile.ReadsBack) (back.retain _)
    (fun _ _ _ back goes => goes.readsBack back) done

/-- After some of different targets, a project has added up the bundles that count of them, and those of the
components that are no targets. -/
theorem gathers_after (distinct : r.targets.Nodup) {done rest : List NodeId}
    (targets : r.targets = done ++ rest) :
    (r.after done).project.Gathers (r.untouched.filterMap r.known? ++
      (r.outcomesOf done).filterMap (heard? r.known?)) := by
  induction done using List.reverseRecOn generalizing rest with
  | nil =>
    have start : r.outcomesOf [] = [] := rfl
    rw [start, List.filterMap_nil, List.append_nil]
    exact Store.gathers_startProject _ _ _
  | append_singleton done id ih =>
    have later : r.targets = done ++ id :: rest := by rw [targets, List.append_assoc]; rfl
    have fresh : id ∉ done := by
      rw [later, List.nodup_append] at distinct
      exact fun earlier => distinct.2.2 id earlier id List.mem_cons_self rfl
    have same : (r.after done).store.volatile? id = r.known? id := r.volatile?_after [] done fresh
    have step := (r.after_goes done id).gathers same (ih later)
    rw [List.append_assoc, ← List.filterMap_append] at step
    rw [outcomesOf_append]
    exact step

variable {before : List Event} {n : Nat} {state : ProjectState} {b : Bundle}

private theorem exists_last (h : r.events = before ++ [.build n state b]) :
    ∃ done rest, r.targets = done ++ rest ∧ state = (r.after done).project ∧
      r.early = r.outcomesOf done := by
  obtain ⟨done, id, rest, o, targets, made⟩ := exists_madeAt h
  obtain ⟨-, shown, -⟩ := Event.build.inj made.event
  rw [List.append_cons] at targets
  refine ⟨done ++ [id], rest, targets, shown, ?_⟩
  let p := r.after (done ++ [id])
  -- All reports have been made, so no target that is left is served.
  have silent : ∀ x ∈ (p.outcomes r.session.settings r.skipCache rest).reverse,
      (servedBundle? x.2).isNone = true := by
    have all := r.reported_after ((done ++ [id]) ++ rest)
    rw [outcomesOf_append, List.filterMap_append, ← r.reported_after, ← targets, ← events_eq, h,
      made.upto] at all
    intro x hx
    rw [Option.isNone_iff_eq_none]
    exact List.filterMap_eq_nil_iff.1 (List.self_eq_append_right.1 all) x (List.mem_reverse.1 hx)
  have served : r.outcomesOf (done ++ [id]) = r.outcomesOf done ++ [(id, .ok o)] := by
    have own : (r.after done).outcomes r.session.settings r.skipCache [id] = [(id, .ok o)] := by
      simp [PassState.outcomes, made.target, made.served]
    rw [outcomesOf_append, own]
  have all : r.outcomes =
      r.outcomesOf (done ++ [id]) ++ p.outcomes r.session.settings r.skipCache rest := by
    rw [outcomes_eq, targets, outcomesOf_append]
  rw [early, all, List.reverse_append, List.dropWhile_append_of_pos silent, served, List.reverse_append]
  simp [servedBundle?]

/-- In a pass with different targets, the last report has added up the bundles that count. -/
theorem gathers_last (distinct : r.targets.Nodup) (h : r.events = before ++ [.build n state b]) :
    state.Gathers r.heard := by
  obtain ⟨done, rest, targets, rfl, early⟩ := exists_last h
  rw [heard, early]
  exact gathers_after distinct targets

private theorem mem_early_or {x : NodeId × Except CompileError Outcome} (h : x ∈ r.outcomes) :
    x ∈ r.early ∨ x.1 ∈ r.lateFailures := by
  have all := List.takeWhile_append_dropWhile (p := fun x => (servedBundle? x.2).isNone)
    (l := r.outcomes.reverse)
  rw [← List.mem_reverse, ← all, List.mem_append] at h
  rcases h with late | early
  · exact .inr (List.mem_map_of_mem late)
  · exact .inl (List.mem_reverse.2 early)

/-- Where the volatile tier reads back what it is given, what it has for a component when a pass with
different targets ends is a bundle that counts, unless the component fails late. -/
theorem mem_heard (back : r.session.store.volatile.ReadsBack) (distinct : r.targets.Nodup) {id : NodeId}
    (listed : id ∈ r.components) (hicon : r.session.document.isIcon id = false)
    (early : id ∉ r.lateFailures) (found : (r.after r.targets).store.volatile? id = some b) :
    b ∈ r.heard := by
  by_cases target : id ∈ r.targets
  · obtain ⟨done, rest, targets⟩ := List.append_of_mem target
    have fresh : id ∉ done ∧ id ∉ rest := by
      rw [targets, List.nodup_append, List.nodup_cons] at distinct
      exact ⟨fun earlier => distinct.2.2 id earlier id List.mem_cons_self rfl, distinct.2.1.1⟩
    have hicon : (r.after done).store.document.isIcon id = false := by
      rw [Document.isIcon_of_bare_eq (r.bare_after done)]
      exact hicon
    rw [targets, List.append_cons, r.volatile?_after _ _ fresh.2] at found
    have counts := (r.after_goes done id).heard_of_volatile? (r.volatile?_after [] done fresh.1)
      (readsBack_after back done) hicon found
    have own : (r.after done).outcomes r.session.settings r.skipCache [id] =
        [(id, ((r.after done).store.serve r.session.settings r.skipCache id).2.2)] := by
      simp [PassState.outcomes, hicon]
    have mem : (id, ((r.after done).store.serve r.session.settings r.skipCache id).2.2) ∈ r.outcomes := by
      rw [outcomes_eq, targets, List.append_cons, outcomesOf_append, outcomesOf_append, own]
      simp
    exact List.mem_append_right _ (List.mem_filterMap.2 ⟨_, (mem_early_or mem).resolve_right early, counts⟩)
  · have untouched : id ∈ r.untouched := List.mem_filter.2 ⟨listed, by simpa using target⟩
    have same : (r.after r.targets).store.volatile? id = r.known? id := r.volatile?_after [] r.targets target
    exact List.mem_append_left _ (List.mem_filterMap.2 ⟨id, untouched, same.symm.trans found⟩)

end Pass

/-- Whether a project shows all assets and all used icons of a bundle. -/
def ProjectState.Shows (p : ProjectState) (b : Bundle) : Prop :=
  b.assets.keys ⊆ p.assets.keys ∧ b.icons.used ⊆ p.icons.used.elems

/-- What the last report of a pass shows, for any session over any tiers, any components and any different
targets. Its assets and its icons in use are those of the bundles that count: of the components that are no
targets, of the targets that are served, and what was known of those that fail before the last one that is
served. So, where the volatile tier reads back what it is given, the report shows what this tier has for
every component when the pass ends, but for the targets that fail after the last one that is served. -/
theorem Session.last_report_shows (s : Session) (components : List NodeId) {targets : List NodeId}
    (distinct : targets.Nodup) (skipCache : Bool) {before : List Event} {n : Nat} {state : ProjectState}
    {b : Bundle}
    (h : (s.compile components targets skipCache).2.events = before ++ [.build n state b]) :
    let r : Pass := ⟨s, components, targets, skipCache⟩
    let final := (s.compile components targets skipCache).1.store
    (∀ hash, hash ∈ state.assets.keys ↔ ∃ b' ∈ r.heard, hash ∈ b'.assets.keys) ∧
      (∀ icon, icon ∈ state.icons.used.elems ↔ ∃ b' ∈ r.heard, icon ∈ b'.icons.used) ∧
      (s.store.volatile.ReadsBack → ∀ id ∈ components, s.document.isIcon id = false →
        id ∉ r.lateFailures → ∀ b', final.volatile? id = some b' → b' ∈ r.heard ∧ state.Shows b') := by
  intro r final
  have gathers : state.Gathers r.heard := r.gathers_last distinct h
  refine ⟨fun hash => gathers.mem_assets, fun icon => gathers.mem_used,
    fun back id listed hicon early b' found => ?_⟩
  have heard : b' ∈ r.heard := Pass.mem_heard (r := r) back distinct listed hicon early found
  exact ⟨heard, fun hash hmem => gathers.mem_assets.2 ⟨b', heard, hmem⟩,
    fun icon hmem => gathers.mem_used.2 ⟨b', heard, hmem⟩⟩

/-- Two components, the second one with an asset and other children. -/
def markedPair (others : List Node) : Document :=
  .filed <|
    [{ id := "a", name := "One", kind := .component },
      { id := "b", name := "Two", kind := .component, children := "v" :: others.map (·.id) },
      { id := "v", name := "Mark", kind := .vector, exported := some ⟨.svg, "<svg/>"⟩ }] ++ others

/-- A session that has loaded the two components, the second of which then got an instance of nothing. -/
def brokenSession : Session :=
  (Session.start {} (markedPair [])).load.1.withDocument
    (markedPair [{ id := "i", name := "Broken", kind := .componentInstance, mainComponent := some "gone" }])

/-- Compiling both anew, the last report is of the first one and shows what this has. -/
theorem last_report_shows_brokenSession :
    ∃ before n state b,
      (brokenSession.compile ["a", "b"] ["a", "b"] true).2.events = before ++ [.build n state b] ∧
        ∀ b', (brokenSession.compile ["a", "b"] ["a", "b"] true).1.store.volatile? "a" = some b' →
          state.Shows b' := by
  have reports : (brokenSession.compile ["a", "b"] ["a", "b"] true).2.events.length = 1 := by
    decide +kernel
  obtain ⟨e, events⟩ := List.length_eq_one_iff.1 reports
  obtain ⟨state, b, rfl⟩ := Session.mem_events_compile (by rw [events]; exact List.mem_singleton_self e)
  have late : (⟨brokenSession, ["a", "b"], ["a", "b"], true⟩ : Pass).lateFailures = ["b"] := by
    decide +kernel
  obtain ⟨-, -, shows⟩ := Session.last_report_shows brokenSession ["a", "b"] (by decide) true
    (events.trans (List.nil_append _).symm)
  refine ⟨[], _, state, b, events, fun b' found => ?_⟩
  exact (shows trivial "a" (by simp) (by decide +kernel) (by rw [late]; decide) b' found).2

/-- The second one fails and keeps the bundle that it has, whose asset the last report lacks. -/
theorem last_report_lacks_late_failure :
    "b" ∈ brokenSession.document.discover.elems ∧
      ∃ e state b', (brokenSession.compile ["a", "b"] ["a", "b"] true).2.events.getLast? = some e ∧
        e.state? = some state ∧
        (brokenSession.compile ["a", "b"] ["a", "b"] true).1.store.volatile? "b" = some b' ∧
        ∃ hash ∈ b'.assets.keys, hash ∉ state.assets.keys := by
  refine ⟨by decide +kernel, ?_⟩
  have shown : ((brokenSession.compile ["a", "b"] ["a", "b"] true).2.events.getLast?.bind fun e =>
      e.state?.map (·.assets.keys)) = some [] := by decide +kernel
  have kept : ((brokenSession.compile ["a", "b"] ["a", "b"] true).1.store.volatile? "b").map
      (·.assets.keys.isEmpty) = some false := by decide +kernel
  obtain ⟨e, last, shown⟩ := Option.bind_eq_some_iff.1 shown
  obtain ⟨state, hstate, none⟩ := Option.map_eq_some_iff.1 shown
  obtain ⟨b', found, some⟩ := Option.map_eq_some_iff.1 kept
  obtain ⟨hash, hmem⟩ := List.exists_mem_of_ne_nil _ (List.isEmpty_eq_false_iff.1 some)
  exact ⟨e, state, b', last, hstate, found, hash, hmem, by rw [none]; exact List.not_mem_nil⟩

end Handoff
