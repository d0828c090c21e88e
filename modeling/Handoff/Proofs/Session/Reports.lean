import Handoff.Proofs.Cache.Tiers
import Handoff.Proofs.Session.Scope

/-!
# What passes report

A pass goes over its targets one after the other. An icon is left out, a target that is served is reported
with the state of the project right after it, and a target that fails is not reported. So each report of a
pass shows the project after one of its targets, and all that is known of steps is known of reports. All
this holds whatever the tiers are.
-/

namespace Handoff

/-- The state of the project that an event shows. -/
def Event.state? : Event → Option ProjectState
  | build _ state _ => some state
  | _ => none

namespace PassState

variable {settings : Settings} {skipCache : Bool} {p p' : PassState} {id : NodeId}

/-- A step changes plugin data only. -/
theorem Goes.bare_eq (goes : p.Goes settings skipCache id p') :
    p'.store.document.bare = p.store.document.bare := by
  cases goes with
  | icon => rfl
  | served _ h | failed _ h =>
    have kept := Store.bare_serve settings skipCache p.store id
    rw [h] at kept
    exact kept

/-- Steps change plugin data only. -/
theorem bare_foldl_step (settings : Settings) (skipCache : Bool) (p : PassState) (targets : List NodeId) :
    (targets.foldl (step settings skipCache) p).store.document.bare = p.store.document.bare := by
  induction targets generalizing p with
  | nil => rfl
  | cons id rest ih => rw [List.foldl_cons, ih, (step_goes settings skipCache p id).bare_eq]

/-- The outcomes of a pass are those of its targets that are no icons, in order. -/
theorem map_fst_outcomes (settings : Settings) (skipCache : Bool) (p : PassState) (targets : List NodeId) :
    (p.outcomes settings skipCache targets).map Prod.fst =
      targets.filter (!p.store.document.isIcon ·) := by
  induction targets generalizing p with
  | nil => rfl
  | cons id rest ih =>
    have same := (step_goes settings skipCache p id).bare_eq
    rw [outcomes]
    split
    · next hicon =>
      rw [ih, Document.not_isIcon_of_bare_eq same, List.filter_cons_of_neg (by simp [hicon])]
    · next hicon =>
      rw [List.map_cons, ih, Document.not_isIcon_of_bare_eq same, List.filter_cons_of_pos (by simp [hicon])]

/-- Outcomes are those of targets. -/
theorem mem_of_mem_outcomes {targets : List NodeId} {x : NodeId × Except CompileError Outcome}
    (h : x ∈ p.outcomes settings skipCache targets) : x.1 ∈ targets := by
  have mem := List.mem_map_of_mem (f := Prod.fst) h
  rw [map_fst_outcomes] at mem
  exact List.mem_of_mem_filter mem

/-- A target has what it compiles to as outcome, unless it comes from the cache. -/
theorem result_of_mem_outcomes {targets : List NodeId} {x : NodeId × Except CompileError Outcome}
    (h : x ∈ p.outcomes settings skipCache targets) :
    x.2 = (p.store.document.compile settings x.1).2.map (⟨·, false⟩) ∨
      skipCache = false ∧ ∃ b, x.2 = .ok ⟨b, true⟩ := by
  obtain ⟨before, later, -, -, result⟩ := exists_place_of_mem_outcomes h
  rw [← result, ← Document.compile_of_bare_eq (bare_foldl_step settings skipCache p before)]
  exact Store.result_of_serve settings skipCache _ x.1

end PassState

/-- A pass of a session. -/
structure Pass where
  session : Session
  components : List NodeId
  targets : List NodeId
  skipCache : Bool

namespace Pass

variable {r : Pass} {before later : List Event} {e : Event}

/-- The state after some targets. -/
def after (r : Pass) (done : List NodeId) : PassState :=
  done.foldl (PassState.step r.session.settings r.skipCache)
    (r.session.startPass r.components r.targets)

/-- The reports of a pass. -/
def events (r : Pass) : List Event :=
  (r.session.compile r.components r.targets r.skipCache).2.events

/-- What a pass counts. -/
def summary (r : Pass) : PassSummary :=
  (r.session.compile r.components r.targets r.skipCache).2.result

/-- The bundles that events report. -/
def reported (events : List Event) : List Bundle := events.filterMap Event.bundle?

/-- The reports are those after all targets. -/
theorem events_eq (r : Pass) : r.events = (r.after r.targets).events := rfl

/-- The state before all targets. -/
theorem after_nil (r : Pass) : r.after [] = r.session.startPass r.components r.targets := rfl

/-- The state after more targets. -/
theorem after_append (r : Pass) (done rest : List NodeId) :
    r.after (done ++ rest) =
      rest.foldl (PassState.step r.session.settings r.skipCache) (r.after done) :=
  List.foldl_append

/-- The state after one more target. -/
theorem after_concat (r : Pass) (done : List NodeId) (id : NodeId) :
    r.after (done ++ [id]) =
      PassState.step r.session.settings r.skipCache (r.after done) id :=
  r.after_append done [id]

/-- One more target goes one of the three ways. -/
theorem after_goes (r : Pass) (done : List NodeId) (id : NodeId) :
    (r.after done).Goes r.session.settings r.skipCache id (r.after (done ++ [id])) := by
  rw [after_concat]
  exact PassState.step_goes _ _ _ id

/-- What holds before all targets and is kept by every step holds after any targets. -/
theorem after_keeps {P : PassState → Prop} (start : P (r.after []))
    (step : ∀ p id p', P p → p.Goes r.session.settings r.skipCache id p' → P p')
    (done : List NodeId) : P (r.after done) := by
  induction done using List.reverseRecOn with
  | nil => exact start
  | append_singleton done id ih => exact step _ _ _ ih (r.after_goes done id)

/-- Plugin data aside, a pass leaves the document as it is. -/
theorem bare_after (r : Pass) (done : List NodeId) :
    (r.after done).store.document.bare = r.session.document.bare :=
  PassState.bare_foldl_step r.session.settings r.skipCache (r.after []) done

private theorem pass_after (r : Pass) (done : List NodeId) :
    (r.after done).summary.pass = r.session.pass + 1 := by
  induction done using List.reverseRecOn with
  | nil => rfl
  | append_singleton done id ih =>
    rw [after_concat, PassState.pass_step, ih]

/-- A report is made right after a target was served, and shows the project of that moment. -/
structure MadeAt (r : Pass) (before : List Event) (e : Event) (done : List NodeId) (id : NodeId)
    (o : Outcome) : Prop where
  target : (r.after done).store.document.isIcon id = false
  served : ((r.after done).store.serve r.session.settings r.skipCache id).2.2 = .ok o
  /-- The reports with this one. -/
  upto : (r.after (done ++ [id])).events = before ++ [e]
  event : e = .build (r.session.pass + 1) (r.after (done ++ [id])).project o.bundle

private theorem exists_madeAt_upto (targets : List NodeId)
    (h : (r.after targets).events = before ++ e :: later) :
    ∃ done id rest o, targets = done ++ id :: rest ∧ r.MadeAt before e done id o := by
  induction targets using List.reverseRecOn generalizing later with
  | nil => simp [after_nil, Session.startPass] at h
  | append_singleton done id ih =>
    have goes := r.after_goes done id
    generalize hnext : r.after (done ++ [id]) = next at goes h
    -- If the last target makes no report, the report was made before it.
    have earlier (silent : next.events = (r.after done).events) :
        ∃ done' id' rest o, done ++ [id] = done' ++ id' :: rest ∧ r.MadeAt before e done' id' o := by
      obtain ⟨done', id', rest, o, rfl, made⟩ := ih (silent.symm.trans h)
      exact ⟨done', id', rest ++ [id], o, by simp, made⟩
    cases goes with
    | icon => exact earlier rfl
    | failed => exact earlier rfl
    | @served store log o hicon hserve =>
      replace h : (r.after done).events ++ [_] = before ++ e :: later := h
      rcases List.eq_nil_or_concat later with rfl | ⟨later, last, rfl⟩
      · have he := (List.append_inj' h rfl).2
        refine ⟨done, id, [], o, rfl, hicon, by rw [hserve], ?_, ?_⟩
        · rw [hnext]
          exact h
        · rw [hnext, ← List.head_eq_of_cons_eq he, pass_after]
          rfl
      · rw [List.concat_eq_append, ← List.cons_append, ← List.append_assoc] at h
        obtain ⟨done', id', rest, o, rfl, made⟩ := ih (List.append_inj' h rfl).1
        exact ⟨done', id', rest ++ [id], o, by simp, made⟩

/-- Every report of a pass is made right after one of its targets was served. -/
theorem exists_madeAt (h : r.events = before ++ e :: later) :
    ∃ done id rest o, r.targets = done ++ id :: rest ∧ r.MadeAt before e done id o :=
  exists_madeAt_upto r.targets h

namespace MadeAt

variable {done : List NodeId} {id : NodeId} {o : Outcome} (h : r.MadeAt before e done id o)
include h

/-- The report is of the bundle that was served. -/
theorem bundle : e.bundle? = some o.bundle := by
  rw [h.event]
  rfl

/-- Without the cache, the bundle is what the target compiles to. -/
theorem compile_of_skip (fresh : r.skipCache = true) :
    (r.session.document.compile r.session.settings id).2 = .ok o.bundle := by
  have served := h.served
  rw [fresh] at served
  rw [← Document.compile_of_bare_eq (r.bare_after done)]
  exact Store.compile_of_serve served

end MadeAt

/-- Every bundle that a pass without the cache reports is what one of its targets compiles to. -/
theorem compile_of_reported {b : Bundle} (fresh : r.skipCache = true) (h : b ∈ reported r.events) :
    ∃ id ∈ r.targets, (r.session.document.compile r.session.settings id).2 = .ok b := by
  obtain ⟨e, he, hb⟩ := List.mem_filterMap.1 h
  obtain ⟨before, later, split⟩ := List.append_of_mem he
  obtain ⟨done, id, rest, o, targets, made⟩ := exists_madeAt split
  refine ⟨id, by rw [targets]; simp, ?_⟩
  rw [made.compile_of_skip fresh, ← Option.some.inj (made.bundle.symm.trans hb)]

end Pass

/-! ## The passes of a session -/

/-- A pass changes plugin data only. -/
theorem Session.bare_compile (s : Session) (components targets : List NodeId) (skipCache : Bool) :
    (s.compile components targets skipCache).1.document.bare = s.document.bare :=
  Pass.bare_after ⟨s, components, targets, skipCache⟩ targets

/-- What a session may be asked to compile. -/
inductive Activity where
  | compile (components targets : List NodeId) (skipCache : Bool)
  | load
  | follow (changes : List Change)

namespace Session

/-- The events of an activity. -/
def eventsOf (s : Session) : Activity → List Event
  | .compile components targets skipCache => (s.compile components targets skipCache).2.events
  | .load => s.load.2.events
  | .follow changes => (s.handleChanges changes).2.events

/-- The passes of an activity: loading takes a second one if something came from the cache. -/
def passesOf (s : Session) : Activity → List Pass
  | .compile components targets skipCache => [⟨s, components, targets, skipCache⟩]
  | .load =>
    let components := s.document.discover.elems
    let first := s.compile components components false
    if components.isEmpty then []
    else if first.2.result.cached = 0 then [⟨s, components, components, false⟩]
    else [⟨s, components, components, false⟩, ⟨first.1, components, components, true⟩]
  | .follow changes =>
    let components := s.document.discover.elems
    if components.isEmpty || (s.asked changes).isEmpty then []
    else [⟨s, components, s.asked changes, true⟩]

/-- The events of an activity are the reports of its passes. -/
theorem eventsOf_eq (s : Session) (a : Activity) :
    s.eventsOf a = (s.passesOf a).flatMap Pass.events := by
  cases a with
  | compile => simp [eventsOf, passesOf, Pass.events]
  | load =>
    simp only [eventsOf, passesOf, load]
    split
    · rfl
    · split
      · simp [Pass.events]
      · simp [Pass.events]
  | follow changes =>
    simp only [eventsOf, passesOf]
    split
    · next idle =>
      rw [handleChanges_of_nothing (by simpa [List.isEmpty_iff] using idle)]
      rfl
    · next work =>
      rw [(handleChanges_of_asked (by simpa [List.isEmpty_iff] using work)).2]
      simp [Pass.events]

end Session
end Handoff
