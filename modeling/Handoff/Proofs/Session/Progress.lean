import Handoff.Proofs.Session.Roster

/-!
# What the counters count

The number of components is counted once, when a pass begins, and the number of components with a bundle
anew at every report. A bundle that was kept under an older name enters the roster under that name, so the
roster may grow during a pass and leave the first number behind.
-/

namespace Handoff

/-! ## Counting without repetitions -/

private theorem length_eq_iff_subset {α : Type} {l₁ l₂ : List α} (distinct₁ : l₁.Nodup) (distinct₂ : l₂.Nodup)
    (part : l₁ ⊆ l₂) : l₁.length = l₂.length ↔ l₂ ⊆ l₁ := by
  constructor
  · intro same
    exact ((distinct₁.subperm part).perm_of_length_le same.ge).symm.subset
  · intro back
    exact Nat.le_antisymm (distinct₁.subperm part).length_le (distinct₂.subperm back).length_le

/-- There are no more components with a bundle than components. -/
theorem ProjectState.countLoaded_le (p : ProjectState) : p.countLoaded ≤ p.roster.size := by
  have all : p.roster.values.length = p.roster.size := List.length_map ..
  exact (List.length_filter_le _ _).trans all.le

namespace Pass

variable {r : Pass}

private theorem loaded_after (r : Pass) (done : List NodeId) :
    (r.after done).project.loaded = (r.after done).project.countLoaded := by
  refine r.after_keeps (P := fun p => p.project.loaded = p.project.countLoaded) rfl ?_ done
  intro p id p' same goes
  cases goes with
  | icon => exact same
  | served => rfl
  | @failed store log e =>
    rw [PassState.failed]
    cases store.volatile? id <;> exact same

private theorem mem_keys_start {name : String} :
    name ∈ (r.after []).project.roster.keys ↔ name ∈ r.listed.map Prod.fst := by
  have none : signatures (reported (r.after []).events) = [] := rfl
  rw [ProjectState.mem_keys_roster, listed?_after, none, List.append_nil, isSome_lookup_reverse]

variable {before later : List Event} {n : Nat} {state : ProjectState} {b : Bundle}
  (h : r.events = before ++ .build n state b :: later)
include h

/-- What the counters of a report count: the components with a bundle, and the names that were listed when
the pass began. The latter is the size of the roster just if no bundle has brought another name. -/
theorem counters_report :
    state.loaded = state.countLoaded ∧ state.total ≤ state.roster.size ∧
      (state.total = state.roster.size ↔
        ∀ b' ∈ reported before ++ [b], b'.name ∈ r.listed.map Prod.fst) := by
  obtain ⟨done, id, rest, o, -, made⟩ := exists_madeAt h
  obtain ⟨-, shown, -⟩ := Event.build.inj made.event
  have total : state.total = (r.after []).project.roster.keys.length := by
    rw [shown, total_after, SortedMap.length_keys]
  have part : (r.after []).project.roster.keys ⊆ state.roster.keys := fun name hname =>
    (mem_keys_roster_report h).2 (.inl (mem_keys_start.1 hname))
  rw [total, ← SortedMap.length_keys]
  refine ⟨by rw [shown, loaded_after], ((SortedMap.nodup_keys _).subperm part).length_le, ?_⟩
  rw [length_eq_iff_subset (SortedMap.nodup_keys _) (SortedMap.nodup_keys _) part]
  constructor
  · intro back b' hb'
    exact mem_keys_start.1 (back ((mem_keys_roster_report h).2 (.inr ⟨b', hb', rfl⟩)))
  · intro within name hname
    rcases (mem_keys_roster_report h).1 hname with listed | ⟨b', hb', rfl⟩
    · exact mem_keys_start.2 listed
    · exact mem_keys_start.2 (within b' hb')

end Pass

/-- What the counters in the reports of a session count, whatever the session went through and whatever its
tiers are. All events come from passes. In every report, the components with a bundle are counted as the
roster has them, and are no more than the roster has. All components together are at most as many as the
roster has, and as many just if every bundle reported so far in the pass has the name of a component that
could be described when the pass began; this is so in a pass without the cache whose targets are
components. -/
theorem Session.counters_of_reports (s : Session) (a : Activity) :
    s.eventsOf a = (s.passesOf a).flatMap Pass.events ∧
      ∀ r ∈ s.passesOf a, ∀ before n state b later, r.events = before ++ .build n state b :: later →
        state.loaded = state.countLoaded ∧ state.loaded ≤ state.roster.size ∧
          state.total ≤ state.roster.size ∧
          (state.total = state.roster.size ↔
            ∀ b' ∈ Pass.reported before ++ [b], b'.name ∈ r.listed.map Prod.fst) ∧
          (r.skipCache = true → (∀ id ∈ r.targets, id ∈ r.components) →
            state.total = state.roster.size) := by
  refine ⟨s.eventsOf_eq a, fun r _ before n state b later report => ?_⟩
  obtain ⟨loaded, most, size⟩ := Pass.counters_report report
  refine ⟨loaded, loaded ▸ state.countLoaded_le, most, size, fun fresh among => size.2 fun b' hb' => ?_⟩
  have listed := Pass.signatures_listed report fresh among (b'.name, b'.id) (List.mem_map_of_mem hb')
  exact List.mem_map_of_mem (f := Prod.fst) listed

/-- A component under a name. -/
def namedComponent (name : String) : Document := .filed [{ id := "a", name, kind := .component }]

/-- A session that has loaded a component under its first name, and goes on with a second one. -/
def renamedSession : Session :=
  (Session.start {} (namedComponent "Alpha")).load.1.withDocument (namedComponent "Beta")

/-- Without the cache the renamed component is reported under its new name, and the counters agree. -/
theorem counters_of_recompiled_renamedSession :
    ∃ state ∈ (renamedSession.eventsOf (.compile ["a"] ["a"] true)).filterMap Event.state?,
      state.total = state.roster.size ∧ state.loaded = state.countLoaded := by
  have reports : (renamedSession.eventsOf (.compile ["a"] ["a"] true)).length = 1 := by decide +kernel
  obtain ⟨e, later, events⟩ := List.exists_cons_of_length_eq_add_one reports
  have reported : e ∈ renamedSession.eventsOf (.compile ["a"] ["a"] true) := by
    rw [events]
    exact List.mem_cons_self
  obtain ⟨state, b, rfl⟩ : ∃ state b, e = .build (renamedSession.pass + 1) state b :=
    Session.mem_events_compile reported
  obtain ⟨-, counters⟩ := Session.counters_of_reports renamedSession (.compile ["a"] ["a"] true)
  obtain ⟨loaded, -, -, -, total⟩ := counters ⟨renamedSession, ["a"], ["a"], true⟩
    (List.mem_singleton_self _) [] _ state b later events
  exact ⟨state, by rw [events]; exact List.mem_cons_self, total rfl (fun _ h => h), loaded⟩

/-- With the cache it is reported under its old name: the roster has two entries, both with a bundle, and
one component is counted. -/
theorem counters_miss_old_name :
    ∃ state ∈ (renamedSession.eventsOf (.compile ["a"] ["a"] false)).filterMap Event.state?,
      state.total ≠ state.roster.size ∧ state.total < state.loaded := by
  have shown : ((renamedSession.eventsOf (.compile ["a"] ["a"] false)).filterMap Event.state?).head?.map
      (fun p => (p.total, p.roster.size, p.loaded)) = some (1, 2, 2) := by decide +kernel
  obtain ⟨state, first, same⟩ := Option.map_eq_some_iff.1 shown
  obtain ⟨total, size, loaded⟩ : _ ∧ _ ∧ _ := by simpa only [Prod.mk.injEq] using same
  exact ⟨state, List.mem_of_head? first, by omega, by omega⟩

end Handoff
