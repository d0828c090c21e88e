import Handoff.Proofs.Scene.Snapshot
import Handoff.Proofs.Scene.Soundness
import Handoff.Proofs.Session.Agreement
import Handoff.Proofs.Session.Provenance
import Handoff.Proofs.Session.Reports

/-!
# Sessions over saved documents

A pass leaves on the node of every component that it serves the bundle that it hands out, and a saved
document is read with all that its nodes keep. So a session that starts over the saved document serves
from the cache what the pass served, compiles nothing, and writes nothing.
-/

namespace Handoff

variable {settings : Settings} {namespaceName key : String} {skipCache : Bool} {id : NodeId}
  {m m' : OrderedMap Bundle} {d d' : Document} {result again : Except CompileError Outcome}

/-! ## What outcomes leave on the nodes -/

/-- Whether a document shows how a component was served: the node keeps the bundle, or the component
fails to compile. -/
def Document.Remembers (d : Document) (settings : Settings) (namespaceName key : String) (id : NodeId) :
    Except CompileError Outcome → Prop
  | .ok o => d.kept namespaceName key id = .ok (some o.bundle)
  | .error e => (d.compile settings id).2 = .error e

/-- Documents that differ in plugin data only and keep the same for a component remember the same. -/
theorem Document.Remembers.congr (h : d.Remembers settings namespaceName key id result)
    (same : d'.bare = d.bare)
    (kept : d'.kept namespaceName key id = d.kept namespaceName key id) :
    d'.Remembers settings namespaceName key id result := by
  cases result with
  | ok o => exact kept.trans h
  | error e => exact (congrArg Prod.snd (compile_of_bare_eq same settings id)).trans h

namespace Served

/-- A component that has just been served is remembered. -/
theorem remembers (served : Served settings namespaceName key skipCache id m d m' d' result)
    (sizes : d.SizesReadBack) (agreed : Agreed namespaceName key m d) :
    d'.Remembers settings namespaceName key id result := by
  cases hr : result with
  | ok o => exact (served.outcome_inBothTiers sizes agreed hr).node
  | error e =>
    subst hr
    cases served with
    | failed failure => exact failure

/-- A component that is not compiled anew leaves the document as it is. -/
theorem document_eq (served : Served settings namespaceName key skipCache id m d m' d' result)
    (old : compiledAnew result = false) : d' = d := by
  cases served with
  | remembered => rfl
  | promoted => rfl
  | compiled => cases old
  | failed => rfl

end Served

namespace PassState

variable {p : PassState} {targets : List NodeId}

/-- After a pass over distinct targets, the document remembers how each of them was served. -/
theorem remembers_outcomes (h : p.store.Over namespaceName key m d) (sizes : d.SizesReadBack)
    (agreed : Agreed namespaceName key m d) (distinct : targets.Nodup) :
    ∀ e ∈ p.outcomes settings skipCache targets,
      (targets.foldl (step settings skipCache) p).store.document.Remembers settings namespaceName key
        e.1 e.2 := by
  intro e he
  obtain ⟨_, _, _, m₁, _, _, d₁, _, _, run, -, -, served, final, bare, -, node⟩ := exists_served h distinct he
  rw [final.document]
  exact (served.remembers (Document.sizesReadBack_of_bare_eq run.bare_eq.symm sizes)
    (run.agreed sizes agreed)).congr bare node

end PassState

/-! ## Serving again -/

/-- Whether a component is served again as it was served, without compiling it: what was handed out comes
from the cache, and what failed is not compiled. -/
structure Repeats (first second : NodeId × Except CompileError Outcome) : Prop where
  id : second.1 = first.1
  cached : ∀ o, first.2 = .ok o → second.2 = .ok ⟨o.bundle, true⟩
  uncompiled : compiledAnew second.2 = false

/-- Where all components are served again as they were, none is compiled. -/
theorem countP_compiledAnew_of_repeats {first second : List (NodeId × Except CompileError Outcome)}
    (h : List.Forall₂ Repeats first second) : second.countP (compiledAnew ·.2) = 0 := by
  induction h with
  | nil => rfl
  | cons again _ ih => rw [List.countP_cons, ih, again.uncompiled]; rfl

namespace Store

variable {s : Store}

/-- What a node keeps is served from the cache. -/
theorem serve_of_kept (h : s.Over namespaceName key m d) (agreed : Agreed namespaceName key m d)
    {b : Bundle} (kept : d.kept namespaceName key id = .ok (some b)) :
    (s.serve settings false id).2.2 = .ok ⟨b, true⟩ := by
  rw [result_serve h, kept]
  cases table : m.get? id with
  | none => rfl
  | some b' =>
    have same : b' = b := by simpa [agreed id b' table] using kept
    rw [same]

/-- What fails to compile is not compiled, although its node may have kept a bundle. -/
theorem serve_of_failure (h : s.Over namespaceName key m d) {e : CompileError}
    (failure : (d.compile settings id).2 = .error e) :
    compiledAnew (s.serve settings false id).2.2 = false := by
  rw [result_serve h, failure]
  split <;> rfl

/-- A component that the document remembers is served again as it was. -/
theorem repeats_serve (h : s.Over namespaceName key m d) (agreed : Agreed namespaceName key m d)
    (known : d.Remembers settings namespaceName key id result) :
    Repeats (id, result) (id, (s.serve settings false id).2.2) := by
  cases result with
  | ok o =>
    have served : (s.serve settings false id).2.2 = .ok ⟨o.bundle, true⟩ :=
      serve_of_kept h agreed known
    exact ⟨rfl, fun _ same => by cases same; exact served, by rw [served]; rfl⟩
  | error e => exact ⟨rfl, nofun, serve_of_failure h known⟩

end Store

/-- A pass over targets that the document remembers serves them again as they were, and leaves the
document as it is. -/
theorem PassState.outcomes_repeat {p : PassState} (h : p.store.Over namespaceName key m d)
    (sizes : d.SizesReadBack) (agreed : Agreed namespaceName key m d)
    {targets : List NodeId} {results : List (NodeId × Except CompileError Outcome)}
    (listed : results.map Prod.fst = targets.filter (!d.isIcon ·))
    (known : ∀ e ∈ results, d.Remembers settings namespaceName key e.1 e.2) :
    List.Forall₂ Repeats results (p.outcomes settings false targets) ∧
      (targets.foldl (step settings false) p).store.document = d := by
  induction targets generalizing p m results with
  | nil =>
    cases List.map_eq_nil_iff.1 listed
    exact ⟨.nil, h.document⟩
  | cons id rest ih =>
    rw [List.foldl_cons, outcomes, h.document]
    by_cases hicon : d.isIcon id = true
    · rw [List.filter_cons_of_neg (by simp [hicon])] at listed
      rw [if_pos hicon, step_of_isIcon h hicon]
      exact ih h agreed listed known
    · rw [List.filter_cons_of_pos (by simp [hicon])] at listed
      obtain ⟨⟨_, result⟩, others, rfl, rfl, remaining⟩ := List.map_eq_cons_iff.1 listed
      obtain ⟨m₁, d₁, served, first⟩ := step_served settings false h hicon
      have repeated := Store.repeats_serve h agreed (known _ List.mem_cons_self)
      -- Serving without compiling writes nothing, so the rest starts over the same document.
      obtain rfl := served.document_eq repeated.uncompiled
      obtain ⟨same, unchanged⟩ :=
        ih first (served.agreed sizes agreed) remaining fun e he => known e (List.mem_cons_of_mem _ he)
      rw [if_neg hicon]
      exact ⟨.cons repeated same, unchanged⟩

/-! ## Saved documents -/

namespace Document

/-- The sizes of asset nodes are among the numbers of the snapshot. -/
theorem sizesReadBack_of_numbersReadBack (numbers : d.NumbersReadBack) : d.SizesReadBack := by
  intro n hn _
  have within (field : String) {x : Binary64} (h : (field, Json.number x) ∈ n.members) :
      x.ReadsBack := by
    have mem : x ∈ n.toJson.numbers := by
      rw [Node.toJson, Json.numbers_object, List.mem_flatMap]
      exact ⟨_, h, List.mem_singleton_self x⟩
    apply numbers
    simp only [toJson, Json.numbers_object, List.flatMap_cons, Json.numbers_array, List.flatMap_map,
      List.mem_append, List.mem_flatMap]
    exact .inr (.inl ⟨n, hn, mem⟩)
  exact ⟨within "width" (by unfold Node.members; simp), within "height" (by unfold Node.members; simp)⟩

/-- What differs from a linked document in plugin data only is read from what it is saved as. -/
theorem parse_print_of_bare_eq (linked : d.ofNodes? d.nodes = .ok d) (numbers : d.NumbersReadBack)
    (same : d'.bare = d.bare) : parse d'.print = .ok d' := by
  have sound : d'.Sound := (sound_iff_linked.2 linked).of_outline (outline_of_bare_eq same)
  exact parse_print (sound_iff_linked.1 sound) (numbers.of_bare_eq same)

end Document

namespace Session

/-- Run a pass over all components of the document. -/
def fullPass (s : Session) (skipCache : Bool) : Session × Report PassSummary :=
  s.compile s.document.discover.elems s.document.discover.elems skipCache

/-- How a pass over all components serves them. -/
def fullOutcomes (s : Session) (skipCache : Bool) : List (NodeId × Except CompileError Outcome) :=
  s.outcomes s.document.discover.elems s.document.discover.elems skipCache

variable {s : Session}

/-- A pass over all components serves each of them once. -/
theorem map_fst_fullOutcomes (h : s.store.Over namespaceName key m d) (skipCache : Bool) :
    (s.fullOutcomes skipCache).map Prod.fst = d.discover.elems := by
  have document : s.document = d := h.document
  have start : (s.startPass d.discover.elems d.discover.elems).store.document = d := h.document
  rw [fullOutcomes, document, outcomes, PassState.map_fst_outcomes, start, Document.filter_discover]

/-- After a pass over all components, the document remembers how each of them was served. Besides, only
plugin data has changed. -/
theorem fullPass_remembers (h : s.store.Over namespaceName key m d) (sizes : d.SizesReadBack)
    (agreed : Agreed namespaceName key m d) (skipCache : Bool) :
    (s.fullPass skipCache).1.document.bare = d.bare ∧
      ∀ e ∈ s.fullOutcomes skipCache,
        (s.fullPass skipCache).1.document.Remembers s.settings namespaceName key e.1 e.2 := by
  have document : s.document = d := h.document
  rw [fullPass, fullOutcomes, document]
  obtain ⟨_, m', d', run, final, -, -⟩ := compile_run h d.discover.elems d.discover.elems skipCache
  refine ⟨?_, ?_⟩
  · rw [Session.document, final.document, run.bare_eq]
  · exact PassState.remembers_outcomes (startPass_over h _ _) sizes (agreed.filterKeys _)
      d.discover.nodup

/-- A pass with the cache over components that the document remembers serves them again as they were,
compiles nothing, and leaves the document as it is. -/
theorem fullPass_repeats (h : s.store.Over namespaceName key m d) (sizes : d.SizesReadBack)
    (agreed : Agreed namespaceName key m d) {results : List (NodeId × Except CompileError Outcome)}
    (listed : results.map Prod.fst = d.discover.elems)
    (known : ∀ e ∈ results, d.Remembers s.settings namespaceName key e.1 e.2) :
    List.Forall₂ Repeats results (s.fullOutcomes false) ∧
      (s.fullPass false).2.result.compiled = 0 ∧ (s.fullPass false).1.document = d := by
  have document : s.document = d := h.document
  rw [fullPass, fullOutcomes, document]
  obtain ⟨repeated, unchanged⟩ := PassState.outcomes_repeat (startPass_over h d.discover.elems _) sizes
    (agreed.filterKeys _) (listed.trans d.filter_discover.symm) known
  refine ⟨repeated, ?_, unchanged⟩
  rw [result_compile]
  exact (Nat.zero_add _).trans (countP_compiledAnew_of_repeats repeated)

/-- The durable cache survives saving and loading. A session over a document that was read runs a pass
over all its components, with or without the cache, and the document is saved. It is then read again, and
a session with the same settings over what was read, running a pass with the cache over all components,
hands out from the cache every bundle that the first pass handed out, under the same id; it compiles
nothing, and leaves the document as it was read. The numbers in the snapshot have to be read from what is
printed for them. -/
theorem saved_cache_serves_again {source : String} {d : Document} (read : Document.parse source = .ok d)
    (numbers : d.NumbersReadBack) (settings : Settings) (skipCache : Bool) :
    let first := Session.start settings d
    ∃ loaded, Document.parse (first.fullPass skipCache).1.document.print = .ok loaded ∧
      let second := Session.start settings loaded
      (first.fullOutcomes skipCache).map Prod.fst = d.discover.elems ∧
      List.Forall₂ Repeats (first.fullOutcomes skipCache) (second.fullOutcomes false) ∧
      (second.fullPass false).2.result.compiled = 0 ∧
      (second.fullPass false).1.document = loaded := by
  intro first
  have started : first.store.Over _ _ _ _ := start_over settings d
  have empty (d : Document) :
      Agreed settings.cache.namespaceName settings.cache.key .empty d := fun _ _ h => by cases h
  have sizes := Document.sizesReadBack_of_numbersReadBack numbers
  have listed := map_fst_fullOutcomes started skipCache
  obtain ⟨same, known⟩ := fullPass_remembers started sizes (empty d) skipCache
  generalize (first.fullPass skipCache).1.document = saved at same known ⊢
  have readAgain := Document.parse_print_of_bare_eq (Document.linked_of_parse read) numbers same
  have relisted : (first.fullOutcomes skipCache).map Prod.fst = saved.discover.elems := by
    rw [listed, Document.discover_of_bare_eq same]
  exact ⟨saved, readAgain, listed, fullPass_repeats (start_over settings saved)
    (Document.sizesReadBack_of_bare_eq same.symm sizes) (empty saved) relisted known⟩

/-- A snapshot with a component, and with a text on its node that is no bundle. -/
def badgeSource : String :=
  "\x7b\"name\": \"\", \"nodes\": [\x7b\"type\": \"COMPONENT\", \"id\": \"b\", \"name\": \"Badge\", " ++
    "\"pluginData\": \x7b\"scenec\": \x7b\"data\": \"torn\"\x7d\x7d\x7d]\x7d"

/-- The document of that snapshot. -/
def badgeDocument : Document :=
  Document.filed
    [{ id := "b", name := "Badge", kind := .component
       pluginData := SortedMap.empty.insert "scenec" (SortedMap.empty.insert "data" "torn") }]

/-- The badge is compiled in the first session and comes from the cache in the second one, with the same
bundle. -/
theorem saved_cache_serves_badge :
    let first := Session.start {} badgeDocument
    ∃ b loaded, first.fullOutcomes false = [("b", .ok ⟨b, false⟩)] ∧
      Document.parse (first.fullPass false).1.document.print = .ok loaded ∧
      (Session.start {} loaded).fullOutcomes false = [("b", .ok ⟨b, true⟩)] := by
  intro first
  have read : Document.parse badgeSource = .ok badgeDocument := by decide +kernel
  have compiles : ((first.fullOutcomes false).map fun e => (e.1, compiledAnew e.2)) = [("b", true)] := by
    decide +kernel
  obtain ⟨loaded, again, -, repeated, -, -⟩ :=
    saved_cache_serves_again read (by decide +kernel) {} false
  obtain ⟨⟨id, result⟩, outcomes, served⟩ := List.map_eq_singleton_iff.1 compiles
  rw [outcomes] at repeated
  obtain ⟨⟨id', result'⟩, rest, repeats, nothing, outcomes'⟩ := List.forall₂_cons_left_iff.1 repeated
  cases result with
  | error e => cases served
  | ok o =>
    obtain ⟨b, hit⟩ := o
    cases hit with
    | true => cases served
    | false =>
      cases served
      cases nothing
      cases repeats.id
      have cached : result' = .ok ⟨b, true⟩ := repeats.cached _ rfl
      exact ⟨b, loaded, outcomes, again, by rw [outcomes', cached]⟩

end Session
end Handoff
