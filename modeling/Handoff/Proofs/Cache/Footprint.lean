import Handoff.Proofs.Session.Pass

/-!
# What passes write

Serving components writes to a document in one place only: the value that the durable tier keeps on the
nodes of components that were compiled. Every node stays where it is, with all other data that tools keep
on it, and so does everything in the document besides nodes.
-/

namespace Handoff

/-- Whether a placement is as another one, except that its node may keep another value at one key if the
placement is found under a written id. -/
structure Placement.WritesOnly (namespaceName key : String) (written : NodeId → Prop)
    (p q : Placement) : Prop where
  key_eq : q.key = p.key
  parent : q.parent = p.parent
  bare : q.node.bare = p.node.bare
  groups : ∀ other, other ≠ namespaceName → q.node.pluginData.get? other = p.node.pluginData.get? other
  values : ∀ other, other ≠ key →
    q.node.pluginValue? namespaceName other = p.node.pluginValue? namespaceName other
  unwritten : (∀ id, p.key = some id → ¬ written id) → q = p

/-- Whether a document is as another one, except for the values that the nodes under written ids keep at
one key. -/
structure Document.WritesOnly (namespaceName key : String) (written : NodeId → Prop)
    (d d' : Document) : Prop where
  others : { d' with placements := d.placements } = d
  places : List.Forall₂ (Placement.WritesOnly namespaceName key written) d.placements d'.placements

variable {settings : Settings} {namespaceName key : String} {skipCache : Bool}
  {written written' : NodeId → Prop}

/-! ## Placements -/

namespace Placement.WritesOnly

variable {p q r : Placement}

/-- A placement is as itself. -/
theorem refl (p : Placement) : p.WritesOnly namespaceName key written p :=
  ⟨rfl, rfl, rfl, fun _ _ => rfl, fun _ _ => rfl, fun _ => rfl⟩

/-- Writes one after the other at the same ids are writes at these ids. -/
theorem trans (h₁ : p.WritesOnly namespaceName key written q)
    (h₂ : q.WritesOnly namespaceName key written r) : p.WritesOnly namespaceName key written r where
  key_eq := h₂.key_eq.trans h₁.key_eq
  parent := h₂.parent.trans h₁.parent
  bare := h₂.bare.trans h₁.bare
  groups other hne := (h₂.groups other hne).trans (h₁.groups other hne)
  values other hne := (h₂.values other hne).trans (h₁.values other hne)
  unwritten none := by
    rw [h₂.unwritten (by rw [h₁.key_eq]; exact none), h₁.unwritten none]

/-- Writes at few ids are writes at more. -/
theorem mono (h : p.WritesOnly namespaceName key written q)
    (more : ∀ id, written id → written' id) : p.WritesOnly namespaceName key written' q :=
  { h with unwritten := fun none => h.unwritten fun id hid hw => none id hid (more id hw) }

/-- Keeping a value on a node writes at its key. -/
theorem setPluginValue {id : NodeId} (hkey : p.key = some id) (value : String) :
    p.WritesOnly namespaceName key (· = id)
      { p with node := p.node.setPluginValue namespaceName key value } where
  key_eq := rfl
  parent := rfl
  bare := rfl
  groups other hne := by
    show (SortedMap.insert _ _ _).get? other = _
    rw [SortedMap.get?_insert, if_neg hne]
  values other hne := by
    show ((SortedMap.insert _ _ _).get? namespaceName).bind _ = _
    rw [SortedMap.get?_insert, if_pos rfl, Option.bind_some, SortedMap.get?_insert, if_neg hne,
      Node.pluginValue?]
    cases p.node.pluginData.get? namespaceName <;> rfl
  unwritten none := absurd rfl (none id hkey)

end Placement.WritesOnly

private theorem forall₂_trans {l₁ l₂ l₃ : List Placement}
    (h₁ : List.Forall₂ (Placement.WritesOnly namespaceName key written) l₁ l₂)
    (h₂ : List.Forall₂ (Placement.WritesOnly namespaceName key written) l₂ l₃) :
    List.Forall₂ (Placement.WritesOnly namespaceName key written) l₁ l₃ := by
  induction h₁ generalizing l₃ with
  | nil => exact h₂
  | cons first _ ih =>
    cases h₂ with
    | cons second rest => exact .cons (first.trans second) (ih rest)

private theorem find?_unwritten {l₁ l₂ : List Placement} {id : NodeId} (unwritten : ¬ written id)
    (h : List.Forall₂ (Placement.WritesOnly namespaceName key written) l₁ l₂) :
    l₂.find? (fun p => p.key == some id) = l₁.find? (fun p => p.key == some id) := by
  induction h with
  | nil => rfl
  | @cons p q _ _ first _ ih =>
    rw [List.find?_cons, List.find?_cons, first.key_eq, ih]
    cases hp : p.key == some id with
    | true =>
      have hkey : p.key = some id := eq_of_beq hp
      rw [first.unwritten fun k hk hw => unwritten (Option.some.inj (hkey.symm.trans hk) ▸ hw)]
    | false => rfl

/-! ## Documents -/

namespace Document

variable {d d₁ d' : Document} {id : NodeId}

namespace WritesOnly

/-- A document is as itself. -/
theorem refl (d : Document) : d.WritesOnly namespaceName key written d :=
  ⟨rfl, List.forall₂_same.2 fun p _ => .refl p⟩

/-- Writes at few ids are writes at more. -/
theorem mono (h : d.WritesOnly namespaceName key written d')
    (more : ∀ id, written id → written' id) : d.WritesOnly namespaceName key written' d' :=
  ⟨h.others, h.places.imp fun _ _ same => same.mono more⟩

/-- Writes one after the other at the same ids are writes at these ids. -/
theorem trans (h₁ : d.WritesOnly namespaceName key written d₁)
    (h₂ : d₁.WritesOnly namespaceName key written d') :
    d.WritesOnly namespaceName key written d' where
  others := by
    calc { d' with placements := d.placements }
        = { { d' with placements := d₁.placements } with placements := d.placements } := rfl
      _ = { d₁ with placements := d.placements } := by rw [h₂.others]
      _ = d := h₁.others
  places := forall₂_trans h₁.places h₂.places

/-- Writing a bundle to a node writes at that node. -/
theorem keeping (d : Document) (id : NodeId) (b : Bundle) :
    d.WritesOnly namespaceName key (· = id) (d.keeping namespaceName key id b) where
  others := rfl
  places := by
    refine List.forall₂_map_right_iff.2 (List.forall₂_same.2 fun p _ => ?_)
    split
    · next hkey => exact .setPluginValue hkey _
    · exact .refl p

/-- Where nothing is written, the same value is found. -/
theorem pluginValue?_eq (h : d.WritesOnly namespaceName key written d') (unwritten : ¬ written id)
    (group entry : String) : d'.pluginValue? id group entry = d.pluginValue? id group entry := by
  have same : d'.place? id = d.place? id := find?_unwritten unwritten h.places
  rw [pluginValue?, node?, same, ← node?, ← pluginValue?]

end WritesOnly

/-- The value that is found after a bundle has been written to a node. -/
theorem pluginValue?_keeping {n : Node} (hn : d.node? id = some n) (b : Bundle) :
    (d.keeping namespaceName key id b).pluginValue? id namespaceName key = some b.print := by
  rw [Document.keeping, pluginValue?, node?_modifyNode, hn, Option.map_some, if_pos rfl,
    Option.bind_some, Node.pluginValue?_setPluginValue]

end Document

/-! ## Runs -/

variable {id : NodeId} {targets : List NodeId} {m m' : OrderedMap Bundle} {d d' : Document}
  {result : Except CompileError Outcome} {results : List (Except CompileError Outcome)}

/-- Whether a component is among targets, no icon, and compiles. -/
def Document.Compiles (d : Document) (settings : Settings) (targets : List NodeId) (id : NodeId) :
    Prop :=
  id ∈ targets ∧ d.isIcon id = false ∧ ∃ b, (d.compile settings id).2 = .ok b

/-- Serving a component writes at its node if it compiles. -/
theorem Served.writesOnly (served : Served settings namespaceName key skipCache id m d m' d' result) :
    d.WritesOnly namespaceName key (fun k => k = id ∧ ∃ b, (d.compile settings id).2 = .ok b) d' := by
  cases served with
  | remembered => exact .refl d
  | promoted => exact .refl d
  | @compiled b built => exact (Document.WritesOnly.keeping d id b).mono fun _ hk => ⟨hk, b, built⟩
  | failed => exact .refl d

/-- What compiles does not depend on plugin data. -/
theorem Document.compiles_of_bare_eq (same : d'.bare = d.bare) :
    d'.Compiles settings targets = d.Compiles settings targets := by
  funext id
  rw [Compiles, Compiles, isIcon_of_bare_eq same, compile_of_bare_eq same]

namespace Run

/-- A run writes at the nodes of its targets that compile. -/
theorem writesOnly (run : Run settings namespaceName key skipCache targets m d results m' d') :
    d.WritesOnly namespaceName key (d.Compiles settings targets) d' := by
  induction run with
  | done => exact .refl _
  | icon _ _ ih => exact ih.mono fun _ h => ⟨List.mem_cons_of_mem _ h.1, h.2⟩
  | next hicon served _ ih =>
    rw [Document.compiles_of_bare_eq served.bare_eq] at ih
    refine (served.writesOnly.mono ?_).trans (ih.mono ?_)
    · rintro _ ⟨rfl, built⟩
      exact ⟨List.mem_cons_self, hicon, built⟩
    · exact fun _ h => ⟨List.mem_cons_of_mem _ h.1, h.2⟩

/-- A run without the cache leaves the table alone but for its targets that compile. -/
theorem get?_of_not_compiles (run : Run settings namespaceName key true targets m d results m' d')
    (h : ¬ d.Compiles settings targets id) : m'.get? id = m.get? id := by
  induction run with
  | done => rfl
  | icon _ _ ih => exact ih fun hc => h ⟨List.mem_cons_of_mem _ hc.1, hc.2⟩
  | @next k rest _ _ _ d _ _ _ _ hicon served _ ih =>
    rw [ih fun hc => by
      rw [Document.compiles_of_bare_eq served.bare_eq] at hc
      exact h ⟨List.mem_cons_of_mem _ hc.1, hc.2⟩]
    cases served with
    | remembered hskip => cases hskip
    | promoted hskip => cases hskip
    | @compiled b built =>
      rw [OrderedMap.get?_insert, if_neg]
      rintro rfl
      exact h ⟨List.mem_cons_self, hicon, b, built⟩
    | failed => rfl

/-- A run without the cache leaves on the nodes of its targets the texts of what they compile to. -/
theorem pluginValue?_of_compiles {b : Bundle}
    (run : Run settings namespaceName key true targets m d results m' d') (mem : id ∈ targets)
    (hicon : d.isIcon id = false) (built : (d.compile settings id).2 = .ok b) :
    d'.pluginValue? id namespaceName key = some b.print := by
  induction run with
  | done => cases mem
  | icon hi _ ih =>
    rcases List.mem_cons.1 mem with rfl | mem
    · rw [hi] at hicon
      cases hicon
    · exact ih mem hicon built
  | @next k rest _ _ _ d _ _ _ _ _ served run ih =>
    have same := served.bare_eq
    -- If a target comes several times, its last turn decides; after it nothing is written on its node.
    by_cases later : id ∈ rest
    · refine ih later ?_ ?_
      · rw [Document.isIcon_of_bare_eq same, hicon]
      · rw [Document.compile_of_bare_eq same, built]
    · obtain rfl : id = k := (List.mem_cons.1 mem).resolve_right later
      rw [run.writesOnly.pluginValue?_eq fun h => later h.1]
      cases served with
      | remembered hskip => cases hskip
      | promoted hskip => cases hskip
      | compiled hc =>
        rw [built] at hc
        cases hc
        obtain ⟨n, hn⟩ := Document.node?_of_compile built
        exact Document.pluginValue?_keeping hn b
      | failed hc =>
        rw [built] at hc
        cases hc

end Run
end Handoff
