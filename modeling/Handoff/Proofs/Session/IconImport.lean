import Handoff.Proofs.Component.Simulation
import Handoff.Proofs.Scene.IconsPage
import Handoff.Session.Basic

/-!
# Importing icons in a session

A session refuses icons as long as no theme has a token. Else an import exchanges what is at or below the
icons pages of the document for one page with the icons and leaves the rest of the session alone.
-/

namespace Handoff

open Document (iconIds iconNodes)

private theorem hasStyles_iff {t : ThemeModule} :
    t.hasStyles = true ↔ ∃ theme ∈ t.themes, theme.tokens.keys ≠ [] := by
  simp [ThemeModule.hasStyles, OrderedMap.isEmpty, OrderedMap.keys]

namespace Session

variable {s : Session} {set : String} {icons : OrderedMap String}

/-- The theme of a session does not depend on the nodes. -/
theorem theme_withDocument {d : Document} {gone : List NodeId} {added : List Node}
    (exchanges : s.document.Exchanges d gone added) : (s.withDocument d).theme = s.theme :=
  Document.themeModule_congr exchanges.collections exchanges.localVariables exchanges.paintStyles s.settings.theme

/-- An import in a session with a theme is one of its document. -/
theorem importIcons_of_hasStyles (styled : s.theme.hasStyles = true) :
    s.importIcons set icons = (s.withDocument (s.document.importIcons set icons).1,
      { result := (s.document.importIcons set icons).2 }) := by
  rw [importIcons, if_pos styled]

/-- Imports rebuild just the icons page. Where no theme has a token, an import is refused with a notice, and
nothing changes. Where it succeeds for a sound document without cycles, it counts the icons, some theme has a
token, and only the document has changed: it is still sound and without cycles and has one icons page, whose
children are the components of the icons in order, each named after the set and the icon and with one vector
that exports the icon. What was at or below an icons page is gone; all else has kept its order, its parents
and its fields, but that child lists and selection have lost what is gone. If none of the icons and not their
page is selected, the same import again changes nothing. -/
theorem icons_imported (s : Session) (sound : s.document.Sound) (acyclic : s.document.Acyclic)
    (set : String) (icons : OrderedMap String) :
    ((∀ theme ∈ s.theme.themes, theme.tokens.keys = []) → s.importIcons set icons = (s,
      { result := .error .noThemeColors, events := [.notice "Generate a theme before importing icons"] })) ∧
    ∀ s' report count, s.importIcons set icons = (s', report) → report.result = .ok count →
      count = icons.size ∧ (∃ theme ∈ s.theme.themes, theme.tokens.keys ≠ []) ∧ report.events = [] ∧
      s' = s.withDocument s'.document ∧ s'.document.Sound ∧ s'.document.Acyclic ∧
      ∃ gone page, (∀ x, x ∈ gone ↔ ∃ old ∈ s.document.pages, old.name = iconsPageName ∧
          Relation.ReflTransGen s.document.Lists old.id x) ∧
        s'.document.pages.filter (·.name == iconsPageName) = [page] ∧
        s'.document.HoldsIcons set icons.entries page ∧
        s.document.Exchanges s'.document gone (iconNodes set icons.entries) ∧
        ((∀ x ∈ s'.document.selection, x ∉ iconIds set icons.entries) →
          s'.importIcons set icons = (s', report)) := by
  constructor
  · intro none
    have plain : ¬s.theme.hasStyles = true := fun styled => by
      obtain ⟨theme, listed, some⟩ := hasStyles_iff.1 styled
      exact some (none theme listed)
    rw [importIcons, if_neg plain]
  · intro s' report count h ok
    by_cases styled : s.theme.hasStyles = true
    · rw [importIcons_of_hasStyles styled] at h
      obtain ⟨rfl, rfl⟩ := Prod.mk.inj h
      obtain ⟨d, imported⟩ : ∃ d, s.document.importIcons set icons = (d, .ok count) := ⟨_, Prod.ext rfl ok⟩
      obtain ⟨gone, page, below, counted, nested, only, holds, exchanges, again⟩ :=
        Document.importIcons_exchanges ⟨sound, acyclic⟩ imported
      rw [imported]
      refine ⟨counted, hasStyles_iff.1 styled, rfl, rfl, nested.sound, nested.acyclic, gone, page, below, only,
        holds, exchanges, fun unselected => ?_⟩
      have styledAfter : (s.withDocument d).theme.hasStyles = true := by
        rw [theme_withDocument exchanges, styled]
      have repeated : (s.withDocument d).document.importIcons set icons = (d, .ok count) := again unselected
      rw [importIcons_of_hasStyles styledAfter, repeated]
      rfl
    · rw [importIcons, if_neg styled] at h
      obtain ⟨-, rfl⟩ := Prod.mk.inj h
      cases ok

/-- A document with a color, a page with a frame, and two icons pages, one of which has an icon. -/
def starKit : Document :=
  { Document.filed
      [{ id := "o", name := "Icons", kind := .page, children := ["x"] },
        { id := "x", name := "old:star", kind := .component, children := ["y"] },
        { id := "y", name := "Vector", kind := .vector },
        { id := "p", name := "Page", kind := .page, children := ["f"] },
        { id := "f", name := "Frame", kind := .frame },
        { id := "q", name := "Icons", kind := .page }] with
    paintStyles := [{ id := "s", name := "Accent" }]
    selection := ["f", "y"] }

/-- A session over it. -/
def starSession : Session := .start {} starKit

/-- The icons that it gets. -/
def nightIcons : OrderedMap String := .ofList [("star", "<svg>1</svg>"), ("moon", "<svg>2</svg>")]

/-- The two pages give way to one, the frame stays selected, and importing again changes nothing. -/
theorem icons_imported_starKit : ∃ s' report page,
    starSession.importIcons "ph" nightIcons = (s', report) ∧ report.result = .ok 2 ∧
      s'.document.nodes.map (·.id) = ["p", "f", "icons:ph", "icon:ph:star", "icon:ph:star:vector",
        "icon:ph:moon", "icon:ph:moon:vector"] ∧
      s'.document.HoldsIcons "ph" nightIcons.entries page ∧ s'.document.selection = ["f"] ∧
      s'.importIcons "ph" nightIcons = (s', report) := by
  have sound : starKit.Sound := Document.sound_iff_linked.2 (by decide +kernel)
  have acyclic : starKit.Acyclic := .of_rank sound (["y", "x", "o", "f", "p", "q"].idxOf ·) (by decide +kernel)
  have ok : (starSession.importIcons "ph" nightIcons).2.result = .ok 2 := by decide +kernel
  have selected : (starSession.importIcons "ph" nightIcons).1.document.selection = ["f"] := by decide +kernel
  have nodes : (starSession.importIcons "ph" nightIcons).1.document.nodes.map (·.id) = ["p", "f", "icons:ph",
      "icon:ph:star", "icon:ph:star:vector", "icon:ph:moon", "icon:ph:moon:vector"] := by decide +kernel
  cases imported : starSession.importIcons "ph" nightIcons with
  | mk s' report =>
    rw [imported] at ok selected nodes
    obtain ⟨-, -, -, -, -, -, gone, page, -, -, holds, -, again⟩ :=
      (icons_imported starSession sound acyclic "ph" nightIcons).2 s' report 2 imported ok
    refine ⟨s', report, page, rfl, ok, nodes, holds, selected, again ?_⟩
    rw [selected]
    decide +kernel

end Session
end Handoff
