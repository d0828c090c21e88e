import Handoff.Bundle.Basic
import Handoff.Proofs.Json.Plain
import Handoff.Proofs.Json.Record

/-!
# Bundles read back

The text that a node keeps for a bundle is read as that bundle, provided that the sizes of its assets
are numbers that the reader finds again in what the printer writes for them.
-/

namespace Handoff

/-- A written asset is read as that asset. -/
theorem Asset.ofJson?_toJson (a : Asset) : ofJson? a.toJson = some a := by
  cases a with
  | mk id name hash format width height data => cases format <;> rfl

/-- Written icons are read as those icons. -/
theorem BundleIcons.ofJson?_toJson (i : BundleIcons) : ofJson? i.toJson = some i := by
  have read (s : String) : Json.string? (.string s) = some s := rfl
  have map := Json.orderedMap?_ofOrderedMap read i.map
  have list := Json.list?_ofStrings i.list
  have used := Json.list?_ofStrings i.used
  show (Json.orderedMap? Json.string? (.ofOrderedMap i.map .string)).bind (fun map =>
    (Json.list? Json.string? (.ofStrings i.list)).bind fun list =>
      (Json.list? Json.string? (.ofStrings i.used)).bind fun used => some ⟨map, list, used⟩) = some i
  rw [map, list, used]
  rfl

namespace Bundle

/-- A written bundle is read as that bundle. -/
theorem ofJson?_toJson (b : Bundle) : ofJson? b.toJson = some b := by
  have read (s : String) : Json.string? (.string s) = some s := rfl
  have links := Json.orderedMap?_ofOrderedMap read b.links
  have icons := BundleIcons.ofJson?_toJson b.icons
  have assets := Json.orderedMap?_ofOrderedMap Asset.ofJson?_toJson b.assets
  show (Json.orderedMap? Json.string? (.ofOrderedMap b.links .string)).bind (fun links =>
    (BundleIcons.ofJson? b.icons.toJson).bind fun icons =>
      (Json.orderedMap? Asset.ofJson? (.ofOrderedMap b.assets Asset.toJson)).bind fun assets =>
        some ⟨b.id, b.name, b.page, b.path, b.code, b.theme, b.preview, links, icons, assets⟩) = some b
  rw [links, icons, assets]
  rfl

/-- Whether the sizes of all assets read back. -/
def SizesReadBack (b : Bundle) : Prop :=
  ∀ e ∈ b.assets.entries, e.2.width.ReadsBack ∧ e.2.height.ReadsBack

private theorem plain_toJson (b : Bundle) : Json.Plain 3 b.toJson := by
  have links : Json.Plain 2 (.ofOrderedMap b.links .string) :=
    Json.plain_ofOrderedMap Json.plain_string b.links
  have map : Json.Plain 1 (.ofOrderedMap b.icons.map .string) :=
    Json.plain_ofOrderedMap Json.plain_string b.icons.map
  have icons : Json.Plain 2 b.icons.toJson := by simp [BundleIcons.toJson, map]
  have assets : Json.Plain 2 (.ofOrderedMap b.assets Asset.toJson) :=
    Json.plain_ofOrderedMap (fun a => by simp [Asset.toJson]) b.assets
  simp [toJson, links, icons, assets]

private theorem numbers_toJson (b : Bundle) :
    b.toJson.numbers = b.assets.entries.flatMap fun e => [e.2.width, e.2.height] := by
  simp [toJson, BundleIcons.toJson, Asset.toJson, Json.numbers_ofOrderedMap _ Asset.toJson]

/-- The text that a node keeps for a bundle is read as that bundle. -/
theorem parse?_print {b : Bundle} (h : b.SizesReadBack) : parse? b.print = some b := by
  have back : ∀ x ∈ b.toJson.numbers, x.ReadsBack := by
    rw [numbers_toJson]
    intro x hx
    obtain ⟨e, he, hx⟩ := List.mem_flatMap.1 hx
    obtain ⟨width, height⟩ := h e he
    rw [List.mem_cons, List.mem_singleton] at hx
    rcases hx with rfl | rfl
    · exact width
    · exact height
  rw [parse?, print, Json.parse?_compact_of_plain (b.plain_toJson.mono (by decide)) back,
    Option.bind_some, ofJson?_toJson]

/-- The text that a node keeps for a bundle is not empty. -/
theorem isEmpty_print (b : Bundle) : b.print.isEmpty = false := by
  rw [← Bool.not_eq_true, String.isEmpty_iff]
  intro h
  have chars := congrArg String.toList h
  rw [print, Json.compact, String.toList_ofList, toJson, Json.compactChars] at chars
  cases chars

private theorem required_id {j : Json} {b : Bundle} (h : ofJson? j = some b) :
    ∃ fields, j.fields? ["id", "name", "page", "path", "code", "theme", "preview", "links", "icons",
        "assets"] = some fields ∧ Json.Fields.required fields "id" Json.string? = some b.id := by
  simp only [ofJson?, Option.bind_eq_bind, Option.bind_eq_some_iff] at h
  obtain ⟨fields, hfields, id, hid, _, -, _, -, _, -, _, -, _, -, _, -, _, -, _, -, _, -, he⟩ := h
  cases he
  exact ⟨fields, hfields, hid⟩

/-- Whatever is read from the text that a node keeps for a bundle carries the id of the bundle. -/
theorem id_of_parse?_print {b b' : Bundle} (h : parse? b.print = some b') : b'.id = b.id := by
  obtain ⟨j, hj, hb⟩ := Option.bind_eq_some_iff.1 h
  obtain ⟨fields, hfields, hid⟩ := required_id hb
  obtain ⟨text, begins⟩ : ∃ text, b.print.toList = '\x7b' :: (Json.stringChars "id" ++ ':' ::
      (Json.stringChars b.id ++ ',' :: text)) := by
    rw [print, Json.compact, String.toList_ofList, toJson, Json.compactChars, Json.compactMembers,
      Json.compactChars]
    exact ⟨_, rfl⟩
  rcases Json.parse?_first begins hj with rfl | ⟨others, rfl⟩
  · cases hfields
  · simp only [Json.fields?, Json.fieldsIn?] at hfields
    split at hfields
    · cases hfields
      exact (Option.some.inj hid).symm
    · cases hfields

end Bundle
end Handoff
