import Mathlib.Data.Set.Function
import PathCall.Address.Path

/-!
Ids of entities as texts, `module.Name`. The last point of a text separates, so an id comes back
from its text exactly if its name holds no point, and then no other id has the same text. The first
main theorem says so of all texts and ids. The second one is about the ids that paths are read as:
their names hold the points that were written in the second segment, and no others.
-/

namespace PathCall

namespace EntityId

variable {text : String} {id : EntityId}

/-- Both parts of the id are there to be written, and its name does not hide where it begins. -/
structure IsLegible (id : EntityId) : Prop where
  module_ne : id.module ≠ ""
  name_ne : id.name ≠ ""
  unpointed : '.' ∉ id.name.toList

theorem toList_display (id : EntityId) :
    id.display.toList = id.module.toList ++ '.' :: id.name.toList := by
  simp [display]

/-- A text is read as the one legible id that is written so. -/
theorem parse_eq_ok_iff : parse text = .ok id ↔ id.IsLegible ∧ id.display = text := by
  constructor
  · intro h
    unfold parse at h
    split at h
    · rename_i c module d name hsplit
      cases h
      obtain ⟨htext, hunpointed⟩ := Text.splitLast_eq_some_iff.mp hsplit
      refine ⟨⟨by simp, by simp, by simpa using hunpointed⟩, String.toList_injective ?_⟩
      rw [toList_display, htext, String.toList_ofList, String.toList_ofList]
    · cases h
  · rintro ⟨hlegible, rfl⟩
    have hmodule := mt String.toList_eq_nil_iff.mp hlegible.module_ne
    have hname := mt String.toList_eq_nil_iff.mp hlegible.name_ne
    obtain ⟨c, module, hmodule⟩ := List.exists_cons_of_ne_nil hmodule
    obtain ⟨d, name, hname⟩ := List.exists_cons_of_ne_nil hname
    have hsplit : Text.splitLast '.' id.display.toList = some (c :: module, d :: name) := by
      rw [toList_display, Text.splitLast_append hlegible.unpointed, hmodule, hname]
    simp only [parse, hsplit]
    rw [← hmodule, ← hname, String.ofList_toList, String.ofList_toList]

/-- What is no text of an id is refused in one way. -/
theorem parse_eq_ok_or_error (text : String) :
    (∃ id, parse text = .ok id) ∨ parse text = .error ⟨.inputValidation,
      "Failed to parse entity id '" ++ text ++ "' (expected format: module.Name)"⟩ := by
  unfold parse
  split
  · exact .inl ⟨_, rfl⟩
  · exact .inr rfl

/-- Reading and writing of ids. A text is read exactly if it holds a point and something stands in
front of its last point and something behind. It is read as the id that is written so, whose name
holds no point, and every id whose parts are not empty and whose name holds no point is read from
its text. So no two of these ids have one text. All other texts are invalid input. -/
theorem parse_accepts_displayed :
    (∀ text : String, (∃ id, parse text = .ok id) ↔
      ∃ before after, text = before ++ "." ++ after ∧ '.' ∉ after.toList ∧
        before ≠ "" ∧ after ≠ "") ∧
    (∀ (text : String) (id : EntityId), parse text = .ok id ↔ id.IsLegible ∧ id.display = text) ∧
    Set.InjOn display {id | id.IsLegible} ∧
    ∀ text : String, (∃ id, parse text = .ok id) ∨ parse text = .error ⟨.inputValidation,
      "Failed to parse entity id '" ++ text ++ "' (expected format: module.Name)"⟩ := by
  refine ⟨fun text => ⟨?_, ?_⟩, fun _ _ => parse_eq_ok_iff, ?_, parse_eq_ok_or_error⟩
  · rintro ⟨id, hparse⟩
    obtain ⟨hlegible, rfl⟩ := parse_eq_ok_iff.mp hparse
    exact ⟨id.module, id.name, rfl, hlegible.unpointed, hlegible.module_ne, hlegible.name_ne⟩
  · rintro ⟨before, after, rfl, hunpointed, hbefore, hafter⟩
    exact ⟨⟨before, after⟩, parse_eq_ok_iff.mpr ⟨⟨hbefore, hafter, hunpointed⟩, rfl⟩⟩
  · intro id hid other hother heq
    have hread : parse id.display = .ok id := parse_eq_ok_iff.mpr ⟨hid, rfl⟩
    have hread' : parse id.display = .ok other := parse_eq_ok_iff.mpr ⟨hother, heq.symm⟩
    exact Except.ok.inj (hread.symm.trans hread')

/-- Words are joined without their hyphens and underscores; points are none of these. -/
theorem point_mem_camelCase_iff {text : List Char} : '.' ∈ camelCase text ↔ '.' ∈ text := by
  unfold camelCase
  simp only [List.mem_flatMap, Text.mem_capitalize_point_iff]
  rw [Text.exists_mem_split_iff (by decide), List.mem_map]
  constructor
  · rintro ⟨c, hc, heq⟩
    split at heq
    · cases heq
    · exact heq ▸ hc
  · intro h
    exact ⟨'.', h, by decide⟩

theorem point_mem_name_ofSegments_iff {module entity : List Char} :
    '.' ∈ (ofSegments module entity).name.toList ↔ '.' ∈ entity := by
  rw [ofSegments, String.toList_ofList, point_mem_camelCase_iff, List.mem_filter]
  exact and_iff_left (by decide)

end EntityId

namespace AddressPath

variable {path : String} {found : AddressPath}

theorem exists_segments_of_parse_eq_ok (h : parse path = .ok found) :
    ∃ module entity tokens, segments path.toList = module :: entity :: tokens ∧
      found.entity = EntityId.ofSegments module entity := by
  unfold parse at h
  split at h
  · rename_i module entity tokens hsegments
    cases h
    exact ⟨module, entity, tokens, hsegments, rfl⟩
  · cases h

/-- The id that a path is read as comes back from its text exactly if its name holds no point. Its
name holds a point exactly if the second segment of the path does: of that segment only control
characters and hyphens are rewritten, and the case of its letters. -/
theorem display_reads_back_iff (hparse : parse path = .ok found)
    (hmodule : found.entity.module ≠ "") (hname : found.entity.name ≠ "") :
    (EntityId.parse found.entity.display = .ok found.entity ↔
      '.' ∉ found.entity.name.toList) ∧
    ∃ module entity tokens, segments path.toList = module :: entity :: tokens ∧
      found.entity = EntityId.ofSegments module entity ∧
      ('.' ∈ found.entity.name.toList ↔ '.' ∈ entity) := by
  constructor
  · rw [EntityId.parse_eq_ok_iff]
    constructor
    · rintro ⟨hlegible, -⟩
      exact hlegible.unpointed
    · intro hunpointed
      exact ⟨⟨hmodule, hname, hunpointed⟩, rfl⟩
  · obtain ⟨module, entity, tokens, hsegments, hentity⟩ := exists_segments_of_parse_eq_ok hparse
    refine ⟨module, entity, tokens, hsegments, hentity, ?_⟩
    rw [hentity]
    exact EntityId.point_mem_name_ofSegments_iff

/-- Points in the first segment do no harm: none of them reaches the module. -/
theorem orderItems_read_back :
    parse "/my.shop/order-items/7" = .ok ⟨⟨"my_shop", "OrderItems"⟩, ["7"]⟩ ∧
    EntityId.parse "my_shop.OrderItems" = .ok ⟨"my_shop", "OrderItems"⟩ := by
  have hparse : parse "/my.shop/order-items/7" =
      .ok ⟨⟨"my_shop", "OrderItems"⟩, ["7"]⟩ := by decide
  exact ⟨hparse, (display_reads_back_iff hparse (by decide) (by decide)).1.mpr (by decide)⟩

/-- A point in the second segment stays in the name, and the text is read as the id of another
entity. -/
theorem pointedName_reads_as_other :
    ∃ found, parse "/shop/wid.gets" = .ok found ∧ found.entity = ⟨"shop", "Wid.gets"⟩ ∧
      found.entity.module ≠ "" ∧ found.entity.name ≠ "" ∧
      EntityId.parse found.entity.display = .ok ⟨"shop.Wid", "gets"⟩ ∧
      EntityId.parse found.entity.display ≠ .ok found.entity :=
  ⟨⟨⟨"shop", "Wid.gets"⟩, []⟩, by decide⟩

end AddressPath

end PathCall
