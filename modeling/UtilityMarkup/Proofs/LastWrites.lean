import Mathlib.Data.List.Induction
import UtilityMarkup.Proofs.Tables
import UtilityMarkup.Settings.Session

/-!
# Last writes

Settings consist of slots, and an edit replaces the content of one slot. So whatever a session goes
through, a slot holds what was written to it last, a snapshot keeps what the slots held when it was
taken, and edits of different slots can be made in either order.
-/

namespace UtilityMarkup

/-- A part of settings that is replaced as a whole. Each layer has one for its tag. -/
inductive Slot where
  | tag (id : String)
  | imported
  | custom
  | pictures
  | vocabulary
deriving DecidableEq

namespace Slot

abbrev Content : Slot → Type
  | tag _ => Option String
  | imported => Option Palette
  | custom => Palette
  | pictures => PicturePaths
  | vocabulary => Vocabulary

end Slot

namespace Settings

def content (settings : Settings) : (slot : Slot) → slot.Content
  | .tag id => settings.userTag? id
  | .imported => settings.imported?
  | .custom => settings.custom
  | .pictures => settings.pictures
  | .vocabulary => settings.vocabulary

/-- There is nothing in settings besides their slots. -/
lemma ext_content {settings other : Settings}
    (h : ∀ slot, settings.content slot = other.content slot) : settings = other := by
  have htags : settings.tags = other.tags := Std.ExtTreeMap.ext_getElem? fun id => h (.tag id)
  have himported : settings.imported? = other.imported? := h .imported
  have hcustom : settings.custom = other.custom := h .custom
  have hpictures : settings.pictures = other.pictures := h .pictures
  have hvocabulary : settings.vocabulary = other.vocabulary := h .vocabulary
  cases settings
  cases other
  simp_all

/-- The size of the table of tags is the number of layers with a tag. -/
lemma encard_tagged (settings : Settings) :
    {id | (settings.userTag? id).isSome}.encard = settings.tags.size := by
  have htagged : {id | (settings.userTag? id).isSome} = {id | id ∈ settings.tags} :=
    Set.ext fun id => Std.ExtTreeMap.mem_iff_isSome_getElem?.symm
  rw [htagged, encard_mem]

end Settings

/-! ### What an edit writes -/

namespace Edit

def slot : Edit → Slot
  | setTag id _ => .tag id
  | clearTag id => .tag id
  | importPalette _ => .imported
  | removePalette => .imported
  | setCustom _ => .custom
  | setPictures _ => .pictures
  | setVocabulary _ => .vocabulary

def written : (change : Edit) → change.slot.Content
  | setTag _ tag => some tag
  | clearTag _ => (none : Option String)
  | importPalette palette => some palette
  | removePalette => (none : Option Palette)
  | setCustom palette => palette
  | setPictures paths => paths
  | setVocabulary vocabulary => vocabulary

def write? (change : Edit) (slot : Slot) : Option slot.Content :=
  if h : change.slot = slot then some (h ▸ change.written) else none

lemma write?_of_ne {change : Edit} {slot : Slot} (h : change.slot ≠ slot) :
    change.write? slot = none :=
  dif_neg h

end Edit

namespace Settings

/-- An edit puts what it writes into its slot and leaves all other slots alone. -/
theorem content_apply (settings : Settings) (change : Edit) (slot : Slot) :
    (settings.apply change).content slot = (change.write? slot).getD (settings.content slot) := by
  by_cases h : change.slot = slot
  · subst h
    rw [Edit.write?, dif_pos rfl, Option.getD_some]
    cases change with
    | setTag id tag => exact Std.ExtTreeMap.getElem?_insert_self
    | clearTag id => exact Std.ExtTreeMap.getElem?_erase_self
    | _ => rfl
  · rw [Edit.write?_of_ne h, Option.getD_none]
    cases slot with
    | tag id =>
      cases change with
      | setTag id' tag =>
        have hne : id' ≠ id := fun heq => h (congrArg Slot.tag heq)
        simp [apply, content, userTag?, Std.ExtTreeMap.getElem?_insert, hne]
      | clearTag id' =>
        have hne : id' ≠ id := fun heq => h (congrArg Slot.tag heq)
        simp [apply, content, userTag?, Std.ExtTreeMap.getElem?_erase, hne]
      | _ => rfl
    | _ => cases change <;> first | rfl | exact absurd rfl h

theorem apply_comm (settings : Settings) {first second : Edit} (h : first.slot ≠ second.slot) :
    (settings.apply first).apply second = (settings.apply second).apply first := by
  refine ext_content fun slot => ?_
  simp only [content_apply]
  by_cases hfirst : first.slot = slot
  · rw [Edit.write?_of_ne fun hsecond => h (hfirst.trans hsecond.symm)]
    rfl
  · rw [Edit.write?_of_ne hfirst]
    rfl

end Settings

/-! ### What a session goes through -/

/-- Besides edits, copies are taken of the settings, and the copies or the live settings are read. -/
inductive Operation where
  | edit (change : Edit)
  | snapshot
  | query (index? : Option Nat)

namespace Operation

def write? : Operation → (slot : Slot) → Option slot.Content
  | edit change, slot => change.write? slot
  | snapshot, _ | query _, _ => none

end Operation

/-- What was written to a slot last, if anything was. -/
def lastWrite? (operations : List Operation) (slot : Slot) : Option slot.Content :=
  operations.reverse.findSome? (·.write? slot)

lemma lastWrite?_concat (operations : List Operation) (last : Operation) (slot : Slot) :
    lastWrite? (operations ++ [last]) slot =
      (last.write? slot).or (lastWrite? operations slot) := by
  rw [lastWrite?, List.reverse_append, List.findSome?_append, lastWrite?]
  simp

namespace Session

def perform (session : Session) : Operation → Session
  | .edit change => session.edit change
  | .snapshot => session.takeSnapshot
  | .query _ => session

def run (session : Session) (operations : List Operation) : Session :=
  operations.foldl perform session

lemma run_append (session : Session) (operations more : List Operation) :
    session.run (operations ++ more) = (session.run operations).run more :=
  List.foldl_append

lemma content_perform (session : Session) (operation : Operation) (slot : Slot) :
    (session.perform operation).live.content slot =
      (operation.write? slot).getD (session.live.content slot) := by
  cases operation with
  | edit change => exact session.live.content_apply change slot
  | snapshot | query index? => rfl

/-- A slot holds what was written to it last, or what it held before. -/
theorem content_run (session : Session) (operations : List Operation) (slot : Slot) :
    (session.run operations).live.content slot =
      (lastWrite? operations slot).getD (session.live.content slot) := by
  induction operations using List.reverseRecOn with
  | nil => rfl
  | append_singleton operations last ih =>
    rw [run_append, lastWrite?_concat]
    change ((session.run operations).perform last).live.content slot = _
    rw [content_perform, ih]
    cases last.write? slot <;> rfl

lemma snapshots_perform (session : Session) (operation : Operation) :
    session.snapshots <+: (session.perform operation).snapshots := by
  cases operation with
  | edit change | query index? => exact List.prefix_rfl
  | snapshot => exact List.prefix_append _ _

lemma snapshots_run (session : Session) (operations : List Operation) :
    session.snapshots <+: (session.run operations).snapshots := by
  induction operations generalizing session with
  | nil => exact List.prefix_rfl
  | cons operation operations ih =>
    exact (session.snapshots_perform operation).trans (ih (session.perform operation))

/-- A snapshot stays as it was taken. -/
theorem settingsAt_run_takeSnapshot (session : Session) (operations : List Operation) :
    (session.takeSnapshot.run operations).settingsAt (some session.snapshots.length) =
      session.live := by
  have htaken : session.takeSnapshot.snapshots[session.snapshots.length]? = some session.live := by
    simp [takeSnapshot]
  obtain ⟨later, hlater⟩ := session.takeSnapshot.snapshots_run operations
  have hkept : (session.takeSnapshot.run operations).snapshots[session.snapshots.length]? =
      some session.live := by
    rw [← hlater, List.getElem?_append_left (List.getElem?_eq_some_iff.mp htaken).1, htaken]
  rw [settingsAt, hkept, Option.getD_some]

/-- After any operations each slot of the live settings holds what was written to it last, or what
it held at first. Colors are looked up in the palette imported last, unless it was removed since,
and then among the names that the user gave last. The number of tags is that of the layers with a
tag, a snapshot is read as the live settings were when it was taken, and edits of different slots
can be made in either order. -/
theorem run_last_writes (session : Session) (operations : List Operation) :
    let final := session.run operations
    (∀ id, final.live.userTag? id =
      (lastWrite? operations (.tag id)).getD (session.live.userTag? id)) ∧
    (∀ hex, final.live.overridingName? hex =
      (((lastWrite? operations .imported).getD session.live.imported?).bind (·.find? hex)).or
        (((lastWrite? operations .custom).getD session.live.custom).find? hex)) ∧
    final.live.pictures = (lastWrite? operations .pictures).getD session.live.pictures ∧
    final.live.vocabulary = (lastWrite? operations .vocabulary).getD session.live.vocabulary ∧
    {id | (final.live.userTag? id).isSome}.encard = final.live.tags.size ∧
    (∀ before later, operations = before ++ .snapshot :: later →
      final.settingsAt (some (session.run before).snapshots.length) =
        (session.run before).settingsAt none) ∧
    ∀ first second : Edit, first.slot ≠ second.slot →
      (final.edit first).edit second = (final.edit second).edit first := by
  intro final
  have hcontent := session.content_run operations
  have himported : final.live.imported? =
      (lastWrite? operations .imported).getD session.live.imported? := hcontent .imported
  have hcustom : final.live.custom = (lastWrite? operations .custom).getD session.live.custom :=
    hcontent .custom
  refine ⟨fun id => hcontent (.tag id), fun hex => ?_, hcontent .pictures, hcontent .vocabulary,
    final.live.encard_tagged, ?_, fun first second h => ?_⟩
  · rw [Settings.overridingName?, himported, hcustom]
  · rintro before later rfl
    change (session.run (before ++ .snapshot :: later)).settingsAt _ = _
    rw [run_append]
    exact (session.run before).settingsAt_run_takeSnapshot later
  · rw [edit, edit, edit, edit, Settings.apply_comm _ h]

-- The tag was taken back after it was given, and the palette was never touched.
example : lastWrite? [.edit (.setTag "1:2" "nav"), .snapshot, .edit (.clearTag "1:2")] (.tag "1:2") =
    some none ∧ lastWrite? [.edit (.setTag "1:2" "nav"), .snapshot] .imported = none :=
  ⟨rfl, rfl⟩

end Session

end UtilityMarkup
