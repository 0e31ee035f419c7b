import Mathlib.Data.List.Induction
import UtilityMarkup.Proofs.ColorPriority
import UtilityMarkup.Proofs.Tables

/-!
# Palettes through changes

A palette is made anew from pairs, gives names to colors and takes them back. After any changes it
is a map from normal forms of hexes to names, and the name of a color is decided by the last change
that concerns its normal form.
-/

namespace UtilityMarkup

inductive PaletteChange where
  | ofPairs (pairs : List (String × String))
  | insert (hex name : String)
  | take (hex : String)

namespace PaletteChange

/-- The change decides which name the color with this normal form has. -/
def Decides (form : String) : PaletteChange → Prop
  | ofPairs _ => True
  | insert hex _ | take hex => Palette.normalHex hex = form

instance (form : String) : DecidablePred (Decides form) := fun change =>
  match change with
  | ofPairs _ => inferInstanceAs (Decidable True)
  | insert hex _ | take hex => inferInstanceAs (Decidable (Palette.normalHex hex = form))

/-- The name that the color with this normal form has after a change that decides it. -/
def name? (form : String) : PaletteChange → Option String
  | ofPairs pairs => Palette.firstName? pairs form
  | insert _ name => some name
  | take _ => none

def lastDeciding? (form : String) (changes : List PaletteChange) : Option PaletteChange :=
  changes.reverse.find? (·.Decides form)

lemma lastDeciding?_concat (form : String) (changes : List PaletteChange) (last : PaletteChange) :
    lastDeciding? form (changes ++ [last]) =
      if last.Decides form then some last else lastDeciding? form changes := by
  rw [lastDeciding?, List.reverse_append, List.reverse_singleton, List.singleton_append,
    List.find?_cons, lastDeciding?]
  split <;> simp_all

lemma lastDeciding?_eq_some_iff {form : String} {changes : List PaletteChange}
    {last : PaletteChange} :
    lastDeciding? form changes = some last ↔
      last.Decides form ∧ ∃ before later, changes = before ++ last :: later ∧
        ∀ change ∈ later, ¬change.Decides form := by
  simp only [lastDeciding?, find?_reverse_eq_some_iff, decide_eq_true_iff, decide_eq_false_iff_not]

end PaletteChange

namespace Palette

open PaletteChange

lemma find?_congr (palette : Palette) {hex other : String} (h : normalHex hex = normalHex other) :
    palette.find? hex = palette.find? other := by
  rw [find?, find?, h]

/-! ### Rows and size -/

lemma mem_rows_iff {palette : Palette} {hex name : String} :
    (hex, name) ∈ palette.rows ↔ normalHex hex = hex ∧ palette.find? hex = some name := by
  rw [rows, Std.ExtTreeMap.mem_toList_iff_getElem?_eq_some, find?]
  constructor
  · intro h
    have hnormal : normalHex hex = hex :=
      palette.normal hex (Std.ExtTreeMap.mem_iff_isSome_getElem?.mpr (by rw [h]; rfl))
    exact ⟨hnormal, by rwa [hnormal]⟩
  · rintro ⟨hnormal, h⟩
    rwa [hnormal] at h

lemma nodup_rows (palette : Palette) : (palette.rows.map (·.1)).Nodup := by
  rw [rows, Std.ExtTreeMap.map_fst_toList_eq_keys]
  exact Std.ExtTreeMap.nodup_keys

/-- The size of a palette is the number of normal forms with a name. -/
lemma encard_named (palette : Palette) :
    {form | ∃ hex, normalHex hex = form ∧ (palette.find? hex).isSome}.encard = palette.size := by
  have hforms : {form | ∃ hex, normalHex hex = form ∧ (palette.find? hex).isSome} =
      {form | form ∈ palette.names} := by
    ext form
    simp only [Set.mem_ofPred_eq, Std.ExtTreeMap.mem_iff_isSome_getElem?, find?]
    constructor
    · rintro ⟨hex, rfl, hnamed⟩
      exact hnamed
    · intro hnamed
      have hnormal := palette.normal form (Std.ExtTreeMap.mem_iff_isSome_getElem?.mpr hnamed)
      exact ⟨form, hnormal, by rwa [hnormal]⟩
  rw [hforms, encard_mem, size]

/-! ### Names after changes -/

def change (palette : Palette) : PaletteChange → Palette
  | .ofPairs pairs => ofPairs pairs
  | .insert hex name => palette.insert hex name
  | .take hex => (palette.take? hex).2

/-- What becomes of the empty palette. -/
def changed (changes : List PaletteChange) : Palette :=
  changes.foldl change empty

lemma find?_change (palette : Palette) (last : PaletteChange) (hex : String) :
    (palette.change last).find? hex =
      if last.Decides (normalHex hex) then last.name? (normalHex hex) else palette.find? hex := by
  cases last with
  | ofPairs pairs => exact (find?_ofPairs pairs hex).trans (if_pos trivial).symm
  | insert inserted name => exact palette.find?_insert inserted hex name
  | take taken => exact palette.find?_take? taken hex

/-- The last change that decides the name of a color says what it is. -/
theorem find?_changed (changes : List PaletteChange) (hex : String) :
    (changed changes).find? hex =
      (lastDeciding? (normalHex hex) changes).bind (name? (normalHex hex)) := by
  induction changes using List.reverseRecOn with
  | nil => exact find?_empty hex
  | append_singleton changes last ih =>
    rw [changed, List.foldl_append]
    change ((changed changes).change last).find? hex = _
    rw [find?_change, lastDeciding?_concat, ih]
    split <;> rfl

lemma find?_changed_eq_some_iff {changes : List PaletteChange} {hex name : String} :
    (changed changes).find? hex = some name ↔
      (∃ before inserted later, changes = before ++ .insert inserted name :: later ∧
        normalHex inserted = normalHex hex ∧
        ∀ change ∈ later, ¬change.Decides (normalHex hex)) ∨
      ∃ before pairs later, changes = before ++ .ofPairs pairs :: later ∧
        firstName? pairs (normalHex hex) = some name ∧
        ∀ change ∈ later, ¬change.Decides (normalHex hex) := by
  rw [find?_changed, Option.bind_eq_some_iff]
  constructor
  · rintro ⟨last, hlast, hname⟩
    obtain ⟨hdecides, before, later, hchanges, hlater⟩ := lastDeciding?_eq_some_iff.mp hlast
    cases last with
    | ofPairs pairs => exact .inr ⟨before, pairs, later, hchanges, hname, hlater⟩
    | insert inserted name' =>
      cases hname
      exact .inl ⟨before, inserted, later, hchanges, hdecides, hlater⟩
    | take taken => cases hname
  · rintro (⟨before, inserted, later, hchanges, hform, hlater⟩ |
      ⟨before, pairs, later, hchanges, hname, hlater⟩)
    · exact ⟨.insert inserted name,
        lastDeciding?_eq_some_iff.mpr ⟨hform, before, later, hchanges, hlater⟩, rfl⟩
    · exact ⟨.ofPairs pairs,
        lastDeciding?_eq_some_iff.mpr ⟨trivial, before, later, hchanges, hlater⟩, hname⟩

/-- A normal form is its own normal form. After any changes a palette lists each normal form with a
name once, together with what is found for it; what is found depends on the normal form only. It is
the name given to the form last, or the one in the first pair for the form of the pairs that the
palette was last made from, unless something decided the name since. Taking a name away returns
what was found, and the size is the number of normal forms with a name. -/
theorem changed_is_map (changes : List PaletteChange) :
    let palette := changed changes
    (∀ hex, normalHex (normalHex hex) = normalHex hex) ∧
    (∀ hex name, (hex, name) ∈ palette.rows ↔ normalHex hex = hex ∧ palette.find? hex = some name) ∧
    (palette.rows.map (·.1)).Nodup ∧
    (∀ hex other, normalHex hex = normalHex other → palette.find? hex = palette.find? other) ∧
    (∀ hex name, palette.find? hex = some name ↔
      (∃ before inserted later, changes = before ++ .insert inserted name :: later ∧
        normalHex inserted = normalHex hex ∧
        ∀ change ∈ later, ¬change.Decides (normalHex hex)) ∨
      ∃ before pairs later, changes = before ++ .ofPairs pairs :: later ∧
        firstName? pairs (normalHex hex) = some name ∧
        ∀ change ∈ later, ¬change.Decides (normalHex hex)) ∧
    (∀ hex, (palette.take? hex).1 = palette.find? hex ∧
      (palette.take? hex).2.find? hex = none) ∧
    {form | ∃ hex, normalHex hex = form ∧ (palette.find? hex).isSome}.encard = palette.size := by
  intro palette
  refine ⟨normalHex_normalHex, fun hex name => mem_rows_iff, palette.nodup_rows,
    fun hex other => palette.find?_congr, fun hex name => find?_changed_eq_some_iff,
    fun hex => ⟨rfl, ?_⟩, palette.encard_named⟩
  rw [find?_take?, if_pos rfl]

def brandChanges : List PaletteChange :=
  [.ofPairs [("#EF4444", "red"), ("ef4444", "crimson"), ("#000000", "ink")],
    .insert " ##ef4444" "danger", .take "000000"]

theorem changed_is_map_brand :
    normalHex "EF4444" = normalHex "#ef4444 " ∧
      (changed brandChanges).find? "EF4444" = some "danger" ∧
      (changed brandChanges).find? "#ef4444 " = some "danger" ∧
      ("#ef4444", "danger") ∈ (changed brandChanges).rows := by
  obtain ⟨-, hrows, -, hcongr, hnames, -, -⟩ := changed_is_map brandChanges
  have hform : normalHex "EF4444" = normalHex "#ef4444 " := by decide
  have hname : (changed brandChanges).find? "EF4444" = some "danger" := by
    refine (hnames _ _).mpr (.inl ⟨brandChanges.take 1, " ##ef4444", [.take "000000"], rfl, by decide, ?_⟩)
    rw [List.forall_mem_singleton]
    decide
  exact ⟨hform, hname, hcongr _ _ hform ▸ hname,
    (hrows _ _).mpr ⟨by decide, (hcongr _ _ (by decide)).trans hname⟩⟩

end Palette

end UtilityMarkup
