import UtilityMarkup.Proofs.ClassSources

/-!
# Shared typography

The element around several text runs has the entries of the first run's typography that all the
runs have. So it styles no run other than the run does itself, it gains no entry from a run that is
added, and the order of the runs decides about the order of its entries only.
-/

namespace UtilityMarkup

namespace Classes

/-- A class of the one list is among the classes of a list that has all its entries. -/
lemma contains_mono {classes more : Classes}
    (h : ∀ entry ∈ classes.entries, entry ∈ more.entries) {name : String}
    (hname : classes.contains name = true) : more.contains name = true := by
  obtain ⟨entry, hentry, hword⟩ := List.any_eq_true.mp hname
  exact List.any_eq_true.mpr ⟨entry, h entry hentry, hword⟩

lemma contains_congr {classes more : Classes}
    (h : ∀ entry, entry ∈ classes.entries ↔ entry ∈ more.entries) (name : String) :
    classes.contains name = more.contains name := by
  rw [Bool.eq_iff_iff]
  exact ⟨contains_mono fun entry => (h entry).mp, contains_mono fun entry => (h entry).mpr⟩

/-- Entries are trimmed and not empty, so collecting some of them again keeps them as they are. -/
lemma entries_ofList_filter (classes : Classes) (p : String → Bool) :
    (ofList (classes.entries.filter p)).entries = classes.entries.filter p := by
  have hclean : ∀ entry ∈ classes.entries.filter p, entry ≠ "" ∧ Text.trim entry = entry :=
    fun entry hentry => classes.clean entry (List.mem_of_mem_filter hentry)
  exact congrArg entries (ofList_entries ⟨classes.entries.filter p, hclean⟩)

/-! ### Entries of all lists -/

lemma entries_shared_cons (first : Classes) (others : List Classes) :
    (shared (first :: others)).entries =
      first.entries.filter fun entry => ∀ list ∈ first :: others, entry ∈ list.entries := by
  rw [shared, entries_ofList_filter]
  refine List.filter_congr fun entry hentry => ?_
  rw [Bool.eq_iff_iff, List.all_eq_true, decide_eq_true_iff, List.forall_mem_cons,
    and_iff_right hentry]
  exact forall₂_congr fun list _ => List.contains_iff_mem

lemma mem_entries_shared_iff {lists : List Classes} (hne : lists ≠ []) {entry : String} :
    entry ∈ (shared lists).entries ↔ ∀ list ∈ lists, entry ∈ list.entries := by
  obtain ⟨first, others, rfl⟩ := List.exists_cons_of_ne_nil hne
  rw [entries_shared_cons, List.mem_filter, decide_eq_true_iff]
  exact and_iff_right_of_imp fun hall => hall first (by simp)

lemma entries_shared_append_sublist {lists : List Classes} (hne : lists ≠ [])
    (more : List Classes) :
    (shared (lists ++ more)).entries.Sublist (shared lists).entries := by
  obtain ⟨first, others, rfl⟩ := List.exists_cons_of_ne_nil hne
  rw [List.cons_append, entries_shared_cons, entries_shared_cons]
  refine List.monotone_filter_right _ fun entry hall => ?_
  rw [decide_eq_true_iff] at hall ⊢
  intro list hlist
  exact hall list (by rw [← List.cons_append]; exact List.mem_append_left more hlist)

lemma mem_entries_shared_of_perm {lists more : List Classes} (hne : lists ≠ [])
    (hperm : more.Perm lists) {entry : String} :
    entry ∈ (shared more).entries ↔ entry ∈ (shared lists).entries := by
  have hne' : more ≠ [] := fun hempty => hne (hempty ▸ hperm).symm.eq_nil
  rw [mem_entries_shared_iff hne, mem_entries_shared_iff hne']
  exact forall_congr' fun list => imp_congr_left hperm.mem_iff

end Classes

/-! ### Typography of text layers -/

namespace Layer

def withRuns (layer : Layer) (runs : List TextRun) : Layer :=
  { layer with runs := runs }

end Layer

namespace Context

variable {context : Context} {layer : Layer} {node : Node}

lemma textTypography_of_several (h : 2 ≤ layer.runs.length) :
    context.textTypography layer = .shared (layer.runs.map context.settings.typography) := by
  match hruns : layer.runs, h with
  | first :: second :: others, _ => simp only [textTypography, hruns]

lemma typography_mem_run {run : TextRun} {entry : String}
    (hentry : entry ∈ (context.settings.typography run).entries) :
    entry ∈ (context.run run).classes.entries := by
  rw [Context.run, Classes.entries_append]
  exact List.mem_append_left _ hentry

lemma generate_of_several (context : Context) (parent? : Option Parent)
    (hkind : node.layer.kind = .text) (h : 2 ≤ node.layer.runs.length) :
    context.generate node parent? =
      .ok (.element (styled (context.outline node).tag (context.text node.layer))
        (node.layer.runs.map context.runFragment) { colors := (context.text node.layer).colors }) := by
  have hrole : Role.of node = .text := by
    rw [Role.of, hkind]
    rfl
  rw [generate, hrole]
  simp only [textFragment, if_pos (show 1 < node.layer.runs.length from h)]

/-- The typography of the element around several runs is what all runs have of the first run's
typography, in its order. Every class of it is a class of each run as well, a run that is added at
the end adds none, and another order of the runs leaves the same classes. -/
theorem generate_shared_typography (context : Context) (parent? : Option Parent)
    (hkind : node.layer.kind = .text) (hruns : 2 ≤ node.layer.runs.length) :
    let layer := node.layer
    let typography := context.settings.typography
    let lifted := context.textTypography layer
    (∃ head own,
      context.generate node parent? =
        .ok (.element head (layer.runs.map context.runFragment) own) ∧
      head.className = (lifted ++ (context.fillStyling layer layer.textFills).classes).text) ∧
    (∃ first ∈ layer.runs.head?, lifted.entries =
      (typography first).entries.filter fun entry =>
        ∀ run ∈ layer.runs, entry ∈ (typography run).entries) ∧
    (∀ run ∈ layer.runs,
      (context.runFragment run).className? = some (context.run run).classes.text ∧
      (∀ entry ∈ lifted.entries, entry ∈ (context.run run).classes.entries) ∧
      ∀ name, lifted.contains name → (context.run run).classes.contains name) ∧
    (∀ run,
      let longer := context.textTypography (layer.withRuns (layer.runs ++ [run]))
      longer.entries.Sublist lifted.entries ∧
      ∀ name, longer.contains name → lifted.contains name) ∧
    ∀ runs, runs.Perm layer.runs →
      let reordered := context.textTypography (layer.withRuns runs)
      (∀ entry, entry ∈ reordered.entries ↔ entry ∈ lifted.entries) ∧
      ∀ name, reordered.contains name = lifted.contains name := by
  intro layer typography lifted
  have hlifted : lifted = .shared (layer.runs.map typography) := textTypography_of_several hruns
  obtain ⟨first, others, hcons⟩ := List.exists_cons_of_length_pos
    (Nat.lt_of_lt_of_le Nat.zero_lt_two hruns)
  have hne : layer.runs.map typography ≠ [] := by simp [layer, hcons]
  have hrun : ∀ run ∈ layer.runs, ∀ entry ∈ lifted.entries,
      entry ∈ (context.run run).classes.entries := by
    intro run hmem entry hentry
    rw [hlifted, Classes.mem_entries_shared_iff hne] at hentry
    exact typography_mem_run (hentry _ (List.mem_map_of_mem hmem))
  refine ⟨⟨_, _, generate_of_several context parent? hkind hruns, rfl⟩, ?_, ?_, ?_, ?_⟩
  · refine ⟨first, by simp [layer, hcons], ?_⟩
    rw [hlifted, show layer.runs = first :: others from hcons, List.map_cons,
      Classes.entries_shared_cons, ← List.map_cons]
    simp only [List.forall_mem_map]
  · intro run hmem
    refine ⟨?_, hrun run hmem, fun name => Classes.contains_mono (hrun run hmem)⟩
    rw [className?_runFragment, classesFrom_runSources]
  · intro run longer
    have hlonger : longer = .shared (layer.runs.map typography ++ [typography run]) := by
      have hlength : 2 ≤ (layer.withRuns (layer.runs ++ [run])).runs.length :=
        Nat.le_trans hruns (List.sublist_append_left _ _).length_le
      exact (textTypography_of_several hlength).trans (congrArg _ List.map_append)
    have hsublist : longer.entries.Sublist lifted.entries := by
      rw [hlonger, hlifted]
      exact Classes.entries_shared_append_sublist hne _
    exact ⟨hsublist, fun name => Classes.contains_mono fun entry => hsublist.mem⟩
  · intro runs hperm reordered
    have hreordered : reordered = .shared (runs.map typography) :=
      textTypography_of_several (Nat.le_trans hruns (Nat.le_of_eq hperm.length_eq.symm))
    have hentries (entry : String) : entry ∈ reordered.entries ↔ entry ∈ lifted.entries := by
      rw [hreordered, hlifted]
      exact Classes.mem_entries_shared_of_perm hne (hperm.map _)
    exact ⟨hentries, Classes.contains_congr hentries⟩

end Context

/-! ### A greeting with a bold word -/

def greeting : Node :=
  .mk { id := "greeting", name := "Greeting", kind := .text
        runs := [{ characters := "Hello ", font := ⟨"Open Sans", "Regular"⟩ },
          { characters := "world", font := ⟨"Open Sans", "Regular"⟩, weight := 700 }] } []

theorem generate_shared_typography_greeting :
    let context : Context := ⟨{}, {}⟩
    let lifted := context.textTypography greeting.layer
    greeting.layer.kind = .text ∧
    2 ≤ greeting.layer.runs.length ∧
    lifted.entries = ["font-[Open_Sans]", "text-base"] ∧
    (∀ run ∈ greeting.layer.runs,
      ∀ name, lifted.contains name → (context.run run).classes.contains name) ∧
    ∀ runs, runs.Perm greeting.layer.runs →
      ∀ entry, entry ∈ (context.textTypography (greeting.layer.withRuns runs)).entries ↔
        entry ∈ lifted.entries := by
  intro context lifted
  have hkind : greeting.layer.kind = .text := rfl
  have hruns : 2 ≤ greeting.layer.runs.length := Nat.le_refl 2
  obtain ⟨-, -, hrun, -, hperm⟩ := context.generate_shared_typography none hkind hruns
  exact ⟨hkind, hruns, by decide +kernel, fun run hmem => (hrun run hmem).2.2,
    fun runs h => (hperm runs h).1⟩

end UtilityMarkup
