import BeanKit.Container.Catalog
/-! # The first of each name

Catalogs and inventories are filled in turn, and a name that is taken stays with whom it was first
given to. What comes of it is told by the list of all that has been offered: each member stays that
has no namesake in front of it. -/

namespace BeanKit

section Firsts

variable {α κ : Type} [DecidableEq κ] (key : α → κ)

/-- The members of a list whose key no earlier member has. -/
def firstsBy : List α → List α
  | [] => []
  | a :: rest => a :: (firstsBy rest).filter (key · ≠ key a)

theorem firstsBy_sublist (l : List α) : (firstsBy key l).Sublist l := by
  induction l with
  | nil => exact .slnil
  | cons a rest ih => exact (List.filter_sublist.trans ih).cons_cons a

theorem nodup_firstsBy (l : List α) : ((firstsBy key l).map key).Nodup := by
  induction l with
  | nil => exact .nil
  | cons a rest ih =>
    refine List.nodup_cons.2 ⟨fun hmem => ?_, ih.sublist (List.filter_sublist.map key)⟩
    obtain ⟨b, hb, hkey⟩ := List.mem_map.1 hmem
    simp [hkey] at hb

/-- Of the members with one key, the first stays. -/
theorem filter_firstsBy (k : κ) (l : List α) :
    (firstsBy key l).filter (key · = k) = (l.find? (key · = k)).toList := by
  induction l with
  | nil => rfl
  | cons a rest ih =>
    by_cases ha : key a = k
    · simp [firstsBy, ha, List.filter_filter]
    · -- What has the key `k` is not taken out with the namesakes of `a`.
      have hkept (b : α) : (decide (key b = k) && decide (key b ≠ key a)) = decide (key b = k) := by
        by_cases hb : key b = k <;> simp [hb, Ne.symm ha]
      rw [firstsBy, List.filter_cons_of_neg (by simpa using ha), List.filter_filter]
      simp only [hkept, ih, List.find?_cons_of_neg (p := (key · = k)) (by simpa using ha)]

theorem find?_firstsBy (k : κ) (l : List α) :
    (firstsBy key l).find? (key · = k) = l.find? (key · = k) := by
  rw [← List.head?_filter, filter_firstsBy, Option.head?_toList]

theorem firstsBy_append (l l' : List α) :
    firstsBy key (l ++ l') = firstsBy key l ++ (firstsBy key l').filter (key · ∉ l.map key) := by
  induction l with
  | nil => simp [firstsBy, List.filter_eq_self.2]
  | cons a rest ih => simp [firstsBy, ih, List.filter_filter, not_or]

theorem firstsBy_of_nodup {l : List α} (h : (l.map key).Nodup) : firstsBy key l = l := by
  induction l with
  | nil => rfl
  | cons a rest ih =>
    rw [List.map_cons, List.nodup_cons] at h
    rw [firstsBy, ih h.2, List.filter_eq_self.2]
    intro b hb
    have hne : key b ≠ key a := fun hkey => h.1 (hkey ▸ List.mem_map_of_mem hb)
    simp [hne]

end Firsts

/-! ## Maps, catalogs and inventories -/

/-- Writing where a name is absent, in turn: the entries so far stay in front, and of each name that
they lack the first comes behind them. -/
theorem OrderedMap.entries_foldl_insertIfAbsent {α κ : Type} [DecidableEq κ] (key : α → κ)
    (l : List α) (m : OrderedMap κ α) :
    (l.foldl (fun m a => m.insertIfAbsent (key a) a) m).entries =
      m.entries ++ ((firstsBy key l).filter (key · ∉ m.keys)).map fun a => (key a, a) := by
  induction l generalizing m with
  | nil => simp [firstsBy]
  | cons a rest ih =>
    rw [List.foldl_cons, ih, firstsBy]
    by_cases ha : key a ∈ m.keys
    · have hm : m.insertIfAbsent (key a) a = m := by
        rw [insertIfAbsent, dif_pos ((m.contains_iff_mem_keys _).2 ha)]
      have hrest (b : α) : (decide (key b ∉ m.keys) && decide (key b ≠ key a)) =
          decide (key b ∉ m.keys) := by
        by_cases hb : key b = key a <;> simp [hb, ha]
      simp only [hm, ha, List.filter_filter, hrest, not_true_eq_false, decide_false,
        List.filter_cons_of_neg, Bool.false_eq_true, not_false_eq_true]
    · have hm : (m.insertIfAbsent (key a) a).entries = m.entries ++ [(key a, a)] := by
        rw [insertIfAbsent, dif_neg fun hc => ha ((m.contains_iff_mem_keys _).1 hc)]
      have hkeys : (m.insertIfAbsent (key a) a).keys = m.keys ++ [key a] := by
        rw [keys, hm, List.map_append]
        rfl
      simp [hm, hkeys, ha, List.filter_filter, not_or, Bool.and_comm]

namespace Catalog

theorem toOrderedMap_addAll (c : Catalog) (ds : List Definition) :
    (c.addAll ds).toOrderedMap =
      ds.foldl (fun m d => m.insertIfAbsent d.name d) c.toOrderedMap := by
  induction ds generalizing c with
  | nil => rfl
  | cons d rest ih => exact ih (c.add d)

theorem entries_eq (c : Catalog) : c.entries = c.definitions.map fun d => (d.name, d) := by
  rw [definitions, OrderedMap.values, List.map_map]
  refine (List.map_id _).symm.trans (List.map_congr_left fun e he => ?_)
  exact Prod.ext (c.named e he) rfl

theorem keys_eq (c : Catalog) : c.keys = c.definitions.map Definition.name := by
  rw [OrderedMap.keys, entries_eq, List.map_map]
  rfl

/-- A catalog keeps the first of each name among what it has and what is entered. -/
theorem definitions_addAll (c : Catalog) (ds : List Definition) :
    (c.addAll ds).definitions = firstsBy Definition.name (c.definitions ++ ds) := by
  rw [definitions, OrderedMap.values, toOrderedMap_addAll,
    OrderedMap.entries_foldl_insertIfAbsent Definition.name, firstsBy_append,
    firstsBy_of_nodup _ c.nodup_names, keys_eq, List.map_append, List.map_map]
  exact congrArg _ (List.map_id _)

theorem get?_eq_find? (c : Catalog) (name : String) :
    c.get? name = c.definitions.find? (·.name = name) := by
  rw [OrderedMap.get?, entries_eq, List.find?_map, Option.map_map]
  exact congrFun Option.map_id _

end Catalog

theorem Inventory.values_ofSubmissions (ds : List Definition) :
    (Inventory.ofSubmissions ds).values = firstsBy Definition.name ds := by
  have hentries := OrderedMap.entries_foldl_insertIfAbsent Definition.name ds .empty
  unfold ofSubmissions submit OrderedMap.values
  rw [hentries]
  simp [OrderedMap.empty, OrderedMap.keys, List.filter_eq_self.2, Function.comp_def]

end BeanKit
