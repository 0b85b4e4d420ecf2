import BeanKit.Proofs.Container.FirstOfEach
import BeanKit.Proofs.Text.ByteOrder
/-! # The inventory hides the order of submissions

Types are entered into the inventory by hooks that run as a program starts, in an order that nobody
fixes. A scan sorts what it finds by name, and every name stands once, so that the order shows only in
which of several definitions of one name is found. -/

namespace BeanKit.Inventory

variable {i j : Inventory} {space : String}

theorem scan_perm (i : Inventory) (space : String) :
    (i.scan space).Perm (i.values.filter (·.inNamespace space)) := List.mergeSort_perm ..

/-- Where every name stands once, a scan lists the names one after the other. -/
theorem scan_ascending (h : (i.values.map Definition.name).Nodup) :
    (i.scan space).Pairwise fun a b => a.name < b.name := by
  have hle : (i.scan space).Pairwise fun a b => decide (a.name ≤ b.name) = true := by
    apply List.pairwise_mergeSort
    · intro a b c hab hbc
      exact decide_eq_true (le_trans (of_decide_eq_true hab) (of_decide_eq_true hbc))
    · intro a b
      simpa using le_total a.name b.name
  have hnodup : ((i.scan space).map Definition.name).Nodup :=
    ((i.scan_perm space).map _).nodup_iff.2 (h.sublist (List.filter_sublist.map _))
  refine (hle.and (List.pairwise_map.1 hnodup)).imp fun hab => ?_
  exact lt_of_le_of_ne (of_decide_eq_true hab.1) hab.2

/-- Inventories with the same definitions are scanned to the same list. -/
theorem scan_eq_of_perm (h : (i.values.map Definition.name).Nodup) (hperm : i.values.Perm j.values) :
    i.scan space = j.scan space := by
  have h' : (j.values.map Definition.name).Nodup := (hperm.map _).nodup_iff.1 h
  refine List.Perm.eq_of_pairwise ?_ (scan_ascending h) (scan_ascending h') ?_
  · intro a b _ _ hab hba
    exact absurd hab (lt_asymm hba)
  · exact (i.scan_perm space).trans ((hperm.filter _).trans (j.scan_perm space).symm)

theorem nodup_names_ofSubmissions (ds : List Definition) :
    ((ofSubmissions ds).values.map Definition.name).Nodup := by
  rw [values_ofSubmissions]
  exact nodup_firstsBy _ ds

/-- Under one name a scan finds the definition that was submitted first, if it lies in the namespace,
and no other one. -/
theorem filter_scan_ofSubmissions (ds : List Definition) (space name : String) :
    ((ofSubmissions ds).scan space).filter (·.name = name) =
      ((ds.find? (·.name = name)).filter (·.inNamespace space)).toList := by
  have hperm := ((ofSubmissions ds).scan_perm space).filter (·.name = name)
  rw [List.filter_comm, values_ofSubmissions, filter_firstsBy, ← Option.toList_filter] at hperm
  -- There is one such definition at most, so the two lists cannot differ in order.
  cases hfirst : (ds.find? (·.name = name)).filter (·.inNamespace space) with
  | none =>
    rw [hfirst] at hperm
    exact hperm.eq_nil
  | some d =>
    rw [hfirst] at hperm
    exact List.perm_singleton.1 hperm

/-- A scan lists, in the order of the bytes of their names, the definitions of the namespace that were
submitted first under their names. Definitions of distinct names are found alike in whatever order they
are submitted, and leave the same catalogs. -/
theorem scan_hides_order (ds : List Definition) (space : String) :
    ((ofSubmissions ds).scan space).Pairwise (fun a b => Text.bytes a.name < Text.bytes b.name) ∧
    (∀ name, ((ofSubmissions ds).scan space).filter (·.name = name) =
      ((ds.find? (·.name = name)).filter (·.inNamespace space)).toList) ∧
    ∀ ds', ds.Perm ds' → (ds.map Definition.name).Nodup →
      (ofSubmissions ds).scan space = (ofSubmissions ds').scan space ∧
      ∀ c : Catalog, c.addAll ((Scanner.inventory (ofSubmissions ds)).scan space) =
        c.addAll ((Scanner.inventory (ofSubmissions ds')).scan space) := by
  refine ⟨?_, filter_scan_ofSubmissions ds space, ?_⟩
  · refine (scan_ascending (nodup_names_ofSubmissions ds)).imp fun hab => ?_
    exact Text.bytes_lt_bytes_iff.2 hab
  · intro ds' hperm hnodup
    have hscan : (ofSubmissions ds).scan space = (ofSubmissions ds').scan space := by
      apply scan_eq_of_perm (nodup_names_ofSubmissions ds)
      rw [values_ofSubmissions, values_ofSubmissions, firstsBy_of_nodup _ hnodup,
        firstsBy_of_nodup _ ((hperm.map _).nodup_iff.1 hnodup)]
      exact hperm
    exact ⟨hscan, fun c => congrArg c.addAll hscan⟩

/-- A concrete type of a name, and nothing else about it. -/
def plainDefinition (name : String) : Definition :=
  { descriptor := { type := ⟨name, name⟩, kind := .concrete } }

theorem scan_hides_order_letters :
    let ds := ["inv::zeta", "inv2::Other", "inv::Zeta", "inv", "inv::Alpha"].map plainDefinition
    ds.Perm ds.reverse ∧ (ds.map Definition.name).Nodup ∧
    (ofSubmissions ds).scan "inv" = (ofSubmissions ds.reverse).scan "inv" ∧
    ∀ c : Catalog, c.addAll ((Scanner.inventory (ofSubmissions ds)).scan "inv") =
      c.addAll ((Scanner.inventory (ofSubmissions ds.reverse)).scan "inv") := by
  intro ds
  have hperm : ds.Perm ds.reverse := ds.reverse_perm.symm
  have hnodup : (ds.map Definition.name).Nodup := by decide
  obtain ⟨-, -, horder⟩ := scan_hides_order ds "inv"
  exact ⟨hperm, hnodup, horder ds.reverse hperm hnodup⟩

end BeanKit.Inventory
