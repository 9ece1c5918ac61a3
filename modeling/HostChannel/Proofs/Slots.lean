import Std.Data.ExtTreeMap
import Mathlib.Algebra.BigOperators.Group.List.Basic
import Mathlib.Algebra.Order.Group.Multiset

/-!
# What named objects hold together

The objects of a session are kept by name, and the channels of a device by number. What they hold
together is the sum of what each of them holds. Taking an object away takes what it holds out of
the sum, and naming one puts what it holds into the sum of the others.
-/

namespace HostChannel.Slots

variable {κ α β : Type} [Ord κ] [Std.TransOrd κ]

/-- The objects are those of the named objects. -/
theorem values_eq (slots : Std.ExtTreeMap κ α) : slots.values = slots.toList.map Prod.snd := by
  obtain ⟨inner⟩ := slots
  induction inner using Std.ExtDTreeMap.inductionOn with
  | mk tree =>
    change tree.inner.values =
      (Std.DTreeMap.Internal.Impl.Const.toList tree.inner).map Prod.snd
    rw [Std.DTreeMap.Internal.Impl.values_eq_map_snd,
      Std.DTreeMap.Internal.Impl.Const.toList_eq_toListModel_map, List.map_map]
    rfl

/-- What the objects hold together, each what it holds by itself. -/
def total (holds : α → Multiset β) (slots : Std.ExtTreeMap κ α) : Multiset β :=
  (slots.values.map holds).sum

/-- Objects that hold nothing hold nothing together. -/
theorem total_none (slots : Std.ExtTreeMap κ α) : total (fun _ => (0 : Multiset β)) slots = 0 := by
  simp [total]

/-- Without objects nothing is held. -/
@[simp] theorem total_empty (holds : α → Multiset β) :
    total holds (∅ : Std.ExtTreeMap κ α) = 0 := by
  have none : (∅ : Std.ExtTreeMap κ α).toList = [] := rfl
  rw [total, values_eq, none]
  rfl

variable [Std.LawfulEqOrd κ]

/-- What has a name when an object was named is that object, or had the name before. -/
theorem of_getElem?_insert {slots : Std.ExtTreeMap κ α} {name other : κ} {object held : α}
    (found : (slots.insert name object)[other]? = some held) :
    other = name ∧ held = object ∨ slots[other]? = some held := by
  rw [Std.ExtTreeMap.getElem?_insert] at found
  split at found
  · rename_i same
    exact .inl ⟨(Std.LawfulEqCmp.eq_of_compare same).symm, (Option.some.inj found).symm⟩
  · exact .inr found

/-- What has a name when a name was freed has another one, and had it before. -/
theorem of_getElem?_erase {slots : Std.ExtTreeMap κ α} {name other : κ} {held : α}
    (found : (slots.erase name)[other]? = some held) :
    other ≠ name ∧ slots[other]? = some held := by
  rw [Std.ExtTreeMap.getElem?_erase] at found
  split at found
  · contradiction
  · rename_i different
    exact ⟨fun same => different (same ▸ Std.ReflCmp.compare_self), found⟩

/-- No named object is listed twice. -/
theorem nodup_toList (slots : Std.ExtTreeMap κ α) : slots.toList.Nodup :=
  Std.ExtTreeMap.distinct_keys_toList.imp fun {first second} different same => by
    rw [same] at different
    exact different Std.ReflCmp.compare_self

/-- Naming an object lists it with those of other names. -/
theorem toList_insert_perm (slots : Std.ExtTreeMap κ α) (name : κ) (object : α) :
    (slots.insert name object).toList.Perm ((name, object) :: (slots.erase name).toList) := by
  have absent : (name, object) ∉ (slots.erase name).toList := by
    rw [Std.ExtTreeMap.mem_toList_iff_getElem?_eq_some, Std.ExtTreeMap.getElem?_erase_self]
    exact nofun
  rw [List.perm_ext_iff_of_nodup (nodup_toList _)
    (List.nodup_cons.mpr ⟨absent, nodup_toList _⟩)]
  intro ⟨other, held⟩
  rw [List.mem_cons, Std.ExtTreeMap.mem_toList_iff_getElem?_eq_some,
    Std.ExtTreeMap.mem_toList_iff_getElem?_eq_some, Std.ExtTreeMap.getElem?_insert,
    Std.ExtTreeMap.getElem?_erase, Prod.mk.injEq]
  by_cases same : name = other
  · subst same
    simp [eq_comm]
  · simp [same, Ne.symm same, Std.LawfulEqCmp.compare_eq_iff_eq]

/-- So the objects are then those of the other names and the new one. -/
theorem values_insert_perm (slots : Std.ExtTreeMap κ α) (name : κ) (object : α) :
    (slots.insert name object).values.Perm (object :: (slots.erase name).values) := by
  rw [values_eq, values_eq]
  exact (toList_insert_perm slots name object).map Prod.snd

/-- Naming an object again as it is named changes nothing. -/
theorem insert_self {slots : Std.ExtTreeMap κ α} {name : κ} {object : α}
    (found : slots[name]? = some object) : slots.insert name object = slots := by
  apply Std.ExtTreeMap.ext_getElem?
  intro other
  rw [Std.ExtTreeMap.getElem?_insert]
  split
  · rename_i same
    rw [← Std.LawfulEqCmp.eq_of_compare same, found]
  · rfl

/-- Freeing a name that nothing has changes nothing. -/
theorem erase_of_none {slots : Std.ExtTreeMap κ α} {name : κ} (absent : slots[name]? = none) :
    slots.erase name = slots := by
  apply Std.ExtTreeMap.ext_getElem?
  intro other
  rw [Std.ExtTreeMap.getElem?_erase]
  split
  · rename_i same
    rw [← Std.LawfulEqCmp.eq_of_compare same, absent]
  · rfl

variable (holds : α → Multiset β)

/-- A named object holds what it holds beside the objects of other names. -/
theorem total_insert (slots : Std.ExtTreeMap κ α) (name : κ) (object : α) :
    total holds (slots.insert name object) = holds object + total holds (slots.erase name) := by
  have order := (values_insert_perm slots name object).map holds
  rw [total, order.sum_eq, List.map_cons, List.sum_cons, total]

variable {holds} {slots : Std.ExtTreeMap κ α} {name : κ}

/-- So does one that is named already. -/
theorem total_of_some {object : α} (found : slots[name]? = some object) :
    total holds slots = holds object + total holds (slots.erase name) := by
  rw [← total_insert, insert_self found]

/-- An object that takes a name over puts what it holds in the place of what the object before it
held, if there was one. -/
theorem total_takeOver (slots : Std.ExtTreeMap κ α) (name : κ) (object : α) :
    holds object + total holds slots =
      slots[name]?.elim 0 holds + total holds (slots.insert name object) := by
  rw [total_insert]
  cases found : slots[name]? with
  | none => rw [erase_of_none found, Option.elim_none, zero_add]
  | some before => rw [total_of_some found, Option.elim_some, add_left_comm]

/-- An object may be put in the place of one that holds the same. -/
theorem total_insert_of_eq {object other : α} (found : slots[name]? = some object)
    (same : holds other = holds object) :
    total holds (slots.insert name other) = total holds slots := by
  rw [total_insert, same, total_of_some found]

end HostChannel.Slots
