import DeviceAlerts.Proofs.Rule.Loading
import DeviceAlerts.Proofs.Store.Tags
import Mathlib.Data.List.Perm.Basic

/-! The groups of a book hold every rule once, whatever devices they belong to, so the rules in
force can be counted and looked for in the groups. A tag whose number has a rule in force is a tag
that compiles. -/

namespace DeviceAlerts

open DeviceAlerts.Time

theorem Table.values_modify_append {κ α : Type} [BEq κ] (t : Table κ (List α)) (key : κ) (a : α) :
    (t.modify key fun old => old.getD [] ++ [a]).values.flatten.Perm (a :: t.values.flatten) := by
  induction t with
  | nil => exact .refl _
  | cons row rest ih =>
    by_cases here : (row.1 == key) = true
    · have hmodify : Table.modify key (fun old => old.getD [] ++ [a]) (row :: rest) =
          (row.1, row.2 ++ [a]) :: rest := by
        simp only [modify, set, get?, List.find?_cons, here, if_true, Option.map_some,
          Option.getD_some]
      rw [hmodify]
      simp only [values, List.map_cons, List.flatten_cons, List.append_assoc, List.singleton_append]
      exact List.perm_middle
    · have hmodify : Table.modify key (fun old => old.getD [] ++ [a]) (row :: rest) =
          row :: Table.modify key (fun old => old.getD [] ++ [a]) rest := by
        simp only [modify, set, get?, List.find?_cons, here, if_false, Bool.false_eq_true]
      rw [hmodify]
      simp only [values, List.map_cons, List.flatten_cons] at ih ⊢
      exact (ih.append_left row.2).trans List.perm_middle

namespace Book

theorem values_group_from (rules : List Rule) (t : Table Datum (List Rule)) :
    ((rules.foldl (fun t r => t.modify r.tag.deviceId fun old => old.getD [] ++ [r]) t).values
      ).flatten.Perm (t.values.flatten ++ rules) := by
  induction rules generalizing t with
  | nil =>
    rw [List.append_nil]
    exact .refl _
  | cons r rest ih =>
    rw [List.foldl_cons]
    refine (ih _).trans ?_
    have hstep := (Table.values_modify_append t r.tag.deviceId r).append_right rest
    exact hstep.trans List.perm_middle.symm

/-- The groups hold the rules, in some order. -/
theorem values_group (rules : List Rule) : (group rules).values.flatten.Perm rules :=
  values_group_from rules []

variable {rules : List Rule} {book : Book}

theorem ruleCount_of_groups (h : book.groups = group rules) : book.ruleCount = rules.length := by
  rw [ruleCount, h]
  exact (values_group rules).length_eq

theorem isActive_of_groups (h : book.groups = group rules) (id : Datum) :
    book.isActive id = rules.any fun r => r.tag.id == id := by
  rw [isActive, h, ← (values_group rules).any_eq, List.any_flatten]

end Book

/-! ### Tags that compile -/

namespace Tag

def compiles (t : Tag) : Bool := t.rule?.isSome

theorem length_filterMap_rule? (tags : List Tag) :
    (tags.filterMap rule?).length = tags.countP compiles := by
  induction tags with
  | nil => rfl
  | cons t rest ih =>
    rw [List.filterMap_cons, List.countP_cons, ← ih, compiles]
    cases t.rule? <;> rfl

end Tag

/-- A stored tag is shown as active exactly when it compiles. -/
theorem Book.isActive_eq_compiles {s : Store.Tags} (numbered : s.Numbered) {book : Book}
    (h : book.groups = group (s.rows.filterMap Tag.rule?)) {t : Tag} (ht : t ∈ s.rows) :
    book.isActive t.id = t.compiles := by
  rw [isActive_of_groups h, Bool.eq_iff_iff, List.any_eq_true]
  constructor
  · rintro ⟨r, hr, hid⟩
    obtain ⟨u, hu, hcompiled⟩ := List.mem_filterMap.mp hr
    obtain ⟨rfl, _⟩ := Tag.compile_eq_ok.mp (Tag.rule?_eq_some.mp hcompiled)
    rw [← numbered.eq_of_beq_id hu ht hid, Tag.compiles, hcompiled]
    rfl
  · intro hcompiles
    obtain ⟨r, hr⟩ := Option.isSome_iff_exists.mp hcompiles
    obtain ⟨hself, _⟩ := Tag.compile_eq_ok.mp (Tag.rule?_eq_some.mp hr)
    refine ⟨r, List.mem_filterMap.mpr ⟨t, ht, hr⟩, ?_⟩
    rw [hself]
    exact numbered.beq_id ht

end DeviceAlerts
