import DeviceAlerts.Proofs.Table
import Mathlib.Algebra.BigOperators.Group.List.Basic
import Mathlib.Algebra.Ring.Int.Defs
import Mathlib.Data.Finset.Card
import Mathlib.Data.List.Induction
import Mathlib.Data.List.Nodup
import Mathlib.Logic.Function.Basic

/-! Gathering in tables. Elements that are entered one after the other, each under its own key, end
up in groups, one for every key. Keys need not be what stands in the table: a code that tells
different keys apart may stand for them. -/

namespace DeviceAlerts

/-! ### Passes in which nothing fails -/

section Pass

variable {α β ε : Type}

theorem foldlM_eq_ok {f : β → α → Except ε β} {g : β → α → β} {xs : List α}
    (h : ∀ b, ∀ x ∈ xs, f b x = .ok (g b x)) (b : β) : xs.foldlM f b = .ok (xs.foldl g b) := by
  induction xs generalizing b with
  | nil => rfl
  | cons x rest ih =>
    rw [List.foldlM_cons, h b x List.mem_cons_self]
    exact ih (fun b y hy => h b y (List.mem_cons_of_mem _ hy)) _

theorem foldlM_congr {f g : β → α → Except ε β} {xs : List α}
    (h : ∀ b, ∀ x ∈ xs, f b x = g b x) (b : β) : xs.foldlM f b = xs.foldlM g b := by
  induction xs generalizing b with
  | nil => rfl
  | cons x rest ih =>
    rw [List.foldlM_cons, List.foldlM_cons, h b x List.mem_cons_self]
    exact bind_congr fun b => ih (fun b y hy => h b y (List.mem_cons_of_mem _ hy)) b

theorem mapM_eq_ok {f : α → Except ε β} {g : α → β} {xs : List α}
    (h : ∀ x ∈ xs, f x = .ok (g x)) : xs.mapM f = .ok (xs.map g) := by
  induction xs with
  | nil => rfl
  | cons x rest ih =>
    obtain ⟨hx, hrest⟩ := List.forall_mem_cons.mp h
    rw [List.mapM_cons, hx, ih hrest]
    rfl

theorem mapM_congr {f g : α → Except ε β} {xs : List α} (h : ∀ x ∈ xs, f x = g x) :
    xs.mapM f = xs.mapM g := by
  induction xs with
  | nil => rfl
  | cons x rest ih =>
    obtain ⟨hx, hrest⟩ := List.forall_mem_cons.mp h
    rw [List.mapM_cons, List.mapM_cons, hx, ih hrest]

/-- What comes of the elements can be given by a function of them, where equal elements are treated
alike. -/
theorem exists_mapM_eq_ok [Nonempty β] {f : α → Except ε β} {P : α → β → Prop} {xs : List α}
    (h : ∀ x ∈ xs, ∃ y, f x = .ok y ∧ P x y) :
    ∃ g, xs.mapM f = .ok (xs.map g) ∧ ∀ x ∈ xs, P x (g x) := by
  choose! g hg using h
  exact ⟨g, mapM_eq_ok fun x hx => (hg x hx).1, fun x hx => (hg x hx).2⟩

theorem bind_eq_ok {x : Except ε α} {f : α → Except ε β} {b : β} :
    (x >>= f) = .ok b ↔ ∃ a, x = .ok a ∧ f a = .ok b := by
  cases x with
  | error e => exact ⟨nofun, fun ⟨a, h, _⟩ => nomatch h⟩
  | ok a => exact ⟨fun h => ⟨a, rfl, h⟩, fun ⟨b, same, h⟩ => Except.ok.inj same ▸ h⟩

theorem mapError_eq_ok {δ : Type} {x : Except ε α} {f : ε → δ} {a : α} :
    x.mapError f = .ok a ↔ x = .ok a := by
  cases x with
  | error e => exact ⟨nofun, nofun⟩
  | ok b => exact ⟨fun h => congrArg Except.ok (Except.ok.inj h), fun h => h ▸ rfl⟩

/-- When a second pass goes well wherever a first one does, and the results of each element are
related, then so are those of the whole lists. -/
theorem forall₂_mapM {γ δ : Type} {R : β → γ → Prop} {f : α → Except ε β} {g : α → Except δ γ}
    {xs : List α} {ys : List β}
    (h : ∀ x ∈ xs, ∀ y, f x = .ok y → ∃ z, g x = .ok z ∧ R y z) (run : xs.mapM f = .ok ys) :
    ∃ zs, xs.mapM g = .ok zs ∧ List.Forall₂ R ys zs := by
  induction xs generalizing ys with
  | nil => exact ⟨[], rfl, Except.ok.inj run ▸ .nil⟩
  | cons x rest ih =>
    rw [List.mapM_cons] at run
    obtain ⟨y, hy, run⟩ := bind_eq_ok.mp run
    obtain ⟨later, hlater, run⟩ := bind_eq_ok.mp run
    cases run
    obtain ⟨hx, hrest⟩ := List.forall_mem_cons.mp h
    obtain ⟨z, hz, related⟩ := hx y hy
    obtain ⟨zs, hzs, others⟩ := ih hrest hlater
    exact ⟨z :: zs, by rw [List.mapM_cons, hz, hzs]; rfl, .cons related others⟩

theorem exists_of_mapM_eq_ok {f : α → Except ε β} {xs : List α} {ys : List β}
    (run : xs.mapM f = .ok ys) : ∀ x ∈ xs, ∃ y, f x = .ok y := by
  induction xs generalizing ys with
  | nil => nofun
  | cons x rest ih =>
    rw [List.mapM_cons] at run
    obtain ⟨y, hy, run⟩ := bind_eq_ok.mp run
    obtain ⟨later, hlater, _⟩ := bind_eq_ok.mp run
    exact List.forall_mem_cons.mpr ⟨⟨y, hy⟩, ih hlater⟩

end Pass

/-! ### Parts -/

/-- Elements are shared out among the keys that they have. -/
theorem flatMap_filter_perm {α κ : Type} [DecidableEq κ] (f : α → κ) (xs : List α)
    {keys : List κ} (nodup : keys.Nodup) :
    (keys.flatMap fun k => xs.filter fun x => f x = k).Perm (xs.filter fun x => f x ∈ keys) := by
  induction keys with
  | nil => simp
  | cons k rest ih =>
    obtain ⟨fresh, others⟩ := List.nodup_cons.mp nodup
    have here : (xs.filter fun x => f x ∈ k :: rest).filter (fun x => f x = k) =
        xs.filter fun x => f x = k := by
      rw [List.filter_filter]
      exact List.filter_congr fun x _ => by by_cases same : f x = k <;> simp [same]
    have elsewhere : (xs.filter fun x => f x ∈ k :: rest).filter (fun x => !decide (f x = k)) =
        xs.filter fun x => f x ∈ rest := by
      rw [List.filter_filter]
      exact List.filter_congr fun x _ => by by_cases same : f x = k <;> simp [same, fresh]
    have split := List.filter_append_perm (fun x => decide (f x = k))
      (xs.filter fun x => f x ∈ k :: rest)
    rw [here, elsewhere] at split
    exact ((ih others).append_left _).trans split

namespace Table

variable {α β γ ε κ : Type} [BEq β] [DecidableEq κ]

/-! ### First occurrences -/

theorem eraseDups_append_singleton (keys : List κ) (k : κ) : (keys ++ [k]).eraseDups =
    if k ∈ keys.eraseDups then keys.eraseDups else keys.eraseDups ++ [k] := by
  rw [List.eraseDups_append]
  by_cases known : k ∈ keys <;> simp [List.removeAll, known, List.eraseDups_cons]

theorem nodup_eraseDups (keys : List κ) : keys.eraseDups.Nodup := by
  induction keys using List.reverseRecOn with
  | nil => exact List.nodup_nil
  | append_singleton keys k ih =>
    rw [eraseDups_append_singleton]
    split
    · exact ih
    · next fresh => exact List.nodup_append.mpr ⟨ih, List.nodup_singleton k,
        fun a ha b hb => ne_of_mem_of_not_mem ha (List.mem_singleton.mp hb ▸ fresh)⟩

theorem length_eraseDups (keys : List κ) : keys.eraseDups.length = keys.toFinset.card := by
  have same : keys.toFinset = keys.eraseDups.toFinset := by
    ext k
    rw [List.mem_toFinset, List.mem_toFinset, List.mem_eraseDups]
  rw [same, List.toFinset_card_of_nodup (nodup_eraseDups keys)]

theorem perm_eraseDups {keys others : List κ} (same : keys.Perm others) :
    keys.eraseDups.Perm others.eraseDups := by
  refine (List.perm_ext_iff_of_nodup (nodup_eraseDups keys) (nodup_eraseDups others)).mpr ?_
  intro k
  rw [List.mem_eraseDups, List.mem_eraseDups, same.mem_iff]

/-! ### Rows of codes -/

section Code

variable {code : κ → β} (exact : ∀ a b, (code a == code b) = decide (a = b))

include exact

theorem get?_map_code (value : κ → γ) (keys : List κ) (k : κ) :
    get? (keys.map fun k => (code k, value k)) (code k) =
      if k ∈ keys then some (value k) else none := by
  induction keys with
  | nil => rfl
  | cons j rest ih =>
    rw [List.map_cons, get?_cons, exact, ih]
    by_cases same : j = k
    · simp [same]
    · simp [same, Ne.symm same]

theorem set_map_code (value : κ → γ) {keys : List κ} (nodup : keys.Nodup) (k : κ) (v : γ) :
    Table.set (code k) v (keys.map fun k => (code k, value k)) =
      (if k ∈ keys then keys else keys ++ [k]).map fun j =>
        (code j, Function.update value k v j) := by
  induction keys with
  | nil => simp [set]
  | cons j rest ih =>
    obtain ⟨fresh, others⟩ := List.nodup_cons.mp nodup
    rw [List.map_cons, set, exact]
    by_cases same : j = k
    · subst same
      have kept : ∀ i ∈ rest, Function.update value j v i = value i := fun i hi =>
        Function.update_of_ne (ne_of_mem_of_not_mem hi fresh) _ _
      simp +contextual [kept]
    · have kept : Function.update value k v j = value j := Function.update_of_ne same _ _
      rw [decide_eq_false same, if_neg Bool.false_ne_true, ih others]
      by_cases known : k ∈ rest
      · rw [if_pos known, if_pos (List.mem_cons_of_mem _ known), List.map_cons, kept]
      · rw [if_neg known, if_neg (by simp [known, Ne.symm same]), List.cons_append, List.map_cons,
          kept]

section Gather

variable (slot : α → κ)

omit exact [BEq β] in
/-- What the elements of each key come to without the last element. -/
theorem own_of_append_singleton {add : γ → α → Except ε γ} {zero : γ} {xs : List α}
    {value : κ → γ} {x : α}
    (own : ∀ k, ((xs ++ [x]).filter fun x => slot x = k).foldlM add zero = .ok (value k)) (k : κ) :
    ∃ v, (xs.filter fun x => slot x = k).foldlM add zero = .ok v ∧
      if slot x = k then add v x = .ok (value k) else v = value k := by
  have h := own k
  rw [List.filter_append, List.foldlM_append] at h
  cases hv : (xs.filter fun x => slot x = k).foldlM add zero with
  | error e => rw [hv] at h; cases h
  | ok v =>
    rw [hv] at h
    refine ⟨v, rfl, ?_⟩
    change ([x].filter fun x => slot x = k).foldlM add v = _ at h
    split
    · next here => simpa [here] using h
    · next elsewhere => simpa [elsewhere, pure, Except.pure] using h

/-- What stands under the key of an element is what the elements of that key come to. -/
theorem getD_get?_map_code {add : γ → α → Except ε γ} {zero : γ} {xs : List α} {value : κ → γ}
    (own : ∀ k, (xs.filter fun x => slot x = k).foldlM add zero = .ok (value k)) (k : κ) :
    (get? ((xs.map slot).eraseDups.map fun k => (code k, value k)) (code k)).getD zero =
      value k := by
  rw [get?_map_code exact]
  split
  · rfl
  · next fresh =>
    have none : xs.filter (fun x => slot x = k) = [] := by
      refine List.filter_eq_nil_iff.mpr fun x hx same => fresh (List.mem_eraseDups.mpr ?_)
      rw [← of_decide_eq_true same]
      exact List.mem_map_of_mem hx
    have h := own k
    rw [none] at h
    exact Except.ok.inj h

/-- Elements are gathered by key: under each key stands what its own elements come to, in the order
in which the keys first occur. -/
theorem foldlM_gather {add : γ → α → Except ε γ} {zero : γ} {xs : List α} {value : κ → γ}
    (own : ∀ k, (xs.filter fun x => slot x = k).foldlM add zero = .ok (value k)) :
    xs.foldlM (fun t x => do
        let v ← add ((get? t (code (slot x))).getD zero) x
        return Table.set (code (slot x)) v t) ([] : Table β γ) =
      .ok ((xs.map slot).eraseDups.map fun k => (code k, value k)) := by
  induction xs using List.reverseRecOn generalizing value with
  | nil => rfl
  | append_singleton xs x ih =>
    choose before hbefore hlast using own_of_append_singleton slot own
    have last : add (before (slot x)) x = .ok (value (slot x)) := by simpa using hlast (slot x)
    have update : Function.update before (slot x) (value (slot x)) = value := by
      funext k
      by_cases same : slot x = k
      · rw [← same, Function.update_self]
      · rw [Function.update_of_ne (Ne.symm same)]
        simpa [same] using hlast k
    rw [List.foldlM_append, ih hbefore]
    simp only [List.foldlM_cons, List.foldlM_nil, bind, Except.bind,
      getD_get?_map_code exact slot hbefore, last]
    rw [set_map_code exact _ (nodup_eraseDups _), update, List.map_append, List.map_cons,
      List.map_nil, eraseDups_append_singleton]
    rfl

theorem foldl_gather (add : γ → α → γ) (zero : γ) (xs : List α) :
    xs.foldl (fun t x => modify (code (slot x)) (fun old => add (old.getD zero) x) t)
        ([] : Table β γ) =
      (xs.map slot).eraseDups.map fun k =>
        (code k, (xs.filter fun x => slot x = k).foldl add zero) := by
  have own (k : κ) : (xs.filter fun x => slot x = k).foldlM
      (fun v x => (.ok (add v x) : Except Unit γ)) zero =
        .ok ((xs.filter fun x => slot x = k).foldl add zero) :=
    foldlM_eq_ok (fun _ _ _ => rfl) zero
  have entered : xs.foldlM (fun t x => do
      let v ← (.ok (add ((get? t (code (slot x))).getD zero) x) : Except Unit γ)
      return Table.set (code (slot x)) v t) ([] : Table β γ) = .ok _ :=
    foldlM_eq_ok (fun _ _ _ => rfl) []
  exact Except.ok.inj (entered.symm.trans (foldlM_gather exact slot own))

/-- What is collected of elements stands under their keys in their order. -/
theorem foldl_group {δ : Type} (value : α → δ) (xs : List α) :
    xs.foldl (fun t x => modify (code (slot x)) (fun old => old.getD [] ++ [value x]) t)
        ([] : Table β (List δ)) =
      (xs.map slot).eraseDups.map fun k =>
        (code k, (xs.filter fun x => slot x = k).map value) := by
  have collected (ys : List α) : ys.foldl (fun v x => v ++ [value x]) [] = ys.map value := by
    rw [List.foldl_append_eq_append, List.nil_append, ← List.flatMap_def,
      List.map_eq_flatMap]
  have h := foldl_gather exact slot (fun v x => v ++ [value x]) [] xs
  simpa only [collected] using h

/-- Under each key stands the sum of the weights of its elements. -/
theorem foldl_total (weight : α → Int) (xs : List α) :
    xs.foldl (fun t x => modify (code (slot x)) (fun n => n.getD 0 + weight x) t)
        ([] : Table β Int) =
      (xs.map slot).eraseDups.map fun k =>
        (code k, ((xs.filter fun x => slot x = k).map weight).sum) := by
  have totals (ys : List α) : ys.foldl (fun v x => v + weight x) 0 = (ys.map weight).sum := by
    rw [← List.foldl_map, List.sum_eq_foldl]
  have h := foldl_gather exact slot (fun v x => v + weight x) 0 xs
  simpa only [totals] using h

end Gather

end Code

end Table

end DeviceAlerts
