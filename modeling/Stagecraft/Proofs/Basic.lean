/-
Module: Stagecraft.Proofs.Basic
Purpose: Taking computations apart that may end in an error, that work on a
  state, or that go through a list.
Main exports:
  exists_of_bind_eq_ok, exists_of_map_eq_ok, exists_map_eq_ok_iff, eq_ok_of_mapError_eq_ok,
  map_map, mapError_map, toOption_eq_some_iff, filterMap_toOption_map, run_bind,
  exists_mapM_eq_some, getElem?_filterMap, mapM_map, length_le_of_nodup,
  nodup_concat_iff, cut_iff, lookup_cons_eq_ite, lookup_filter_fst, lookup_eq_some_iff_mem,
  forall₂_of_mapM, exists_of_forall₂_of_mem, forall₂_filterMap, filterMap_eq_of_forall₂,
  map_eq_map_of_forall₂, exists_append_of_forall₂
-/
import Mathlib.Data.List.Forall2
import Mathlib.Data.List.Nodup
import Mathlib.Data.List.Perm.Subperm
import Mathlib.Data.List.TakeWhile

namespace Stagecraft

variable {ε ε' α β : Type}

/-- A sequence of two computations succeeds through a value of the first. -/
theorem exists_of_bind_eq_ok {first : Except ε α} {next : α → Except ε β} {result : β}
    (success : (first >>= next) = .ok result) :
    ∃ value, first = .ok value ∧ next value = .ok result := by
  cases first with
  | error fault => cases success
  | ok value => exact ⟨value, rfl, success⟩

/-- A transformed computation succeeds through a value before the
transformation. -/
theorem exists_of_map_eq_ok {first : Except ε α} {f : α → β} {result : β}
    (success : first.map f = .ok result) : ∃ value, first = .ok value ∧ f value = result := by
  cases first with
  | error fault => cases success
  | ok value => exact ⟨value, rfl, Except.ok.inj success⟩

/-- A result that is mapped is there if and only if the result was. -/
theorem exists_map_eq_ok_iff {first : Except ε α} {f : α → β} :
    (∃ result, first.map f = .ok result) ↔ ∃ value, first = .ok value := by
  cases first with
  | error fault => simp [Except.map]
  | ok value => simp [Except.map]

/-- Rewording its errors does not make a computation succeed. -/
theorem eq_ok_of_mapError_eq_ok {first : Except ε α} {f : ε → ε'} {result : α}
    (success : first.mapError f = .ok result) : first = .ok result := by
  cases first with
  | error fault => cases success
  | ok value => exact congrArg Except.ok (Except.ok.inj success)

theorem map_map {γ : Type} {f : α → β} {g : β → γ} (first : Except ε α) :
    (first.map f).map g = first.map fun value => g (f value) := by
  cases first <;> rfl

theorem mapError_map {f : α → β} {g : ε → ε'} (first : Except ε α) :
    (first.map f).mapError g = (first.mapError g).map f := by
  cases first <;> rfl

theorem toOption_eq_some_iff {first : Except ε α} {value : α} :
    first.toOption = some value ↔ first = .ok value := by
  cases first with
  | error fault => simp [Except.toOption]
  | ok other => simp [Except.toOption]

theorem filterMap_toOption_map {f : α → β} (xs : List (Except ε α)) :
    (xs.map (Except.map f)).filterMap Except.toOption =
      (xs.filterMap Except.toOption).map f := by
  rw [List.filterMap_map, List.map_filterMap]
  congr 1
  funext x
  cases x <;> rfl

/-- Two pieces of work on one state, one after the other. -/
theorem run_bind {S : Type} (work : StateM S α) (next : α → StateM S β) (state : S) :
    (work >>= next).run state = (next (work.run state).1).run (work.run state).2 := rfl

/-! ### Partial functions on lists -/

variable {f : α → Option β}

/-- If every element has an image, then the list has one. -/
theorem exists_mapM_eq_some {xs : List α} (all : ∀ x ∈ xs, ∃ y, f x = some y) :
    ∃ ys, xs.mapM f = some ys := by
  induction xs with
  | nil => exact ⟨[], rfl⟩
  | cons x rest ih =>
      obtain ⟨y, here⟩ := all x List.mem_cons_self
      obtain ⟨ys, there⟩ := ih fun x member => all x (List.mem_cons_of_mem _ member)
      exact ⟨y :: ys, by simp [here, there]⟩

/-- Where a partial function is defined everywhere, positions stay. -/
theorem getElem?_filterMap {xs : List α} (all : ∀ x ∈ xs, ∃ y, f x = some y) (i : Nat) :
    (xs.filterMap f)[i]? = (xs[i]?).bind f := by
  induction xs generalizing i with
  | nil => simp
  | cons x rest ih =>
      obtain ⟨y, here⟩ := all x List.mem_cons_self
      have later := ih fun x member => all x (List.mem_cons_of_mem _ member)
      rw [List.filterMap_cons_some here]
      cases i with
      | zero => simp [here]
      | succ i => simpa using later i

theorem mapM_map {γ : Type} {g : β → γ} (xs : List α) :
    (xs.mapM fun x => (f x).map g) = (xs.mapM f).map (List.map g) := by
  induction xs with
  | nil => rfl
  | cons x rest ih =>
      rw [List.mapM_cons, List.mapM_cons, ih]
      cases f x with
      | none => rfl
      | some y => cases rest.mapM f <;> rfl

/-- Different numbers below a bound are no more than the bound. -/
theorem length_le_of_nodup {numbers : List Nat} {bound : Nat} (nodup : numbers.Nodup)
    (below : ∀ n ∈ numbers, n < bound) : numbers.length ≤ bound := by
  have within : numbers ⊆ List.range bound := fun n member => List.mem_range.mpr (below n member)
  simpa using (nodup.subperm within).length_le

theorem nodup_concat_iff {xs : List α} {x : α} : (xs ++ [x]).Nodup ↔ xs.Nodup ∧ x ∉ xs := by
  rw [← List.concat_eq_append, List.nodup_concat, and_comm]

/-! ### Lists that are cut at a mark -/

section Cut

variable [BEq α] [LawfulBEq α] {mark : α} {xs front rest : List α}

/-- A list is cut at the first place of a mark, so in front of it there is none. -/
theorem cut_iff : (xs.takeWhile (fun x => x != mark) = front ∧
      ∃ head, xs.dropWhile (fun x => x != mark) = head :: rest) ↔
    xs = front ++ mark :: rest ∧ mark ∉ front := by
  constructor
  · rintro ⟨rfl, head, found⟩
    have same : head = mark := by
      have first := List.head?_dropWhile_not (fun x => x != mark) xs
      simpa [found] using first
    refine ⟨?_, fun member => by simpa using List.mem_takeWhile_imp member⟩
    subst same
    rw [← found, List.takeWhile_append_dropWhile]
  · rintro ⟨rfl, plain⟩
    have differs : ∀ x ∈ front, (x != mark) = true := fun x member =>
      bne_iff_ne.mpr fun same => plain (same ▸ member)
    rw [List.takeWhile_append_of_pos differs, List.dropWhile_append_of_pos differs]
    simp

end Cut

/-! ### Lists of keys and values -/

section Lookup

variable {κ : Type} [BEq κ] [LawfulBEq κ] [DecidableEq κ]

theorem lookup_cons_eq_ite (first key : κ) (value : β) (rest : List (κ × β)) :
    ((first, value) :: rest).lookup key = if key = first then some value else rest.lookup key := by
  rw [List.lookup_cons]
  split
  · next same => rw [if_pos (by simpa using same)]
  · next differs => rw [if_neg (by simpa using differs)]

/-- Keys that are kept keep their values. -/
theorem lookup_filter_fst (entries : List (κ × β)) (keeps : κ → Bool) (key : κ) :
    (entries.filter fun entry => keeps entry.1).lookup key =
      if keeps key then entries.lookup key else none := by
  induction entries with
  | nil => simp
  | cons entry rest ih =>
      rcases entry with ⟨first, value⟩
      rw [List.filter_cons, lookup_cons_eq_ite]
      by_cases same : key = first
      · subst same
        cases kept : keeps key with
        | true => simp
        | false => simpa [kept] using ih
      · rw [if_neg same, ← ih]
        cases keeps first with
        | true => simp [lookup_cons_eq_ite, same]
        | false => rfl

/-- What is found under a key that occurs only once is all there is. -/
theorem lookup_eq_some_iff_mem {entries : List (κ × β)} {key : κ} {value : β}
    (nodup : (entries.map Prod.fst).Nodup) :
    entries.lookup key = some value ↔ (key, value) ∈ entries := by
  induction entries with
  | nil => simp
  | cons entry rest ih =>
      rcases entry with ⟨first, old⟩
      rw [List.map_cons, List.nodup_cons] at nodup
      rw [lookup_cons_eq_ite, List.mem_cons, Prod.mk.injEq, ← ih nodup.2]
      by_cases same : key = first
      · subst same
        have once : rest.lookup key ≠ some value := fun found =>
          nodup.1 (List.mem_map.mpr ⟨(key, value), (ih nodup.2).mp found, rfl⟩)
        simp [once, eq_comm]
      · simp [same]

end Lookup

/-! ### Lists that are related entry by entry -/

/-- The images of a list stand in the order of their elements. -/
theorem forall₂_of_mapM {xs : List α} {ys : List β} (mapped : xs.mapM f = some ys) :
    List.Forall₂ (fun x y => f x = some y) xs ys := by
  induction xs generalizing ys with
  | nil =>
      cases mapped
      exact .nil
  | cons x rest ih =>
      rw [List.mapM_cons] at mapped
      obtain ⟨first, here, mapped⟩ := Option.bind_eq_some_iff.mp mapped
      obtain ⟨others, there, ended⟩ := Option.bind_eq_some_iff.mp mapped
      cases ended
      exact .cons here (ih there)

variable {γ : Type} {related : α → β → Prop}

theorem exists_of_forall₂_of_mem {xs : List α} {ys : List β}
    (all : List.Forall₂ related xs ys) {y : β} (member : y ∈ ys) : ∃ x ∈ xs, related x y := by
  induction all with
  | nil => cases member
  | @cons x _ rest _ here _ ih =>
      rcases List.mem_cons.mp member with rfl | later
      · exact ⟨x, List.mem_cons_self, here⟩
      · obtain ⟨source, earlier, there⟩ := ih later
        exact ⟨source, List.mem_cons_of_mem _ earlier, there⟩

/-- Where every element has an image, none is left out. -/
theorem forall₂_filterMap {xs : List α} (all : ∀ x ∈ xs, ∃ y, f x = some y) :
    List.Forall₂ (fun x y => f x = some y) xs (xs.filterMap f) := by
  induction xs with
  | nil => exact .nil
  | cons x rest ih =>
      obtain ⟨y, here⟩ := all x List.mem_cons_self
      rw [List.filterMap_cons_some here]
      exact .cons here (ih fun x member => all x (List.mem_cons_of_mem _ member))

theorem filterMap_eq_of_forall₂ {xs : List α} {ys : List β}
    (all : List.Forall₂ (fun x y => f x = some y) xs ys) : xs.filterMap f = ys := by
  induction all with
  | nil => rfl
  | cons here _ ih => rw [List.filterMap_cons_some here, ih]

theorem forall₂_comp {next : β → γ → Prop} {xs : List α} {ys : List β} {zs : List γ}
    (first : List.Forall₂ related xs ys) (second : List.Forall₂ next ys zs) :
    List.Forall₂ (fun x z => ∃ y, related x y ∧ next y z) xs zs := by
  induction first generalizing zs with
  | nil =>
      cases second
      exact .nil
  | cons here _ ih =>
      cases second with
      | cons there rest => exact .cons ⟨_, here, there⟩ (ih rest)

theorem map_eq_map_of_forall₂ {f : α → γ} {g : β → γ} {xs : List α} {ys : List β}
    (same : List.Forall₂ (fun x y => g y = f x) xs ys) : ys.map g = xs.map f := by
  induction same with
  | nil => rfl
  | cons here _ ih => rw [List.map_cons, List.map_cons, here, ih]

/-- The images of two lists in a row are two lists in a row. -/
theorem exists_append_of_forall₂ {first second : List α}
    {images : List β} (all : List.Forall₂ related (first ++ second) images) :
    ∃ one two, images = one ++ two ∧ List.Forall₂ related first one ∧
      List.Forall₂ related second two := by
  induction first generalizing images with
  | nil => exact ⟨[], images, rfl, .nil, all⟩
  | cons x rest ih =>
      obtain ⟨y, ys, here, there, rfl⟩ := List.forall₂_cons_left_iff.mp all
      obtain ⟨one, two, rfl, front, back⟩ := ih there
      exact ⟨y :: one, two, rfl, .cons here front, back⟩

end Stagecraft
