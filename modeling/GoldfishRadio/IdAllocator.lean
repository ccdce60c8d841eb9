import Mathlib.Data.List.Sort
import Mathlib.Data.Int.Interval

/-!
# The id allocator

`IdAllocator` hands out the context ids of data calls and the keepalive handles.
`mReturnedIds` is a `std::set` ordered largest first; `put` of the newest id lowers the
generator and drops the returned ids it reaches. Along every run of `get`s and `put`s the
ids handed out are `{1..mIdGenerator} \ mReturnedIds`, and `get` returns the least
positive id outside them.
-/

namespace GoldfishRadio

/-- `std::set::insert` into the descending representation; an element already there is
left alone. -/
def setInsert (x : Int) : List Int → List Int
  | [] => [x]
  | y :: ys => if y < x then x :: y :: ys else if x = y then y :: ys else y :: setInsert x ys

theorem mem_setInsert {x y : Int} {l : List Int} : y ∈ setInsert x l ↔ y = x ∨ y ∈ l := by
  induction l with
  | nil => simp [setInsert]
  | cons z zs ih =>
    simp only [setInsert]
    split
    · simp
    · split
      · subst x; simp
      · simp only [List.mem_cons, ih]; tauto

theorem sorted_setInsert (x : Int) {l : List Int} (h : l.Sorted (· > ·)) :
    (setInsert x l).Sorted (· > ·) := by
  induction l with
  | nil => simp [setInsert]
  | cons y ys ih =>
    rw [List.sorted_cons] at h
    simp only [setInsert]
    split
    · rename_i hxy
      exact List.sorted_cons.mpr ⟨fun b hb => by
        rcases List.mem_cons.mp hb with rfl | hb
        · exact hxy
        · exact lt_trans (h.1 b hb) hxy, List.sorted_cons.mpr h⟩
    · split
      · exact List.sorted_cons.mpr h
      · rename_i hxy hne
        refine List.sorted_cons.mpr ⟨fun b hb => ?_, ih h.2⟩
        rcases mem_setInsert.mp hb with rfl | hb
        · omega
        · exact h.1 b hb

/-- The `while` loop of `put`: drop the largest returned ids while they equal the
generator, decrementing it each time. -/
def compact : List Int → Int → List Int × Int
  | [], g => ([], g)
  | x :: xs, g => if x = g then compact xs (g - 1) else (x :: xs, g)

structure IdAllocator where
  mReturnedIds : List Int
  mIdGenerator : Int
  /-- The order of the `std::set`, largest first and without repetition. -/
  sorted : mReturnedIds.Sorted (· > ·)

namespace IdAllocator

def init : IdAllocator := ⟨[], 0, List.sorted_nil⟩

/-- `get()`: the smallest returned id if there is one, else `++mIdGenerator`. -/
def get (a : IdAllocator) : IdAllocator × Int :=
  match a.mReturnedIds.getLast? with
  | none => ({ a with mIdGenerator := a.mIdGenerator + 1 }, a.mIdGenerator + 1)
  | some id =>
    (⟨a.mReturnedIds.dropLast, a.mIdGenerator,
      a.sorted.sublist (List.dropLast_sublist _)⟩, id)

theorem sorted_compact {l : List Int} {g : Int} (h : l.Sorted (· > ·)) :
    (compact l g).1.Sorted (· > ·) := by
  induction l generalizing g with
  | nil => exact List.sorted_nil
  | cons x xs ih =>
    simp only [compact]
    split
    · exact ih (List.sorted_cons.mp h).2
    · exact h

/-- `put(id)`. -/
def put (a : IdAllocator) (id : Int) : IdAllocator :=
  if id = a.mIdGenerator then
    ⟨(compact a.mReturnedIds (a.mIdGenerator - 1)).1,
      (compact a.mReturnedIds (a.mIdGenerator - 1)).2, sorted_compact a.sorted⟩
  else ⟨setInsert id a.mReturnedIds, a.mIdGenerator, sorted_setInsert id a.sorted⟩

/-- The ids the representation says are handed out: `{1..mIdGenerator} \ mReturnedIds`. -/
def Live (a : IdAllocator) (x : Int) : Prop :=
  1 ≤ x ∧ x ≤ a.mIdGenerator ∧ x ∉ a.mReturnedIds

instance (a : IdAllocator) (x : Int) : Decidable (a.Live x) :=
  inferInstanceAs (Decidable (1 ≤ x ∧ x ≤ a.mIdGenerator ∧ x ∉ a.mReturnedIds))

/-- The representation invariant: every returned id lies in `[1, mIdGenerator - 1]`. -/
structure Inv (a : IdAllocator) : Prop where
  returned_bounds : ∀ x ∈ a.mReturnedIds, 1 ≤ x ∧ x ≤ a.mIdGenerator - 1
  generator_nonneg : 0 ≤ a.mIdGenerator

/-- `v` is the least positive id outside `s`. -/
def IsLeastFree (s : Finset Int) (v : Int) : Prop :=
  1 ≤ v ∧ v ∉ s ∧ ∀ y, 1 ≤ y → y < v → y ∈ s

/-- What the compaction loop leaves: a generator that no returned id reaches, the same
handed-out range, and only ids it was given. -/
theorem compact_spec {l : List Int} {g : Int} (hs : l.Sorted (· > ·)) (hb : ∀ y ∈ l, 1 ≤ y ∧ y ≤ g)
    (hg : 0 ≤ g) :
    (∀ y ∈ (compact l g).1, 1 ≤ y ∧ y ≤ (compact l g).2 - 1) ∧ 0 ≤ (compact l g).2 ∧
    ∀ x, (1 ≤ x ∧ x ≤ (compact l g).2 ∧ x ∉ (compact l g).1) ↔ (1 ≤ x ∧ x ≤ g ∧ x ∉ l) := by
  induction l generalizing g with
  | nil => simp [compact, hg]
  | cons y ys ih =>
    obtain ⟨hlt, hys⟩ := List.sorted_cons.mp hs
    have hy := hb y (List.mem_cons_self _ _)
    simp only [compact]
    split
    · subst g
      have hb' : ∀ z ∈ ys, 1 ≤ z ∧ z ≤ y - 1 := fun z hz =>
        ⟨(hb z (List.mem_cons_of_mem _ hz)).1, by have := hlt z hz; omega⟩
      obtain ⟨h1, h2, h3⟩ := ih hys hb' (by omega)
      refine ⟨h1, h2, fun x => (h3 x).trans ?_⟩
      simp only [List.mem_cons, not_or]
      constructor
      · rintro ⟨hx1, hx2, hx3⟩; exact ⟨hx1, by omega, by omega, hx3⟩
      · rintro ⟨hx1, hx2, hx3, hx4⟩; exact ⟨hx1, by omega, hx4⟩
    · refine ⟨fun z hz => ?_, hg, fun x => Iff.rfl⟩
      rcases List.mem_cons.mp hz with rfl | hz
      · exact ⟨hy.1, by omega⟩
      · have := hlt z hz; exact ⟨(hb z (List.mem_cons_of_mem _ hz)).1, by omega⟩

/-- The abstract set of ids handed out is the one the representation describes. -/
def Represents (a : IdAllocator) (s : Finset Int) : Prop := ∀ x, x ∈ s ↔ a.Live x

theorem get_of_nil {a : IdAllocator} (h : a.mReturnedIds = []) :
    (a.get).2 = a.mIdGenerator + 1 ∧ (a.get).1.mReturnedIds = [] ∧
      (a.get).1.mIdGenerator = a.mIdGenerator + 1 := by
  simp [get, h]

theorem get_of_concat {a : IdAllocator} {l : List Int} {m : Int} (h : a.mReturnedIds = l ++ [m]) :
    (a.get).2 = m ∧ (a.get).1.mReturnedIds = l ∧ (a.get).1.mIdGenerator = a.mIdGenerator := by
  simp [get, h]

theorem get_step {a : IdAllocator} {s : Finset Int} (hi : a.Inv) (hr : a.Represents s) :
    (a.get).1.Inv ∧ (a.get).1.Represents (insert (a.get).2 s) ∧ IsLeastFree s (a.get).2 := by
  have hg := hi.generator_nonneg
  rcases List.eq_nil_or_concat a.mReturnedIds with hn | ⟨l, m, hc⟩
  · -- Nothing returned: the generator hands out its next id.
    obtain ⟨h1, h2, h3⟩ := get_of_nil hn
    have hs : ∀ x, x ∈ s ↔ 1 ≤ x ∧ x ≤ a.mIdGenerator := fun x => by
      rw [hr x, Live, hn]; simp
    refine ⟨⟨by simp [h2], by omega⟩, fun x => ?_, ?_⟩
    · rw [Finset.mem_insert, hs, Live, h1, h2, h3]
      simp only [List.not_mem_nil, not_false_eq_true, and_true]
      omega
    · rw [h1]
      exact ⟨by omega, fun h => by have := (hs _).mp h; omega,
        fun y hy1 hy2 => (hs y).mpr ⟨hy1, by omega⟩⟩
  · -- The smallest returned id `m`, last in descending order, is reused.
    rw [List.concat_eq_append] at hc
    obtain ⟨h1, h2, h3⟩ := get_of_concat hc
    have hsorted := a.sorted
    rw [hc] at hsorted
    have hmin : ∀ y ∈ l, m < y := fun y hy =>
      (List.pairwise_append.mp hsorted).2.2 y hy m (List.mem_singleton_self m)
    have hml : m ∉ l := fun h => lt_irrefl m (hmin m h)
    have hmb := hi.returned_bounds m (by rw [hc]; simp)
    refine ⟨⟨fun x hx => ?_, by rw [h3]; exact hg⟩, fun x => ?_, ?_⟩
    · rw [h2] at hx; rw [h3]; exact hi.returned_bounds x (by rw [hc]; simp [hx])
    · rw [Finset.mem_insert, hr x, Live, Live, h1, h2, h3, hc]
      simp only [List.mem_append, List.mem_singleton]
      constructor
      · rintro (rfl | ⟨hx1, hx2, hx3⟩)
        · exact ⟨hmb.1, by omega, hml⟩
        · exact ⟨hx1, hx2, fun h => hx3 (Or.inl h)⟩
      · rintro ⟨hx1, hx2, hx3⟩
        by_cases hxm : x = m
        · exact Or.inl hxm
        · exact Or.inr ⟨hx1, hx2, by tauto⟩
    · rw [h1]
      refine ⟨hmb.1, fun h => ?_, fun y hy1 hy2 => ?_⟩
      · exact ((hr m).mp h).2.2 (by rw [hc]; simp)
      · refine (hr y).mpr ⟨hy1, by omega, ?_⟩
        rw [hc]; simp only [List.mem_append, List.mem_singleton, not_or]
        exact ⟨fun h => by have := hmin y h; omega, by omega⟩

theorem put_step {a : IdAllocator} {s : Finset Int} {id : Int} (hi : a.Inv) (hr : a.Represents s)
    (hid : id ∈ s) : (a.put id).Inv ∧ (a.put id).Represents (s.erase id) := by
  obtain ⟨hid1, hid2, hid3⟩ := (hr id).mp hid
  unfold put
  split
  · rename_i heq
    subst heq
    obtain ⟨h1, h2, h3⟩ := compact_spec a.sorted hi.returned_bounds (by omega)
    refine ⟨⟨h1, h2⟩, fun x => ?_⟩
    rw [Finset.mem_erase, hr x, Live, Live]
    simp only [h3]
    constructor
    · rintro ⟨hx, hx1, hx2, hx3⟩; exact ⟨hx1, by omega, hx3⟩
    · rintro ⟨hx1, hx2, hx3⟩
      refine ⟨fun h => ?_, hx1, by omega, hx3⟩
      subst h; omega
  · rename_i hne
    refine ⟨⟨fun x hx => ?_, hi.generator_nonneg⟩, fun x => ?_⟩
    · rcases mem_setInsert.mp hx with rfl | hx
      · exact ⟨hid1, by dsimp only; omega⟩
      · exact hi.returned_bounds x hx
    · rw [Finset.mem_erase, hr x, Live, Live, mem_setInsert]
      tauto

/-- The allocator paired with the ids handed out and not put back, along any sequence of
`get`s and of `put`s of handed-out ids. -/
inductive Reachable : IdAllocator → Finset Int → Prop
  | init : Reachable init ∅
  | get {a : IdAllocator} {s : Finset Int} :
      Reachable a s → Reachable (a.get).1 (insert (a.get).2 s)
  | put {a : IdAllocator} {s : Finset Int} {id : Int} :
      Reachable a s → id ∈ s → Reachable (a.put id) (s.erase id)

theorem reachable_inv {a : IdAllocator} {s : Finset Int} (h : Reachable a s) :
    a.Inv ∧ a.Represents s := by
  induction h with
  | init =>
    refine ⟨⟨by simp [init], le_refl _⟩, fun x => ?_⟩
    simp only [init, Live, Finset.not_mem_empty, false_iff, not_and]
    intro h1 h2; omega
  | get _ ih => exact ⟨(get_step ih.1 ih.2).1, (get_step ih.1 ih.2).2.1⟩
  | put _ hid ih => exact put_step ih.1 ih.2 hid

/-- What holds of every reachable allocator and the ids handed out. -/
structure Spec (a : IdAllocator) (s : Finset Int) : Prop where
  get_least_free : IsLeastFree s (a.get).2
  returned_bounds : ∀ x ∈ a.mReturnedIds, 1 ≤ x ∧ x ≤ a.mIdGenerator - 1
  represents : ∀ x, x ∈ s ↔ 1 ≤ x ∧ x ≤ a.mIdGenerator ∧ x ∉ a.mReturnedIds
  generator_largest :
    (s = ∅ ∧ a.mIdGenerator = 0) ∨ (a.mIdGenerator ∈ s ∧ ∀ x ∈ s, x ≤ a.mIdGenerator)
  increment_count : a.mReturnedIds = [] → (s.card : Int) = a.mIdGenerator

theorem reachable_spec {a : IdAllocator} {s : Finset Int} (h : Reachable a s) : Spec a s := by
  obtain ⟨hi, hr⟩ := reachable_inv h
  have hg := hi.generator_nonneg
  refine ⟨(get_step hi hr).2.2, hi.returned_bounds, hr, ?_, fun hn => ?_⟩
  · by_cases h0 : a.mIdGenerator = 0
    · refine Or.inl ⟨Finset.eq_empty_of_forall_not_mem fun x hx => ?_, h0⟩
      obtain ⟨h1, h2, -⟩ := (hr x).mp hx; omega
    · refine Or.inr ⟨(hr _).mpr ⟨by omega, le_refl _, fun hm => ?_⟩, fun x hx => ((hr x).mp hx).2.1⟩
      have := hi.returned_bounds _ hm; omega
  · have hs : s = Finset.Icc 1 a.mIdGenerator := by
      ext x; rw [hr x, Live, hn, Finset.mem_Icc]; simp
    rw [hs, Int.card_Icc]; omega

theorem reachable_spec_after_reuse :
    Reachable (((init.get).1.get).1.put 1) {2} ∧ Spec (((init.get).1.get).1.put 1) {2} := by
  have h : Reachable (((init.get).1.get).1.put 1) {2} := by
    have h2 := @Reachable.put _ _ 1 (Reachable.get (Reachable.get Reachable.init)) (by decide)
    convert h2 using 1
  exact ⟨h, reachable_spec h⟩

end IdAllocator

end GoldfishRadio
