import Mathlib.Data.List.Sort
import Mathlib.Data.String.Basic
import Turnstile.Contexts
import Turnstile.Proofs.ByteOrder
import Turnstile.Store.Contexts

/-! Context rows, in the store and aggregated. A row is looked up by its user and merchant, and each
write is told by the rows it leaves. Aggregation sorts first and drops repetitions next, so it
yields the merchants of the rows in ascending order, each once. -/
namespace Turnstile

section Runs

variable {α : Type} [LinearOrder α] {l : List α}

theorem mem_eraseReps {x : α} : x ∈ l.eraseReps ↔ x ∈ l := by
  -- The loop holds the start of the current run, and what it has put out in reverse.
  have hloop (a : α) (l acc : List α) :
      x ∈ List.eraseRepsBy.loop (· == ·) a l acc ↔ x ∈ acc ∨ x = a ∨ x ∈ l := by
    induction l generalizing a acc with
    | nil => simp [List.eraseRepsBy.loop, or_comm]
    | cons b l ih =>
      unfold List.eraseRepsBy.loop
      split
      next h =>
        obtain rfl : a = b := eq_of_beq h
        rw [ih]
        simp
      next =>
        rw [ih]
        simp only [List.mem_cons]
        tauto
  cases l with
  | nil => rfl
  | cons a l => simpa [List.eraseReps, List.eraseRepsBy] using hloop a l []

/-- Of a sorted list every value is left once. -/
theorem pairwise_lt_eraseReps (h : l.Pairwise (· ≤ ·)) : l.eraseReps.Pairwise (· < ·) := by
  have hloop (a : α) (l acc : List α) (hl : (a :: l).Pairwise (· ≤ ·))
      (hacc : (acc.reverse ++ [a]).Pairwise (· < ·)) :
      (List.eraseRepsBy.loop (· == ·) a l acc).Pairwise (· < ·) := by
    induction l generalizing a acc with
    | nil => simpa [List.eraseRepsBy.loop] using hacc
    | cons b l ih =>
      obtain ⟨hle, hl⟩ := List.pairwise_cons.mp hl
      unfold List.eraseRepsBy.loop
      split
      next h =>
        obtain rfl : a = b := eq_of_beq h
        exact ih a acc hl hacc
      next h =>
        have hlt : a < b := lt_of_le_of_ne (hle b List.mem_cons_self) (by simpa using h)
        refine ih b (a :: acc) hl ?_
        rw [List.reverse_cons, List.pairwise_append]
        refine ⟨hacc, List.pairwise_singleton _ _, fun c hc d hd => ?_⟩
        rw [List.mem_singleton.mp hd]
        rcases List.mem_append.mp hc with hc | hc
        · have hca := (List.pairwise_append.mp hacc).2.2 c hc a (List.mem_singleton_self a)
          exact hca.trans hlt
        · rwa [List.mem_singleton.mp hc]
  cases l with
  | nil => exact .nil
  | cons a l => exact hloop a l [] h (List.pairwise_singleton _ _)

end Runs

namespace UserContexts

variable (user : Uuid) (rows : List ContextRow)

theorem mem_merchantIds {m : String} :
    m ∈ (ofRows user rows).merchantIds ↔ m ≠ "" ∧ ∃ row ∈ rows, row.merchantId = m := by
  simp [ofRows, mem_eraseReps, and_comm]

theorem pairwise_merchantIds : (ofRows user rows).merchantIds.Pairwise (· < ·) := by
  apply pairwise_lt_eraseReps
  have hsorted (l : List String) : (l.mergeSort fun a b => decide (a ≤ b)).Pairwise
      fun a b => decide (a ≤ b) = true := by
    apply List.pairwise_mergeSort
    · intro a b c hab hbc
      exact decide_eq_true (le_trans (of_decide_eq_true hab) (of_decide_eq_true hbc))
    · intro a b
      simpa using le_total a b
  simpa only [decide_eq_true_eq] using hsorted _

theorem isGlobal_eq_true_iff :
    (ofRows user rows).isGlobal = true ↔ ∃ row ∈ rows, row.isGlobal = true := List.any_eq_true

/-- Ascending merchants are the same if they are the same as a set, so rows need only be. -/
theorem ofRows_congr {rows rows' : List ContextRow} (h : ∀ row, row ∈ rows' ↔ row ∈ rows) :
    ofRows user rows' = ofRows user rows := by
  have hids : (ofRows user rows').merchantIds = (ofRows user rows).merchantIds := by
    refine (pairwise_merchantIds user rows').eq_of_mem_iff (pairwise_merchantIds user rows) ?_
    intro m
    simp only [mem_merchantIds, h]
  have hglobal : (ofRows user rows').isGlobal = (ofRows user rows).isGlobal := by
    rw [Bool.eq_iff_iff, isGlobal_eq_true_iff, isGlobal_eq_true_iff]
    simp only [h]
  exact congrArg₂ (mk user) hids hglobal

/-- Aggregation of any rows lists their merchants that are not blank, each once, in ascending order
of the bytes of their ids, and tells whether one of the rows is global. Neither the order of the
rows nor how often each of them occurs makes a difference. -/
theorem ofRows_canonical :
    (ofRows user rows).userId = user ∧
    (ofRows user rows).merchantIds.Pairwise (fun m m' => Bytes.ofText m < Bytes.ofText m') ∧
    (∀ m, m ∈ (ofRows user rows).merchantIds ↔ m ≠ "" ∧ ∃ row ∈ rows, row.merchantId = m) ∧
    ((ofRows user rows).isGlobal = true ↔ ∃ row ∈ rows, row.isGlobal = true) ∧
    (∀ rows', rows'.Perm rows → ofRows user rows' = ofRows user rows) ∧
    (∀ row ∈ rows, ofRows user (row :: rows) = ofRows user rows) ∧
    ∀ rows', (∀ row, row ∈ rows' ↔ row ∈ rows) → ofRows user rows' = ofRows user rows := by
  refine ⟨rfl, ?_, fun m => mem_merchantIds user rows, isGlobal_eq_true_iff user rows, ?_, ?_,
    fun rows' => ofRows_congr user⟩
  · exact (pairwise_merchantIds user rows).imp Bytes.ofText_lt_iff.mpr
  · exact fun rows' hperm => ofRows_congr user fun row => hperm.mem_iff
  · intro row hrow
    refine ofRows_congr user fun row' => ?_
    rw [List.mem_cons, or_iff_right_of_imp]
    rintro rfl
    exact hrow

/-- Merchants in any order and more than once, a blank row among them, beside a global row. -/
theorem ofRows_mixed :
    let user : Uuid := ⟨7⟩
    let rows : List ContextRow := [⟨"m2", false⟩, ⟨"", true⟩, ⟨"m10", false⟩, ⟨"é", false⟩]
    let shuffled : List ContextRow := [⟨"é", false⟩, ⟨"m10", false⟩, ⟨"m2", false⟩, ⟨"", true⟩]
    (ofRows user rows).merchantIds = ["m10", "m2", "é"] ∧ ofRows user shuffled = ofRows user rows ∧
      ofRows user (⟨"m2", false⟩ :: rows) = ofRows user rows ∧
      ofRows user (rows ++ shuffled) = ofRows user rows := by
  intro user rows shuffled
  obtain ⟨-, -, hmem, -, hperm, hrepeated, hset⟩ := ofRows_canonical user rows
  have hids : (ofRows user rows).merchantIds = ["m10", "m2", "é"] := by
    refine (pairwise_merchantIds user rows).eq_of_mem_iff (by decide) fun m => ?_
    rw [hmem]
    simp only [rows, List.mem_cons, List.not_mem_nil, or_false, exists_eq_or_imp, exists_eq_left]
    grind
  have hshuffled : shuffled.Perm rows := by decide
  refine ⟨hids, hperm _ hshuffled, hrepeated _ (by decide), hset _ fun row => ?_⟩
  rw [List.mem_append, hshuffled.mem_iff, or_self]

end UserContexts

namespace Store

variable (s : Store) (user : Uuid)

theorem mem_contextRows {row : ContextRow} :
    row ∈ s.contextRows user ↔ s.contexts[(user, row.merchantId)]? = some row.isGlobal := by
  simp only [contextRows, List.mem_map, List.mem_filter, decide_eq_true_eq, Prod.exists]
  constructor
  · rintro ⟨owner, m, g, ⟨hmem, rfl⟩, rfl⟩
    exact Std.ExtTreeMap.mem_toList_iff_getElem?_eq_some.mp hmem
  · intro h
    exact ⟨user, row.merchantId, row.isGlobal,
      ⟨Std.ExtTreeMap.mem_toList_iff_getElem?_eq_some.mpr h, rfl⟩, rfl⟩

/-- No two rows of a user name the same merchant. -/
theorem nodup_contextRows : ((s.contextRows user).map ContextRow.merchantId).Nodup := by
  unfold contextRows
  rw [List.map_map, List.Nodup, List.pairwise_map, List.pairwise_filter]
  refine Std.ExtTreeMap.distinct_keys_toList.imp fun {e e'} hne he he' hm => hne ?_
  rw [Std.LawfulEqCmp.compare_eq_iff_eq]
  exact Prod.ext ((of_decide_eq_true he).trans (of_decide_eq_true he').symm) hm

/-! Writes. -/

variable (other : Uuid) (m : String)

theorem dropContexts_get :
    (s.dropContexts user).contexts[(other, m)]? =
      if other = user then none else s.contexts[(other, m)]? := by
  rw [dropContexts, Std.ExtTreeMap.getElem?_filter']
  by_cases h : other = user
  · simp [h]
  · cases s.contexts[(other, m)]? <;> simp [h]

theorem contextKey_cmp_eq_iff {user other : Uuid} {merchant m : String} :
    ContextKey.cmp (user, merchant) (other, m) = .eq ↔ other = user ∧ m = merchant := by
  rw [Std.LawfulEqCmp.compare_eq_iff_eq, eq_comm, Prod.mk.injEq]

theorem insertContext_get (contexts : Std.ExtTreeMap (Uuid × String) Bool ContextKey.cmp)
    (merchant : String) (g : Bool) :
    (contexts.insert (user, merchant) g)[(other, m)]? =
      if other = user ∧ m = merchant then some g else contexts[(other, m)]? := by
  rw [Std.ExtTreeMap.getElem?_insert]
  simp only [contextKey_cmp_eq_iff]

theorem eraseContext_get (contexts : Std.ExtTreeMap (Uuid × String) Bool ContextKey.cmp)
    (merchant : String) :
    (contexts.erase (user, merchant))[(other, m)]? =
      if other = user ∧ m = merchant then none else contexts[(other, m)]? := by
  rw [Std.ExtTreeMap.getElem?_erase]
  simp only [contextKey_cmp_eq_iff]

end Store

end Turnstile
