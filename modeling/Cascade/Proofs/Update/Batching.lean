import Mathlib.Data.List.Basic
import Cascade.Proofs.Update.Tracker
import Cascade.Update.Batch

/-!
# Batches mean what their operations mean

Operations are grouped by item before they are sent, so they reach the tracker in another order than
the one in which rules produced them, and they reach it as patch documents.  This file says that
nothing depends on either.

What a list of operations does to an item depends on the operations at its address only, in their
order (`writeAll_apply`).  A patch document does what the operations it was made of do
(`applyDocument_patch`), and of the batches of a list exactly one holds the operations at an
address, all of them in order; where it stands among the batches does not matter
(`filter_flatMap_operations`). The main result `applyBatches_perm` follows: the batches, in any
order, leave the tracker as the operations one by one.
-/

namespace Cascade

variable {tracker : Tracker} {ops : List UpdateOperation} {batches : List Batch} {url : Text}

/-! ## What operations do to one item -/

/-- The fields of an item after replacements, carried out in order. -/
def writeFields (fields : Entries) (ops : List UpdateOperation) : Entries :=
  ops.foldl (fun fields op => fields.put op.field (.str op.value)) fields

/-- An item is changed by the operations at its address, and by no others. -/
lemma writeAll_apply (tracker : Tracker) (ops : List UpdateOperation) (url : Text) :
    writeAll tracker ops url = writeFields (tracker url) (ops.filter (·.url = url)) := by
  induction ops generalizing tracker with
  | nil => rfl
  | cons op ops ih =>
    rw [writeAll_cons, ih]
    by_cases h : op.url = url
    · subst h
      rw [writeTo_url, List.filter_cons_of_pos (by simp)]
      rfl
    · rw [writeTo_of_ne h, List.filter_cons_of_neg (by simpa using h)]

/-! ## Patch documents -/

/-- The replacement that an entry of a patch document asks for on an item; other entries ask for
none. -/
def replacement? (url : Text) (entry : Value) : Option UpdateOperation :=
  match entry.get? "op", entry.get? "path", entry.get? "value" with
  | some verb, some (.str path), some (.str value) =>
    if verb.isStr "replace" then some { url, path, value } else none
  | _, _, _ => none

/-- The tracker after the entries of a patch document have been carried out on an item, in order. -/
def applyDocument (url : Text) (document : Value) (tracker : Tracker) : Tracker :=
  match document with
  | .list entries => writeAll tracker (entries.filterMap (replacement? url))
  | _ => tracker

/-- The tracker after the patch documents of batches. -/
def applyBatches (tracker : Tracker) (batches : List Batch) : Tracker :=
  batches.foldl (fun tracker b => applyDocument b.url b.patch tracker) tracker

/-- The entry for an operation asks for what the operation does. -/
lemma replacement?_patch (op : UpdateOperation) :
    replacement? op.url op.patch = some { url := op.url, path := op.path, value := op.value } := by
  rfl

/-- The document of a batch does what the operations of the batch do. -/
lemma applyDocument_patch {b : Batch} (h : ∀ op ∈ b.operations, op.url = b.url) :
    applyDocument b.url b.patch tracker = writeAll tracker b.operations := by
  obtain ⟨url, ops, suppress, bypass⟩ := b
  simp only [Batch.patch, applyDocument] at h ⊢
  induction ops generalizing tracker with
  | nil => rfl
  | cons op ops ih =>
    obtain rfl := h op List.mem_cons_self
    rw [List.map_cons, List.filterMap_cons_some (replacement?_patch op), writeAll_cons,
      writeAll_cons]
    exact ih fun op' hop' => h op' (List.mem_cons_of_mem op hop')

/-- The documents of batches do what all their operations do, one after another. -/
lemma applyBatches_eq_writeAll (h : ∀ b ∈ batches, ∀ op ∈ b.operations, op.url = b.url) :
    applyBatches tracker batches = writeAll tracker (batches.flatMap Batch.operations) := by
  induction batches generalizing tracker with
  | nil => rfl
  | cons b batches ih =>
    rw [List.flatMap_cons, writeAll_append, ← applyDocument_patch (h b List.mem_cons_self)]
    exact ih fun b' hb' => h b' (List.mem_cons_of_mem b hb')

/-! ## The operations at an address -/

/-- A batch holds the operations at its address, in their order. -/
lemma operations_of_mem_groupOperations {b : Batch} (h : b ∈ groupOperations ops) :
    b.operations = ops.filter (·.url = b.url) := by
  obtain ⟨url, -, rfl⟩ := List.mem_map.mp h
  rfl

lemma map_url_groupOperations (ops : List UpdateOperation) :
    (groupOperations ops).map Batch.url = distinctUrls ops := by
  rw [groupOperations, List.map_map]
  exact List.map_id _

/-- If no two parts have the same address, those that are picked by an address are one part or
none. -/
lemma flatMap_ite_of_nodup {α β : Type} [DecidableEq β] {key : α → β} {as : List α}
    (h : (as.map key).Nodup) (k : β) {γ : Type} (xs : List γ) :
    (as.flatMap fun a => if key a = k then xs else []) = if k ∈ as.map key then xs else [] := by
  induction as with
  | nil => simp
  | cons a as ih =>
    obtain ⟨ha, has⟩ := List.nodup_cons.mp h
    rw [List.flatMap_cons, ih has, List.map_cons]
    by_cases hk : key a = k
    · subst hk
      simp [ha]
    · simp [hk, Ne.symm hk]

/-- Whatever order the batches of a list are in, the operations at an address are those of the list,
in their order. -/
lemma filter_flatMap_operations (h : batches.Perm (groupOperations ops)) (url : Text) :
    (batches.flatMap Batch.operations).filter (·.url = url) = ops.filter (·.url = url) := by
  have hoperations : ∀ b ∈ batches, b.operations.filter (·.url = url) =
      if b.url = url then ops.filter (·.url = url) else [] := by
    intro b hb
    rw [operations_of_mem_groupOperations (h.mem_iff.mp hb), List.filter_filter]
    split
    · next hurl => simp [hurl]
    · next hurl =>
      refine List.filter_eq_nil_iff.mpr fun op _ hop => hurl ?_
      simp only [Bool.and_eq_true, decide_eq_true_eq] at hop
      exact hop.2.symm.trans hop.1
  have hurls : (batches.map Batch.url).Perm (distinctUrls ops) :=
    map_url_groupOperations ops ▸ h.map Batch.url
  have hnodup : (batches.map Batch.url).Nodup := hurls.nodup_iff.mpr (nodup_distinctUrls ops)
  rw [List.filter_flatMap, List.flatMap_congr hoperations, flatMap_ite_of_nodup hnodup]
  split
  · rfl
  · next hmem =>
    refine (List.filter_eq_nil_iff.mpr fun op hop hurl => hmem ?_).symm
    exact hurls.mem_iff.mpr (mem_distinctUrls.mpr ⟨op, hop, by simpa using hurl⟩)

/-! ## Batches and operations -/

/-- **Batching preserves meaning.**  The patch documents of the batches of a list of operations,
applied batch by batch in whatever order, leave every tracker in the state in which the operations
leave it that are carried out one by one in the order of the list. -/
theorem applyBatches_perm (ops : List UpdateOperation) (tracker : Tracker) :
    applyBatches tracker (groupOperations ops) = writeAll tracker ops ∧
      ∀ batches : List Batch, batches.Perm (groupOperations ops) →
        applyBatches tracker batches = writeAll tracker ops := by
  have hperm : ∀ batches : List Batch, batches.Perm (groupOperations ops) →
      applyBatches tracker batches = writeAll tracker ops := by
    intro batches h
    have hurl : ∀ b ∈ batches, ∀ op ∈ b.operations, op.url = b.url := by
      intro b hb op hop
      rw [operations_of_mem_groupOperations (h.mem_iff.mp hb)] at hop
      simpa using (List.mem_filter.mp hop).2
    funext url
    rw [applyBatches_eq_writeAll hurl, writeAll_apply, filter_flatMap_operations h,
      ← writeAll_apply]
  exact ⟨hperm _ (.refl _), hperm⟩

/-- Two updates of one field with an update of another item between them. -/
def interleavedOperations : List UpdateOperation :=
  [{ url := "u1", path := "/fields/System.State", value := "A" },
    { url := "u2", path := "/fields/System.State", value := "B" },
    { url := "u1", path := "/fields/System.State", value := "C" }]

/-- With the batches in the other order the later value stays, and both items are changed. -/
theorem applyBatches_reverse_interleaved :
    (groupOperations interleavedOperations).map Batch.url = (["u1", "u2"] : List Text) ∧
    applyBatches (fun _ => []) (groupOperations interleavedOperations).reverse =
      writeAll (fun _ => []) interleavedOperations ∧
    writeAll (fun _ => []) interleavedOperations "u1" = ([("System.State", .str "C")] : Entries) ∧
    writeAll (fun _ => []) interleavedOperations "u2" =
      ([("System.State", .str "B")] : Entries) := by
  refine ⟨by decide, ?_, ?_, ?_⟩
  · exact (applyBatches_perm interleavedOperations _).2 _ (List.reverse_perm _)
  · rfl
  · rfl

end Cascade
