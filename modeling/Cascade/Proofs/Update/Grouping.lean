import Mathlib.Data.List.Forall2
import Mathlib.Data.List.Induction
import Cascade.Proofs.Update.Batching

/-!
# Batches are a stable partition

Grouping takes the operations apart by their items without disturbing them.  `distinctUrls` has each
address once, in the order of the first operations (`pairwise_idxOf_distinctUrls`), and further
operations can only put addresses at its end (`distinctUrls_append`).

Batches can be grown, too: operations are placed one after another under their addresses, a new
address going to the end (`place`).  The step lemma `place_map` says where one more operation goes,
and `foldl_place` by induction what all of them have made: under every address the operations on it.

The main result `batches_partition_operations` puts these together, with the flags of the batches
and with what further operations can change.
-/

namespace Cascade

variable {ops more : List UpdateOperation} {op : UpdateOperation} {url : Text}

/-! ## Addresses -/

/-- Further operations put their addresses at the end, those that are not there yet. -/
lemma distinctUrls_append (ops more : List UpdateOperation) : distinctUrls (ops ++ more) =
    distinctUrls ops ++ (distinctUrls more).filter (· ∉ distinctUrls ops) := by
  induction ops with
  | nil => simp [distinctUrls]
  | cons op rest ih =>
    rw [List.cons_append, distinctUrls, ih, distinctUrls, List.filter_append, List.filter_filter,
      List.cons_append]
    congr 2
    refine List.filter_congr fun url _ => ?_
    by_cases h : url = op.url <;> simp [h]

/-- An address whose first operation comes earlier stands earlier. -/
lemma pairwise_idxOf_distinctUrls (ops : List UpdateOperation) :
    (distinctUrls ops).Pairwise fun first second =>
      (ops.map UpdateOperation.url).idxOf first < (ops.map UpdateOperation.url).idxOf second := by
  induction ops with
  | nil => exact .nil
  | cons op rest ih =>
    have hbehind {url : Text} (h : url ∈ (distinctUrls rest).filter (· ≠ op.url)) :
        ((op :: rest).map UpdateOperation.url).idxOf url =
          (rest.map UpdateOperation.url).idxOf url + 1 := by
      have hne : url ≠ op.url := by simpa using (List.mem_filter.mp h).2
      rw [List.map_cons, List.idxOf_cons_ne _ hne.symm]
    rw [distinctUrls, List.pairwise_cons]
    refine ⟨fun url h => ?_, (ih.filter _).imp_of_mem fun hfirst hsecond hlt => ?_⟩
    · rw [hbehind h, List.map_cons, List.idxOf_cons_self]
      exact Nat.succ_pos _
    · rw [hbehind hfirst, hbehind hsecond]
      exact Nat.succ_lt_succ hlt

/-! ## Placing operations one after another -/

/-- Operations under their addresses, after one more has been placed. -/
def place (op : UpdateOperation) :
    List (Text × List UpdateOperation) → List (Text × List UpdateOperation)
  | [] => [(op.url, [op])]
  | (url, ops) :: rest =>
    if url = op.url then (url, ops ++ [op]) :: rest else (url, ops) :: place op rest

/-- One more operation goes behind those at its address, or to the end with its address. -/
lemma place_map {urls : List Text} (hnodup : urls.Nodup)
    (part : Text → List UpdateOperation) :
    place op (urls.map fun url => (url, part url)) =
      urls.map (fun url => (url, part url ++ [op].filter (·.url = url))) ++
        if op.url ∈ urls then [] else [(op.url, [op])] := by
  induction urls with
  | nil => rfl
  | cons url rest ih =>
    obtain ⟨hurl, hrest⟩ := List.nodup_cons.mp hnodup
    rw [List.map_cons, place, List.map_cons]
    split
    · next h =>
      subst h
      have hothers : ∀ url' ∈ rest, (url', part url') =
          (url', part url' ++ [op].filter (·.url = url')) := by
        intro url' hmem
        have hne : op.url ≠ url' := fun heq => hurl (heq ▸ hmem)
        simp [hne]
      rw [if_pos List.mem_cons_self, List.append_nil, List.map_congr_left hothers]
      simp
    · next h =>
      rw [ih hrest]
      simp [Ne.symm h]

/-- Placing operations one after another leaves under each address the operations on it. -/
lemma foldl_place (ops : List UpdateOperation) :
    ops.foldl (fun placed op => place op placed) [] =
      (distinctUrls ops).map fun url => (url, ops.filter (·.url = url)) := by
  induction ops using List.reverseRecOn with
  | nil => rfl
  | append_singleton ops op ih =>
    rw [List.foldl_append, ih, List.foldl_cons, List.foldl_nil, place_map (nodup_distinctUrls ops),
      distinctUrls_append, List.map_append]
    simp only [List.filter_append]
    congr 1
    by_cases hmem : op.url ∈ distinctUrls ops
    · simp [distinctUrls, hmem]
    · have hnone : ops.filter (·.url = op.url) = [] := by
        refine List.filter_eq_nil_iff.mpr fun op' hop' h => hmem ?_
        exact mem_distinctUrls.mpr ⟨op', hop', by simpa using h⟩
      simp [distinctUrls, hmem, hnone]

/-! ## The flags of a batch -/

lemma suppressNotifications_ofOperations :
    (Batch.ofOperations url ops).suppressNotifications = false ↔
      ∃ op ∈ ops, op.options.suppressNotifications = some false := by
  simp [Batch.ofOperations]

lemma bypassRules_ofOperations :
    (Batch.ofOperations url ops).bypassRules = true ↔
      ∃ op ∈ ops, op.options.bypassRules = some true := by
  simp [Batch.ofOperations]

/-- A batch after further operations: those on its item stand behind its own, and once it notifies
or bypasses the rules it goes on doing so. -/
structure Batch.IsExtension (more : List UpdateOperation) (b b' : Batch) : Prop where
  url : b'.url = b.url
  operations : b'.operations = b.operations ++ more.filter (·.url = b.url)
  notifies : b.suppressNotifications = false → b'.suppressNotifications = false
  bypasses : b.bypassRules = true → b'.bypassRules = true

lemma isExtension_ofOperations (url : Text) (ops more : List UpdateOperation) :
    (Batch.ofOperations url ops).IsExtension more
      (.ofOperations url (ops ++ more.filter (·.url = url))) where
  url := rfl
  operations := rfl
  notifies h := by
    obtain ⟨op, hop, hflag⟩ := suppressNotifications_ofOperations.mp h
    exact suppressNotifications_ofOperations.mpr ⟨op, List.mem_append_left _ hop, hflag⟩
  bypasses h := by
    obtain ⟨op, hop, hflag⟩ := bypassRules_ofOperations.mp h
    exact bypassRules_ofOperations.mpr ⟨op, List.mem_append_left _ hop, hflag⟩

/-! ## The main result -/

/-- The batches hold the operations of the list, each as often as the list does. -/
lemma perm_flatMap_operations (ops : List UpdateOperation) :
    ((groupOperations ops).flatMap Batch.operations).Perm ops := by
  refine List.perm_iff_count.mpr fun op => ?_
  have hcount (l : List UpdateOperation) :
      l.count op = (l.filter (·.url = op.url)).count op :=
    (List.count_filter (by simp)).symm
  rw [hcount, filter_flatMap_operations (.refl _), ← hcount]

/-- **Batches are a stable partition of the operations.**

* The batches are those of placing the operations one after another under their addresses.
* No two batches have the same address, the addresses are those of the operations, and an address
  whose first operation comes earlier stands earlier.
* A batch has the operations at its address, in the order of the list, so that no operation is lost
  or doubled.
* A batch notifies exactly if some operation of it asks for that, and bypasses the rules exactly if
  some operation of it asks for that.
* Further operations leave all batches in their places, extend them at the end, and put new batches
  behind them. -/
theorem batches_partition_operations (ops : List UpdateOperation) :
    groupOperations ops = (ops.foldl (fun placed op => place op placed) []).map
      (fun entry => .ofOperations entry.1 entry.2) ∧
    ((groupOperations ops).map Batch.url).Nodup ∧
    (∀ url, url ∈ (groupOperations ops).map Batch.url ↔ url ∈ ops.map UpdateOperation.url) ∧
    ((groupOperations ops).map Batch.url).Pairwise (fun first second =>
      (ops.map UpdateOperation.url).idxOf first < (ops.map UpdateOperation.url).idxOf second) ∧
    ((groupOperations ops).flatMap Batch.operations).Perm ops ∧
    (∀ b ∈ groupOperations ops,
      b.operations = ops.filter (·.url = b.url) ∧
      (b.suppressNotifications = false ↔
        ∃ op ∈ b.operations, op.options.suppressNotifications = some false) ∧
      (b.bypassRules = true ↔ ∃ op ∈ b.operations, op.options.bypassRules = some true)) ∧
    ∀ more, ∃ kept new, groupOperations (ops ++ more) = kept ++ new ∧
      List.Forall₂ (Batch.IsExtension more) (groupOperations ops) kept ∧
      ∀ b ∈ new, b.url ∉ ops.map UpdateOperation.url := by
  have hmem (url : Text) : url ∈ distinctUrls ops ↔ url ∈ ops.map UpdateOperation.url :=
    mem_distinctUrls.trans List.mem_map.symm
  rw [map_url_groupOperations]
  refine ⟨?_, nodup_distinctUrls ops, hmem, pairwise_idxOf_distinctUrls ops,
    perm_flatMap_operations ops, fun b hb => ?_, fun more => ?_⟩
  · rw [foldl_place, List.map_map]
    rfl
  · obtain ⟨url, -, rfl⟩ := List.mem_map.mp hb
    exact ⟨rfl, suppressNotifications_ofOperations, bypassRules_ofOperations⟩
  · refine ⟨_, _, by rw [groupOperations, distinctUrls_append, List.map_append], ?_, ?_⟩
    · refine List.forall₂_map_left_iff.mpr (List.forall₂_map_right_iff.mpr ?_)
      refine List.forall₂_same.mpr fun url _ => ?_
      rw [List.filter_append]
      exact isExtension_ofOperations url _ more
    · intro b hb
      obtain ⟨url, hurl, rfl⟩ := List.mem_map.mp hb
      have hnew : url ∉ distinctUrls ops := by simpa using (List.mem_filter.mp hurl).2
      exact fun h => hnew ((hmem url).mpr h)

end Cascade
