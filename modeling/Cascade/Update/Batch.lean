import Cascade.Update.Operation

/-!
# Batches of updates

The tracker takes one patch document per work item, so operations are grouped by the address of
their item, in the order in which the addresses first occur; within a batch the operations keep
their order. A batch suppresses notifications unless some operation asks for them, and bypasses the
tracker's rules as soon as some operation asks for that.
-/

namespace Cascade

/-- The operations for one work item, with the flags of the request that carries them. -/
structure Batch where
  url : Text
  operations : List UpdateOperation
  suppressNotifications : Bool := true
  bypassRules : Bool := false
  deriving Repr, DecidableEq, Inhabited

/-- The addresses of operations, each at its first place. -/
def distinctUrls : List UpdateOperation → List Text
  | [] => []
  | op :: rest => op.url :: (distinctUrls rest).filter (· ≠ op.url)

namespace Batch

/-- The batch of operations on one item. -/
def ofOperations (url : Text) (operations : List UpdateOperation) : Batch where
  url := url
  operations := operations
  suppressNotifications := !operations.any (·.options.suppressNotifications == some false)
  bypassRules := operations.any (·.options.bypassRules == some true)

/-- The patch document of a batch. -/
def patch (b : Batch) : Value := .list (b.operations.map UpdateOperation.patch)

/-- A batch as data. -/
def toValue (b : Batch) : Value :=
  .object [("url", .str b.url), ("suppressNotifications", .bool b.suppressNotifications),
    ("bypassRules", .bool b.bypassRules), ("operations", b.patch)]

end Batch

/-- The operations grouped by item. -/
def groupOperations (operations : List UpdateOperation) : List Batch :=
  (distinctUrls operations).map fun url =>
    .ofOperations url (operations.filter (·.url = url))

theorem mem_distinctUrls {url : Text} {operations : List UpdateOperation} :
    url ∈ distinctUrls operations ↔ ∃ op ∈ operations, op.url = url := by
  induction operations with
  | nil => simp [distinctUrls]
  | cons op rest ih =>
    by_cases h : url = op.url
    · simp [distinctUrls, h]
    · simp [distinctUrls, h, ih, Ne.symm h]

/-- No address occurs twice. -/
theorem nodup_distinctUrls (operations : List UpdateOperation) :
    (distinctUrls operations).Nodup := by
  induction operations with
  | nil => simp [distinctUrls]
  | cons op rest ih =>
    simp only [distinctUrls, List.nodup_cons]
    exact ⟨by simp, ih.filter _⟩

end Cascade
