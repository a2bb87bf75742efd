import AuditTrail.Event.Basic

/-
  What is expected of a store of events. Events are written and deleted in transactions: what is
  staged in one takes effect together when it is committed, and not at all when it is rolled back.
-/
namespace AuditTrail

/-- Why a store refuses something. -/
inductive StoreError where
  | unavailable (reason : String)
  /-- The database refuses a statement. -/
  | database
  | internal (reason : String)
  deriving DecidableEq, Repr

/-- The text shown for an error. What a database says is left out. -/
def StoreError.message : StoreError → String
  | .unavailable reason => "Store unavailable: " ++ reason
  | .database => "Database error:"
  | .internal reason => "Internal error: " ++ reason

/-- A store with contents `σ` and open transactions `τ`. -/
structure Store (σ τ : Type) where
  /-- The name in lines and measures. -/
  name : String
  start : σ → Except StoreError τ × σ
  /-- Stages new events and gives their number. -/
  insert : List EventRecord → τ → σ → Except StoreError Nat × τ × σ
  /-- Stages the deletion of the events of a category from before a time and gives their number. -/
  deleteBefore : Category → Timestamp → τ → σ → Except StoreError Nat × τ × σ
  commit : τ → σ → Except StoreError Unit × σ
  rollback : τ → σ → Except StoreError Unit × σ
  /-- Whether a transaction can be committed at once. -/
  ready : τ → σ → Bool

/-- Whether an event is of a category and from before a time. -/
def EventRecord.isBefore (c : Category) (cutoff : Timestamp) (e : EventRecord) : Bool :=
  e.category == c && e.createdAt.before cutoff

/-- Adds a row to rows that are known by an identifier, unless there is one under the same. -/
def addRow {α : Type} (id : α → Uuid) (row : α) (rows : List α) : List α :=
  if rows.any (id · == id row) then rows else rows ++ [row]

end AuditTrail
