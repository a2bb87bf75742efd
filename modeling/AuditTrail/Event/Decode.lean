import AuditTrail.Event.Basic
import AuditTrail.Config.Decode

/-
  Reading events from structured values. The category decides which members are wanted; a list may
  give the category and then the members in their declared order.
-/
namespace AuditTrail.Decoder

/-- One of several names, alone or with null or an empty record as its content. -/
def mark {α : Type} (names : List (String × α)) : Decoder α
  | w, .object [(s, .object [])] => choice names w (.object [(s, .null)])
  | w, v => choice names w v

def operation : Decoder Operation :=
  mark (Operation.all.map fun o => (o.name, o))

/-! Where the reading of records starts from; every member of these is read over. -/

def blankApplication : Application := ⟨default, none⟩
def blankMirror : EntityMirror := ⟨default, "", blankApplication⟩
def blankField : FieldMirror := ⟨default, "", blankMirror, ""⟩
def blankEntry : EntityEntry := ⟨default, blankMirror, "", ""⟩
def blankTime : Timestamp := ⟨0, 0⟩

def application : Decoder Application :=
  record [
    required "id" uuid fun v a => { a with id := v },
    nullable "name" string fun v a => { a with name := v }] blankApplication

def entityMirror : Decoder EntityMirror :=
  record [
    required "id" uuid fun v m => { m with id := v },
    required "name" string fun v m => { m with name := v },
    required "application" application fun v m => { m with application := v }]
    blankMirror

def fieldMirror : Decoder FieldMirror :=
  record [
    required "id" uuid fun v f => { f with id := v },
    required "name" string fun v f => { f with name := v },
    required "mirror" entityMirror fun v f => { f with mirror := v },
    required "type_label" string fun v f => { f with typeLabel := v }]
    blankField

def entityEntry : Decoder EntityEntry :=
  record [
    required "id" uuid fun v e => { e with id := v },
    required "mirror" entityMirror fun v e => { e with mirror := v },
    required "primary_key" string fun v e => { e with primaryKey := v },
    required "value" string fun v e => { e with value := v }]
    blankEntry

def valueModification : Decoder ValueModification :=
  record [
    required "operation" operation fun v m => { m with operation := v },
    required "field" fieldMirror fun v m => { m with field := v },
    nullable "previous" string fun v m => { m with previous := v },
    nullable "current" string fun v m => { m with current := v }]
    ⟨.create, blankField, none, none⟩

def relationshipModification : Decoder RelationshipModification :=
  record [
    required "operation" operation fun v m => { m with operation := v },
    required "field" fieldMirror fun v m => { m with field := v },
    required "entry" entityEntry fun v m => { m with entry := v }]
    ⟨.create, blankField, blankEntry⟩

def bodyCapture : Decoder BodyCapture :=
  record [
    required "content" string fun v b => { b with content := v },
    required "content_type" string fun v b => { b with contentType := v }] ⟨"", ""⟩

def mutationEvent : Decoder MutationEvent :=
  record [
    required "id" uuid fun v e => { e with id := v },
    required "created_at" timestamp fun v e => { e with createdAt := v },
    required "operation" operation fun v e => { e with operation := v },
    nullable "actor" string fun v e => { e with actor := v },
    required "entry" entityEntry fun v e => { e with entry := v },
    nullable "snapshot" (fun _ v => .ok v) fun v e => { e with snapshot := v },
    nullable "duration" measured fun v e => { e with duration := v },
    required "modifications" (list valueModification) fun v e => { e with modifications := v },
    required "relationships" (list relationshipModification) fun v e =>
      { e with relationships := v }]
    { id := default, createdAt := blankTime, operation := .create, actor := none,
      entry := blankEntry }

def requestEvent : Decoder RequestEvent :=
  record [
    required "id" uuid fun v e => { e with id := v },
    required "created_at" timestamp fun v e => { e with createdAt := v },
    nullable "actor" string fun v e => { e with actor := v },
    required "uri" string fun v e => { e with uri := v },
    required "status" (below 0x10000) fun v e => { e with status := v },
    required "method" string fun v e => { e with method := v },
    required "application" application fun v e => { e with application := v },
    nullable "client_ip" string fun v e => { e with clientIp := v },
    nullable "request" bodyCapture fun v e => { e with request := v },
    nullable "response" bodyCapture fun v e => { e with response := v }]
    ⟨default, blankTime, none, "", 0, "", blankApplication, none, none, none⟩

def unspecifiedEvent : Decoder UnspecifiedEvent :=
  record [
    required "id" uuid fun v e => { e with id := v },
    required "created_at" timestamp fun v e => { e with createdAt := v },
    required "message" string fun v e => { e with message := v },
    required "level" level fun v e => { e with level := v },
    nullable "line" (below 0x100000000) fun v e => { e with line := v },
    nullable "file" string fun v e => { e with file := v },
    required "application" application fun v e => { e with application := v }]
    ⟨default, blankTime, "", .notset, none, none, blankApplication⟩

/-- The rest of an event once its category is known. -/
def eventOf (w : Notation) (v : Json) : Category → Except DecodeError EventRecord
  | .model => (mutationEvent w v).map .model
  | .request => (requestEvent w v).map .request
  | .unspecified => (unspecifiedEvent w v).map .unspecified

/-- The category with a name. -/
def categoryNamed (v : Json) : Except DecodeError Category :=
  match v with
  | .string s =>
    match Category.ofName? s with
    | some c => .ok c
    | none => .error .mismatch
  | _ => .error .mismatch

/-- An event of any category. -/
def event : Decoder EventRecord
  | w, .object ms =>
    match ms.lookup "category" with
    | some c => categoryNamed c >>= eventOf w (.object ms)
    | none => .error .mismatch
  | w, .array (c :: items) => categoryNamed c >>= eventOf w (.array items)
  | _, _ => .error .mismatch

end AuditTrail.Decoder
