import Hivra.Library.HashChains
import Hivra.Library.Json
import Hivra.Library.Texts
import Mathlib.Data.List.Sort
import Std.Data.String.ToInt

/-!
# Agent-network audit log

The log is one table for all organizations.  An append takes the organization's
lock, so it is one step here; what it raises leaves the table alone.  The
verifier reads an organization's rows in order of their numbers and recomputes
the chain.

`AuditHashing` stands for what the database provides: the rendering of a time and
of a `jsonb`, and SHA-256 of an array's text.
-/

namespace Hivra.AgentNetwork

open Hivra.Library

inductive ArrayItem (Hash : Type)
  | null
  | text (value : String)
  | number (value : Int)
  | json (value : Json)
  | hash (value : Hash)

def ArrayItem.ofText {Hash : Type} : Option String → ArrayItem Hash
  | none => .null
  | some value => .text value

def ArrayItem.ofNumber {Hash : Type} : Option Int → ArrayItem Hash
  | none => .null
  | some value => .number value

/-- The parameters of `hivra_net_audit_entry_hash`: a row without its own hash. -/
structure AuditFields (Hash : Type) where
  orgId : String
  seq : Nat
  occurredAt : Int
  action : String
  actorUserId : Option String
  actorPrincipalId : Option String
  subjectPrincipalId : Option String
  resource : Option String
  decision : String
  rule : Option String
  reason : Option String
  policyRevision : Option Int
  digest : Option String
  sizeBytes : Option Int
  detail : Json
  prevHash : Hash

/-- A row of `hivra_network_audit`. -/
structure AuditEntry (Hash : Type) where
  fields : AuditFields Hash
  entryHash : Hash

structure AuditHashing (Hash : Type) where
  /-- `repeat('0', 64)`. -/
  zeros : Hash
  /-- `to_char(... at time zone 'UTC', ...)`, to the microsecond. -/
  toChar : Int → String
  /-- The text of a `jsonb`. -/
  jsonText : Json → String
  /-- `encode(sha256(convert_to(array::text, 'UTF8')), 'hex')`. -/
  sha256 : List (ArrayItem Hash) → Hash

section Hashed

variable {Hash : Type} (hashing : AuditHashing Hash)

/-- `jsonb_build_array` of the fields, in its order. -/
def fieldArray (fields : AuditFields Hash) : List (ArrayItem Hash) :=
  [ .text fields.orgId,
    .number fields.seq,
    .text (hashing.toChar fields.occurredAt),
    .text fields.action,
    .ofText fields.actorUserId,
    .ofText fields.actorPrincipalId,
    .ofText fields.subjectPrincipalId,
    .ofText fields.resource,
    .text fields.decision,
    .ofText fields.rule,
    .ofText fields.reason,
    .ofNumber fields.policyRevision,
    .ofText fields.digest,
    .ofNumber fields.sizeBytes,
    .json fields.detail,
    .hash fields.prevHash ]

/-- `hivra_net_audit_entry_hash`. -/
def auditEntryHash (fields : AuditFields Hash) : Hash :=
  hashing.sha256 (fieldArray hashing fields)

/-- The parameters of `hivra_net_append_audit`, and the clock it reads. -/
structure AppendCall where
  orgId : Option String
  action : Option String
  actorUserId : Option String := none
  actorPrincipalId : Option String := none
  subjectPrincipalId : Option String := none
  resource : Option String := none
  decision : Option String := some "n/a"
  rule : Option String := none
  reason : Option String := none
  policyRevision : Option Int := none
  digest : Option String := none
  sizeBytes : Option Int := none
  detail : Option Json := some (.object [])
  clock : Int

inductive AuditRefusal
  | unknownOrganization
  | carriesContent
  | notNullViolation
  | checkViolation
  | uniqueViolation

def contentKeys : List String :=
  ["body", "content", "text", "message", "payload", "prompt", "secret", "token", "key"]

/-- `jsonb_typeof(detail) = 'object' and detail ?| array[...]`. -/
def carriesContent : Json → Bool
  | .object members => members.any fun entry => contentKeys.contains entry.1
  | _ => false

/-- `action ~ '^[a-z0-9_.:-]{1,64}$'`. -/
def isActionName (action : String) : Bool :=
  1 ≤ action.length && action.length ≤ 64 &&
    action.toList.all fun char =>
      char.isDigit || char.isLower || ['_', '.', ':', '-'].contains char

def isBounded (least most : Nat) : Option String → Bool
  | none => true
  | some text => least ≤ text.length && text.length ≤ most

/-- `digest ~ '^[0-9a-f]{64}$'`. -/
def isDigest (text : String) : Bool :=
  text.length == 64 && text.toList.all isLowerHexDigit

/-- The column checks of `hivra_network_audit`; the two hashes always pass
theirs. -/
def passesChecks (fields : AuditFields Hash) : Bool :=
  decide (1 ≤ fields.seq) && isActionName fields.action &&
    isBounded 1 256 fields.actorUserId && isBounded 0 256 fields.resource &&
    ["allow", "deny", "approve", "n/a"].contains fields.decision &&
    isBounded 0 128 fields.rule && isBounded 0 500 fields.reason &&
    fields.policyRevision.all (fun revision => decide (0 ≤ revision)) &&
    fields.digest.all isDigest &&
    fields.sizeBytes.all (fun size => decide (0 ≤ size)) &&
    fields.detail.isRecord && decide ((hashing.jsonText fields.detail).length ≤ 2048)

structure AuditStore (Hash : Type) where
  orgs : List String
  entries : List (AuditEntry Hash)

def AuditStore.empty : AuditStore Hash :=
  { orgs := [], entries := [] }

def notAfter (left right : AuditEntry Hash) : Prop :=
  left.fields.seq ≤ right.fields.seq

instance : DecidableRel (@notAfter Hash) := fun left right =>
  inferInstanceAs (Decidable (left.fields.seq ≤ right.fields.seq))

/-- An organization's rows, `order by seq`. -/
def chainOf (orgId : String) (entries : List (AuditEntry Hash)) : List (AuditEntry Hash) :=
  (entries.filter fun entry => entry.fields.orgId == orgId).insertionSort notAfter

/-- `coalesce(p_detail, '{}'::jsonb)`. -/
def AppendCall.storedDetail (call : AppendCall) : Json :=
  call.detail.getD (.object [])

/-- The row an append writes after `latest`. -/
def AppendCall.fields
    (call : AppendCall) (orgId action decision : String) (latest : Option (AuditEntry Hash)) :
    AuditFields Hash :=
  { orgId
    seq := (latest.map (·.fields.seq)).getD 0 + 1
    occurredAt := call.clock
    action
    actorUserId := call.actorUserId
    actorPrincipalId := call.actorPrincipalId
    subjectPrincipalId := call.subjectPrincipalId
    resource := call.resource
    decision
    rule := call.rule
    reason := call.reason
    policyRevision := call.policyRevision
    digest := call.digest
    sizeBytes := call.sizeBytes
    detail := call.storedDetail
    prevHash := (latest.map AuditEntry.entryHash).getD hashing.zeros }

def insertEntry (call : AppendCall) (orgId : String) (store : AuditStore Hash) :
    Except AuditRefusal (Nat × AuditStore Hash) :=
  match call.action, call.decision with
  | some action, some decision =>
    let fields := call.fields hashing orgId action decision
      (chainOf orgId store.entries).getLast?
    if passesChecks hashing fields = false then
      .error .checkViolation
    else if store.entries.any (fun held =>
        held.fields.orgId == orgId && held.fields.seq == fields.seq) then
      .error .uniqueViolation
    else
      .ok (fields.seq,
        { store with
          entries := store.entries ++ [{ fields, entryHash := auditEntryHash hashing fields }] })
  | _, _ => .error .notNullViolation

/-- `hivra_net_append_audit`. -/
def appendAudit (call : AppendCall) (store : AuditStore Hash) :
    Except AuditRefusal (Nat × AuditStore Hash) :=
  match call.orgId with
  | none => .error .unknownOrganization
  | some orgId =>
    if store.orgs.contains orgId = false then
      .error .unknownOrganization
    else if call.detail.any carriesContent then
      .error .carriesContent
    else
      insertEntry hashing call orgId store

/-- The row `hivra_net_verify_audit_chain` returns. -/
structure ChainReport where
  ok : Bool
  entries : Nat
  firstBadSeq : Option Nat
  problem : Option String

variable [DecidableEq Hash]

def verifyFrom (expectedSeq : Nat) (prevHash : Hash) (count : Nat) :
    List (AuditEntry Hash) → ChainReport
  | [] => { ok := true, entries := count, firstBadSeq := none, problem := none }
  | entry :: rest =>
    if entry.fields.seq ≠ expectedSeq then
      { ok := false, entries := count + 1, firstBadSeq := some expectedSeq
        problem := some "gap in sequence numbers" }
    else if entry.fields.prevHash ≠ prevHash then
      { ok := false, entries := count + 1, firstBadSeq := some entry.fields.seq
        problem := some "previous hash does not match" }
    else if entry.entryHash ≠ auditEntryHash hashing entry.fields then
      { ok := false, entries := count + 1, firstBadSeq := some entry.fields.seq
        problem := some "entry hash does not match its content" }
    else
      verifyFrom (expectedSeq + 1) entry.entryHash (count + 1) rest

/-- `hivra_net_verify_audit_chain`. -/
def verifyAuditChain (orgId : String) (entries : List (AuditEntry Hash)) : ChainReport :=
  verifyFrom hashing 1 hashing.zeros 0 (chainOf orgId entries)

end Hashed

section Runs

variable {Hash : Type} (hashing : AuditHashing Hash)

inductive AuditEvent
  | createOrg (orgId : String)
  | append (call : AppendCall)

def AuditStore.step (store : AuditStore Hash) : AuditEvent → AuditStore Hash
  | .createOrg orgId => { store with orgs := store.orgs ++ [orgId] }
  | .append call =>
    match appendAudit hashing call store with
    | .ok (_, next) => next
    | .error _ => store

def AuditStore.after (store : AuditStore Hash) (events : List AuditEvent) : AuditStore Hash :=
  events.foldl (AuditStore.step hashing) store

def appendsTo (orgId : String) (store : AuditStore Hash) : AuditEvent → Bool
  | .createOrg _ => false
  | .append call => call.orgId == some orgId && (appendAudit hashing call store).isOk

def appendedTo (orgId : String) : AuditStore Hash → List AuditEvent → Nat
  | _, [] => 0
  | store, event :: events =>
    (if appendsTo hashing orgId store event then 1 else 0) +
      appendedTo orgId (AuditStore.step hashing store event) events

end Runs

section Chain

variable {Hash : Type} (hashing : AuditHashing Hash)

def auditView : ChainView (AuditEntry Hash) Hash :=
  { number := fun entry => entry.fields.seq
    previous := fun entry => entry.fields.prevHash
    hash := AuditEntry.entryHash
    computed := fun entry => auditEntryHash hashing entry.fields }

def faultText : ChainFault → String
  | .gap => "gap in sequence numbers"
  | .link => "previous hash does not match"
  | .hash => "entry hash does not match its content"

theorem verify_from_eq [DecidableEq Hash] (expectedSeq : Nat) (prevHash : Hash) (count : Nat)
    (entries : List (AuditEntry Hash)) : verifyFrom hashing expectedSeq prevHash count entries =
      match (auditView hashing).firstBroken prevHash expectedSeq entries with
      | none =>
        { ok := true, entries := count + entries.length, firstBadSeq := none, problem := none }
      | some (seq, fault) =>
        { ok := false, entries := count + (seq - expectedSeq) + 1, firstBadSeq := some seq
          problem := some (faultText fault) } := by
  induction entries generalizing expectedSeq prevHash count with
  | nil => rfl
  | cons entry rest ih =>
    unfold verifyFrom ChainView.firstBroken ChainView.fault?
    dsimp only [auditView]
    by_cases gap : entry.fields.seq = expectedSeq
    · by_cases link : entry.fields.prevHash = prevHash
      · by_cases hashed : entry.entryHash = auditEntryHash hashing entry.fields
        · simp only [gap, link, hashed, ne_eq, not_true, if_false]
          rw [← hashed, ih]
          change _ = match (auditView hashing).firstBroken entry.entryHash (expectedSeq + 1) rest with
            | none => _
            | some (seq, fault) => _
          cases broken : (auditView hashing).firstBroken entry.entryHash (expectedSeq + 1) rest with
          | none =>
            dsimp only
            rw [List.length_cons]
            congr 1
            omega
          | some found =>
            obtain ⟨before, _, _, _, position, _, _⟩ :=
              (auditView hashing).first_broken_some broken
            dsimp only
            congr 1
            omega
        · simp [gap, link, hashed, faultText]
      · simp [gap, link, faultText]
    · simp [gap, faultText]

def entriesOf (orgId : String) (entries : List (AuditEntry Hash)) : List (AuditEntry Hash) :=
  entries.filter fun entry => entry.fields.orgId == orgId

def Genuine (store : AuditStore Hash) : Prop :=
  ∀ orgId, (auditView hashing).Chained hashing.zeros 1 (entriesOf orgId store.entries)

theorem chain_of_chained {orgId : String} {entries : List (AuditEntry Hash)}
    (chained : (auditView hashing).Chained hashing.zeros 1 (entriesOf orgId entries)) :
    chainOf orgId entries = entriesOf orgId entries := by
  have numbers := ChainView.chained_numbers _ chained
  have ascending : ((entriesOf orgId entries).map fun entry => entry.fields.seq).Pairwise
      (· ≤ ·) := by
    change ((entriesOf orgId entries).map (auditView hashing).number).Pairwise (· ≤ ·)
    rw [numbers]
    exact List.pairwise_le_range'
  rw [List.pairwise_map] at ascending
  exact List.Pairwise.insertionSort_eq ascending

theorem append_audit_ok {call : AppendCall} {store next : AuditStore Hash} {seq : Nat}
    (appended : appendAudit hashing call store = .ok (seq, next)) :
    ∃ orgId fields, call.orgId = some orgId ∧ fields.orgId = orgId ∧
      fields.occurredAt = call.clock ∧
      fields.seq = (((chainOf orgId store.entries).getLast?.map (·.fields.seq)).getD 0) + 1 ∧
      fields.prevHash = (auditView hashing).lastHash hashing.zeros (chainOf orgId store.entries) ∧
      next.entries = store.entries ++ [{ fields, entryHash := auditEntryHash hashing fields }] := by
  unfold appendAudit at appended
  split at appended
  · cases appended
  · rename_i orgId named
    split_ifs at appended
    unfold insertEntry at appended
    split at appended
    · rename_i action decision _ _
      dsimp only at appended
      split_ifs at appended
      rw [Except.ok.injEq, Prod.mk.injEq] at appended
      obtain ⟨_, same⟩ := appended
      exact ⟨orgId, call.fields hashing orgId action decision
        (chainOf orgId store.entries).getLast?, named, rfl, rfl, rfl, rfl, by rw [← same]⟩
    · cases appended

theorem last_seq_of_chained {entries : List (AuditEntry Hash)}
    (chained : (auditView hashing).Chained hashing.zeros 1 entries) :
    (entries.getLast?.map (·.fields.seq)).getD 0 = entries.length := by
  cases entries using List.reverseRecOn with
  | nil => rfl
  | append_singleton before last =>
    rw [ChainView.chained_append] at chained
    have numbered : last.fields.seq = 1 + before.length := chained.2.1
    rw [List.getLast?_concat, Option.map_some, Option.getD_some, numbered, List.length_append,
      List.length_singleton, Nat.add_comm]

theorem entries_of_append (orgId : String) (entries : List (AuditEntry Hash))
    (entry : AuditEntry Hash) : entriesOf orgId (entries ++ [entry]) =
      entriesOf orgId entries ++ (if entry.fields.orgId = orgId then [entry] else []) := by
  unfold entriesOf
  rw [List.filter_append]
  congr 1
  by_cases own : entry.fields.orgId = orgId
  · simp [own]
  · simp [own]

section

variable {store : AuditStore Hash} (genuine : Genuine hashing store)
include genuine

theorem genuine_append {call : AppendCall} {next : AuditStore Hash} {seq : Nat}
    (appended : appendAudit hashing call store = .ok (seq, next)) : Genuine hashing next := by
  obtain ⟨orgId, fields, _, own, _, number, link, rows⟩ := append_audit_ok hashing appended
  intro other
  rw [rows, entries_of_append]
  by_cases same : fields.orgId = other
  · rw [if_pos same]
    rw [own] at same
    subst same
    have chain := chain_of_chained hashing (genuine orgId)
    rw [ChainView.chained_append]
    refine ⟨genuine orgId, ?_, ?_, rfl⟩
    · change fields.seq = 1 + (entriesOf orgId store.entries).length
      rw [number, chain, last_seq_of_chained hashing (genuine orgId), Nat.add_comm]
    · change fields.prevHash = _
      rw [link, chain]
  · rw [if_neg same, List.append_nil]
    exact genuine other

theorem genuine_step (event : AuditEvent) : Genuine hashing (store.step hashing event) := by
  cases event with
  | createOrg orgId => exact genuine
  | append call =>
    cases appended : appendAudit hashing call store with
    | error refusal =>
      simp only [AuditStore.step, appended]
      exact genuine
    | ok answer =>
      simp only [AuditStore.step, appended]
      exact genuine_append hashing genuine appended

theorem genuine_after (events : List AuditEvent) :
    Genuine hashing (store.after hashing events) := by
  induction events generalizing store with
  | nil => exact genuine
  | cons event events ih => exact ih (genuine_step hashing genuine event)

end

theorem genuine_empty : Genuine hashing AuditStore.empty := fun _ => trivial

theorem length_step (orgId : String) (store : AuditStore Hash) (event : AuditEvent) :
    (entriesOf orgId (store.step hashing event).entries).length =
      (entriesOf orgId store.entries).length +
        (if appendsTo hashing orgId store event then 1 else 0) := by
  cases event with
  | createOrg created => rfl
  | append call =>
    unfold appendsTo
    cases appended : appendAudit hashing call store with
    | error refusal => simp [AuditStore.step, appended, Except.isOk, Except.toBool]
    | ok answer =>
      obtain ⟨seq, next⟩ := answer
      obtain ⟨written, fields, named, own, _, _, _, rows⟩ := append_audit_ok hashing appended
      simp only [AuditStore.step, appended]
      rw [rows, entries_of_append, List.length_append, named]
      by_cases same : written = orgId
      · simp [same, own, Except.isOk, Except.toBool]
      · simp [same, own]

theorem length_after (orgId : String) (store : AuditStore Hash) (events : List AuditEvent) :
    (entriesOf orgId (store.after hashing events).entries).length =
      (entriesOf orgId store.entries).length + appendedTo hashing orgId store events := by
  induction events generalizing store with
  | nil => rfl
  | cons event events ih =>
    have rest := ih (store.step hashing event)
    have first := length_step hashing orgId store event
    change (entriesOf orgId ((store.step hashing event).after hashing events).entries).length = _
    rw [rest, first, appendedTo]
    omega

/-- The first microsecond of year 1.  From it on no two times print alike; a year before it
prints like one after. -/
def firstPrinted : Int := -62135596800000000

/-- What is assumed of the database: arrays are hashed apart, and times from year 1 on are
printed apart. -/
structure HashesApart : Prop where
  arrays : Function.Injective hashing.sha256
  times : ∀ one other, firstPrinted ≤ one → firstPrinted ≤ other →
    hashing.toChar one = hashing.toChar other → one = other

theorem of_text_injective {left right : Option String}
    (same : (ArrayItem.ofText left : ArrayItem Hash) = ArrayItem.ofText right) : left = right := by
  cases left <;> cases right <;> cases same <;> rfl

theorem of_number_injective {left right : Option Int}
    (same : (ArrayItem.ofNumber left : ArrayItem Hash) = ArrayItem.ofNumber right) :
    left = right := by
  cases left <;> cases right <;> cases same <;> rfl

variable {hashing} in
theorem hash_determines_fields (apart : HashesApart hashing) {left right : AuditFields Hash}
    (leftTime : firstPrinted ≤ left.occurredAt) (rightTime : firstPrinted ≤ right.occurredAt)
    (same : auditEntryHash hashing left = auditEntryHash hashing right) : left = right := by
  have arrays := apart.arrays same
  simp only [fieldArray, List.cons.injEq, ArrayItem.text.injEq, ArrayItem.number.injEq,
    ArrayItem.json.injEq, ArrayItem.hash.injEq, Int.ofNat_inj, and_true] at arrays
  obtain ⟨org, seq, time, action, actor, actorPrincipal, subject, resource, decision, rule, reason,
    revision, digest, size, detail, previous⟩ := arrays
  have sameTime := apart.times _ _ leftTime rightTime time
  cases left
  cases right
  simp only at org seq action decision detail previous sameTime
  rw [AuditFields.mk.injEq]
  exact ⟨org, seq, sameTime, action, of_text_injective actor, of_text_injective actorPrincipal,
    of_text_injective subject, of_text_injective resource, decision, of_text_injective rule,
    of_text_injective reason, of_number_injective revision, of_text_injective digest,
    of_number_injective size, detail, previous⟩

def Printed (entries : List (AuditEntry Hash)) : Prop :=
  ∀ entry ∈ entries, firstPrinted ≤ entry.fields.occurredAt

theorem printed_after {events : List AuditEvent} {store : AuditStore Hash}
    (clocks : ∀ call, .append call ∈ events → firstPrinted ≤ call.clock)
    (printed : Printed store.entries) : Printed (store.after hashing events).entries := by
  induction events generalizing store with
  | nil => exact printed
  | cons event events ih =>
    apply ih fun call later => clocks call (List.mem_cons_of_mem _ later)
    cases event with
    | createOrg orgId => exact printed
    | append call =>
      have clock := clocks call List.mem_cons_self
      cases appended : appendAudit hashing call store with
      | error refusal =>
        simp only [AuditStore.step, appended]
        exact printed
      | ok answer =>
        simp only [AuditStore.step, appended]
        obtain ⟨_, fields, _, _, time, _, _, rows⟩ := append_audit_ok hashing appended
        intro entry member
        rw [rows, List.mem_append, List.mem_singleton] at member
        cases member with
        | inl held => exact printed entry held
        | inr written =>
          subst written
          exact clock.trans_eq time.symm

theorem printed_chain {entries : List (AuditEntry Hash)} (printed : Printed entries)
    (orgId : String) : Printed (chainOf orgId entries) := by
  intro entry member
  rw [chainOf, List.mem_insertionSort] at member
  exact printed entry (List.mem_of_mem_filter member)

/-- The entry at this place of the list is wrong, and none before it is: its number
is not its place, or it does not name the hash of the entry before it, or its hash
is not that of its fields. -/
def FirstWrong (entries : List (AuditEntry Hash)) (place : Nat) : Prop :=
  ∃ before entry after, entries = before ++ entry :: after ∧ place = before.length + 1 ∧
    (auditView hashing).Chained hashing.zeros 1 before ∧
    (entry.fields.seq ≠ place ∨
      entry.fields.prevHash ≠ (auditView hashing).lastHash hashing.zeros before ∨
      entry.entryHash ≠ auditEntryHash hashing entry.fields)

variable [DecidableEq Hash]

theorem verify_ok_iff (orgId : String) (entries : List (AuditEntry Hash)) :
    (verifyAuditChain hashing orgId entries).ok = true ↔
      (auditView hashing).Chained hashing.zeros 1 (chainOf orgId entries) := by
  rw [verifyAuditChain, verify_from_eq, ← ChainView.first_broken_none]
  cases (auditView hashing).firstBroken hashing.zeros 1 (chainOf orgId entries) with
  | none => simp
  | some found => simp

theorem verify_first_bad {orgId : String} {entries : List (AuditEntry Hash)} {place : Nat}
    (reported : (verifyAuditChain hashing orgId entries).firstBadSeq = some place) :
    FirstWrong hashing (chainOf orgId entries) place := by
  rw [verifyAuditChain, verify_from_eq] at reported
  cases broken : (auditView hashing).firstBroken hashing.zeros 1 (chainOf orgId entries) with
  | none =>
    rw [broken] at reported
    cases reported
  | some found =>
    rw [broken] at reported
    cases reported
    obtain ⟨before, entry, after, split, position, chained, faulty⟩ :=
      (auditView hashing).first_broken_some broken
    refine ⟨before, entry, after, split, by omega, chained, ?_⟩
    by_contra fine
    push Not at fine
    have clean := ((auditView hashing).fault_none _ _ _).mpr fine
    rw [clean] at faulty
    cases faulty

end Chain

/-- A hash that keeps what it was computed from. -/
inductive SymbolicHash
  | zeros
  | sha256 (items : List (ArrayItem SymbolicHash))

def symbolicHashing : AuditHashing SymbolicHash :=
  { zeros := .zeros
    toChar := Int.repr
    jsonText := fun value => String.ofList value.stringify
    sha256 := .sha256 }

theorem symbolic_hashes_apart : HashesApart symbolicHashing :=
  { arrays := fun _ _ same => SymbolicHash.sha256.inj same
    times := fun _ _ _ _ same => Int.repr_injective same }

def loggedOrg : List AuditEvent :=
  [ .createOrg "org",
    .createOrg "other",
    .append { orgId := some "org", action := some "org.create", clock := 1 },
    .append { orgId := some "other", action := some "org.create", clock := 2 },
    .append { orgId := some "org", action := some "member.add", clock := 3 } ]

end Hivra.AgentNetwork
