import Hivra.Library.Scripts
import Hivra.Library.Tables

/-!
# The card behind an account

A `setup_intent.succeeded` handler reads the card of the intent, looks for another account
that was accepted with it, and writes what it decides on the account's row.  Handing out an
intent writes the row too.  Every database statement is one request.
-/

namespace Hivra.CardGate

open Hivra.Library

inductive RiskDecision
  | allow
  | requireCard
  | block

/-- A row of `signup_risk_assessments`; the columns that only the risk check reads are left
out. -/
structure RiskRow where
  userId : String
  decision : RiskDecision
  cardRequiredAt : Option Int
  cardSatisfiedAt : Option Int
  cardSetupIntentId : Option String
  cardPaymentMethodId : Option String
  cardFingerprint : Option String
  cardFunding : Option String

/-- `user_id` is the primary key. -/
def RiskRow.entries (row : RiskRow) : List String := [row.userId]

def RiskRow.fresh (userId : String) : RiskRow :=
  { userId
    decision := .requireCard
    cardRequiredAt := none
    cardSatisfiedAt := none
    cardSetupIntentId := none
    cardPaymentMethodId := none
    cardFingerprint := none
    cardFunding := none }

structure CardAttempt where
  userId : String
  setupIntentId : String
  paymentMethodId : String
  cardFingerprint : String
  cardFunding : String

inductive CardRejectionReason
  | prepaidCard
  | cardCollision

/-- The upserts on `user_id`. -/
inductive RiskWrite
  | cardOnFile (attempt : CardAttempt)
  | cardRejected (attempt : CardAttempt) (reason : CardRejectionReason)
  | setupIntent (userId setupIntentId : String)

def RiskWrite.userId : RiskWrite → String
  | .cardOnFile attempt => attempt.userId
  | .cardRejected attempt _ => attempt.userId
  | .setupIntent userId _ => userId

def RiskWrite.fingerprint? : RiskWrite → Option String
  | .cardOnFile attempt => some attempt.cardFingerprint
  | .cardRejected attempt _ => some attempt.cardFingerprint
  | .setupIntent _ _ => none

def RiskRow.withCard (row : RiskRow) (attempt : CardAttempt) : RiskRow :=
  { row with
    cardSetupIntentId := some attempt.setupIntentId
    cardPaymentMethodId := some attempt.paymentMethodId
    cardFingerprint := some attempt.cardFingerprint
    cardFunding := some attempt.cardFunding }

/-- The columns an upsert sets; a rejection leaves `card_satisfied_at` as it is. -/
def RiskWrite.apply (write : RiskWrite) (now : Int) (row : RiskRow) : RiskRow :=
  match write with
  | .cardOnFile attempt =>
    { row.withCard attempt with cardSatisfiedAt := some now, decision := .allow }
  | .cardRejected attempt _ => { row.withCard attempt with decision := .block }
  | .setupIntent _ setupIntentId =>
    { row with
      cardSetupIntentId := some setupIntentId
      cardRequiredAt := some now
      decision := .requireCard }

theorem apply_user (write : RiskWrite) (now : Int) (row : RiskRow) :
    (write.apply now row).userId = row.userId := by
  cases write <;> rfl

/-- What `paymentMethods.retrieve` says of the card. -/
structure RetrievedCard where
  fingerprint : Option String
  funding : Option String

inductive CardCall
  | retrievePaymentMethod (paymentMethodId : String)
  | findSatisfied (fingerprint excludeUserId : String)
  | upsert (write : RiskWrite)

/-- `none` is an error of the retrieval; a failed lookup and a failed upsert are only
logged. -/
def CardCall.Reply : CardCall → Type
  | .retrievePaymentMethod _ => Option RetrievedCard
  | .findSatisfied _ _ => Option String
  | .upsert _ => Unit

abbrev CardScript (Outcome : Type) : Type := Script CardCall CardCall.Reply String Outcome

def truthy (text : Option String) : Option String := text.filter (· ≠ "")

def markCardOnFile (attempt : CardAttempt) : CardScript Unit :=
  Script.request (CardCall.upsert (.cardOnFile attempt))

def markCardRejected (attempt : CardAttempt) (reason : CardRejectionReason) : CardScript Unit :=
  Script.request (CardCall.upsert (.cardRejected attempt reason))

/-- `findOtherUserWithSatisfiedFingerprint`, of a fingerprint that is not empty. -/
def findOtherUserWithSatisfiedFingerprint (fingerprint excludeUserId : String) :
    CardScript (Option String) :=
  Script.request (CardCall.findSatisfied fingerprint excludeUserId)

def attachSetupIntent (userId setupIntentId : String) : CardScript Unit :=
  Script.request (CardCall.upsert (.setupIntent userId setupIntentId))

structure SetupIntent where
  id : String
  clerkUserId : Option String
  paymentMethodId : Option String

def judgeCard (attempt : CardAttempt) : CardScript Unit :=
  if attempt.cardFunding = "prepaid" then markCardRejected attempt .prepaidCard
  else do
    let colliding ← findOtherUserWithSatisfiedFingerprint attempt.cardFingerprint attempt.userId
    match truthy colliding with
    | some _ => markCardRejected attempt .cardCollision
    | none => markCardOnFile attempt

def handleSetupIntentSucceeded (intent : SetupIntent) : CardScript Unit :=
  match truthy intent.clerkUserId, truthy intent.paymentMethodId with
  | some clerkUserId, some paymentMethodId => do
    let retrieved : Option RetrievedCard ←
      Script.request (CardCall.retrievePaymentMethod paymentMethodId)
    match retrieved with
    | none => throw "payment_method_retrieve_failed"
    | some card =>
      match truthy card.fingerprint, truthy card.funding with
      | some cardFingerprint, some cardFunding =>
        judgeCard
          { userId := clerkUserId
            setupIntentId := intent.id
            paymentMethodId
            cardFingerprint
            cardFunding }
      | _, _ => pure ()
  | _, _ => pure ()

structure Acceptance where
  userId : String
  fingerprint : String

structure CardStore where
  rows : Table RiskRow.entries
  accepted : List Acceptance

def CardStore.opened : CardStore := { rows := .empty, accepted := [] }

structure CardTurn where
  fails : Bool
  card : RetrievedCard
  now : Int

def RiskRow.satisfiedBy (row : RiskRow) (fingerprint : String) : Bool :=
  row.cardFingerprint == some fingerprint && row.cardSatisfiedAt.isSome

def RiskRow.collides (row : RiskRow) (fingerprint excludeUserId : String) : Bool :=
  row.satisfiedBy fingerprint && row.userId != excludeUserId

def upsertRow (rows : Table RiskRow.entries) (write : RiskWrite) (now : Int) :
    Table RiskRow.entries :=
  let changed := rows.rewrite (fun row => row.userId == write.userId) (write.apply now)
    (fun row => by simp [RiskRow.entries, apply_user])
  (changed.insert (write.apply now (.fresh write.userId))).getD changed

def RiskWrite.acceptance? : RiskWrite → Option Acceptance
  | .cardOnFile attempt =>
    some { userId := attempt.userId, fingerprint := attempt.cardFingerprint }
  | _ => none

def performCard (call : CardCall) (turn : CardTurn) (store : CardStore) : CardStore × call.Reply :=
  match call with
  | .retrievePaymentMethod _ => (store, if turn.fails then none else some turn.card)
  | .findSatisfied fingerprint excludeUserId =>
    (store,
      if turn.fails then none
      else (store.rows.find? fun row => row.collides fingerprint excludeUserId).map
        RiskRow.userId)
  | .upsert write =>
    if turn.fails then (store, ())
    else
      ({ rows := upsertRow store.rows write turn.now
         accepted := store.accepted ++ write.acceptance?.toList }, ())

inductive CardJob
  | setupIntentSucceeded (intent : SetupIntent)
  | attachSetupIntent (userId setupIntentId : String)

def CardJob.script : CardJob → CardScript Unit
  | .setupIntentSucceeded intent => handleSetupIntentSucceeded intent
  | .attachSetupIntent userId setupIntentId => CardGate.attachSetupIntent userId setupIntentId

def cardSystem : System CardJob CardCall CardCall.Reply String Unit CardStore CardTurn Empty :=
  { program := CardJob.script
    perform := fun _ => performCard
    change := fun change => change.elim }

end Hivra.CardGate
