import Hivra.Credits.CreditTables

/-!
# The calls on credits

`createCreditReservation`, `releaseCreditReservation`, `appendCreditLedgerEntry` and
`getCachedCreditBalance`, each statement one request.  A caller gives any number as an
amount; only a whole one is written.
-/

namespace Hivra.Credits

open Hivra.Library

abbrev CreditScript (Outcome : Type) : Type := Script CreditCall CreditCall.Reply String Outcome

/-- `error?.message || fallback`. -/
def QueryError.messageOr (error : QueryError) (fallback : String) : String :=
  if error.message = "" then fallback else error.message

def answered (call : CreditCall) (fallback : String) : CreditScript call.Answer :=
  .call call fun reply =>
    match reply with
    | .ok answer => .ret answer
    | .error error => .raise (error.messageOr fallback)

def require (condition : Bool) (message : String) : CreditScript Unit :=
  if condition then .ret () else .raise message

/-- `!!text.trim()`. -/
def isGiven (text : String) : Bool :=
  trim text != ""

def ensureCreditAccount (userId : String) : CreditScript CreditAccount :=
  answered (.upsertAccount userId) "Failed to ensure credit account"

structure CreditReservationParams where
  userId : String
  amountCredits : Rat
  reason : String
  referenceId : String

def CreditReservationParams.row (params : CreditReservationParams) (accountId : String) :
    CreditReservation :=
  { id := ""
    userId := params.userId
    accountId
    amountCredits := params.amountCredits.num
    status := .active
    reason := params.reason
    referenceId := params.referenceId }

structure CreatedReservation where
  id : String
  amountCredits : Int
  status : ReservationStatus

def CreditReservation.created (row : CreditReservation) : CreatedReservation :=
  { id := row.id, amountCredits := row.amountCredits, status := row.status }

def createCreditReservation (params : CreditReservationParams) :
    CreditScript CreatedReservation := do
  require (isGiven params.userId) "Credit reservation user ID is required"
  require (isGiven params.reason) "Credit reservation reason is required"
  require (isGiven params.referenceId) "Credit reservation reference ID is required"
  require (params.amountCredits.isInt && decide (0 < params.amountCredits))
    "Credit reservation amount must be a positive integer"
  let account ← ensureCreditAccount params.userId
  let row ← answered (.upsertReservation (params.row account.id))
    "Failed to create credit reservation"
  return CreditReservation.created row

structure ReleaseCreditReservationParams where
  userId : String
  reason : String
  referenceId : String

def releaseCreditReservation (params : ReleaseCreditReservationParams) : CreditScript Unit := do
  require (isGiven params.userId) "Credit reservation user ID is required"
  require (isGiven params.reason) "Credit reservation reason is required"
  require (isGiven params.referenceId) "Credit reservation reference ID is required"
  answered (.releaseReservation params.userId params.reason params.referenceId)
    "Failed to release credit reservation"

end Hivra.Credits
