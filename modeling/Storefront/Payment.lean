import Storefront.Datum.Basic
import Storefront.Text.Quoted
/-!
Words of the payment trade. Each vocabulary is a closed list of words with the form in which they
are sent and the label that people read. Nothing here says which word may follow which.
-/

namespace Storefront.Payment

/-- A closed list of words; `all` has every one of them, in the order in which they are offered. -/
class Vocabulary (α : Type) where
  title : String
  all : List α
  wire : α → String
  label : α → String

structure UnknownWord where
  vocabulary : String
  text : String
  deriving DecidableEq, Repr

def UnknownWord.message (unknown : UnknownWord) : String :=
  "Unknown " ++ unknown.vocabulary ++ " value: " ++ Text.Quoted.quote unknown.text

namespace Vocabulary

variable {α : Type} [Vocabulary α]

def ofWire? (text : String) : Option α := (all : List α).find? fun word => wire word = text

def read (text : String) : Except UnknownWord α :=
  match ofWire? text with
  | some word => .ok word
  | none => .error ⟨title α, text⟩

def choices (α : Type) [Vocabulary α] : List (String × String) :=
  (all : List α).map fun word => (wire word, label word)

end Vocabulary

open Vocabulary

/-- What a transaction does: reserve an amount, take it, give up the reservation, give an amount
back, or note that staff has confirmed. -/
inductive TransactionKind where
  | auth
  | refund
  | capture
  | void
  | confirm
  deriving DecidableEq, Repr

instance : Vocabulary TransactionKind where
  title := "transaction kind"
  all := [.auth, .refund, .capture, .void, .confirm]
  wire
    | .auth => "auth"
    | .refund => "refund"
    | .capture => "capture"
    | .void => "void"
    | .confirm => "confirm"
  label
    | .auth => "Authorization"
    | .refund => "Refund"
    | .capture => "Capture"
    | .void => "Void"
    | .confirm => "Confirm"

inductive ChargeStatus where
  | notCharged
  | partiallyCharged
  | fullyCharged
  | partiallyRefunded
  | fullyRefunded
  deriving DecidableEq, Repr

instance : Vocabulary ChargeStatus where
  title := "charge status"
  all := [.notCharged, .partiallyCharged, .fullyCharged, .partiallyRefunded, .fullyRefunded]
  wire
    | .notCharged => "not-charged"
    | .partiallyCharged => "partially-charged"
    | .fullyCharged => "fully-charged"
    | .partiallyRefunded => "partially-refunded"
    | .fullyRefunded => "fully-refunded"
  label
    | .notCharged => "Not charged"
    | .partiallyCharged => "Partially charged"
    | .fullyCharged => "Fully charged"
    | .partiallyRefunded => "Partially refunded"
    | .fullyRefunded => "Fully refunded"

def ChargeStatus.initial : ChargeStatus := .notCharged

inductive TransactionError where
  | incorrectNumber
  | invalidNumber
  | incorrectCvv
  | invalidCvv
  | incorrectZip
  | incorrectAddress
  | invalidExpiryDate
  | expired
  | processingError
  | declined
  deriving DecidableEq, Repr

instance : Vocabulary TransactionError where
  title := "transaction error"
  all := [.incorrectNumber, .invalidNumber, .incorrectCvv, .invalidCvv, .incorrectZip,
    .incorrectAddress, .invalidExpiryDate, .expired, .processingError, .declined]
  wire
    | .incorrectNumber => "incorrect_number"
    | .invalidNumber => "invalid_number"
    | .incorrectCvv => "incorrect_cvv"
    | .invalidCvv => "invalid_cvv"
    | .incorrectZip => "incorrect_zip"
    | .incorrectAddress => "incorrect_address"
    | .invalidExpiryDate => "invalid_expiry_date"
    | .expired => "expired"
    | .processingError => "processing_error"
    | .declined => "declined"
  label
    | .incorrectNumber => "Incorrect card number"
    | .invalidNumber => "Invalid card number"
    | .incorrectCvv => "Incorrect CVV"
    | .invalidCvv => "Invalid CVV"
    | .incorrectZip => "Incorrect postal code"
    | .incorrectAddress => "Incorrect address"
    | .invalidExpiryDate => "Invalid expiry date"
    | .expired => "Expired"
    | .processingError => "Processing error"
    | .declined => "Declined"

inductive OperationType where
  | processPayment
  | auth
  | capture
  | void
  | refund
  | confirm
  deriving DecidableEq, Repr

instance : Vocabulary OperationType where
  title := "operation type"
  all := [.processPayment, .auth, .capture, .void, .refund, .confirm]
  wire
    | .processPayment => "process_payment"
    | .auth => "authorize"
    | .capture => "capture"
    | .void => "void"
    | .refund => "refund"
    | .confirm => "confirm"
  label
    | .processPayment => "Process payment"
    | .auth => "Authorize"
    | .capture => "Capture"
    | .void => "Void"
    | .refund => "Refund"
    | .confirm => "Confirm"

inductive CustomPayment where
  | manual
  deriving DecidableEq, Repr

instance : Vocabulary CustomPayment where
  title := "custom payment choice"
  all := [.manual]
  wire
    | .manual => "manual"
  label
    | .manual => "Manual"

/-- The gateway operation by which a transaction of this kind comes about. -/
def TransactionKind.operation : TransactionKind → OperationType
  | .auth => .auth
  | .capture => .capture
  | .void => .void
  | .refund => .refund
  | .confirm => .confirm

instance : ToDatum TransactionKind := ⟨fun word => .text (wire word)⟩
instance : ToDatum ChargeStatus := ⟨fun word => .text (wire word)⟩
instance : ToDatum TransactionError := ⟨fun word => .text (wire word)⟩
instance : ToDatum OperationType := ⟨fun word => .text (wire word)⟩
instance : ToDatum CustomPayment := ⟨fun word => .text (wire word)⟩

instance : OfDatum TransactionKind := ⟨fun format datum => (datum.name? format).bind ofWire?⟩
instance : OfDatum ChargeStatus := ⟨fun format datum => (datum.name? format).bind ofWire?⟩
instance : OfDatum TransactionError := ⟨fun format datum => (datum.name? format).bind ofWire?⟩
instance : OfDatum OperationType := ⟨fun format datum => (datum.name? format).bind ofWire?⟩
instance : OfDatum CustomPayment := ⟨fun format datum => (datum.name? format).bind ofWire?⟩

/-! Failures. A business failure is final; trouble on the line to a gateway may pass. -/
section Failures

inductive LineFault where
  | notFound
  | permissionDenied
  | connectionRefused
  | connectionReset
  | brokenPipe
  | timedOut
  | other
  deriving DecidableEq, Repr

def LineFault.standardText : LineFault → String
  | .notFound => "entity not found"
  | .permissionDenied => "permission denied"
  | .connectionRefused => "connection refused"
  | .connectionReset => "connection reset"
  | .brokenPipe => "broken pipe"
  | .timedOut => "timed out"
  | .other => "other error"

inductive Failure where
  | business (reason : String)
  | gateway (fault : LineFault) (reason : Option String)
  deriving DecidableEq, Repr

namespace Failure

def message : Failure → String
  | business reason => reason
  | gateway fault reason => "Gateway I/O failure: " ++ reason.getD fault.standardText

def isRetryable : Failure → Bool
  | business _ => false
  | gateway _ _ => true

def status : Failure → Nat
  | business _ => 402
  | gateway _ _ => 502

def fault? : Failure → Option LineFault
  | business _ => none
  | gateway fault _ => some fault

end Failure

end Failures

end Storefront.Payment
