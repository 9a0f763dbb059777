import DsspBot.Protocol

/-!
# Errors — the worker's exceptions and error replies

The worker is a separate program that answers one request at a time. Its own exception class carries
a code and whether a submission had been attempted; everything else it may meet comes from the
libraries it calls. An error reply states the proof that the retry policy rests on.
-/

namespace DsspBot

def ERR_ELEMENT_NOT_FOUND : String := "ELEMENT_NOT_FOUND"
def ERR_NETWORK : String := "NETWORK"
def ERR_SESSION_EXPIRED : String := "SESSION_EXPIRED"
def ERR_TRAINEE_NOT_FOUND : String := "TRAINEE_NOT_FOUND"
def ERR_MISSING_DATA : String := "MISSING_DATA"
def ERR_VALIDATION_FAILED : String := "VALIDATION_FAILED"
def ERR_PORTAL_STRUCTURE_CHANGED : String := "PORTAL_STRUCTURE_CHANGED"
def ERR_PORTAL_NOT_MAPPED : String := "PORTAL_NOT_MAPPED"
def ERR_CONFIRMATION_UNKNOWN : String := "CONFIRMATION_UNKNOWN"
def ERR_SUBMISSION_FAILED : String := "SUBMISSION_FAILED"
def ERR_BAD_REQUEST : String := "BAD_REQUEST"
def ERR_UNKNOWN_OP : String := "UNKNOWN_OP"

/-- Codes that can prove nothing reached the portal before a submission attempt. -/
def PROVES_NOTHING : List String :=
  [ERR_ELEMENT_NOT_FOUND, ERR_PORTAL_NOT_MAPPED, ERR_PORTAL_STRUCTURE_CHANGED,
    ERR_SESSION_EXPIRED, ERR_VALIDATION_FAILED, ERR_MISSING_DATA, ERR_TRAINEE_NOT_FOUND,
    ERR_BAD_REQUEST, ERR_UNKNOWN_OP]

def provesNothingSubmitted (errorCode : String) : Bool :=
  decide (errorCode ∈ PROVES_NOTHING)

@[simp] theorem provesNothingSubmitted_network : provesNothingSubmitted ERR_NETWORK = false := by
  decide

@[simp] theorem provesNothingSubmitted_submissionFailed :
    provesNothingSubmitted ERR_SUBMISSION_FAILED = false := by
  decide

/-! ## Exceptions -/

structure PortalError where
  errorCode : String
  message : String
  submissionAttempted : Bool := false
  deriving DecidableEq, Repr

namespace PortalError

def elementNotFound (element : String) : PortalError :=
  { errorCode := ERR_ELEMENT_NOT_FOUND, message := s!"Portal element not found: {element}" }

def validation (message : String) : PortalError :=
  { errorCode := ERR_VALIDATION_FAILED, message := message }

def missingData (field : String) : PortalError :=
  { errorCode := ERR_MISSING_DATA, message := s!"Required data is missing: {field}" }

def sessionExpired (submissionAttempted : Bool) : PortalError :=
  { errorCode := ERR_SESSION_EXPIRED
    message := "The DSSP session has expired."
    submissionAttempted := submissionAttempted }

def network (message : String) : PortalError :=
  { errorCode := ERR_NETWORK, message := message }

def portalStructure (message : String) : PortalError :=
  { errorCode := ERR_PORTAL_STRUCTURE_CHANGED, message := message }

def traineeNotFound (message : String) : PortalError :=
  { errorCode := ERR_TRAINEE_NOT_FOUND, message := message }

def confirmationUnknown (message : String) : PortalError :=
  { errorCode := ERR_CONFIRMATION_UNKNOWN
    message := s!"Submitted, but the result could not be confirmed: {message}"
    submissionAttempted := true }

/-- The error proves that nothing was submitted: no attempt was made, and its code says so. -/
def provesNothing (e : PortalError) : Bool :=
  !e.submissionAttempted && provesNothingSubmitted e.errorCode

@[simp] theorem provesNothing_network (message : String) :
    (network message).provesNothing = false := by
  simp [network, provesNothing]

@[simp] theorem provesNothing_confirmationUnknown (message : String) :
    (confirmationUnknown message).provesNothing = false := rfl

@[simp] theorem provesNothing_sessionExpired_attempted :
    (sessionExpired true).provesNothing = false := rfl

end PortalError

/-- An exception of a library, by the classes the worker's handlers tell apart. -/
inductive LibraryError
  | playwright (text : String)
  | os (text : String)
  | value (text : String)
  | type (text : String)
  | other (text : String)
  deriving DecidableEq, Repr

/-- `str(exc)`. -/
def LibraryError.text : LibraryError → String
  | .playwright text => text
  | .os text => text
  | .value text => text
  | .type text => text
  | .other text => text

/-- What the worker may raise: its own class, which no library knows, or a library's. -/
inductive PyException
  | portal (e : PortalError)
  | library (e : LibraryError)
  deriving DecidableEq, Repr

/-! ## Replies -/

def okResponse (jobId op : String) : Response :=
  { jobId := jobId, op := op, status := .ok }

def errorResponse (jobId op errorCode message : String) (submissionAttempted : Bool := false) :
    Response :=
  { jobId := jobId
    op := op
    status := .error
    errorCode := some errorCode
    message := some message
    provesNothingSubmitted :=
      some (!submissionAttempted && provesNothingSubmitted errorCode) }

end DsspBot
