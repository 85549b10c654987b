import Tvic.Lib.Text

/-!
# Normalized errors

`NormalizedError` and its factories, from `packages/core/src/errors.ts`. The type of the JSON values
in `cause` and `metadata` is a parameter.
-/
namespace Tvic

open Lib

inductive ErrorCategory where
  | validation
  | auth
  | provider
  | network
  | timeout
  | rateLimit
  | cancelled
  | interrupted
  | tool
  | media
  | internal
  deriving DecidableEq, Repr

def ErrorCategory.all : List ErrorCategory :=
  [.validation, .auth, .provider, .network, .timeout, .rateLimit, .cancelled, .interrupted, .tool,
    .media, .internal]

def ErrorCategory.text : ErrorCategory → Text
  | .validation => utf16 "validation"
  | .auth => utf16 "auth"
  | .provider => utf16 "provider"
  | .network => utf16 "network"
  | .timeout => utf16 "timeout"
  | .rateLimit => utf16 "rate_limit"
  | .cancelled => utf16 "cancelled"
  | .interrupted => utf16 "interrupted"
  | .tool => utf16 "tool"
  | .media => utf16 "media"
  | .internal => utf16 "internal"

inductive TvicErrorName where
  | authError
  | rateLimitError
  | invalidRequestError
  | connectionError
  | providerError
  | signatureError
  | validationError
  | timeoutError
  | internalError
  | mediaError
  | toolError
  | cancelledError
  | interruptedError
  | unknownError
  deriving DecidableEq, Repr

def TvicErrorName.all : List TvicErrorName :=
  [.authError, .rateLimitError, .invalidRequestError, .connectionError, .providerError,
    .signatureError, .validationError, .timeoutError, .internalError, .mediaError, .toolError,
    .cancelledError, .interruptedError, .unknownError]

def TvicErrorName.text : TvicErrorName → Text
  | .authError => utf16 "AuthError"
  | .rateLimitError => utf16 "RateLimitError"
  | .invalidRequestError => utf16 "InvalidRequestError"
  | .connectionError => utf16 "ConnectionError"
  | .providerError => utf16 "ProviderError"
  | .signatureError => utf16 "SignatureError"
  | .validationError => utf16 "ValidationError"
  | .timeoutError => utf16 "TimeoutError"
  | .internalError => utf16 "InternalError"
  | .mediaError => utf16 "MediaError"
  | .toolError => utf16 "ToolError"
  | .cancelledError => utf16 "CancelledError"
  | .interruptedError => utf16 "InterruptedError"
  | .unknownError => utf16 "UnknownError"

/-- `ERROR_NAMES_BY_CATEGORY`, turned around: the category that lists the name. -/
def TvicErrorName.category : TvicErrorName → ErrorCategory
  | .validationError | .invalidRequestError => .validation
  | .authError | .signatureError => .auth
  | .providerError => .provider
  | .connectionError => .network
  | .timeoutError => .timeout
  | .rateLimitError => .rateLimit
  | .cancelledError => .cancelled
  | .interruptedError => .interrupted
  | .toolError => .tool
  | .mediaError => .media
  | .internalError | .unknownError => .internal

/-- `DEFAULT_ERROR_NAME_BY_CATEGORY`: the first name that the category lists. -/
def ErrorCategory.defaultName : ErrorCategory → TvicErrorName
  | .validation => .validationError
  | .auth => .authError
  | .provider => .providerError
  | .network => .connectionError
  | .timeout => .timeoutError
  | .rateLimit => .rateLimitError
  | .cancelled => .cancelledError
  | .interrupted => .interruptedError
  | .tool => .toolError
  | .media => .mediaError
  | .internal => .internalError

/-- `[a-z]` -/
def isLowercase (unit : UInt16) : Bool := 97 ≤ unit && unit ≤ 122

/-- `[a-z][a-z0-9_]*` -/
def isCodeSegment : Text → Bool
  | [] => false
  | first :: rest =>
    isLowercase first &&
      rest.all fun unit => isLowercase unit || (48 ≤ unit && unit ≤ 57) || unit == 95

def maxErrorCodeUtf8Bytes : Nat := 128

/-- At least two segments with dots between them. -/
def isValidErrorCode (code : Text) : Bool :=
  decide (code.length ≤ maxErrorCodeUtf8Bytes) && decide (2 ≤ (code.splitOn 46).length) &&
    (code.splitOn 46).all isCodeSegment

/-- A value that `isNormalizedError` accepts. The name settles the category. -/
structure NormalizedError (J : Type) where
  name : TvicErrorName
  code : Text
  message : Text
  retriable : Bool
  provider : Option Text
  cause : Option J
  metadata : Option J
  code_valid : isValidErrorCode code = true
  message_ne_nil : message ≠ []
  deriving DecidableEq

namespace NormalizedError

variable {J J' : Type}

def category (error : NormalizedError J) : ErrorCategory := error.name.category

def map (f : J → J') (error : NormalizedError J) : NormalizedError J' :=
  { error with cause := error.cause.map f, metadata := error.metadata.map f }

end NormalizedError

variable {J : Type}

/-- What the factories leave out: `providerError` and the like take more options. -/
def NormalizedError.plainError (name : TvicErrorName) (retriable : Bool) (code message : Text)
    (code_valid : isValidErrorCode code = true) (message_ne_nil : message ≠ []) :
    NormalizedError J :=
  ⟨name, code, message, retriable, none, none, none, code_valid, message_ne_nil⟩

def NormalizedError.validationError (code message : Text) (code_valid : isValidErrorCode code = true)
    (message_ne_nil : message ≠ []) : NormalizedError J :=
  .plainError .validationError false code message code_valid message_ne_nil

def NormalizedError.timeoutError (code message : Text) (code_valid : isValidErrorCode code = true)
    (message_ne_nil : message ≠ []) : NormalizedError J :=
  .plainError .timeoutError true code message code_valid message_ne_nil

def NormalizedError.internalError (code message : Text) (code_valid : isValidErrorCode code = true)
    (message_ne_nil : message ≠ []) : NormalizedError J :=
  .plainError .internalError false code message code_valid message_ne_nil

def NormalizedError.cancelledError (code message : Text) (code_valid : isValidErrorCode code = true)
    (message_ne_nil : message ≠ []) : NormalizedError J :=
  .plainError .cancelledError false code message code_valid message_ne_nil

end Tvic
